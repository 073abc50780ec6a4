import RoundRobin.Demo.Arguments
import RoundRobin.Demo.LogFilter
import RoundRobin.Demo.Workers

/-!
# The demonstration as a command

What the command prints and its exit status, as a function of its arguments.
-/

namespace RoundRobin.Demo

/-- What goes to the error stream. -/
inductive Notice where
  /-- Bare text, which may run over several lines. -/
  | text (s : String)
  /-- A line of the log, which is shown with the time in front. -/
  | line (l : Line)
  deriving DecidableEq, Repr

def Notice.render : Notice → String
  | .text s => s
  | .line l => l.render

/-- What a command leaves behind. -/
structure Printed where
  status : Nat
  output : String
  notices : List Notice
  deriving DecidableEq, Repr

def helpText : String :=
  String.intercalate "\n"
    ["Round-robin user-level threads on a single native thread",
      "",
      "Usage: uthreads-demo [OPTIONS]",
      "",
      "Options:",
      "  -q, --quantum-us <QUANTUM_US>  Quantum length in microseconds of process CPU time"
        ++ " [default: 10000]",
      "  -t, --threads <THREADS>        Worker threads to spawn [default: 4]",
      "  -r, --rounds <ROUNDS>          Work rounds per worker [default: 6]",
      "      --stack-kib <STACK_KIB>    Stack size per worker in KiB [default: 64]",
      "  -l, --log-level <LOG_LEVEL>    Log level (error, warn, info, debug, trace)"
        ++ " [default: info]",
      "  -h, --help                     Print help",
      "  -V, --version                  Print version",
      ""]

def versionText : String := "uthreads-demo 0.1.0\n"

def Flag.output : Flag → String
  | .help => helpText
  | .version => versionText

/-- What is said about a directive that is left out. -/
def complaint (text : String) (e : DirectiveError) : String :=
  "ignoring `" ++ text ++ "`: " ++ e.message

/-- Runs the workers and keeps the lines that the filter shows. A filter that cannot be taken apart
stops the command. -/
def runWith (v : Values) : Printed :=
  let (filter, bad) := LogFilter.read (v.logLevel.getD "info")
  if bad.any fun (_, e) => e = .splitCharacter then
    let before := bad.takeWhile fun (_, e) => e ≠ .splitCharacter
    let complaints := before.map fun (text, e) => complaint text e
    ⟨abortStatus, "", (complaints ++ [DirectiveError.splitCharacter.message]).map .text⟩
  else
    let (closing, lines) :=
      present (v.quantum.getD 10000) (v.threads.getD 4) (v.rounds.getD 6) (v.stackKib.getD 64)
    let shown := lines.filter fun l => filter.shows l.part l.fieldNames l.level
    let complaints := bad.map fun (text, e) => complaint text e
    ⟨closing.status, "",
      complaints.map .text ++ shown.map .line ++ closing.lastWords.map .text⟩

/-- Exit status of a command that was called wrongly. -/
def usageStatus : Nat := 2

def command (args : List String) : Printed :=
  match readArguments args with
  | .error e => ⟨usageStatus, "", [.text e.message]⟩
  | .ok (.flag f) => ⟨0, f.output, []⟩
  | .ok (.settings v) => runWith v

end RoundRobin.Demo
