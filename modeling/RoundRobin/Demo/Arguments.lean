import RoundRobin.Text.Number
import RoundRobin.Text.Terminal

/-!
# Arguments of the demonstration

Options have a long name, most a short one too, and take one value, which may be attached or be the
next argument. A value that is the next argument is looked at when another option or the end
follows, so an argument that nobody expects is reported before a bad value in front of it. An
argument that starts with a dash is never a value.
-/

namespace RoundRobin.Demo

open Text

/-- Options that take a value. -/
inductive Setting where
  | quantum
  | threads
  | rounds
  | stackKib
  | logLevel
  deriving DecidableEq, Repr

namespace Setting

def all : List Setting := [.quantum, .threads, .rounds, .stackKib, .logLevel]

def longName : Setting → String
  | .quantum => "quantum-us"
  | .threads => "threads"
  | .rounds => "rounds"
  | .stackKib => "stack-kib"
  | .logLevel => "log-level"

def shortName : Setting → Option Char
  | .quantum => some 'q'
  | .threads => some 't'
  | .rounds => some 'r'
  | .stackKib => none
  | .logLevel => some 'l'

/-- What the value is called in messages. -/
def placeholder : Setting → String
  | .quantum => "QUANTUM_US"
  | .threads => "THREADS"
  | .rounds => "ROUNDS"
  | .stackKib => "STACK_KIB"
  | .logLevel => "LOG_LEVEL"

/-- The option as messages name it. -/
def title (s : Setting) : String := "--" ++ s.longName ++ " <" ++ s.placeholder ++ ">"

end Setting

/-- Options without a value. -/
inductive Flag where
  | help
  | version
  deriving DecidableEq, Repr

namespace Flag

def all : List Flag := [.help, .version]

def longName : Flag → String
  | .help => "help"
  | .version => "version"

def shortName : Flag → Char
  | .help => 'h'
  | .version => 'V'

end Flag

inductive UsageError where
  | unexpected (argument : String)
  | missingValue (s : Setting)
  | repeated (s : Setting)
  | badValue (s : Setting) (value : String) (reason : NumberError)
  | unneededValue (f : Flag) (value : String)
  deriving DecidableEq, Repr

/-- The message, which repeats what was given without its terminal control. -/
def UsageError.message : UsageError → String
  | .unexpected argument => "error: unexpected argument '" ++ withoutControl argument ++ "' found"
  | .missingValue s => "error: a value is required for '" ++ s.title ++ "' but none was supplied"
  | .repeated s => "error: the argument '" ++ s.title ++ "' cannot be used multiple times"
  | .badValue s value reason =>
    "error: invalid value '" ++ withoutControl value ++ "' for '" ++ s.title ++ "': "
      ++ reason.message
  | .unneededValue f value =>
    "error: unexpected value '" ++ withoutControl value ++ "' for '--" ++ f.longName
      ++ "' found; no more were expected"

/-- The values given so far. -/
structure Values where
  quantum : Option Nat
  threads : Option Nat
  rounds : Option Nat
  stackKib : Option Nat
  logLevel : Option String
  deriving DecidableEq, Repr

namespace Values

def none : Values := ⟨.none, .none, .none, .none, .none⟩

def has (v : Values) : Setting → Bool
  | .quantum => v.quantum.isSome
  | .threads => v.threads.isSome
  | .rounds => v.rounds.isSome
  | .stackKib => v.stackKib.isSome
  | .logLevel => v.logLevel.isSome

/-- Sets an option, which may be done once. -/
def set (v : Values) (s : Setting) (value : String) : Except UsageError Values :=
  if v.has s then .error (.repeated s)
  else
    match s, readNumber value with
    | .logLevel, _ => .ok { v with logLevel := some value }
    | s, .error reason => .error (.badValue s value reason)
    | .quantum, .ok n => .ok { v with quantum := some n }
    | .threads, .ok n => .ok { v with threads := some n }
    | .rounds, .ok n => .ok { v with rounds := some n }
    | .stackKib, .ok n => .ok { v with stackKib := some n }

end Values

/-- An option whose value is the next argument, with that value once it was met. -/
structure Pending where
  setting : Setting
  value : Option String
  deriving DecidableEq, Repr

structure Reading where
  values : Values
  pending : Option Pending
  deriving DecidableEq, Repr

namespace Reading

/-- Looks at the pending option, if there is one. -/
def settle (r : Reading) : Except UsageError Values :=
  match r.pending with
  | none => .ok r.values
  | some ⟨s, none⟩ => .error (.missingValue s)
  | some ⟨s, some value⟩ => r.values.set s value

/-- Takes up an option with the value attached to it, if any. -/
def take (r : Reading) (s : Setting) (attached : Option String) : Except UsageError Reading := do
  let values ← r.settle
  match attached with
  | some value => return ⟨← values.set s value, none⟩
  | none => return ⟨values, some ⟨s, none⟩⟩

end Reading

/-- What an argument is. -/
inductive Argument where
  | setting (s : Setting) (attached : Option String)
  | flag (f : Flag) (attached : Option String)
  /-- Everything that follows is no option. -/
  | escape
  | plain
  /-- Looks like an option and is none; named as in messages. -/
  | unknown (name : String)
  deriving DecidableEq, Repr

/-- Splits an argument after two dashes into a name and the value after an equals sign. -/
def splitLong (cs : List Char) : String × Option String :=
  let name := String.ofList (cs.takeWhile (· ≠ '='))
  match cs.dropWhile (· ≠ '=') with
  | [] => (name, none)
  | _ :: value => (name, some (String.ofList value))

/-- The value attached to a short option, without an equals sign in front. -/
def attachedShort : List Char → Option String
  | [] => none
  | '=' :: value => some (String.ofList value)
  | value => some (String.ofList value)

def classify (a : String) : Argument :=
  match a.toList with
  | ['-', '-'] => .escape
  | '-' :: '-' :: cs =>
    let (name, value) := splitLong cs
    match Setting.all.find? (·.longName = name), Flag.all.find? (·.longName = name) with
    | some s, _ => .setting s value
    | none, some f => .flag f value
    | none, none => .unknown ("--" ++ name)
  | '-' :: c :: cs =>
    match Setting.all.find? (·.shortName = some c), Flag.all.find? (·.shortName = c) with
    | some s, _ => .setting s (attachedShort cs)
    | none, some f => .flag f none
    | none, none => .unknown ("-" ++ c.toString)
  | _ => .plain

inductive Invocation where
  | flag (f : Flag)
  | settings (v : Values)
  deriving DecidableEq, Repr

/-- Reads the arguments in order; a flag ends the reading. -/
def readFrom (r : Reading) : List String → Except UsageError Invocation
  | [] => return .settings (← r.settle)
  | a :: rest =>
    match classify a with
    | .setting s attached => do readFrom (← r.take s attached) rest
    | .flag f none => do
      let _ ← r.settle
      return .flag f
    | .flag f (some value) => .error (.unneededValue f value)
    | .unknown name => .error (.unexpected name)
    | .escape =>
      match rest with
      | [] => return .settings (← r.settle)
      | next :: _ => .error (.unexpected next)
    | .plain =>
      match r.pending with
      | some ⟨s, none⟩ => readFrom { r with pending := some ⟨s, some a⟩ } rest
      | _ => .error (.unexpected a)

def readArguments (args : List String) : Except UsageError Invocation :=
  readFrom ⟨.none, none⟩ args

end RoundRobin.Demo
