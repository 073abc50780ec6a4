import RoundRobin.Event
import RoundRobin.Text.Blank
import RoundRobin.Text.Number
import RoundRobin.Text.Pattern.Basic

/-!
# Which log lines are shown

A filter is a list of directives separated by commas. A directive is a level, or names what it is
about and may add a level after an equals sign: a target, which is the beginning of the name of a
part of the program, and in brackets an activity and in braces a field. The most specific directive
about a line decides: the one with the longest target, among these one with a field. A filter
without any directive shows errors only.

Blanks around a directive do not count where its marks are looked for. The pieces are then cut out
of the text as it was given, at the same number of bytes, so blanks in front belong to the first
piece and move the others. A cut inside a character is the end of the program.
-/

namespace RoundRobin.Demo

open Text

/-- Most detailed level shown; `none` shows nothing. -/
abbrev Threshold := Option Level

def Threshold.shows (t : Threshold) (l : Level) : Bool :=
  t.elim false fun most => l.rank ≤ most.rank

/-- Reads a level, as a number or in letters of either case. -/
def readThreshold (s : String) : Option Threshold :=
  match readNumber s, String.ofList (s.toList.map Char.toLower) with
  | .ok 0, _ | _, "off" => some none
  | .ok 1, _ | _, "error" => some (some .error)
  | .ok 2, _ | _, "warn" => some (some .warn)
  | .ok 3, _ | _, "info" => some (some .info)
  | .ok 4, _ | _, "debug" => some (some .debug)
  | .ok 5, _ | _, "trace" => some (some .trace)
  | _, _ => none

inductive DirectiveError where
  | malformed
  | level
  | pattern (e : PatternError)
  /-- A cut inside a character. -/
  | splitCharacter
  deriving DecidableEq, Repr

def DirectiveError.message : DirectiveError → String
  | .malformed => "invalid filter directive"
  | .level =>
    "error parsing level filter: expected one of \"off\", \"error\", \"warn\", \"info\", \"debug\","
      ++ " \"trace\", or a number 0-5"
  | .pattern e => "invalid field filter: " ++ e.message
  | .splitCharacter => "byte index is not a char boundary"

/-- A field that a line has to have, and what its value has to be like. -/
structure FieldTest where
  name : String
  value : Option String
  deriving DecidableEq, Repr

structure Directive where
  target : Option String
  /-- Whether it holds inside a named activity only. The program has none. -/
  inActivity : Bool
  field : Option FieldTest
  threshold : Threshold
  deriving DecidableEq, Repr

namespace Directive

/-- Whether a directive decides about lines outside of activities. -/
def isStanding (d : Directive) : Bool :=
  !d.inActivity && d.field.all fun f => f.value.isNone

/-- Whether a directive is about lines of `part` with the given fields. -/
def concerns (d : Directive) (part : String) (fields : List String) : Bool :=
  d.target.all (fun t => t.toList.isPrefixOf part.toList)
    && d.field.all fun f => fields.contains f.name

/-- Bytes of the target; one without a target comes below all others. -/
def reach (d : Directive) : Nat := d.target.elim 0 fun t => t.utf8ByteSize + 1

def fieldName (d : Directive) : String := d.field.elim "" FieldTest.name

/-- Whether `d` is at least as specific as `e`. Fields are ranked by name. -/
def outranks (d e : Directive) : Bool :=
  e.reach < d.reach || (e.reach = d.reach && e.fieldName ≤ d.fieldName)

end Directive

/-- Parts a text after a number of bytes, unless that is inside a character. -/
def splitBytes : (bytes : Nat) → List Char → Except DirectiveError (List Char × List Char)
  | 0, cs => .ok ([], cs)
  | _ + 1, [] => .ok ([], [])
  | bytes + 1, c :: cs =>
    if bytes + 1 < c.utf8Size then .error .splitCharacter
    else do
      let (front, back) ← splitBytes (bytes + 1 - c.utf8Size) cs
      return (c :: front, back)

/-- The text between two places. -/
def cut (cs : List Char) (start stop : Nat) : Except DirectiveError String := do
  let (_, back) ← splitBytes start cs
  let (front, _) ← splitBytes (stop - start) back
  return String.ofList front

/-- The text from a place on. -/
def cutFrom (cs : List Char) (start : Nat) : Except DirectiveError String := do
  let (_, back) ← splitBytes start cs
  return String.ofList back

/-- The first of some marks that stands at `start` or behind it, with its place; the text begins at
`place`. -/
def findMark (isMark : Char → Bool) (start place : Nat) : List Char → Option (Nat × Char)
  | [] => none
  | c :: cs =>
    if start ≤ place && isMark c then some (place, c)
    else findMark isMark start (place + c.utf8Size) cs

/-- Reads the level behind an equals sign; none shows everything. -/
def readLevel (s : String) : Except DirectiveError Threshold :=
  if s = "" then .ok (some .trace)
  else
    match readThreshold s with
    | some threshold => .ok threshold
    | none => .error .level

/-- Checks what a value has to be like: a number or a pattern. -/
def checkValue (s : String) : Except DirectiveError Unit :=
  match s.toList with
  | '+' :: rest => if isDecimal rest then .ok () else .error (.pattern .malformed)
  | _ => (checkPattern s).mapError .pattern

/-- Reads a field and, behind an equals sign, its value. What comes after a second equals sign is
passed by. -/
def readField (s : String) : Except DirectiveError FieldTest := do
  let name := s.toList.takeWhile (· ≠ '=')
  if s = "" then throw .malformed
  match s.toList.dropWhile (· ≠ '=') with
  | [] => return ⟨String.ofList name, none⟩
  | _ :: rest =>
    let value := String.ofList (rest.takeWhile (· ≠ '='))
    checkValue value
    return ⟨String.ofList name, some value⟩

/-- Reads what is left of a directive from a place on: nothing, or a level. -/
def readEnd (d : Directive) (given trimmed : List Char) (place : Nat) :
    Except DirectiveError Directive :=
  match findMark (fun _ => true) place 0 trimmed with
  | none => .ok d
  | some (_, '=') => do
    let level ← readLevel (← cutFrom given (place + 1))
    return { d with threshold := level }
  | some _ => .error .malformed

/-- Reads from behind an opening bracket on. -/
def readBracket (target : Option String) (given trimmed : List Char) (start : Nat) :
    Except DirectiveError Directive := do
  match findMark (fun c => c = ']' || c.toNat = 0x7B) start 0 trimmed with
  | none => throw .malformed
  | some (stop, mark) =>
    let activity ← cut given start stop
    if mark = ']' then readEnd ⟨target, true, none, some .trace⟩ given trimmed (stop + 1)
    else
      match findMark (fun c => c.toNat = 0x7D) (stop + 1) 0 trimmed with
      | none => throw .malformed
      | some (close, _) =>
        let field ← readField (← cut given (stop + 1) close)
        match findMark (fun _ => true) (close + 1) 0 trimmed with
        | some (_, ']') =>
          readEnd ⟨target, activity ≠ "", some field, some .trace⟩ given trimmed (close + 2)
        | _ => throw .malformed

/-- Whether a directive may begin with a character. -/
def beginsName (c : Char) : Bool := c = '-' || c = ':' || c = '_' || isAlphanumeric c

/-- Reads one directive. One without a level shows everything. -/
def readDirective (s : String) : Except DirectiveError Directive := do
  let given := s.toList
  let trimmed := trim given
  match trimmed with
  | [] => throw .malformed
  | '[' :: _ => readBracket none given trimmed 1
  | c :: _ =>
    if !beginsName c then throw .malformed
    match findMark (fun c => c = '=' || c = '[') 0 0 trimmed with
    | none =>
      match readThreshold s with
      | some threshold => return ⟨none, false, none, threshold⟩
      | none => return ⟨some s, false, none, some .trace⟩
    | some (stop, mark) =>
      let target := some (← cut given 0 stop)
      if mark = '=' then readEnd ⟨target, false, none, some .trace⟩ given trimmed stop
      else readBracket target given trimmed (stop + 1)

structure LogFilter where
  directives : List Directive
  deriving DecidableEq, Repr

namespace LogFilter

/-- The directives of a filter, or what is wrong with them, each with its text. -/
def readEach (s : String) : List (String × Except DirectiveError Directive) :=
  ((s.splitOn ",").filter (· ≠ "")).map fun text => (text, readDirective text)

/-- Reads a filter; bad directives are left out and given back with their errors. -/
def read (s : String) : LogFilter × List (String × DirectiveError) :=
  let found := readEach s
  (⟨found.filterMap fun (_, d) => d.toOption⟩,
    found.filterMap fun (text, d) =>
      match d with
      | .ok _ => none
      | .error e => some (text, e))

/-- The more specific of two directives, and the later of equal ones. -/
def better (best : Option Directive) (d : Directive) : Option Directive :=
  match best with
  | none => some d
  | some e => if d.outranks e then some d else some e

/-- The directive that decides about lines of a part with the given fields. -/
def deciding (f : LogFilter) (part : String) (fields : List String) : Option Directive :=
  (f.directives.filter fun d => d.isStanding && d.concerns part fields).foldl better none

def threshold (f : LogFilter) (part : String) (fields : List String) : Threshold :=
  if f.directives.isEmpty then some .error
  else ((f.deciding part fields).map Directive.threshold).join

def shows (f : LogFilter) (part : String) (fields : List String) (l : Level) : Bool :=
  (f.threshold part fields).shows l

end LogFilter

end RoundRobin.Demo
