import RoundRobin.Text.Alphanumeric
import RoundRobin.Text.Pattern.Class

/-!
# Which patterns can be compiled

Patterns are regular expressions: literals, escapes, classes, groups, alternatives and repetitions.
They never hold a closing brace here, so a repetition count is never complete. Groups, classes,
repetitions, alternatives and sequences of several pieces each add a level of nesting, of which
there may be 250. Boundaries of words in the sense of Unicode are part of the language, but no
pattern with one can be compiled.
-/

namespace RoundRobin.Text

inductive PatternError where
  | malformed
  | wordBoundary
  deriving DecidableEq, Repr

def PatternError.message : PatternError → String
  | .malformed => "error building NFA"
  | .wordBoundary =>
    "unsupported regex feature for DFAs: cannot build DFAs for regexes with Unicode word"
      ++ " boundaries; switch to ASCII word boundaries, or heuristically enable Unicode word"
      ++ " boundaries or use a different regex engine"

namespace Pattern

/-- A sequence of pieces. -/
structure Branch where
  count : Nat
  /-- Levels of the deepest piece. -/
  deepest : Nat
  /-- Levels of the last piece. -/
  last : Nat
  /-- Whether the last piece may be repeated. -/
  repeatable : Bool
  deriving DecidableEq, Repr

namespace Branch

def empty : Branch := ⟨0, 0, 0, false⟩

def push (b : Branch) (levels : Nat) (repeatable : Bool) : Branch :=
  ⟨b.count + 1, max b.deepest levels, levels, repeatable⟩

/-- Repeats the last piece. -/
def repeated (b : Branch) : Branch :=
  { b with deepest := max b.deepest (b.last + 1), last := b.last + 1 }

/-- Levels of the sequence; a single piece needs none of its own. -/
def levels (b : Branch) : Nat := if b.count ≤ 1 then b.deepest else b.deepest + 1

end Branch

/-- The inside of a group, or the whole pattern. -/
structure Body where
  /-- Levels of the deepest alternative before the present one, where there is one. -/
  earlier : Option Nat
  branch : Branch
  deriving DecidableEq, Repr

namespace Body

def empty : Body := ⟨none, .empty⟩

def push (b : Body) (levels : Nat) (repeatable : Bool) : Body :=
  { b with branch := b.branch.push levels repeatable }

/-- Begins another alternative. -/
def alternate (b : Body) : Body :=
  ⟨some (b.earlier.elim b.branch.levels (max b.branch.levels)), .empty⟩

def levels (b : Body) : Nat :=
  b.earlier.elim b.branch.levels fun e => max e b.branch.levels + 1

end Body

/-- A pattern read up to some place. -/
structure Reading where
  body : Body
  flags : Flags
  /-- Groups that are open: what came before each, and the flags to go back to. -/
  outer : List (Body × Flags)
  /-- Names of groups. -/
  names : List (List Char)
  /-- Whether a word boundary was met. -/
  boundary : Bool
  deriving DecidableEq, Repr

namespace Reading

def start : Reading := ⟨.empty, .initial, [], [], false⟩

def push (r : Reading) (levels : Nat) (repeatable : Bool) : Reading :=
  { r with body := r.body.push levels repeatable }

/-- Enters a group, which is read with `flags`. -/
def enter (r : Reading) (flags : Flags) : Reading :=
  { r with body := .empty, flags, outer := (r.body, r.flags) :: r.outer }

/-- Leaves the innermost group. -/
def leave (r : Reading) : Option Reading :=
  match r.outer with
  | [] => none
  | (before, flags) :: outer =>
    some { r with body := before.push (r.body.levels + 1) true, flags, outer }

end Reading

def isGroupName : List Char → Bool
  | [] => false
  | c :: rest =>
    (c = '_' || isAlphabetic c)
      && rest.all fun c => c = '_' || c = '.' || c = '[' || c = ']' || isAlphanumeric c

/-- Reads the name of a group and enters it. -/
def readNamedGroup (r : Reading) (cs : List Char) : Option (Reading × List Char) :=
  let name := cs.takeWhile (· ≠ '>')
  match cs.dropWhile (· ≠ '>') with
  | [] => none
  | _ :: rest =>
    if isGroupName name && !r.names.contains name then
      some ({ r.enter r.flags with names := name :: r.names }, rest)
    else none

/-- Reads flags, for the inside of a group or for the rest of the present one. -/
def readFlags (r : Reading) (cs : List Char) : Option (Reading × List Char) :=
  let letters := cs.takeWhile fun c => c ≠ ':' && c ≠ ')'
  let flags := r.flags.apply true letters
  match cs.dropWhile fun c => c ≠ ':' && c ≠ ')' with
  | [] => none
  | ':' :: rest => if Flags.areFlags letters then some (r.enter flags, rest) else none
  | _ :: rest =>
    if Flags.areFlags letters && letters ≠ [] then some ({ r.push 0 false with flags }, rest)
    else none

/-- Reads what follows the opening of a group. -/
def readGroup (r : Reading) (cs : List Char) : Option (Reading × List Char) :=
  match r.flags.skip cs with
  | '?' :: '<' :: rest => readNamedGroup r rest
  | '?' :: 'P' :: '<' :: rest => readNamedGroup r rest
  | '?' :: rest => readFlags r rest
  | rest => some (r.enter r.flags, rest)

/-- Adds what an escape stands for. -/
def addEscape (r : Reading) : Escape → Option Reading
  | .literal c isByte => if r.flags.allowsLiteral c isByte then some (r.push 0 true) else none
  | .letterSet negated => if r.flags.allowsLetterSet negated then some (r.push 0 true) else none
  | .edge => some (r.push 0 true)
  | .wordBoundary => some { r.push 0 true with boundary := r.boundary || r.flags.unicode }

/-- Reads one piece, which begins with `c`. -/
def readPiece (r : Reading) (c : Char) (rest : List Char) : Option (Reading × List Char) :=
  if c = '(' then readGroup r rest
  else if c = ')' then r.leave.map fun r => (r, rest)
  else if c = '|' then some ({ r with body := r.body.alternate }, rest)
  else if c = '*' || c = '+' || c = '?' then
    if !r.body.branch.repeatable then none
    else
      some ({ r with body := { r.body with branch := r.body.branch.repeated } },
        if rest.head? = some '?' then rest.tail else rest)
  else if c.toNat = 0x7B then none
  else if c = '[' then (readClass r.flags rest).map fun (levels, rest) => (r.push levels true, rest)
  else if c = '\\' then do
    let (e, rest) ← readEscape r.flags rest
    return (← addEscape r e, rest)
  else if c = '.' then if r.flags.unicode then some (r.push 0 true, rest) else none
  else if c = '^' || c = '$' then some (r.push 0 true, rest)
  else if r.flags.allowsLiteral c false then some (r.push 0 true, rest)
  else none

/-- Reads a pattern. Every piece is at least a character long. -/
def readPieces : (fuel : Nat) → Reading → List Char → Option Reading
  | fuel, r, cs =>
    match r.flags.skip cs, fuel with
    | [], _ => some r
    | _, 0 => none
    | c :: rest, fuel + 1 => do
      let (r, rest) ← readPiece r c rest
      readPieces fuel r rest

/-- Most levels of a pattern. -/
def maxLevels : Nat := 250

end Pattern

/-- Checks a pattern. -/
def checkPattern (s : String) : Except PatternError Unit :=
  match Pattern.readPieces s.length .start s.toList with
  | none => .error .malformed
  | some r =>
    if !r.outer.isEmpty || Pattern.maxLevels < r.body.levels then .error .malformed
    else if r.boundary then .error .wordBoundary
    else .ok ()

end RoundRobin.Text
