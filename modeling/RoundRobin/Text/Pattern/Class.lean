import RoundRobin.Text.Pattern.Escape

/-!
# Classes of patterns

A class in brackets lists characters, ranges, named sets and further classes, and may combine lists
by operators. What is read of it is how deeply it is nested: a class, a list of several members and
an operator each add a level.
-/

namespace RoundRobin.Text.Pattern

/-- A list of members. -/
structure Members where
  count : Nat
  /-- Levels of the deepest member. -/
  deepest : Nat
  deriving DecidableEq, Repr

namespace Members

def none : Members := ⟨0, 0⟩

def push (m : Members) (levels : Nat) : Members := ⟨m.count + 1, max m.deepest levels⟩

/-- Levels of the list; a single member needs no list. -/
def levels (m : Members) : Nat := if m.count ≤ 1 then m.deepest else m.deepest + 1

end Members

/-- What is open inside a class. -/
inductive Opened where
  /-- A class, with the members read before it. -/
  | bracket (before : Members) (negated : Bool)
  /-- An operator, with the levels of its left side. -/
  | operator (left : Nat)
  deriving DecidableEq, Repr

/-- Completes an operator that waits for its right side. -/
def closeOperator (right : Nat) : List Opened → Nat × List Opened
  | .operator left :: rest => (max left right + 1, rest)
  | stack => (right, stack)

/-- Reads a member: a character, or a set for `none`. -/
def readMember (f : Flags) : List Char → Option (Option Char × List Char)
  | [] => none
  | '\\' :: rest =>
    match readEscape f rest with
    | some (.literal c isByte, rest) =>
      if f.allowsMember c && f.allowsLiteral c isByte then some (some c, rest) else none
    | some (.letterSet negated, rest) =>
      if f.allowsLetterSet negated then some (none, rest) else none
    | _ => none
  | c :: rest => if f.allowsMember c then some (some c, rest) else none

/-- The next character that counts, where a comment hides only its own mark. -/
def peekVerbose (inComment : Bool) : List Char → Option Char
  | [] => none
  | c :: rest =>
    if isBlank c then peekVerbose inComment rest
    else if !inComment && c = '#' then peekVerbose true rest
    else some c

def Flags.peek (f : Flags) (cs : List Char) : Option Char :=
  if f.verbose then (peekVerbose false cs).or cs.head? else cs.head?

/-- Reads one member or one range. -/
def readRange (f : Flags) (cs : List Char) : Option (List Char) := do
  let (low, rest) ← readMember f cs
  match f.skip rest with
  | '-' :: upper =>
    if f.peek upper = some ']' || f.peek upper = some '-' then some ('-' :: upper)
    else
      match low, ← readMember f (f.skip upper) with
      | some low, (some high, rest) => if low ≤ high then some rest else none
      | _, _ => none
  | rest => some rest

/-- Sets that have a name inside a class. -/
def namedSets : List String :=
  ["alnum", "alpha", "ascii", "blank", "cntrl", "digit", "graph", "lower", "print", "punct",
    "space", "upper", "word", "xdigit"]

/-- Reads the name of a set behind an opening bracket, and whether it is negated. -/
def readNamedSet : List Char → Option (Bool × List Char)
  | ':' :: rest =>
    let negated := rest.head? = some '^'
    let rest := if negated then rest.tail else rest
    let name := String.ofList (rest.takeWhile (· ≠ ':'))
    match rest.dropWhile (· ≠ ':') with
    | ':' :: ']' :: rest => if namedSets.contains name then some (negated, rest) else none
    | _ => none
  | _ => none

/-- Reads dashes at the beginning of a class, which are meant themselves. -/
def readDashes (f : Flags) : (fuel : Nat) → Members → List Char → Members × List Char
  | fuel + 1, m, '-' :: rest => readDashes f fuel (m.push 0) (f.skip rest)
  | _, m, cs => (m, cs)

/-- Reads the beginning of a class: a caret, dashes, or a closing bracket that is meant itself. -/
def openClass (f : Flags) (cs : List Char) : Option (Bool × Members × List Char) :=
  let cs := f.skip cs
  let negated := cs.head? = some '^'
  let cs := if negated then f.skip cs.tail else cs
  let (members, cs) := readDashes f cs.length .none cs
  let (members, cs) := match members.count, cs with
    | 0, ']' :: rest => (members.push 0, f.skip rest)
    | _, _ => (members, cs)
  if members.count = 0 || f.allowsMember '-' then some (negated, members, cs) else none

/-- Reads the rest of a class; gives its levels and what follows. Each step reads a character at
least. -/
def readClassFrom (f : Flags) : (fuel : Nat) → List Opened → Members → List Char →
    Option (Nat × List Char)
  | 0, _, _, _ => none
  | fuel + 1, stack, members, cs =>
    let operator (rest : List Char) :=
      let (left, stack) := closeOperator members.levels stack
      readClassFrom f fuel (.operator left :: stack) .none rest
    match f.skip cs with
    | [] => none
    | '[' :: rest =>
      match readNamedSet rest with
      | some (negated, rest) =>
        if f.allowsNamedSet negated then readClassFrom f fuel stack (members.push 0) rest else none
      | none => do
        let (negated, inner, rest) ← openClass f rest
        readClassFrom f fuel (.bracket members negated :: stack) inner rest
    | ']' :: rest =>
      match closeOperator members.levels stack with
      | (levels, .bracket before negated :: outer) =>
        if negated && !f.allowsNegation then none
        else if outer.isEmpty then some (levels + 1, rest)
        else readClassFrom f fuel outer (before.push (levels + 1)) rest
      | _ => none
    | '&' :: '&' :: rest => operator rest
    | '-' :: '-' :: rest => operator rest
    | '~' :: '~' :: rest => operator rest
    | cs => do readClassFrom f fuel stack (members.push 0) (← readRange f cs)

/-- Reads a class from behind its opening bracket on. -/
def readClass (f : Flags) (cs : List Char) : Option (Nat × List Char) := do
  let (negated, members, rest) ← openClass f cs
  readClassFrom f (rest.length + 1) [.bracket .none negated] members rest

end RoundRobin.Text.Pattern
