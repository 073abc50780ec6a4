import RoundRobin.Text.Blank

/-!
# Flags and escapes of patterns

Flags say how a stretch of a pattern is read. Patterns are about text in UTF-8, and nothing is known
here of the case and the classes of characters: what would need such knowledge is refused, and so is
what could match part of a character.
-/

namespace RoundRobin.Text.Pattern

structure Flags where
  ignoreCase : Bool
  /-- Whether a pattern is about characters and not about bytes. -/
  unicode : Bool
  /-- Whether blanks and comments are left out. -/
  verbose : Bool
  deriving DecidableEq, Repr

namespace Flags

def initial : Flags := ⟨false, true, false⟩

/-- Turns the flags of a list on, or those after a dash off. -/
def apply (f : Flags) (value : Bool) : List Char → Flags
  | [] => f
  | c :: rest =>
    let f := if c = 'i' then { f with ignoreCase := value } else f
    let f := if c = 'u' then { f with unicode := value } else f
    let f := if c = 'x' then { f with verbose := value } else f
    f.apply (value && c ≠ '-') rest

/-- Whether a text is a list of flags: letters without repetition, of which those after a dash are
turned off. -/
def areFlags (cs : List Char) : Bool :=
  cs.all ("imsUuxR-".toList.contains ·) && cs.eraseDups = cs && cs.getLast? ≠ some '-'

/-- Whether a character may stand by itself. One that is written as a byte has to be a whole
character. -/
def allowsLiteral (f : Flags) (c : Char) (isByte : Bool) : Bool :=
  if f.unicode then !f.ignoreCase else !isByte || c.toNat < 0x80

/-- Whether a character may stand in a class. -/
def allowsMember (f : Flags) (c : Char) : Bool :=
  if f.unicode then !f.ignoreCase else c.toNat < 0x80

/-- Whether a class of a single letter may be used. -/
def allowsLetterSet (f : Flags) (negated : Bool) : Bool := !f.unicode && !negated

/-- Whether a class with a name may be used. -/
def allowsNamedSet (f : Flags) (negated : Bool) : Bool :=
  if f.unicode then !f.ignoreCase else !negated

/-- Whether a class may be negated. -/
def allowsNegation (f : Flags) : Bool := f.unicode

end Flags

/-- Drops blanks and comments from the front. -/
def dropVerbose (inComment : Bool) : List Char → List Char
  | [] => []
  | c :: rest =>
    if inComment then dropVerbose (c ≠ '\n') rest
    else if isBlank c then dropVerbose false rest
    else if c = '#' then dropVerbose true rest
    else c :: rest

/-- Drops what does not count. -/
def Flags.skip (f : Flags) (cs : List Char) : List Char :=
  if f.verbose then dropVerbose false cs else cs

/-- What an escape stands for. -/
inductive Escape where
  | literal (c : Char) (isByte : Bool)
  | letterSet (negated : Bool)
  | edge
  | wordBoundary
  deriving DecidableEq, Repr

def hexValue? (c : Char) : Option Nat :=
  if c.isDigit then some (c.toNat - '0'.toNat)
  else if 'a' ≤ c.toLower && c.toLower ≤ 'f' then some (c.toLower.toNat - 'a'.toNat + 10)
  else none

/-- Reads `count` hexadecimal digits after `value`. -/
def readHex (f : Flags) : (count value : Nat) → List Char → Option (Nat × List Char)
  | 0, value, cs => some (value, f.skip cs)
  | count + 1, value, cs =>
    match f.skip cs with
    | [] => none
    | c :: rest => do readHex f count (16 * value + (← hexValue? c)) rest

/-- Reads a character by its number. -/
def readNumbered (f : Flags) (count : Nat) (isByte : Bool) (cs : List Char) :
    Option (Escape × List Char) := do
  let (n, rest) ← readHex f count 0 cs
  if n.isValidChar then some (.literal (Char.ofNat n) isByte, rest) else none

/-- Reads what follows a backslash. Properties of characters are refused. -/
def readEscape (f : Flags) : List Char → Option (Escape × List Char)
  | [] => none
  | c :: rest =>
    if c = 'x' then readNumbered f 2 true rest
    else if c = 'u' then readNumbered f 4 false rest
    else if c = 'U' then readNumbered f 8 false rest
    else if c = 'd' || c = 's' || c = 'w' then some (.letterSet false, rest)
    else if c = 'D' || c = 'S' || c = 'W' then some (.letterSet true, rest)
    else if c = 'b' || c = 'B' || c = '<' || c = '>' then some (.wordBoundary, rest)
    else if c = 'A' || c = 'z' then some (.edge, rest)
    else if c = 'a' then some (.literal (Char.ofNat 0x07) false, rest)
    else if c = 'f' then some (.literal (Char.ofNat 0x0C) false, rest)
    else if c = 't' then some (.literal '\t' false, rest)
    else if c = 'n' then some (.literal '\n' false, rest)
    else if c = 'r' then some (.literal '\r' false, rest)
    else if c = 'v' then some (.literal (Char.ofNat 0x0B) false, rest)
    else if c.toNat < 0x80 && !c.isAlphanum then some (.literal c false, rest)
    else none

end RoundRobin.Text.Pattern
