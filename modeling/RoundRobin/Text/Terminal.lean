/-!
# Text without terminal control

Control sequences are meant for a terminal, and text that goes elsewhere is written without them.
A sequence begins with the escape character; which character ends it depends on its kind. Of the
other control characters only tabs, line feeds, form feeds and carriage returns are kept, and inside
a sequence with parameters these are written too: writing goes on after one, but the sequence is
only suspended, and the next control character that is dropped takes it up again.

Characters of several bytes count for nothing inside a sequence, unless one of their later bytes is
the one that ends a string.
-/

namespace RoundRobin.Text

/-- The kind of sequence that is being read. -/
inductive Sequence where
  | none
  /-- The escape character has been read. -/
  | escape
  /-- An escape with characters in between. -/
  | intermediate
  /-- Parameters and a final letter. -/
  | control
  /-- A command for the operating system, up to the bell. -/
  | command
  /-- Beginning of a device string. -/
  | device
  /-- Parameters of a device string. -/
  | deviceParameter
  /-- Intermediate characters of a device string. -/
  | deviceIntermediate
  /-- A string up to its terminator. -/
  | string
  deriving DecidableEq, Repr

/-- Whether control characters are carried out inside a sequence. -/
def Sequence.executes : Sequence → Bool
  | .none | .escape | .intermediate | .control => true
  | _ => false

structure Terminal where
  sequence : Sequence
  /-- Whether characters are being written. -/
  writing : Bool
  deriving DecidableEq, Repr

namespace Terminal

def isEscape (c : Char) : Bool := c.toNat = 0x1B

/-- Control characters that break a sequence off. -/
def cancels (c : Char) : Bool := c.toNat = 0x18 || c.toNat = 0x1A

/-- Control characters that are part of a text. -/
def isFeed (c : Char) : Bool := c = '\t' || c = '\n' || c.toNat = 0x0C || c = '\r'

def isGraphic (c : Char) : Bool := 0x20 ≤ c.toNat && c.toNat ≤ 0x7E

/-- Whether a later byte of a character is the string terminator, `0x9C`. -/
def hidesTerminator (c : Char) : Bool :=
  let n := c.toNat
  (0x80 ≤ n && n % 64 = 0x1C) || (0x800 ≤ n && n / 64 % 64 = 0x1C)
    || (0x10000 ≤ n && n / 4096 % 64 = 0x1C)

/-- The sequence after a graphic character has been read inside of one. -/
def advance (s : Sequence) (c : Char) : Sequence :=
  let n := c.toNat
  match s with
  | .none => .none
  | .escape =>
    if n < 0x30 then .intermediate
    else if c = '[' then .control
    else if c = ']' then .command
    else if c = 'P' then .device
    else if c = 'X' || c = '^' || c = '_' then .string
    else .none
  | .intermediate => if n < 0x30 then .intermediate else .none
  | .control => if n < 0x40 then .control else .none
  | .command => .command
  | .device =>
    if n < 0x30 then .deviceIntermediate
    else if n < 0x40 && c ≠ ':' then .deviceParameter
    else .string
  | .deviceParameter =>
    if n < 0x30 then .deviceIntermediate
    else if c.isDigit || c = ';' then .deviceParameter
    else .string
  | .deviceIntermediate => if n < 0x30 then .deviceIntermediate else .string
  | .string => .string

/-- Reads a character while nothing is being written. -/
def skip (s : Sequence) (c : Char) : List Char × Terminal :=
  if isEscape c then ([], ⟨.escape, false⟩)
  else if cancels c then ([], ⟨.none, false⟩)
  else if s = .none then
    if 0x80 ≤ c.toNat || isGraphic c || isFeed c then ([c], ⟨.none, true⟩) else ([], ⟨.none, false⟩)
  else if 0x80 ≤ c.toNat then
    ([], ⟨if s = .string && hidesTerminator c then .none else s, false⟩)
  else if isGraphic c then ([], ⟨advance s c, false⟩)
  else if s = .command && c.toNat = 7 then ([], ⟨.none, false⟩)
  else if s.executes && isFeed c then ([c], ⟨s, true⟩)
  else ([], ⟨s, false⟩)

def read (t : Terminal) (c : Char) : List Char × Terminal :=
  if !t.writing then skip t.sequence c
  else if 0x80 ≤ c.toNat then ([c], ⟨.none, true⟩)
  else if isGraphic c || isFeed c then ([c], t)
  else skip t.sequence c

def readAll (t : Terminal) : List Char → List Char
  | [] => []
  | c :: rest =>
    let (written, t) := t.read c
    written ++ t.readAll rest

end Terminal

/-- The text that is left when control sequences and control characters are dropped. -/
def withoutControl (s : String) : String :=
  String.ofList (Terminal.readAll ⟨.none, true⟩ s.toList)

end RoundRobin.Text
