import RoundRobin.Checked

/-!
# Numbers as text

Decimal numbers that fit in a 64-bit word, and which texts are numbers with a fraction.
-/

namespace RoundRobin.Text

/-- Why a text is not a 64-bit number. -/
inductive NumberError where
  | empty
  | invalidDigit
  | tooLarge
  deriving DecidableEq, Repr

def NumberError.message : NumberError → String
  | .empty => "cannot parse integer from empty string"
  | .invalidDigit => "invalid digit found in string"
  | .tooLarge => "number too large to fit in target type"

/-- Reads decimal digits after `value`. A character that is no digit is reported before an overflow
at the same place. -/
def readDigits (value : Nat) : List Char → Except NumberError Nat
  | [] => .ok value
  | c :: rest =>
    if !c.isDigit then .error .invalidDigit
    else
      let next := value * 10 + (c.toNat - '0'.toNat)
      if wordMax < next then .error .tooLarge else readDigits next rest

/-- Reads a number, which may have a plus sign. -/
def readNumber (s : String) : Except NumberError Nat :=
  match s.toList with
  | [] => .error .empty
  | ['+'] => .error .invalidDigit
  | '+' :: digits => readDigits 0 digits
  | digits => readDigits 0 digits

/-- Whether a text is an exponent: a letter, a sign or none, and digits. An empty text is no
exponent and allowed. -/
def isExponent : List Char → Bool
  | [] => true
  | c :: rest =>
    let digits := match rest with
      | '+' :: digits | '-' :: digits => digits
      | digits => digits
    c.toLower = 'e' && digits ≠ [] && digits.all Char.isDigit

/-- Whether a text without a sign is a number that may have a fraction and an exponent. -/
def isDecimal (cs : List Char) : Bool :=
  let whole := cs.takeWhile Char.isDigit
  let (fraction, rest) := match cs.dropWhile Char.isDigit with
    | '.' :: rest => (rest.takeWhile Char.isDigit, rest.dropWhile Char.isDigit)
    | rest => ([], rest)
  ["inf", "infinity", "nan"].contains (String.ofList (cs.map Char.toLower))
    || ((whole ≠ [] || fraction ≠ []) && isExponent rest)

end RoundRobin.Text
