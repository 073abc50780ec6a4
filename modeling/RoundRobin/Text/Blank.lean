/-!
# Blanks

The characters with the white-space property, and text without those at its ends.
-/

namespace RoundRobin.Text

def isBlank (c : Char) : Bool :=
  let n := c.toNat
  (9 ≤ n && n ≤ 13) || n = 0x20 || n = 0x85 || n = 0xA0 || n = 0x1680
    || (0x2000 ≤ n && n ≤ 0x200A) || n = 0x2028 || n = 0x2029 || n = 0x202F || n = 0x205F
    || n = 0x3000

/-- Drops the blanks at both ends. -/
def trim (cs : List Char) : List Char :=
  ((cs.dropWhile isBlank).reverse.dropWhile isBlank).reverse

/-- Parts a text at its blanks, of which it keeps none. -/
def words (cs : List Char) : List (List Char) :=
  (cs.foldr
    (fun c parts => if isBlank c then [] :: parts else (c :: parts.headD []) :: parts.tail)
    [[]]).filter (· ≠ [])

end RoundRobin.Text
