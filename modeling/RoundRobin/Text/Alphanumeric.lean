import RoundRobin.Text.Alphabetic
import RoundRobin.Text.Numeric

/-!
# Letters and digits
-/

namespace RoundRobin.Text

def isAlphanumeric (c : Char) : Bool := isAlphabetic c || isNumeric c

end RoundRobin.Text
