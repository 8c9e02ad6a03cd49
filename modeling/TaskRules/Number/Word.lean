/-!
Integers of 64 bits with a sign.
-/

namespace TaskRules.Word

/-- The largest integer of 64 bits. -/
def largest : Int := 9223372036854775807

/-- The smallest integer of 64 bits. -/
def smallest : Int := -9223372036854775808

/-- Whether an integer fits 64 bits. -/
def fits (n : Int) : Bool := decide (smallest ≤ n) && decide (n ≤ largest)

end TaskRules.Word
