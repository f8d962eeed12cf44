/-!
# Natural numbers

The arithmetic on natural numbers that formats, decimals and durations share.
-/

namespace DualEval

/-- Powers of natural numbers are those of the core library, in modules with other instances too. -/
scoped instance (priority := 1100) natPower : Pow Nat Nat := instPowNat

/-- The integer nearest to a quotient; of two that are equally near, the even one. -/
def roundQuotient (num den : Nat) : Nat :=
  let floor := num / den
  let rest := num % den
  if 2 * rest < den then floor
  else if den < 2 * rest then floor + 1
  else floor + floor % 2

end DualEval
