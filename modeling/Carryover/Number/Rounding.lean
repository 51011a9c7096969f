/-!
# Rounding a quotient

The quotient of two natural numbers, rounded to the nearest whole number, a tie to the even
neighbour.
-/

namespace Carryover
namespace Number

/-- `num / den` rounded to the nearest whole number, a tie to the even neighbour. -/
def roundHalfEven (num den : Nat) : Nat :=
  let low := num / den
  let rest := num % den
  if 2 * rest < den then low
  else if den < 2 * rest then low + 1
  else if low % 2 = 0 then low
  else low + 1

/-- A whole quotient is not rounded. -/
theorem roundHalfEven_mul {den : Nat} (h : 0 < den) (n : Nat) :
    roundHalfEven (n * den) den = n := by
  have h1 : n * den / den = n := Nat.mul_div_cancel n h
  have h2 : n * den % den = 0 := Nat.mul_mod_left n den
  unfold roundHalfEven
  dsimp only
  rw [h1, h2]
  simp [h]

end Number
end Carryover
