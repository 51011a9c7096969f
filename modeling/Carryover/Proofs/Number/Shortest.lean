import Carryover.Number.Shortest
import Carryover.Proofs.Number.Nearest

/-!
# The fewest digits read back

The digits that a double is written with read back as the double (`shortest_readsBack`): those
found on a grid were chosen for it, and all the digits have the value of the double.
-/

namespace Carryover
namespace Number

/-- Trailing zeros may stand in the digits or in the exponent. -/
theorem DecimalForm.strip_value (digits : Nat) (e : Int) :
    ((strip digits e).digits * 10 ^ (strip digits e).exponent : Rat) = digits * 10 ^ e := by
  fun_induction strip digits e with
  | case1 => simp
  | case2 digits e hd hmod ih =>
    have hdiv : (digits : Rat) = 10 * (digits / 10 : Nat) := by
      exact_mod_cast (Nat.mul_div_cancel' (Nat.dvd_of_mod_eq_zero hmod)).symm
    rw [ih, hdiv, zpow_add_one₀ (by norm_num)]
    ring
  | case3 => rfl

namespace Finite

/-- A power of two below one in decimal digits. -/
theorem five_pow_mul (e : Int) :
    (5 : Rat) ^ (-e).toNat * 10 ^ min e 0 = 1 / 2 ^ (-e).toNat := by
  have hmin : min e 0 = -((-e).toNat : Int) := by omega
  rw [hmin, zpow_neg, zpow_natCast, ← div_eq_mul_inv,
    div_eq_div_iff (by positivity) (by positivity), ← mul_pow, one_mul]
  norm_num

/-- All the digits of a double have its value. -/
theorem exact_value (x : Finite) :
    (x.exact.digits * 10 ^ x.exact.exponent : Rat) = x.num / x.den := by
  rw [exact, DecimalForm.strip_value, den]
  push_cast
  rw [mul_assoc, five_pow_mul, mul_one_div]

/-- A form that is found on a grid reads back. -/
theorem readsBack_of_onGrid? {x : Finite} {k : Int} {d : DecimalForm}
    (h : x.onGrid? k = some d) : x.readsBack d = true :=
  List.find?_some h

/-- A double with the mantissa zero is a zero. -/
theorem finite_of_mantissa {x : Finite} (hx : x.mantissa = 0) :
    Double.finite x = .zero x.negative := by
  obtain ⟨negative, mantissa, exponent, hlt, hlow, hhigh, hcan⟩ := x
  dsimp only at hx
  subst hx
  obtain rfl : exponent = -1074 := hcan.resolve_left (by decide)
  rfl

/-- What stands for a double that is not zero was found on a grid or has all its digits. -/
theorem shortest_cases {x : Finite} (hx : x.mantissa ≠ 0) :
    x.readsBack x.shortest = true ∨ x.shortest = x.exact := by
  rw [shortest, if_neg hx]
  dsimp only
  generalize hg : (List.range 17).findSome? (fun n : Nat => x.onGrid? (x.point - n - 1)) = found
  cases found with
  | some d =>
    obtain ⟨n, -, hn⟩ := List.exists_of_findSome?_eq_some hg
    exact .inl (readsBack_of_onGrid? hn)
  | none => exact .inr rfl

/-- **The digits that a double is written with read back as the double.** -/
theorem shortest_readsBack (x : Finite) :
    Double.ofDecimal x.negative x.shortest.digits x.shortest.exponent = .finite x := by
  by_cases hx : x.mantissa = 0
  · rw [finite_of_mantissa hx, shortest, if_pos hx, Double.ofDecimal]
    simp only [if_true]
  · obtain h | h := shortest_cases hx
    · exact beq_iff_eq.mp h
    · rw [h]
      exact Double.ofDecimal_of_value hx (exact_value x)

end Finite
end Number
end Carryover
