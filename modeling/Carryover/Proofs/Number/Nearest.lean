import Carryover.Number.Double
import Mathlib.Data.Int.Log
import Mathlib.Data.Rat.Floor
import Mathlib.Tactic.FieldSimp
import Mathlib.Tactic.Linarith
import Mathlib.Tactic.NormNum
import Mathlib.Tactic.Positivity
import Mathlib.Tactic.Ring

/-!
# The nearest double

The double nearest to a fraction depends on its value alone (`ofRatio_congr`), and so does the
double nearest to a decimal number (`ofDecimal_congr`). A decimal number with the value of a
double reads as this double (`ofDecimal_of_value`).
-/

namespace Carryover
namespace Number

/-- A power with an integer exponent as a quotient of powers with natural ones. -/
theorem pow_toNat_div (b : Rat) (e : Int) : b ^ e.toNat / b ^ (-e).toNat = b ^ e := by
  obtain h | h := le_total 0 e
  · rw [Int.toNat_eq_zero.mpr (by omega : -e ≤ 0), pow_zero, div_one, ← zpow_natCast,
      Int.toNat_of_nonneg h]
  · rw [Int.toNat_eq_zero.mpr h, pow_zero, ← zpow_natCast, Int.toNat_of_nonneg (by omega),
      zpow_neg, one_div, inv_inv]

/-! ### Rounding -/

/-- A quotient is rounded alike after it has been extended. -/
theorem roundHalfEven_mul_right {num den k : Nat} (hk : 0 < k) :
    roundHalfEven (num * k) (den * k) = roundHalfEven num den := by
  unfold roundHalfEven
  have hdiv : num * k / (den * k) = num / den := Nat.mul_div_mul_right num den hk
  have hmod : num * k % (den * k) = num % den * k := Nat.mul_mod_mul_right k num den
  have hlow : 2 * (num % den * k) < den * k ↔ 2 * (num % den) < den := by
    rw [← Nat.mul_assoc]
    exact Nat.mul_lt_mul_right hk
  have hhigh : den * k < 2 * (num % den * k) ↔ den < 2 * (num % den) := by
    rw [← Nat.mul_assoc]
    exact Nat.mul_lt_mul_right hk
  simp only [hdiv, hmod, hlow, hhigh]

/-- Equal fractions are rounded to the same number. -/
theorem roundHalfEven_congr {num den num' den' : Nat} (hd : 0 < den) (hd' : 0 < den')
    (h : num * den' = num' * den) : roundHalfEven num den = roundHalfEven num' den' := by
  rw [← roundHalfEven_mul_right hd', h, Nat.mul_comm den den', roundHalfEven_mul_right hd]

/-! ### The exponent -/

namespace Double

/-- The fraction in units of `2 ^ e`. -/
theorem inUnits_div (num den : Nat) (e : Int) :
    ((inUnits num den e).1 : Rat) / (inUnits num den e).2 = (num / den : Rat) / 2 ^ e := by
  have h := pow_toNat_div 2 (-e)
  rw [neg_neg, zpow_neg] at h
  simp only [inUnits, Nat.cast_mul, Nat.cast_pow, Nat.cast_ofNat]
  rw [mul_div_mul_comm, h, div_eq_mul_inv _ ((2 : Rat) ^ e)]

/-- The denominator in units of a power of two is positive. -/
theorem inUnits_pos {num den : Nat} (hd : 0 < den) (e : Int) : 0 < (inUnits num den e).2 :=
  Nat.mul_pos hd (Nat.two_pow_pos _)

/-- The quotient of two numbers of `l + 1` and `m + 1` binary digits. -/
theorem log_div_bounds {num den : Nat} (hn : 0 < num) (hd : 0 < den) :
    (num.log2 : Int) - den.log2 - 1 ≤ Int.log 2 ((num : Rat) / den) ∧
      Int.log 2 ((num : Rat) / den) < (num.log2 : Int) - den.log2 + 1 := by
  have hq : (0 : Rat) < num / den := div_pos (by exact_mod_cast hn) (by exact_mod_cast hd)
  have hd' : (0 : Rat) < den := by positivity
  have hpow (e : Int) : (0 : Rat) < 2 ^ e := zpow_pos two_pos e
  have hnlow : (2 : Rat) ^ (num.log2 : Int) ≤ num := by
    exact_mod_cast Nat.log2_self_le hn.ne'
  have hnhigh : (num : Rat) < 2 ^ ((num.log2 : Int) + 1) := by
    exact_mod_cast Nat.lt_log2_self
  have hdlow : (2 : Rat) ^ (den.log2 : Int) ≤ den := by
    exact_mod_cast Nat.log2_self_le hd.ne'
  have hdhigh : (den : Rat) < 2 ^ ((den.log2 : Int) + 1) := by
    exact_mod_cast Nat.lt_log2_self
  constructor
  · rw [← Int.zpow_le_iff_le_log (by norm_num) hq, le_div_iff₀ hd']
    push_cast
    calc (2 : Rat) ^ ((num.log2 : Int) - den.log2 - 1) * den
        ≤ 2 ^ ((num.log2 : Int) - den.log2 - 1) * 2 ^ ((den.log2 : Int) + 1) :=
          mul_le_mul_of_nonneg_left hdhigh.le (hpow _).le
      _ = 2 ^ (num.log2 : Int) := by
        rw [← zpow_add₀ two_ne_zero]
        congr 1
        omega
      _ ≤ num := hnlow
  · rw [← Int.lt_zpow_iff_log_lt (by norm_num) hq, div_lt_iff₀ hd']
    push_cast
    calc (num : Rat) < 2 ^ ((num.log2 : Int) + 1) := hnhigh
      _ = 2 ^ ((num.log2 : Int) - den.log2 + 1) * 2 ^ (den.log2 : Int) := by
        rw [← zpow_add₀ two_ne_zero]
        congr 1
        omega
      _ ≤ 2 ^ ((num.log2 : Int) - den.log2 + 1) * den :=
          mul_le_mul_of_nonneg_left hdlow (hpow _).le

/-- The fraction in units of `2 ^ e` against a power of two. -/
theorem inUnits_lt {num den : Nat} (hd : 0 < den) (e : Int) (n : Nat) :
    (inUnits num den e).1 < (inUnits num den e).2 * 2 ^ n ↔
      (num / den : Rat) < 2 ^ (e + n) := by
  have hu : (0 : Rat) < (inUnits num den e).2 := by exact_mod_cast inUnits_pos hd e
  have hpow : (0 : Rat) < 2 ^ e := zpow_pos two_pos e
  rw [zpow_add₀ two_ne_zero, ← div_lt_iff₀' hpow, ← inUnits_div, div_lt_iff₀' hu, zpow_natCast]
  exact_mod_cast Iff.rfl

/-- The exponent of a fraction follows from its binary logarithm. -/
theorem exponentOf_eq {num den : Nat} (hn : 0 < num) (hd : 0 < den) :
    exponentOf num den = max (-1074) (Int.log 2 ((num : Rat) / den) - 52) := by
  have hq : (0 : Rat) < num / den := div_pos (by exact_mod_cast hn) (by exact_mod_cast hd)
  obtain ⟨hlow, hhigh⟩ := log_div_bounds hn hd
  unfold exponentOf
  dsimp only
  generalize he : (num.log2 : Int) - den.log2 - 53 = e
  have hcond : (inUnits num den e).1 < (inUnits num den e).2 * 2 ^ 53 ↔
      Int.log 2 ((num : Rat) / den) < e + 53 := by
    rw [inUnits_lt hd, ← Int.lt_zpow_iff_log_lt (by norm_num) hq]
    exact Iff.rfl
  congr 1
  simp only [hcond]
  split_ifs <;> omega

/-- The double nearest to a fraction depends on its value alone. -/
theorem ofRatio_congr (negative : Bool) {num den num' den' : Nat} (hd : 0 < den)
    (hd' : 0 < den') (h : num * den' = num' * den) :
    ofRatio negative num den = ofRatio negative num' den' := by
  obtain rfl | hn := Nat.eq_zero_or_pos num
  · have h0 : num' = 0 := by
      rw [Nat.zero_mul] at h
      exact (Nat.mul_eq_zero.mp h.symm).resolve_right hd.ne'
    rw [ofRatio, ofRatio, if_pos rfl, if_pos h0]
  · have hn' : 0 < num' := Nat.pos_of_mul_pos_right (h ▸ Nat.mul_pos hn hd')
    have hq : (num / den : Rat) = num' / den' := by
      rw [div_eq_div_iff (by exact_mod_cast hd.ne') (by exact_mod_cast hd'.ne')]
      exact_mod_cast h
    have he : exponentOf num den = exponentOf num' den' := by
      rw [exponentOf_eq hn hd, exponentOf_eq hn' hd', hq]
    have hm (e : Int) : roundHalfEven (inUnits num den e).1 (inUnits num den e).2 =
        roundHalfEven (inUnits num' den' e).1 (inUnits num' den' e).2 := by
      refine roundHalfEven_congr (inUnits_pos hd e) (inUnits_pos hd' e) ?_
      simp only [inUnits]
      rw [Nat.mul_mul_mul_comm, h, Nat.mul_mul_mul_comm num']
    simp only [ofRatio, hn.ne', hn'.ne', if_false, he, hm]

end Double

/-! ### Doubles as fractions -/

namespace Finite

/-- A finite double is its mantissa times a power of two. -/
theorem num_div_den (x : Finite) : (x.num / x.den : Rat) = x.mantissa * 2 ^ x.exponent := by
  rw [num, den, Nat.cast_mul, mul_div_assoc, Nat.cast_pow, Nat.cast_pow, Nat.cast_ofNat,
    pow_toNat_div]

/-- A double that is not zero has a positive numerator. -/
theorem num_pos {x : Finite} (hx : x.mantissa ≠ 0) : 0 < x.num :=
  Nat.mul_pos (Nat.pos_of_ne_zero hx) (Nat.two_pow_pos _)

/-- The exponent of a double is the one of the double nearest to it. -/
theorem exponentOf_num_den {x : Finite} (hx : x.mantissa ≠ 0) :
    Double.exponentOf x.num x.den = x.exponent := by
  obtain ⟨hm, hlow, -, hcan⟩ := x.canonical
  have hpow : (0 : Rat) < 2 ^ x.exponent := zpow_pos two_pos _
  have hq : (0 : Rat) < x.mantissa * 2 ^ x.exponent :=
    mul_pos (by exact_mod_cast Nat.pos_of_ne_zero hx) hpow
  rw [Double.exponentOf_eq (num_pos hx) x.den_pos, num_div_den]
  have hhigh : Int.log 2 ((x.mantissa : Rat) * 2 ^ x.exponent) < 53 + x.exponent := by
    rw [← Int.lt_zpow_iff_log_lt (by norm_num) hq, Nat.cast_ofNat, zpow_add₀ two_ne_zero]
    exact mul_lt_mul_of_pos_right (by exact_mod_cast hm) hpow
  obtain hcan | hcan := hcan
  · have hle : 52 + x.exponent ≤ Int.log 2 ((x.mantissa : Rat) * 2 ^ x.exponent) := by
      rw [← Int.zpow_le_iff_le_log (by norm_num) hq, Nat.cast_ofNat, zpow_add₀ two_ne_zero]
      exact mul_le_mul_of_nonneg_right (by exact_mod_cast hcan) hpow.le
    omega
  · omega

/-- A double is the one nearest to its value. -/
theorem ofRatio_num_den {x : Finite} (hx : x.mantissa ≠ 0) :
    Double.ofRatio x.negative x.num x.den = .finite x := by
  have hm : roundHalfEven (Double.inUnits x.num x.den x.exponent).1
      (Double.inUnits x.num x.den x.exponent).2 = x.mantissa := by
    simp only [Double.inUnits, num, den]
    rw [Nat.mul_assoc, Nat.mul_comm (2 ^ (-x.exponent).toNat)]
    exact roundHalfEven_mul (Nat.mul_pos (Nat.two_pow_pos _) (Nat.two_pow_pos _)) _
  simp only [Double.ofRatio, (num_pos hx).ne', if_false, exponentOf_num_den hx, hm, x.canonical,
    dite_true]

end Finite

/-! ### Decimal numbers -/

/-- The length of a row of decimal digits follows from the decimal logarithm. -/
theorem length_toDigits {n : Nat} (hn : 0 < n) :
    (Nat.toDigits 10 n).length = Nat.log 10 n + 1 := by
  have hiff (k : Nat) (hk : 0 < k) : (Nat.toDigits 10 n).length ≤ k ↔ Nat.log 10 n < k := by
    rw [Nat.length_toDigits_le_iff (by decide) hk, Nat.log_lt_iff_lt_pow (by decide) hn.ne']
  have hlow := (hiff _ Nat.length_toDigits_pos).mp le_rfl
  have hhigh := (hiff (Nat.log 10 n + 1) (Nat.succ_pos _)).mpr (Nat.lt_succ_self _)
  omega

namespace Double

/-- The place of the first digit follows from the decimal logarithm. -/
theorem magnitude_eq {digits : Nat} (hd : 0 < digits) (e : Int) :
    e + (Nat.toDigits 10 digits).length = Int.log 10 ((digits : Rat) * 10 ^ e) + 1 := by
  have hd' : (0 : Rat) < digits := by exact_mod_cast hd
  have hpow : (0 : Rat) < 10 ^ e := zpow_pos (by norm_num) e
  have hlog : Int.log 10 ((digits : Rat) * 10 ^ e) = Nat.log 10 digits + e := by
    refine le_antisymm ?_ ?_
    · rw [← Int.lt_add_one_iff, ← Int.lt_zpow_iff_log_lt (by norm_num) (mul_pos hd' hpow),
        add_right_comm, Nat.cast_ofNat, zpow_add₀ (by norm_num)]
      refine mul_lt_mul_of_pos_right ?_ hpow
      exact_mod_cast Nat.lt_pow_succ_log_self (by norm_num : 1 < 10) digits
    · rw [← Int.zpow_le_iff_le_log (by norm_num) (mul_pos hd' hpow), Nat.cast_ofNat,
        zpow_add₀ (by norm_num)]
      refine mul_le_mul_of_nonneg_right ?_ hpow.le
      exact_mod_cast Nat.pow_log_le_self 10 hd.ne'
  rw [hlog, length_toDigits hd]
  push_cast
  ring

/-- A decimal number as a fraction. -/
theorem decimal_div (digits : Nat) (e : Int) :
    ((digits * 10 ^ e.toNat : Nat) / (10 ^ (-e).toNat : Nat) : Rat) = digits * 10 ^ e := by
  push_cast
  rw [mul_div_assoc, pow_toNat_div]

/-- **The double nearest to a decimal number depends on its value alone.** -/
theorem ofDecimal_congr (negative : Bool) {digits digits' : Nat} {e e' : Int}
    (h : (digits * 10 ^ e : Rat) = digits' * 10 ^ e') :
    ofDecimal negative digits e = ofDecimal negative digits' e' := by
  have hpow (k : Int) : (10 : Rat) ^ k ≠ 0 := zpow_ne_zero k (by norm_num)
  obtain rfl | hd := Nat.eq_zero_or_pos digits
  · have h0 : digits' = 0 := by
      rw [Nat.cast_zero, zero_mul] at h
      exact_mod_cast (mul_eq_zero.mp h.symm).resolve_right (hpow e')
    simp only [ofDecimal, h0, if_true]
  · have hd' : 0 < digits' := by
      rw [Nat.pos_iff_ne_zero]
      rintro rfl
      rw [Nat.cast_zero, zero_mul] at h
      exact hd.ne' (by exact_mod_cast (mul_eq_zero.mp h).resolve_right (hpow e))
    have hm : e + (Nat.toDigits 10 digits).length = e' + (Nat.toDigits 10 digits').length := by
      rw [magnitude_eq hd, magnitude_eq hd', h]
    have hr : ofRatio negative (digits * 10 ^ e.toNat) (10 ^ (-e).toNat) =
        ofRatio negative (digits' * 10 ^ e'.toNat) (10 ^ (-e').toNat) := by
      refine ofRatio_congr negative (by positivity) (by positivity) ?_
      rw [← decimal_div, ← decimal_div, div_eq_div_iff (by positivity) (by positivity)] at h
      exact_mod_cast h
    simp only [ofDecimal, hm, hr, hd.ne', hd'.ne', if_false]

/-- The least double is above what is read as zero unseen. -/
theorem least_bound : ((10 : Nat) : Rat) ^ (-331 : Int) ≤ 2 ^ (-1074 : Int) := by
  rw [zpow_neg, zpow_neg]
  refine inv_anti₀ (zpow_pos two_pos _) ?_
  exact_mod_cast (by decide +kernel : 2 ^ 1074 ≤ 10 ^ 331)

/-- The doubles are below what is read as infinity unseen. -/
theorem greatest_bound :
    (2 : Rat) ^ (53 : Nat) * 2 ^ (971 : Int) < ((10 : Nat) : Rat) ^ (310 : Int) := by
  exact_mod_cast (by decide +kernel : 2 ^ 53 * 2 ^ 971 < 10 ^ 310)

/-- **A decimal number with the value of a double reads as this double.** -/
theorem ofDecimal_of_value {x : Finite} (hx : x.mantissa ≠ 0) {digits : Nat} {e : Int}
    (h : (digits * 10 ^ e : Rat) = x.num / x.den) :
    ofDecimal x.negative digits e = .finite x := by
  obtain ⟨hm, hlow, hhigh, -⟩ := x.canonical
  have hm' : (1 : Rat) ≤ x.mantissa := by exact_mod_cast Nat.pos_of_ne_zero hx
  have hd : 0 < digits := by
    rw [Nat.pos_iff_ne_zero]
    rintro rfl
    rw [Nat.cast_zero, zero_mul, eq_comm, div_eq_zero_iff] at h
    obtain h | h := h
    · exact (Finite.num_pos hx).ne' (by exact_mod_cast h)
    · exact x.den_pos.ne' (by exact_mod_cast h)
  have hr : ofRatio x.negative (digits * 10 ^ e.toNat) (10 ^ (-e).toNat) = .finite x := by
    rw [← Finite.ofRatio_num_den hx]
    refine ofRatio_congr _ (by positivity) x.den_pos ?_
    rw [← decimal_div, div_eq_div_iff (by positivity) (by exact_mod_cast x.den_pos.ne')] at h
    exact_mod_cast h
  have hq : (0 : Rat) < digits * 10 ^ e :=
    mul_pos (by exact_mod_cast hd) (zpow_pos (by norm_num) e)
  rw [Finite.num_div_den] at h
  -- doubles stay away from the bounds of what is cut off: they are at least `2 ^ -1074` and
  -- below `2 ^ 1024`
  have hleast : -330 ≤ Int.log 10 ((digits : Rat) * 10 ^ e) + 1 := by
    have : -331 ≤ Int.log 10 ((digits : Rat) * 10 ^ e) := by
      rw [← Int.zpow_le_iff_le_log (by norm_num) hq, h]
      calc ((10 : Nat) : Rat) ^ (-331 : Int) ≤ 2 ^ (-1074 : Int) := least_bound
        _ ≤ 2 ^ x.exponent := zpow_le_zpow_right₀ (by norm_num) hlow
        _ ≤ x.mantissa * 2 ^ x.exponent := le_mul_of_one_le_left (zpow_pos two_pos _).le hm'
    omega
  have hmost : Int.log 10 ((digits : Rat) * 10 ^ e) + 1 ≤ 310 := by
    have : Int.log 10 ((digits : Rat) * 10 ^ e) < 310 := by
      rw [← Int.lt_zpow_iff_log_lt (by norm_num) hq, h]
      calc (x.mantissa : Rat) * 2 ^ x.exponent ≤ 2 ^ (53 : Nat) * 2 ^ (971 : Int) :=
          mul_le_mul (by exact_mod_cast hm.le) (zpow_le_zpow_right₀ (by norm_num) hhigh)
            (zpow_pos two_pos _).le (by positivity)
        _ < ((10 : Nat) : Rat) ^ (310 : Int) := greatest_bound
    omega
  rw [← magnitude_eq hd] at hleast hmost
  simp only [ofDecimal, hr, hd.ne', not_lt.mpr hleast, not_lt.mpr hmost, if_false]

end Double
end Number
end Carryover
