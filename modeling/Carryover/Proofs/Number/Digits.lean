import Carryover.Number.Literal
import Mathlib.Data.Bool.AllAny
import Mathlib.Data.List.TakeDrop
import Mathlib.Tactic.Ring

/-!
# Rows of digits

A number is written as a row of digits without a leading zero, and reads as itself again.
-/

namespace Carryover
namespace Number

/-- Whether a text does not go on with a digit. -/
def NoDigit (rest : List Char) : Prop :=
  ∀ c ∈ rest.head?, c.isDigit = false

/-- The digits before what is no digit are taken. -/
theorem spanDigits_row {ds rest : List Char} (hds : ∀ c ∈ ds, c.isDigit = true)
    (hrest : NoDigit rest) : spanDigits (ds ++ rest) = (ds, rest) := by
  rw [spanDigits, List.span_eq_takeWhile_dropWhile, List.takeWhile_append_of_pos hds,
    List.dropWhile_append_of_pos hds]
  cases rest with
  | nil => simp
  | cons c rest => simp [hrest c rfl]

/-! ### Decimal digits -/

theorem isDigit_toDigits {n : Nat} : ∀ c ∈ Nat.toDigits 10 n, c.isDigit = true :=
  fun _ hc => Nat.isDigit_of_mem_toDigits (by decide) (by decide) hc

/-- The digits of a number stand for it. -/
@[simp]
theorem ofDigits_toDigits (n : Nat) : ofDigits (Nat.toDigits 10 n) = n :=
  Nat.ofDigitChars_ten_toDigits

/-- Further digits move the first ones to the left. -/
theorem ofDigits_append (ds es : List Char) :
    ofDigits (ds ++ es) = ofDigits ds * 10 ^ es.length + ofDigits es := by
  rw [ofDigits, Nat.ofDigitChars_append, Nat.ofDigitChars_eq_ofDigitChars_zero, Nat.mul_comm]
  rfl

/-- Zeros before a row of digits do not count. -/
theorem ofDigits_zeros (n : Nat) (ds : List Char) :
    ofDigits (List.replicate n '0' ++ ds) = ofDigits ds := by
  rw [ofDigits, Nat.ofDigitChars_append, Nat.ofDigitChars_replicate_zero, Nat.mul_zero, ofDigits]

/-- Zeros after a row of digits are powers of ten. -/
theorem ofDigits_append_zeros (ds : List Char) (n : Nat) :
    ofDigits (ds ++ List.replicate n '0') = ofDigits ds * 10 ^ n := by
  rw [ofDigits_append, List.length_replicate, ← List.append_nil (List.replicate n '0'),
    ofDigits_zeros]
  rfl

/-- A number above zero has no leading zero. -/
theorem head?_toDigits {n : Nat} (hn : 0 < n) : (Nat.toDigits 10 n).head? ≠ some '0' := by
  induction n using Nat.strongRecOn with
  | ind n ih =>
    by_cases h : n < 10
    · rw [Nat.toDigits_of_lt_base h]
      simpa using hn.ne'
    · have hhead := ih (n / 10) (by omega) (by omega)
      obtain ⟨c, cs, hc⟩ := List.exists_cons_of_ne_nil
        (Nat.toDigits_ne_nil (n := n / 10) (b := 10))
      rw [Nat.toDigits_of_base_le (by decide) (by omega), hc]
      rwa [hc] at hhead

/-- Whether a row of digits may stand before the point: it is not empty, and a zero at its head
is all of it. -/
structure IsWhole (ds : List Char) : Prop where
  digits : ∀ c ∈ ds, c.isDigit = true
  ne_nil : ds ≠ []
  alone : ds.head? = some '0' → ds = ['0']

theorem isWhole_zero : IsWhole ['0'] :=
  ⟨by simp, by simp, fun _ => rfl⟩

/-- A digit alone is written as a whole number is. -/
theorem isWhole_digit {c : Char} (hc : c.isDigit = true) : IsWhole [c] :=
  ⟨by simpa using hc, by simp, fun h => by rw [Option.some.inj h]⟩

/-- The digits of a number are written as a whole number is. -/
theorem isWhole_toDigits (n : Nat) : IsWhole (Nat.toDigits 10 n) := by
  refine ⟨isDigit_toDigits, Nat.toDigits_ne_nil, fun h => ?_⟩
  obtain rfl | hn := Nat.eq_zero_or_pos n
  · rfl
  · exact absurd h (head?_toDigits hn)

/-- Zeros after a row of digits that does not begin with one. -/
theorem IsWhole.append_zeros {ds : List Char} (h : IsWhole ds) (hhead : ds.head? ≠ some '0')
    (n : Nat) : IsWhole (ds ++ List.replicate n '0') := by
  obtain ⟨c, ds, rfl⟩ := List.exists_cons_of_ne_nil h.ne_nil
  refine ⟨fun d hd => ?_, by simp, fun h => absurd h hhead⟩
  obtain hd | hd := List.mem_append.mp hd
  · exact h.digits d hd
  · obtain rfl := List.eq_of_mem_replicate hd
    rfl

/-- The first digits of a whole number are written as one. -/
theorem IsWhole.take {ds : List Char} (h : IsWhole ds) {n : Nat} (hn : 0 < n) :
    IsWhole (ds.take n) := by
  refine ⟨fun c hc => h.digits c (List.mem_of_mem_take hc), by simp [hn.ne', h.ne_nil], ?_⟩
  rw [List.head?_take, if_neg hn.ne']
  intro hzero
  rw [h.alone hzero]
  exact List.take_of_length_le hn

end Number
end Carryover
