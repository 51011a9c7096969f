import Carryover.Number.Fraction
import Carryover.Proofs.Json.RoundTrip
import Carryover.Proofs.Number.Numeral

/-!
# Decimal numbers as JSON

The text of a decimal number is JSON if it is a numeral. With a point or an exponent it is read as
the nearest double, without them as a whole number of at most 4300 digits.

| text | read as |
| --- | --- |
| `1.50`, `1E+3` | the nearest double |
| `150` | the whole number |
-/

namespace Carryover
namespace Json

open Number

/-- The exponent of a numeral is read back. -/
theorem exponent?_numeral (e : Option Int) {rest : List Char} (hrest : AtEnd rest) :
    exponent? (Numeral.exponentChars e ++ rest) = some (e, rest) := by
  cases e with
  | none => exact hrest.exponent?
  | some e => exact exponent?_marked (.inr rfl) e hrest.noDigit

/-- A numeral with a point or an exponent is read as the nearest double. -/
theorem number?_numeral {n : Numeral} (hn : n.IsProper) (h : n.part ≠ [] ∨ n.exponent ≠ none)
    (negative : Bool) {rest : List Char} (hrest : AtEnd rest) :
    number? negative (n.chars ++ rest) =
      some (.float (.ofDecimal negative n.digits n.scale), rest) := by
  have he := exponent?_numeral n.exponent hrest
  have hnext : NoDigit (Numeral.exponentChars n.exponent ++ rest) := by
    cases n.exponent with
    | none => exact hrest.noDigit
    | some e =>
      rintro c ⟨⟩
      rfl
  rw [Numeral.chars, List.append_assoc, List.append_assoc]
  by_cases hpart : n.part = []
  · obtain ⟨e, hsome⟩ := Option.ne_none_iff_exists'.mp (h.resolve_left (not_not.mpr hpart))
    have hfraction : fraction? (Numeral.exponentChars n.exponent ++ rest) =
        some (none, Numeral.exponentChars n.exponent ++ rest) := by
      rw [hsome]
      rfl
    rw [Numeral.partChars, if_pos hpart, List.nil_append,
      number?_decimal negative hn.whole hnext hfraction he (.inr (by simp [hsome]))]
    simp [Numeral.digits, Numeral.scale, hpart]
  · have hmore : NoDigit ('.' :: (n.part ++ (Numeral.exponentChars n.exponent ++ rest))) := by
      rintro c ⟨⟩
      rfl
    rw [Numeral.partChars, if_neg hpart, List.cons_append,
      number?_decimal negative hn.whole hmore (fraction?_point hn.part hpart hnext) he
        (.inl rfl)]
    simp [Numeral.digits, Numeral.scale]

/-! ### Texts that are one token -/

/-- A text that is one token is the JSON of the token. -/
theorem parse?_of_token? {cs : List Char} {j : Json} (h : token? cs = some (.scalar j, [])) :
    parse? (String.ofList cs) = some j := by
  have hlen : cs.length = cs.length - 1 + 1 := by
    cases cs with
    | nil => cases h
    | cons c cs => rfl
  have htokens := tokens?_of_token? h (cs.length - 1)
  rw [← hlen, tokens?, Option.map_some] at htokens
  have hdepth : ¬ depthLimit < 0 := by decide
  simp [parse?, ofChars?, htokens, value?]

/-- A row of digits after a sign is read as a whole number if it has at most 4300 digits. -/
theorem parse?_signed_whole (negative : Bool) (n : Nat) :
    parse? (String.ofList ((if negative then ['-'] else []) ++ Nat.toDigits 10 n)) =
      if (Nat.toDigits 10 n).length ≤ 4300 then some (.int (if negative then -(n : Int) else n))
      else none := by
  have htoken := token?_signed_whole negative n AtEnd.nil
  rw [List.append_nil] at htoken
  by_cases hlen : (Nat.toDigits 10 n).length ≤ 4300
  · rw [if_pos hlen] at htoken ⊢
    exact parse?_of_token? htoken
  · rw [if_neg hlen] at htoken ⊢
    obtain ⟨c, cs, hcons, hc⟩ := signed_cons negative n
    rw [hcons] at htoken ⊢
    rw [parse?, String.toList_ofList, ofChars?, tokens?_of_token?_eq_none hc htoken]
    rfl

/-- **The text of a decimal number with an exponent is read as the nearest double.** -/
theorem parse?_decimal (negative : Bool) (c : Nat) {e : Int} (he : e ≠ 0) :
    parse? (Decimal.render (.finite negative c e)) = some (.float (.ofDecimal negative c e)) := by
  have hn := Decimal.isProper_numeral c e
  have hscale := Decimal.scale_numeral c e
  have hpart : (Decimal.numeral c e).part ≠ [] ∨ (Decimal.numeral c e).exponent ≠ none := by
    by_contra hnone
    obtain ⟨hpart, hexponent⟩ := not_or.mp hnone
    rw [Numeral.scale, not_not.mp hpart, not_not.mp hexponent] at hscale
    exact he (by simpa using hscale.symm)
  have hnumber := number?_numeral hn hpart negative AtEnd.nil
  rw [List.append_nil, Decimal.digits_numeral, hscale] at hnumber
  refine parse?_of_token? ?_
  rw [Decimal.chars, Decimal.magnitude_eq_chars]
  cases negative with
  | true => exact token?_minus_number hnumber
  | false => exact token?_number hnumber

/-- The text of a decimal number without an exponent is that of a whole number. -/
theorem parse?_decimal_whole (negative : Bool) (c : Nat) :
    parse? (Decimal.render (.finite negative c 0)) =
      if (Nat.toDigits 10 c).length ≤ 4300 then some (.int (if negative then -(c : Int) else c))
      else none := by
  have hmagnitude : Decimal.magnitude c 0 = Nat.toDigits 10 c := by
    have hpos : 0 < (Nat.toDigits 10 c).length := Nat.length_toDigits_pos
    rw [Decimal.magnitude, if_pos (by simp; omega), if_neg (by omega), if_pos rfl]
  rw [← parse?_signed_whole, Decimal.render, Decimal.chars, hmagnitude]

theorem toString_nat (n : Nat) : toString n = String.ofList (Nat.toDigits 10 n) := rfl

theorem toString_int (i : Int) : toString i = String.ofList (intChars i) := by
  cases i with
  | ofNat n => rfl
  | negSucc n =>
    change "-" ++ toString (n + 1) = _
    rw [intChars, if_pos (by omega), toString_nat, ← String.toList_inj]
    simp

/-- The text of a whole number is read as itself if it has at most 4300 digits. -/
theorem parse?_intChars (i : Int) :
    parse? (String.ofList (intChars i)) =
      if (Nat.toDigits 10 i.natAbs).length ≤ 4300 then some (.int i) else none := by
  have h := parse?_render_eq (.int i)
  simpa [render, chars, isShort, reread, depthLimit] using h

/-- The text of a fraction that is a whole number is read as that. -/
theorem parse?_fraction_whole {q : Rat} (hq : q.den = 1) :
    parse? (Fraction.render q) =
      if (Nat.toDigits 10 q.num.natAbs).length ≤ 4300 then some (.int q.num) else none := by
  rw [Fraction.render, if_pos hq, toString_int, parse?_intChars]

end Json
end Carryover
