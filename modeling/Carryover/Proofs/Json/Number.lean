import Carryover.Json.Reader
import Carryover.Json.Writer
import Carryover.Proofs.Number.Digits
import Carryover.Proofs.Number.Shortest

/-!
# Written numbers are read back

The characters of a number are read as this number where a value may end.

| written | read |
| --- | --- |
| `1e-7` | `1 * 10 ^ -7` |
| `0.05` | `5 * 10 ^ -2` |
| `500.0` | `5000 * 10 ^ -1` |
| `1.25` | `125 * 10 ^ -2` |
-/

namespace Carryover
namespace Json

open Number

/-- Whether a text goes on with the end of a value: it is over, or there is a comma or the end
of a list or an object. -/
def AtEnd (rest : List Char) : Prop :=
  ∀ c ∈ rest.head?, c = ',' ∨ c = ']' ∨ c = '}'

theorem AtEnd.nil : AtEnd [] := by
  rintro c ⟨⟩

/-- At the end of a number, the text ends or a list or an object goes on. -/
theorem AtEnd.cases {rest : List Char} (h : AtEnd rest) :
    rest = [] ∨ ∃ c more, rest = c :: more ∧ (c = ',' ∨ c = ']' ∨ c = '}') := by
  cases rest with
  | nil => exact .inl rfl
  | cons c more => exact .inr ⟨c, more, rfl, h c rfl⟩

/-- The end of a number is no digit. -/
theorem AtEnd.noDigit {rest : List Char} (h : AtEnd rest) : NoDigit rest := by
  intro c hc
  obtain rfl | rfl | rfl := h c hc <;> rfl

/-- At the end of a number no fraction begins. -/
theorem AtEnd.fraction? {rest : List Char} (h : AtEnd rest) :
    fraction? rest = some (none, rest) := by
  obtain rfl | ⟨c, more, rfl, rfl | rfl | rfl⟩ := h.cases <;> rfl

/-- At the end of a number no exponent begins. -/
theorem AtEnd.exponent? {rest : List Char} (h : AtEnd rest) :
    exponent? rest = some (none, rest) := by
  obtain rfl | ⟨c, more, rfl, rfl | rfl | rfl⟩ := h.cases <;> rfl

/-- A fraction is the digits after the point. -/
theorem fraction?_point {ds rest : List Char} (hds : ∀ c ∈ ds, c.isDigit = true) (hne : ds ≠ [])
    (hrest : NoDigit rest) : fraction? ('.' :: (ds ++ rest)) = some (some ds, rest) := by
  rw [fraction?, spanDigits_row hds hrest]
  simp [hne]

/-- The characters of an exponent. -/
theorem exponentChars_eq (e : Int) : Layout.json.exponentChars e =
    'e' :: (if e < 0 then '-' else '+') :: Nat.toDigits 10 e.natAbs := by
  have hlen : 1 - (Nat.toDigits 10 e.natAbs).length = 0 :=
    Nat.sub_eq_zero_of_le Nat.length_toDigits_pos
  simp [Layout.exponentChars, Layout.json, hlen]

/-- An exponent after a mark, with its sign. -/
theorem exponent?_marked {mark : Char} (hmark : mark = 'e' ∨ mark = 'E') (e : Int)
    {rest : List Char} (hrest : NoDigit rest) :
    exponent? (mark :: (if e < 0 then '-' else '+') :: (Nat.toDigits 10 e.natAbs ++ rest)) =
      some (some e, rest) := by
  have hspan := spanDigits_row (isDigit_toDigits (n := e.natAbs)) hrest
  by_cases he : e < 0
  · simp [exponent?, hmark, he, Scientific.sign, hspan, abs_of_neg he]
  · simp [exponent?, hmark, he, Scientific.sign, hspan, abs_of_nonneg (not_lt.mp he)]

/-- An exponent that is written is read back. -/
theorem exponent?_exponentChars (e : Int) {rest : List Char} (hrest : NoDigit rest) :
    exponent? (Layout.json.exponentChars e ++ rest) = some (some e, rest) := by
  rw [exponentChars_eq]
  exact exponent?_marked (.inl rfl) e hrest

/-- A whole number is read as such if it has at most 4300 digits. -/
theorem number?_whole (negative : Bool) {whole rest : List Char} (hw : IsWhole whole)
    (hrest : AtEnd rest) :
    number? negative (whole ++ rest) =
      if whole.length ≤ 4300 then
        some (.int (if negative then -(ofDigits whole : Int) else ofDigits whole), rest)
      else none := by
  rw [number?, spanDigits_row hw.digits hrest.noDigit]
  dsimp only
  split
  · exact absurd rfl hw.ne_nil
  · cases hw.alone rfl
  · by_cases hlen : whole.length ≤ 4300
    · simp [hrest.fraction?, hrest.exponent?, hlen]
    · simp [hrest.fraction?, hrest.exponent?, hlen]

/-- A number with a fraction or an exponent is read as a double. -/
theorem number?_decimal (negative : Bool) {whole more rest : List Char}
    {part : Option (List Char)} {e : Option Int} {after : List Char} (hw : IsWhole whole)
    (hmore : NoDigit more) (hpart : fraction? more = some (part, after))
    (he : exponent? after = some (e, rest)) (hsome : part.isSome ∨ e.isSome) :
    number? negative (whole ++ more) =
      some (.float (.ofDecimal negative (ofDigits (whole ++ part.getD []))
        (e.getD 0 - (part.getD []).length)), rest) := by
  rw [number?, spanDigits_row hw.digits hmore]
  dsimp only
  split
  · exact absurd rfl hw.ne_nil
  · cases hw.alone rfl
  · cases part with
    | some part => simp [hpart, he, Scientific.toDouble]
    | none =>
      cases e with
      | some e => simp [hpart, he, Scientific.toDouble]
      | none => simp at hsome

/-- Digits around a point. -/
theorem number?_point (negative : Bool) {whole part rest : List Char} (hw : IsWhole whole)
    (hp : ∀ c ∈ part, c.isDigit = true) (hne : part ≠ []) (hrest : AtEnd rest) :
    number? negative (whole ++ '.' :: (part ++ rest)) =
      some (.float (.ofDecimal negative (ofDigits (whole ++ part)) (-part.length)), rest) := by
  have hmore : NoDigit ('.' :: (part ++ rest)) := by
    rintro c ⟨⟩
    rfl
  have h := number?_decimal negative hw hmore (fraction?_point hp hne hrest.noDigit)
    hrest.exponent? (.inl rfl)
  simpa using h

/-- An exponent does not begin with a digit. -/
theorem noDigit_exponentChars (e : Int) (rest : List Char) :
    NoDigit (Layout.json.exponentChars e ++ rest) := by
  rw [exponentChars_eq]
  rintro c ⟨⟩
  rfl

/-- One digit before an exponent. -/
theorem number?_exponent (negative : Bool) {whole rest : List Char} (hw : IsWhole whole) (e : Int)
    (hrest : AtEnd rest) :
    number? negative (whole ++ (Layout.json.exponentChars e ++ rest)) =
      some (.float (.ofDecimal negative (ofDigits whole) e), rest) := by
  have hpart : fraction? (Layout.json.exponentChars e ++ rest) =
      some (none, Layout.json.exponentChars e ++ rest) := by
    rw [exponentChars_eq]
    rfl
  have h := number?_decimal negative hw (noDigit_exponentChars e rest) hpart
    (exponent?_exponentChars e hrest.noDigit) (.inr rfl)
  simpa using h

/-- Digits around a point before an exponent. -/
theorem number?_point_exponent (negative : Bool) {whole part rest : List Char} (hw : IsWhole whole)
    (hp : ∀ c ∈ part, c.isDigit = true) (hne : part ≠ []) (e : Int) (hrest : AtEnd rest) :
    number? negative (whole ++ '.' :: (part ++ (Layout.json.exponentChars e ++ rest))) =
      some (.float (.ofDecimal negative (ofDigits (whole ++ part)) (e - part.length)), rest) := by
  have hmore : NoDigit ('.' :: (part ++ (Layout.json.exponentChars e ++ rest))) := by
    rintro c ⟨⟩
    rfl
  have h := number?_decimal negative hw hmore
    (fraction?_point hp hne (noDigit_exponentChars e rest))
    (exponent?_exponentChars e hrest.noDigit) (.inl rfl)
  simpa using h

/-! The layouts of a row of digits that does not begin with a zero. -/

section Layouts

variable (negative : Bool) {ds rest : List Char} (hds : ∀ c ∈ ds, c.isDigit = true)
  (hhead : ds.head? ≠ some '0') (hne : ds ≠ []) (hrest : AtEnd rest)

theorem isDigit_zeros (n : Nat) : ∀ c ∈ List.replicate n '0', c.isDigit = true := by
  intro c hc
  obtain rfl := List.eq_of_mem_replicate hc
  rfl

include hds hne hrest

/-- All the digits stand behind the point, after zeros. -/
theorem number?_below (zeros : Nat) :
    number? negative ('0' :: '.' :: (List.replicate zeros '0' ++ ds) ++ rest) =
      some (.float (.ofDecimal negative (ofDigits ds) (-(zeros + ds.length))), rest) := by
  have hpart : ∀ c ∈ List.replicate zeros '0' ++ ds, c.isDigit = true := by
    intro c hc
    obtain hc | hc := List.mem_append.mp hc
    · exact isDigit_zeros zeros c hc
    · exact hds c hc
  have h := number?_point negative isWhole_zero hpart (by simp [hne]) hrest
  have hdigits : ofDigits (['0'] ++ (List.replicate zeros '0' ++ ds)) = ofDigits ds := by
    rw [← List.append_assoc, ← List.replicate_one, List.replicate_append_replicate, ofDigits_zeros]
  rw [hdigits, List.length_append, List.length_replicate, Nat.cast_add] at h
  exact h

include hhead

/-- All the digits stand before the point, with zeros after them. -/
theorem number?_above (zeros : Nat) :
    number? negative (ds ++ List.replicate zeros '0' ++ Layout.json.wholeMark ++ rest) =
      some (.float (.ofDecimal negative (ofDigits ds) zeros), rest) := by
  have hwhole : IsWhole (ds ++ List.replicate zeros '0') :=
    IsWhole.append_zeros ⟨hds, hne, fun h => absurd h hhead⟩ hhead zeros
  have h := number?_point negative hwhole isWhole_zero.digits isWhole_zero.ne_nil hrest
  have hdigits : ofDigits (ds ++ List.replicate zeros '0' ++ ['0']) =
      ofDigits ds * 10 ^ (zeros + 1) := by
    rw [List.append_assoc, ← List.replicate_one, List.replicate_append_replicate,
      ofDigits_append_zeros]
  have hvalue : ((ofDigits ds * 10 ^ (zeros + 1) : Nat) * 10 ^ (-1 : Int) : Rat) =
      ofDigits ds * 10 ^ (zeros : Int) := by
    rw [zpow_natCast, zpow_neg_one]
    push_cast
    rw [pow_succ]
    ring
  rw [hdigits] at h
  rw [← Double.ofDecimal_congr negative hvalue, List.append_assoc _ Layout.json.wholeMark]
  exact h

/-- The point stands among the digits. -/
theorem number?_inside {n : Nat} (hn : 0 < n) (hlt : n < ds.length) :
    number? negative (ds.take n ++ '.' :: ds.drop n ++ rest) =
      some (.float (.ofDecimal negative (ofDigits ds) (n - ds.length)), rest) := by
  have hwhole : IsWhole (ds.take n) := IsWhole.take ⟨hds, hne, fun h => absurd h hhead⟩ hn
  have h := number?_point negative hwhole (fun c hc => hds c (List.mem_of_mem_drop hc))
    (by simpa using hlt) hrest
  rw [List.take_append_drop, List.length_drop, Nat.cast_sub hlt.le, neg_sub] at h
  rw [List.append_assoc]
  exact h

end Layouts

/-- One digit stands before the point and the others behind it, before an exponent. -/
theorem number?_scientific (negative : Bool) {c d : Char} {ds rest : List Char}
    (hds : ∀ d' ∈ c :: d :: ds, d'.isDigit = true) (e : Int) (hrest : AtEnd rest) :
    number? negative (c :: '.' :: (d :: ds ++ Layout.json.exponentChars e) ++ rest) =
      some (.float (.ofDecimal negative (ofDigits (c :: d :: ds)) (e - (d :: ds).length)),
        rest) := by
  have hc := isWhole_digit (hds c List.mem_cons_self)
  have h := number?_point_exponent negative hc (fun d' hd => hds d' (List.mem_cons_of_mem c hd))
    (List.cons_ne_nil d ds) e hrest
  rw [← List.append_assoc] at h
  exact h

/-- **The characters of a magnitude are read as a decimal number with its value.** -/
theorem number?_magnitude (negative : Bool) (d : DecimalForm) {rest : List Char}
    (hrest : AtEnd rest) :
    number? negative (Layout.json.magnitude d ++ rest) =
      some (.float (.ofDecimal negative d.digits d.exponent), rest) := by
  have hds : ∀ c ∈ Nat.toDigits 10 d.digits, c.isDigit = true := isDigit_toDigits
  have hne : Nat.toDigits 10 d.digits ≠ [] := Nat.toDigits_ne_nil
  have hof := ofDigits_toDigits d.digits
  rw [Layout.magnitude]
  split_ifs with hzero haround hbelow hwhole
  · have h := number?_point negative isWhole_zero isWhole_zero.digits isWhole_zero.ne_nil hrest
    have hvalue : ((ofDigits (['0'] ++ ['0']) : Nat) * 10 ^ (-(['0'].length : Int)) : Rat) =
        d.digits * 10 ^ d.exponent := by
      rw [hzero]
      simp [ofDigits, Nat.ofDigitChars_cons]
    rw [Double.ofDecimal_congr negative hvalue] at h
    exact h
  · rw [number?_below negative hds hne hrest, hof]
    congr 4
    omega
  · rw [number?_above negative hds (head?_toDigits (Nat.pos_of_ne_zero hzero)) hne hrest, hof,
      Int.toNat_of_nonneg hwhole]
  · rw [number?_inside negative hds (head?_toDigits (Nat.pos_of_ne_zero hzero)) hne hrest
      (by omega) (by omega), hof]
    congr 4
    omega
  · obtain ⟨c, ds, hc⟩ := List.exists_cons_of_ne_nil hne
    rw [hc] at hds hof ⊢
    cases ds with
    | nil =>
      have h := number?_exponent negative (isWhole_digit (hds c List.mem_cons_self)) d.exponent
        hrest
      rw [hof] at h
      simpa using h
    | cons c' ds =>
      rw [number?_scientific negative hds _ hrest, hof]
      congr 4
      simp only [List.length_cons]
      omega

/-- A number begins with a digit. -/
theorem number?_head {negative : Bool} {cs : List Char} {r : Json × List Char}
    (h : number? negative cs = some r) : ∃ c more, cs = c :: more ∧ c.isDigit = true := by
  cases cs with
  | nil => cases h
  | cons c more =>
    refine ⟨c, more, rfl, ?_⟩
    by_contra hc
    rw [number?, spanDigits, List.span_eq_takeWhile_dropWhile, List.takeWhile_cons_of_neg hc] at h
    cases h

end Json
end Carryover
