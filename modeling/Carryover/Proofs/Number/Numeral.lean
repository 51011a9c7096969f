import Carryover.Number.Decimal
import Carryover.Number.Layout
import Carryover.Proofs.Number.Digits
import Mathlib.Tactic.IntervalCases

/-!
# Written decimal numbers

Whatever its layout, a decimal number is written as a numeral: digits before a point and behind
it, and an exponent. A numeral is read as the number `digits * 10 ^ scale`
(`Numeral.unsigned?_chars`). A number that keeps its digits is written as a numeral with these
digits and this scale, so it is read back as it is (`Decimal.ofAscii?_chars`); a double is written
with its fewest digits, and read as a decimal number with their value (`Decimal.ofText?_finite`).

| numeral | digits | scale |
| --- | --- | --- |
| `1.50` | 150 | -2 |
| `0.007` | 7 | -3 |
| `1.5E+3` | 15 | 2 |
-/

namespace Carryover
namespace Number

/-- A decimal number as it stands in a text. -/
structure Numeral where
  /-- The digits before the point. -/
  whole : List Char
  /-- The digits behind the point; without any there is no point. -/
  part : List Char
  exponent : Option Int

namespace Numeral

/-- The characters of an exponent. -/
def exponentChars : Option Int → List Char
  | none => []
  | some e => 'E' :: (if e < 0 then '-' else '+') :: Nat.toDigits 10 e.natAbs

/-- The characters of a point and the digits behind it. -/
def partChars (part : List Char) : List Char :=
  if part = [] then [] else '.' :: part

/-- The characters of a numeral. -/
def chars (n : Numeral) : List Char :=
  n.whole ++ (partChars n.part ++ exponentChars n.exponent)

/-- All the digits. -/
def digits (n : Numeral) : Nat :=
  ofDigits (n.whole ++ n.part)

/-- The power of ten that the last digit counts. -/
def scale (n : Numeral) : Int :=
  n.exponent.getD 0 - n.part.length

/-- Whether a numeral has digits before the point, with no zero before others, and nothing but
digits behind it. -/
structure IsProper (n : Numeral) : Prop where
  whole : IsWhole n.whole
  part : ∀ c ∈ n.part, c.isDigit = true

/-- An exponent does not begin with a digit. -/
theorem noDigit_exponentChars (e : Option Int) : NoDigit (exponentChars e) := by
  cases e with
  | none => exact fun c hc => nomatch hc
  | some e =>
    rintro c ⟨⟩
    rfl

/-- What comes after the whole part does not begin with a digit. -/
theorem noDigit_partChars (part : List Char) (e : Option Int) :
    NoDigit (partChars part ++ exponentChars e) := by
  rw [partChars]
  split_ifs
  · exact noDigit_exponentChars e
  · rintro c ⟨⟩
    rfl

/-- An exponent that is written is read back. -/
theorem exponent?_exponentChars (e : Option Int) :
    Scientific.exponent? (exponentChars e) = some (e.getD 0) := by
  cases e with
  | none => rfl
  | some e =>
    have hall : (Nat.toDigits 10 e.natAbs).all Char.isDigit = true :=
      List.all_eq_true.mpr isDigit_toDigits
    have hne : (Nat.toDigits 10 e.natAbs).isEmpty = false := by simp
    by_cases he : e < 0
    · simp [Scientific.exponent?, exponentChars, Scientific.sign, he, hall, hne, abs_of_neg he]
    · simp [Scientific.exponent?, exponentChars, Scientific.sign, he, hall, hne,
        abs_of_nonneg (not_lt.mp he)]

/-- **A numeral is read as its digits and its scale.** -/
theorem unsigned?_chars {n : Numeral} (hn : n.IsProper) (negative : Bool) :
    Scientific.unsigned? negative n.chars = some ⟨negative, n.digits, n.scale⟩ := by
  have hspan := spanDigits_row hn.whole.digits (noDigit_partChars n.part n.exponent)
  have hwhole : n.whole.isEmpty = false := by simpa using hn.whole.ne_nil
  have he := exponent?_exponentChars n.exponent
  rw [Scientific.unsigned?, chars, hspan]
  by_cases hpart : n.part = []
  · rw [partChars, if_pos hpart, List.nil_append, digits, scale, hpart]
    cases hex : n.exponent with
    | none => simp [exponentChars, hwhole, Scientific.exponent?]
    | some e =>
      rw [hex] at he
      simp only [exponentChars] at he ⊢
      simp [hwhole, he]
  · have hmore := spanDigits_row hn.part (noDigit_exponentChars n.exponent)
    rw [partChars, if_neg hpart]
    simp [hwhole, hmore, he, digits, scale]

end Numeral

namespace Decimal

/-- The numeral that a magnitude is written as. -/
def numeral (c : Nat) (e : Int) : Numeral :=
  let ds := Nat.toDigits 10 c
  let point := e + ds.length
  if e ≤ 0 && -6 < point then
    if point ≤ 0 then ⟨['0'], List.replicate (-point).toNat '0' ++ ds, none⟩
    else ⟨ds.take point.toNat, ds.drop point.toNat, none⟩
  else ⟨ds.take 1, ds.drop 1, some (point - 1)⟩

/-- A decimal is written as a numeral. -/
theorem magnitude_eq_chars (c : Nat) (e : Int) : magnitude c e = (numeral c e).chars := by
  have hne : Nat.toDigits 10 c ≠ [] := Nat.toDigits_ne_nil
  rw [magnitude, numeral]
  generalize Nat.toDigits 10 c = ds at hne
  dsimp only
  by_cases haround : (decide (e ≤ 0) && decide (-6 < e + ds.length)) = true
  · rw [if_pos haround, if_pos haround]
    split_ifs with hbelow hwhole
    · simp [Numeral.chars, Numeral.partChars, Numeral.exponentChars, hne]
    · subst hwhole
      simp [Numeral.chars, Numeral.partChars, Numeral.exponentChars]
    · have hdrop : ds.drop (e + ds.length).toNat ≠ [] := by
        simp only [Bool.and_eq_true, decide_eq_true_eq] at haround
        rw [ne_eq, List.drop_eq_nil_iff]
        omega
      simp [Numeral.chars, Numeral.partChars, Numeral.exponentChars, hdrop]
  · rw [if_neg haround, if_neg haround]
    simp only [Numeral.chars, Numeral.partChars, Numeral.exponentChars, List.drop_eq_nil_iff,
      List.append_assoc]

/-- The numeral of a decimal is written as numbers are. -/
theorem isProper_numeral (c : Nat) (e : Int) : (numeral c e).IsProper := by
  have hds := isWhole_toDigits c
  simp only [numeral]
  split_ifs with haround hbelow
  · refine ⟨isWhole_zero, fun d hd => ?_⟩
    obtain hd | hd := List.mem_append.mp hd
    · obtain rfl := List.eq_of_mem_replicate hd
      rfl
    · exact hds.digits d hd
  · exact ⟨hds.take (by omega), fun d hd => hds.digits d (List.mem_of_mem_drop hd)⟩
  · exact ⟨hds.take (by omega), fun d hd => hds.digits d (List.mem_of_mem_drop hd)⟩

/-- The numeral of a decimal has its digits. -/
theorem digits_numeral (c : Nat) (e : Int) : (numeral c e).digits = c := by
  simp only [numeral]
  split_ifs
  · rw [Numeral.digits, ← List.append_assoc, ← List.replicate_one,
      List.replicate_append_replicate, ofDigits_zeros, ofDigits_toDigits]
  · rw [Numeral.digits, List.take_append_drop, ofDigits_toDigits]
  · rw [Numeral.digits, List.take_append_drop, ofDigits_toDigits]

/-- The numeral of a decimal has its exponent. -/
theorem scale_numeral (c : Nat) (e : Int) : (numeral c e).scale = e := by
  have hpos : 0 < (Nat.toDigits 10 c).length := Nat.length_toDigits_pos
  simp only [numeral]
  split_ifs with haround hbelow
  · simp [Numeral.scale]
    omega
  · simp only [Bool.and_eq_true, decide_eq_true_eq] at haround
    simp [Numeral.scale]
    omega
  · simp [Numeral.scale]
    omega

/-! ### Texts of decimal numbers -/

theorem mem_digits {c : Char} (hc : c.isDigit = true) : c ∈ "0123456789".toList := by
  obtain ⟨hlow, hhigh⟩ := Char.isDigit_iff_toNat.mp hc
  rw [← Char.ofNat_toNat c]
  generalize c.toNat = n at hlow hhigh
  simp only [Char.reduceToNat] at hlow hhigh
  interval_cases n <;> decide

/-- What holds of the ten digits holds of a digit. -/
theorem of_isDigit {P : Char → Prop} [DecidablePred P] {c : Char} (hc : c.isDigit = true)
    (h : "0123456789".toList.all (fun d => P d) = true) : P c :=
  List.all_iff_forall_prop.mp h c (mem_digits hc)

/-- A digit has no other case. -/
theorem toLower_of_isDigit {c : Char} (hc : c.isDigit = true) : c.toLower = c :=
  of_isDigit (P := fun c => c.toLower = c) hc (by decide)

/-- A text that begins with a digit has no sign. -/
theorem sign_of_digit {c : Char} (hc : c.isDigit = true) (cs : List Char) :
    Scientific.sign (c :: cs) = (false, c :: cs) := by
  unfold Scientific.sign
  split <;> simp_all

/-- A text that begins with a digit after its sign is no word. -/
theorem ofAscii?_of_digit {c : Char} (hc : c.isDigit = true) (cs : List Char) (negative : Bool) :
    ofAscii? ((if negative then ['-'] else []) ++ c :: cs) =
      (Scientific.unsigned? negative (c :: cs)).map fun n =>
        .finite n.negative n.digits n.exponent := by
  have hsign : Scientific.sign ((if negative then ['-'] else []) ++ c :: cs) =
      (negative, c :: cs) := by
    cases negative with
    | true => rfl
    | false => exact sign_of_digit hc cs
  have hletter : c ≠ 'i' ∧ c ≠ 'n' ∧ c ≠ 's' :=
    of_isDigit (P := fun c => c ≠ 'i' ∧ c ≠ 'n' ∧ c ≠ 's') hc (by decide)
  rw [ofAscii?, hsign]
  simp [Double.asciiLower, toLower_of_isDigit hc, hletter]

/-- A numeral after a sign is read as a decimal number that keeps its digits. -/
theorem ofAscii?_numeral {n : Numeral} (hn : n.IsProper) (negative : Bool) :
    ofAscii? ((if negative then ['-'] else []) ++ n.chars) =
      some (.finite negative n.digits n.scale) := by
  obtain ⟨d, ds, hds⟩ := List.exists_cons_of_ne_nil hn.whole.ne_nil
  have hd : d.isDigit = true := hn.whole.digits d (hds ▸ List.mem_cons_self)
  have hchars : n.chars = d :: (ds ++ (Numeral.partChars n.part ++
      Numeral.exponentChars n.exponent)) := by
    rw [Numeral.chars, hds, List.cons_append]
  rw [hchars, ofAscii?_of_digit hd, ← hchars, Numeral.unsigned?_chars hn, Option.map_some]

end Decimal
/-! ### Doubles without an exponent -/

namespace Layout

/-- The numeral that a magnitude is written as without an exponent. -/
def plainNumeral (d : DecimalForm) : Numeral :=
  let ds := Nat.toDigits 10 d.digits
  let point := d.exponent + ds.length
  if d.digits = 0 then ⟨['0'], [], none⟩
  else if point ≤ 0 then ⟨['0'], List.replicate (-point).toNat '0' ++ ds, none⟩
  else if 0 ≤ d.exponent then ⟨ds ++ List.replicate d.exponent.toNat '0', [], none⟩
  else ⟨ds.take point.toNat, ds.drop point.toNat, none⟩

/-- A number without an exponent is written as a plain numeral. -/
theorem magnitude_positional (d : DecimalForm) :
    positional.magnitude d = (plainNumeral d).chars := by
  have hne : Nat.toDigits 10 d.digits ≠ [] := Nat.toDigits_ne_nil
  rw [magnitude, plainNumeral]
  generalize Nat.toDigits 10 d.digits = ds at hne
  simp only [positional, if_true]
  split_ifs with hzero hbelow hwhole
  · rfl
  · simp [Numeral.chars, Numeral.partChars, Numeral.exponentChars, hne]
  · simp [Numeral.chars, Numeral.partChars, Numeral.exponentChars]
  · have hdrop : ds.drop (d.exponent + ds.length).toNat ≠ [] := by
      rw [ne_eq, List.drop_eq_nil_iff]
      omega
    simp [Numeral.chars, Numeral.partChars, Numeral.exponentChars, hdrop]

/-- A plain numeral is written as numbers are. -/
theorem isProper_plainNumeral (d : DecimalForm) : (plainNumeral d).IsProper := by
  have hds := isWhole_toDigits d.digits
  simp only [plainNumeral]
  split_ifs with hzero hbelow hwhole
  · exact ⟨isWhole_zero, List.forall_mem_nil _⟩
  · refine ⟨isWhole_zero, fun c hc => ?_⟩
    obtain hc | hc := List.mem_append.mp hc
    · obtain rfl := List.eq_of_mem_replicate hc
      rfl
    · exact hds.digits c hc
  · exact ⟨hds.append_zeros (head?_toDigits (Nat.pos_of_ne_zero hzero)) _, List.forall_mem_nil _⟩
  · exact ⟨hds.take (by omega), fun c hc => hds.digits c (List.mem_of_mem_drop hc)⟩

/-- The numeral without an exponent has the value of the magnitude. -/
theorem value_plainNumeral (d : DecimalForm) :
    ((plainNumeral d).digits * 10 ^ (plainNumeral d).scale : Rat) = d.digits * 10 ^ d.exponent := by
  have hpos : 0 < (Nat.toDigits 10 d.digits).length := Nat.length_toDigits_pos
  simp only [plainNumeral]
  split_ifs with hzero hbelow hwhole
  · simp [Numeral.digits, ofDigits, Nat.ofDigitChars_cons, hzero]
  · have hdigits : ofDigits (['0'] ++ (List.replicate
        (-(d.exponent + (Nat.toDigits 10 d.digits).length)).toNat '0' ++
          Nat.toDigits 10 d.digits)) = d.digits := by
      rw [← List.append_assoc, ← List.replicate_one, List.replicate_append_replicate,
        ofDigits_zeros, ofDigits_toDigits]
    rw [Numeral.digits, hdigits, Numeral.scale]
    congr 2
    simp
    omega
  · rw [Numeral.digits, List.append_nil, ofDigits_append_zeros, ofDigits_toDigits, Numeral.scale]
    simp only [Option.getD_none, List.length_nil, Nat.cast_zero, sub_zero, zpow_zero, mul_one]
    push_cast
    rw [← zpow_natCast, Int.toNat_of_nonneg hwhole]
  · rw [Numeral.digits, List.take_append_drop, ofDigits_toDigits, Numeral.scale]
    congr 2
    simp
    omega

/-- The characters of doubles without an exponent. -/
theorem mem_positional {x : Double} : ∀ c ∈ positional.chars x, c ∈ "0123456789.-Nainf".toList := by
  have hdigit {c : Char} (hc : c.isDigit = true) : c ∈ "0123456789.-Nainf".toList :=
    List.mem_append_left ".-Nainf".toList (Decimal.mem_digits hc)
  have hmagnitude (d : DecimalForm) :
      ∀ c ∈ positional.magnitude d, c ∈ "0123456789.-Nainf".toList := by
    intro c hc
    have hproper := isProper_plainNumeral d
    have hexponent : (plainNumeral d).exponent = none := by
      simp only [plainNumeral]
      split_ifs <;> rfl
    rw [magnitude_positional, Numeral.chars, hexponent, Numeral.exponentChars,
      Numeral.partChars, List.append_nil] at hc
    obtain hc | hc := List.mem_append.mp hc
    · exact hdigit (hproper.whole.digits c hc)
    · split_ifs at hc
      · cases hc
      · obtain rfl | hc := List.mem_cons.mp hc
        · decide
        · exact hdigit (hproper.part c hc)
  cases x with
  | nan => exact List.all_iff_forall_prop.mp (by decide)
  | infinite negative => cases negative <;> exact List.all_iff_forall_prop.mp (by decide)
  | finite x =>
    rw [chars]
    split_ifs
    · exact List.forall_mem_cons.mpr ⟨by decide, hmagnitude _⟩
    · exact hmagnitude _

end Layout

/-! ### Doubles as decimal numbers -/

namespace Decimal

/-- A text without such characters is not trimmed. -/
theorem trimBy_eq_self {p : Char → Bool} {cs : List Char} (h : ∀ c ∈ cs, p c = false) :
    Text.trimBy p cs = cs := by
  have hdrop (ds : List Char) (hds : ∀ c ∈ ds, p c = false) : ds.dropWhile p = ds := by
    cases ds with
    | nil => rfl
    | cons d ds => rw [List.dropWhile_cons_of_neg (by simp [hds d List.mem_cons_self])]
  rw [Text.trimBy, hdrop cs h, hdrop cs.reverse (fun c hc => h c (List.mem_reverse.mp hc)),
    List.reverse_reverse]

/-- The characters of a double without an exponent are read as they are. -/
theorem ofText?_positional (x : Double) :
    ofText? (Layout.positional.render x) = ofAscii? (Layout.positional.chars x) := by
  have hplain : ∀ c ∈ "0123456789.-Nainf".toList,
      Text.isBlank c = false ∧ (c != '_') = true ∧ toAscii c = c :=
    List.all_iff_forall_prop.mp (by decide)
  have hall := fun c hc => hplain c (Layout.mem_positional (x := x) c hc)
  rw [ofText?, Layout.render, String.toList_ofList]
  generalize Layout.positional.chars x = cs at hall
  calc ofAscii? (((Text.trimBy Text.isBlank cs).filter (· != '_')).map toAscii)
      _ = ofAscii? ((cs.filter (· != '_')).map toAscii) := by
        rw [trimBy_eq_self fun c hc => (hall c hc).1]
      _ = ofAscii? (cs.map toAscii) := by
        rw [List.filter_eq_self.mpr fun c hc => (hall c hc).2.1]
      _ = ofAscii? (cs.map id) := by
        rw [List.map_congr_left fun c hc => (hall c hc).2.2]
        rfl
      _ = ofAscii? cs := by rw [List.map_id]

/-- **A finite double is read as the decimal number with its fewest digits.** -/
theorem ofText?_finite (x : Finite) :
    ∃ c e, ofText? (Layout.positional.render (.finite x)) = some (.finite x.negative c e) ∧
      (c * 10 ^ e : Rat) = x.shortest.digits * 10 ^ x.shortest.exponent := by
  refine ⟨_, _, ?_, Layout.value_plainNumeral x.shortest⟩
  have hsigned : Layout.positional.chars (.finite x) =
      (if x.negative then ['-'] else []) ++ (Layout.plainNumeral x.shortest).chars := by
    rw [Layout.chars, Layout.magnitude_positional]
    split_ifs <;> rfl
  rw [ofText?_positional, hsigned, ofAscii?_numeral (Layout.isProper_plainNumeral x.shortest)]

end Decimal

end Number
end Carryover
