import Carryover.Proofs.Json.Verbatim
import Carryover.Proofs.Stored.ClassRead
import Carryover.Proofs.Value.Spelling

/-!
# Values that survive as text

A number that is no JSON number is written as a text, and read by this text once it was restored.

| written | read as its class |
| --- | --- |
| decimal number `1.50` | the nearest double, 1.5, and so an equal number |
| decimal number with more digits than a double | another number |
| infinite decimal number, decimal NaN | refused |
| fraction `3` | the same |
| fraction `1/2`, complex number `1+2j` | no JSON |
| member of an enumeration of numbers | the member with its number |
| member of an enumeration of texts | never this member: the text would have to be quoted |

So a restored value is read as its class again exactly if it is one of those that survive
(`kept_stored_iff`).
-/

namespace Carryover

open Number

variable {Γ : Classes}

/-! ### Decimal numbers -/

namespace Number.Decimal

/-- The value of a finite decimal number. -/
def value (negative : Bool) (c : Nat) (e : Int) : Rat :=
  if negative then -(c * 10 ^ e) else c * 10 ^ e

/-- The quantity of a finite decimal is exact. -/
theorem quantity_finite (negative : Bool) (c : Nat) (e : Int) :
    (Decimal.finite negative c e).quantity = .exact (value negative c e) := by
  have hvalue : mkRat (c * 10 ^ e.toNat : Nat) (10 ^ (-e).toNat) = c * 10 ^ e := by
    rw [Rat.mkRat_eq_div, ← Double.decimal_div]
    push_cast
    rfl
  simp only [quantity, toRat?, hvalue]
  rfl

/-- Whether a decimal number is read back from its text as JSON: it is a whole number without an
exponent, of at most 4300 digits, or has the fewest digits of a double. -/
def Survives : Decimal → Prop
  | .finite negative c e =>
    if e = 0 then (Nat.toDigits 10 c).length ≤ 4300
    else ∃ x : Finite, x.negative = negative ∧
      (x.shortest.digits * 10 ^ x.shortest.exponent : Rat) = c * 10 ^ e
  | _ => False

end Number.Decimal

/-- A decimal that is read from JSON is finite. -/
theorem isFinite_of_toDecimal? {j : Json} {d : Decimal} (h : j.toDecimal? = some d) :
    d.isFinite = true :=
  (Option.filter_eq_some_iff.mp h).2

/-- Finite decimals are equal if they have one value. -/
theorem equals_decimal_iff {n n' : Bool} {c c' : Nat} {e e' : Int} :
    (Value.decimal (.finite n c e)).equals (.decimal (.finite n' c' e')) = true ↔
      Decimal.value n c e = Decimal.value n' c' e' := by
  rw [Value.equals_eq_scalarEquals rfl, Value.scalarEquals_of_quantity? rfl rfl]
  simp [Decimal.quantity_finite, Quantity.equals]

/-- The sign of a double is the one it is read with. -/
theorem negative_of_ofDecimal {negative : Bool} {c : Nat} {e : Int} {x : Finite}
    (h : Double.ofDecimal negative c e = .finite x) : x.negative = negative := by
  have hzero (h : Double.zero negative = .finite x) : x.negative = negative := by
    cases h
    rfl
  unfold Double.ofDecimal at h
  dsimp only at h
  split_ifs at h
  · exact hzero h
  · exact hzero h
  · unfold Double.ofRatio at h
    dsimp only at h
    split_ifs at h
    · exact hzero h
    · cases h
      rfl
    · cases h
      rfl

/-- A double is read as a decimal number if it is finite, as one with its fewest digits. -/
theorem toDecimal?_float {x : Double} {d : Decimal} (h : (Json.float x).toDecimal? = some d) :
    ∃ y c e, x = .finite y ∧ d = .finite y.negative c e ∧
      (c * 10 ^ e : Rat) = y.shortest.digits * 10 ^ y.shortest.exponent := by
  obtain ⟨htext, hfinite⟩ := Option.filter_eq_some_iff.mp h
  dsimp only at htext
  have hword (d' : Decimal) (h' : Decimal.ofAscii? (Layout.positional.chars x) = some d')
      (hd' : d'.isFinite = false) : False := by
    rw [Decimal.ofText?_positional, h'] at htext
    obtain rfl := Option.some.inj htext
    exact Bool.false_ne_true (hd'.symm.trans hfinite)
  cases x with
  | nan => exact (hword (.nan false false 0) (by decide) rfl).elim
  | infinite negative =>
    refine (hword (.infinite negative) ?_ rfl).elim
    cases negative <;> decide
  | finite y =>
    obtain ⟨c, e, hread, hvalue⟩ := Decimal.ofText?_finite y
    rw [hread] at htext
    exact ⟨y, c, e, rfl, (Option.some.inj htext).symm, hvalue⟩

/-- A double is read as the decimal of its shortest digits. -/
theorem toDecimal?_finite (y : Finite) : ∃ c e,
    (Json.float (.finite y)).toDecimal? = some (.finite y.negative c e) ∧
      (c * 10 ^ e : Rat) = y.shortest.digits * 10 ^ y.shortest.exponent := by
  obtain ⟨c, e, hread, hvalue⟩ := Decimal.ofText?_finite y
  exact ⟨c, e, by simp [Json.toDecimal?, hread, Decimal.isFinite], hvalue⟩

namespace Value

/-- Whether a value that was read again is the one from before: an equal one, or the same, for NaNs
and values that hold one are equal to nothing. -/
def Kept (v w : Value) : Prop :=
  w = v ∨ v.equals w = true

/-- A value that comes back as it was is kept. -/
theorem kept_refl (v : Value) : v.Kept v :=
  .inl rfl

/-- Whether a value is read back from its stored text as its class. -/
def Survives : Value → Prop
  | .complex .. => False
  | .decimal d => d.Survives
  | .fraction q => q.den = 1 ∧ (Nat.toDigits 10 q.num.natAbs).length ≤ 4300
  | .member _ .str _ _ => False
  | _ => True

end Value

/-- A decimal is read from a number or a text of one. -/
theorem readClass_decimal {text : String} {w : Value} :
    Γ.readClass (.builtin .decimal) text = .ok w ↔
      ∃ j d, Json.parse? text = some j ∧ j.toDecimal? = some d ∧ w = .decimal d := by
  have hfit (j : Json) : Json.fitBuiltin Γ .decimal j =
      Json.unfitOr j.toDecimal? fun d => .of (.decimal d) .strict := rfl
  rw [readClass_builtin rfl]
  constructor
  · rintro ⟨j, f, hj, hf, rfl⟩
    rw [hfit] at hf
    cases hd : j.toDecimal? with
    | none => simp [hd, Json.unfitOr] at hf
    | some d =>
      simp only [hd, Json.unfitOr, Except.ok.injEq] at hf
      subst hf
      exact ⟨j, d, hj, hd, rfl⟩
  · rintro ⟨j, d, hj, hd, rfl⟩
    exact ⟨j, _, hj, by rw [hfit, hd]; rfl, rfl⟩

/-- A fraction is read from a number or a text of one. -/
theorem readClass_fraction {text : String} {w : Value} :
    Γ.readClass (.builtin .fraction) text = .ok w ↔
      ∃ j q, Json.parse? text = some j ∧ j.toFraction? = some q ∧ w = .fraction q := by
  have hfit (j : Json) : Json.fitBuiltin Γ .fraction j =
      Json.unfitOr j.toFraction? fun q => .of (.fraction q) .exact := rfl
  rw [readClass_builtin rfl]
  constructor
  · rintro ⟨j, f, hj, hf, rfl⟩
    rw [hfit] at hf
    cases hq : j.toFraction? with
    | none => simp [hq, Json.unfitOr] at hf
    | some q =>
      simp only [hq, Json.unfitOr, Except.ok.injEq] at hf
      subst hf
      exact ⟨j, q, hj, hq, rfl⟩
  · rintro ⟨j, q, hj, hq, rfl⟩
    exact ⟨j, _, hj, by rw [hfit, hq]; rfl, rfl⟩

/-- A finite decimal is kept if its value is. -/
theorem kept_decimal_iff {n n' : Bool} {c c' : Nat} {e e' : Int} :
    (Value.decimal (.finite n c e)).Kept (.decimal (.finite n' c' e')) ↔
      Decimal.value n c e = Decimal.value n' c' e' := by
  rw [Value.Kept, equals_decimal_iff]
  refine ⟨?_, .inr⟩
  rintro (h | h)
  · cases h
    rfl
  · exact h

/-- A whole number keeps its value. -/
theorem value_whole (n : Bool) (c : Nat) :
    Decimal.value n c 0 =
      Decimal.value (decide ((if n = true then -(c : Int) else c) < 0))
        (if n = true then -(c : Int) else c).natAbs 0 := by
  cases n with
  | false => simp [Decimal.value]
  | true =>
    obtain rfl | hc := Nat.eq_zero_or_pos c
    · simp [Decimal.value]
    · simp [Decimal.value, hc]

/-- A decimal number without an exponent is read back if it is short. -/
theorem kept_whole_iff (n : Bool) (c : Nat) :
    (∃ w, Γ.readClass (.builtin .decimal) (Decimal.render (.finite n c 0)) = .ok w ∧
      (Value.decimal (.finite n c 0)).Kept w) ↔ (Nat.toDigits 10 c).length ≤ 4300 := by
  have hparse := Json.parse?_decimal_whole n c
  by_cases hlen : (Nat.toDigits 10 c).length ≤ 4300
  · rw [if_pos hlen] at hparse
    exact iff_of_true ⟨_, readClass_decimal.mpr ⟨_, _, hparse, rfl, rfl⟩,
      kept_decimal_iff.mpr (value_whole n c)⟩ hlen
  · refine iff_of_false ?_ hlen
    rintro ⟨w, hread, -⟩
    obtain ⟨j, d, hj, -⟩ := readClass_decimal.mp hread
    rw [hparse, if_neg hlen] at hj
    cases hj

/-- Decimals of one sign have one value if they have the same magnitude. -/
theorem value_inj {n : Bool} {c c' : Nat} {e e' : Int} :
    Decimal.value n c e = Decimal.value n c' e' ↔ (c * 10 ^ e : Rat) = c' * 10 ^ e' := by
  cases n <;> simp [Decimal.value]

/-- A decimal number with an exponent is read back if it has the fewest digits of a double. -/
theorem kept_exponent_iff (n : Bool) (c : Nat) {e : Int} (he : e ≠ 0) :
    (∃ w, Γ.readClass (.builtin .decimal) (Decimal.render (.finite n c e)) = .ok w ∧
      (Value.decimal (.finite n c e)).Kept w) ↔
      ∃ x : Finite, x.negative = n ∧
        (x.shortest.digits * 10 ^ x.shortest.exponent : Rat) = c * 10 ^ e := by
  have hparse := Json.parse?_decimal n c he
  constructor
  · rintro ⟨w, hread, hkept⟩
    obtain ⟨j, d, hj, hd, rfl⟩ := readClass_decimal.mp hread
    obtain rfl := Option.some.inj (hparse.symm.trans hj)
    obtain ⟨x, c', e', hx, rfl, hvalue⟩ := toDecimal?_float hd
    obtain rfl := negative_of_ofDecimal hx
    rw [kept_decimal_iff, value_inj] at hkept
    exact ⟨x, rfl, hvalue.symm.trans hkept.symm⟩
  · rintro ⟨x, rfl, hx⟩
    obtain ⟨c', e', hd, hvalue⟩ := toDecimal?_finite x
    rw [← Double.ofDecimal_congr x.negative hx, x.shortest_readsBack] at hparse
    exact ⟨_, readClass_decimal.mpr ⟨_, _, hparse, hd, rfl⟩,
      kept_decimal_iff.mpr (value_inj.mpr (hvalue.trans hx).symm)⟩

/-- An infinite decimal number and a NaN are not read back. -/
theorem not_kept_word {d : Decimal} (hd : d.isFinite = false) :
    ¬ ∃ w, Γ.readClass (.builtin .decimal) d.render = .ok w ∧ (Value.decimal d).Kept w := by
  rintro ⟨w, hread, hkept⟩
  obtain ⟨j, d', -, hd', rfl⟩ := readClass_decimal.mp hread
  have hfinite := isFinite_of_toDecimal? hd'
  cases d' with
  | finite n c e =>
    obtain h | h := hkept
    · cases h
      cases hd
    · rw [Value.equals_eq_scalarEquals rfl, Value.scalarEquals_of_quantity? rfl rfl,
        Decimal.quantity_finite] at h
      cases d with
      | finite => cases hd
      | infinite => cases h
      | nan => cases h
  | infinite => cases hfinite
  | nan => cases hfinite

/-- A decimal number is read back from its text exactly if it survives. -/
theorem kept_decimal_iff_survives (d : Decimal) :
    (∃ w, Γ.readClass (.builtin .decimal) d.render = .ok w ∧ (Value.decimal d).Kept w) ↔
      d.Survives := by
  cases d with
  | infinite negative => exact iff_of_false (not_kept_word rfl) id
  | nan negative signalling payload => exact iff_of_false (not_kept_word rfl) id
  | finite n c e =>
    rw [Decimal.Survives]
    split_ifs with he
    · subst he
      exact kept_whole_iff n c
    · exact kept_exponent_iff n c he

/-- A fraction is read back from its text exactly if it is a whole number, and short. -/
theorem kept_fraction_iff (q : Rat) :
    (∃ w, Γ.readClass (.builtin .fraction) (Fraction.render q) = .ok w ∧
      (Value.fraction q).Kept w) ↔ q.den = 1 ∧ (Nat.toDigits 10 q.num.natAbs).length ≤ 4300 := by
  by_cases h : q.den = 1 ∧ (Nat.toDigits 10 q.num.natAbs).length ≤ 4300
  · refine iff_of_true ⟨_, readClass_fraction.mpr ⟨.int q.num, q.num, ?_, rfl, rfl⟩, ?_⟩ h
    · exact (Json.parse?_fraction_whole h.1).trans (if_pos h.2)
    · exact .inl (congrArg Value.fraction ((Rat.den_eq_one_iff q).mp h.1))
  · refine iff_of_false ?_ h
    rintro ⟨w, hread, -⟩
    obtain ⟨j, p, hj, -⟩ := readClass_fraction.mp hread
    by_cases hq : q.den = 1
    · rw [Json.parse?_fraction_whole hq, if_neg fun hlen => h ⟨hq, hlen⟩] at hj
      cases hj
    · rw [Json.parse?_fraction hq] at hj
      cases hj

/-! ### Members of enumerations -/

/-- Whether a member of an enumeration is one that its class lists, and any other value one that
its class can have. -/
def Classes.Lists (Γ : Classes) : Value → Prop
  | .member cls mixin name w => ∃ d, Γ.find? cls = some d ∧ d.kind = .enumeration mixin ∧
      (name, w) ∈ d.members ∧ ∀ m ∈ d.members, Γ.Admits (.member cls mixin m.1 m.2)
  | v => Γ.Admits v

/-- A member that is a whole number is found by it, or another one that is equal. -/
theorem fitMember_int {cls name : String} {d : ClassDecl} {i : Int} (hd : Γ.find? cls = some d)
    (hmem : (name, Value.int i) ∈ d.members)
    (hall : ∀ m ∈ d.members, Γ.Admits (.member cls .int m.1 m.2)) :
    ∃ f name', Json.fitMember d .int (.int i) = .ok f ∧
      f.value = .member cls .int name' (.int i) := by
  have hint (j j' : Int) : (Value.int j).equals (.int j') = (j == j') := by
    rw [Value.equals_eq_scalarEquals rfl, Value.scalarEquals_of_quantity? rfl rfl]
    simp [Quantity.equals]
  cases hfind : (d.members.map fun m => (m.2, m.1)).find?
      fun e => Json.isSameScalar e.1 (.int i) with
  | none =>
    have hnone := List.find?_eq_none.mp hfind (.int i, name) (List.mem_map_of_mem hmem)
    simp [Json.isSameScalar] at hnone
  | some e =>
    obtain ⟨v, n⟩ := e
    have hv := List.find?_some hfind
    obtain rfl : v = .int i := by
      cases v <;> simp_all [Json.isSameScalar]
    cases hsame : d.members.find? fun m => m.2.equals (.int i) with
    | none =>
      have hnone := List.find?_eq_none.mp hsame _ hmem
      simp [hint] at hnone
    | some m =>
      obtain ⟨name', w⟩ := m
      obtain ⟨i', rfl⟩ := (hall _ (List.mem_of_find?_eq_some hsame)).2.1 rfl
      have hw := List.find?_some hsame
      obtain rfl : i' = i := by simpa [hint] using hw
      refine ⟨.of (.member d.name .int name' (.int i')) .lax, name', ?_, ?_⟩
      · simp only [Json.fitMember, Json.toInt?, Option.bind_some, hfind, hsame]
      · rw [← Classes.name_of_find? hd]
        rfl

/-- A member that is a text is found by the text of a JSON text alone. -/
theorem fitMember_str {cls : String} {d : ClassDecl} {j : Json} {f : Fit}
    (hd : Γ.find? cls = some d) (hall : ∀ m ∈ d.members, Γ.Admits (.member cls .str m.1 m.2))
    (h : Json.fitMember d .str j = .ok f) :
    ∃ name t, j = .text t ∧ f.value = .member cls .str name (.text t) := by
  rw [Json.fitMember] at h
  dsimp only at h
  split at h
  · rename_i v n hfind
    split at h
    · rename_i name w hsame
      obtain ⟨⟨n', v'⟩, hmem, heq⟩ := List.mem_map.mp (List.mem_of_find?_eq_some hfind)
      cases heq
      obtain ⟨t, rfl⟩ := (hall _ hmem).2.2 rfl
      obtain ⟨t', rfl⟩ := (hall _ (List.mem_of_find?_eq_some hsame)).2.2 rfl
      have hj := List.find?_some hfind
      have hw := List.find?_some hsame
      dsimp only at hw
      rw [Value.equals_eq_scalarEquals rfl, Value.scalarEquals_of_asText? rfl rfl] at hw
      obtain rfl := eq_of_beq hw
      obtain rfl := Except.ok.inj h
      refine ⟨name, t', ?_, ?_⟩
      · cases j <;> simp_all [Json.isSameScalar]
      · rw [← Classes.name_of_find? hd]
        rfl
    · cases h
  · cases h

/-- A member of an enumeration of numbers is kept, if its number has no more than 4300 digits. -/
theorem kept_int_member {cls name : String} {d : ClassDecl} {i : Int} (hd : Γ.find? cls = some d)
    (hk : d.kind = .enumeration .int) (hmem : (name, Value.int i) ∈ d.members)
    (hall : ∀ m ∈ d.members, Γ.Admits (.member cls .int m.1 m.2))
    (hi : (Nat.toDigits 10 i.natAbs).length ≤ 4300) :
    ∃ w, Γ.readClass (.declared cls) (Json.int i).render = .ok w ∧
      (Value.member cls .int name (.int i)).Kept w := by
  obtain ⟨f, name', hf, hw⟩ := fitMember_int hd hmem hall
  refine ⟨_, (readClass_enumeration hd hk).mpr ⟨.int i, f, ?_, hf, hw⟩, .inr ?_⟩
  · exact (Json.parse?_intChars i).trans (if_pos hi)
  · rw [Value.equals_eq_scalarEquals rfl, Value.scalarEquals_of_quantity? rfl rfl]
    simp [Quantity.equals]

/-- **A member that is a text is not read back from its text**: the text that it would be read as
is shorter. -/
theorem not_kept_str_member {cls name s : String} {d : ClassDecl} (hd : Γ.find? cls = some d)
    (hk : d.kind = .enumeration .str)
    (hall : ∀ m ∈ d.members, Γ.Admits (.member cls .str m.1 m.2)) :
    ¬ ∃ w, Γ.readClass (.declared cls) s = .ok w ∧
      (Value.member cls .str name (.text s)).Kept w := by
  rintro ⟨w, hread, hkept⟩
  obtain ⟨j, f, hj, hf, rfl⟩ := (readClass_enumeration hd hk).mp hread
  obtain ⟨name', t, rfl, hw⟩ := fitMember_str hd hall hf
  have hlt := Json.length_lt_of_parse? hj
  rw [hw] at hkept
  have hst : s = t := by
    obtain h | h := hkept
    · cases h
      rfl
    · rw [Value.equals_eq_scalarEquals rfl, Value.scalarEquals_of_asText? rfl rfl] at h
      exact eq_of_beq h
  exact absurd hlt (hst ▸ lt_irrefl _)

/-! ### Restored values -/

/-- A value of a built-in class is no instance of a declared one. -/
theorem isAlready_declared {v : Value} {b : Builtin} (hb : v.classOf = .builtin b) (cls : String) :
    Γ.isAlready v (.cls (.declared cls)) = false := by
  simp [Classes.isAlready, Classes.isInstance, Classes.isSubclass, Classes.order, hb]

/-- A text is read by its characters as a class that it is no instance of. -/
theorem fst_perform_decode_text {t : String} {w : Value} {c : ClassName} {s : Session}
    (hnone : c ≠ .builtin .noneType) (hstr : c ≠ .builtin .str)
    (hi : s.classes.isAlready (.text t) (.cls c) = false) (key : String) :
    (perform (decode key (.text t) (.cls c)) s).1 = .ok w ↔
      s.classes.readClass c t = .ok w := by
  rw [fst_perform_decode_eq_ok (by simp) hnone hstr hi]
  simp [Classes.storedText, Value.asText?]

/-- **A stored value that was restored is read as its class again exactly if it survives.** -/
theorem kept_iff_survives {v : Value} {s : Session} (hp : v.isPrimitive = true)
    (hnum : v.isDeclaredNumber = false) (hjson : ∀ t, v ≠ .jsonText t) (hv : s.classes.Lists v)
    (hshort : v.written.isShort = true) (key : String) :
    (∃ w, (perform (decode key v.written.toValue (.cls v.classOf)) s).1 = .ok w ∧ v.Kept w) ↔
      v.Survives := by
  have hself (hw : v.written.toValue = v) (hn : v ≠ .null) :
      ∃ w, (perform (decode key v.written.toValue (.cls v.classOf)) s).1 = .ok w ∧ v.Kept w := by
    rw [hw, perform_decode_self hn]
    exact ⟨v, rfl, v.kept_refl⟩
  cases v with
  | bool | int | float | text => exact iff_of_true (hself rfl (by simp)) trivial
  | jsonText t => exact absurd rfl (hjson t)
  | complex re im =>
    refine iff_of_false ?_ id
    rintro ⟨w, hread, -⟩
    obtain ⟨j, -, hj, -⟩ := (readClass_builtin rfl).mp
      ((fst_perform_decode_text (by decide) (by decide) rfl key).mp hread)
    rw [Json.parse?_complexJson] at hj
    cases hj
  | decimal d =>
    have hread {w : Value} := fst_perform_decode_text (t := d.render) (w := w) (s := s)
      (c := .builtin .decimal) (by decide) (by decide) rfl key
    rw [Value.Survives, ← kept_decimal_iff_survives (Γ := s.classes)]
    exact exists_congr fun w => and_congr_left' hread
  | fraction q =>
    have hread {w : Value} := fst_perform_decode_text (t := Fraction.render q) (w := w) (s := s)
      (c := .builtin .fraction) (by decide) (by decide) rfl key
    rw [Value.Survives, ← kept_fraction_iff (Γ := s.classes)]
    exact exists_congr fun w => and_congr_left' hread
  | member cls mixin name w =>
    obtain ⟨d, hd, hk, hmem, hall⟩ := hv
    obtain ⟨rfl, i, rfl⟩ | ⟨rfl, t, rfl⟩ := value_of_isPrimitive (hall _ hmem) hp
    · obtain ⟨w, hread, hkept⟩ := kept_int_member hd hk hmem hall (of_decide_eq_true hshort)
      refine iff_of_true ⟨w, ?_, hkept⟩ trivial
      exact (fst_perform_decode_eq_ok (v := .int i) (by simp) (by simp) (by simp)
        (isAlready_declared rfl cls) key).mpr ⟨_, rfl, hread⟩
    · refine iff_of_false ?_ id
      rintro ⟨w, hread, hkept⟩
      refine not_kept_str_member hd hk hall ⟨w, ?_, hkept⟩
      exact (fst_perform_decode_text (by simp) (by simp) (isAlready_declared rfl cls) key).mp hread
  | number => cases hnum
  | _ => cases hp

/-- A value of declared classes is one of the program. -/
theorem Classes.Lists.admits {v : Value} (hv : Γ.Lists v) : Γ.Admits v := by
  cases v with
  | member cls mixin name w =>
    obtain ⟨d, -, -, hmem, hall⟩ := hv
    exact hall _ hmem
  | _ => exact hv

/-- A value that is stored as its JSON text survives. -/
theorem survives_of_not_isPrimitive {v : Value} (hv : Γ.Admits v) (hp : v.isPrimitive = false) :
    v.Survives := by
  cases v with
  | complex | decimal | fraction => cases hp
  | member cls mixin name w =>
    cases mixin with
    | str =>
      obtain ⟨t, rfl⟩ := hv.2.2 rfl
      cases hp
    | _ => trivial
  | _ => trivial

/-- The class of a value that is stored as a JSON text is no class of texts. -/
theorem classOf_ne_text {v : Value} (hp : v.isPrimitive = false) :
    v.classOf ≠ .builtin .str ∧ v.classOf ≠ .builtin .jsonText := by
  cases v with
  | text | jsonText => cases hp
  | row form => cases form <;> simp [Value.classOf, RowForm.builtin]
  | octets form => cases form <;> simp [Value.classOf, OctetForm.builtin]
  | _ => simp [Value.classOf]

/-- A JSON text is no instance of a class whose values are stored as JSON texts. -/
theorem isAlready_jsonText {v : Value} (hp : v.isPrimitive = false) (hn : v ≠ .null) (t : String) :
    Γ.isAlready (.jsonText t) (.cls v.classOf) = false := by
  cases v with
  | null => exact absurd rfl hn
  | row form => cases form <;> rfl
  | octets form => cases form <;> rfl
  | member cls | object cls => exact isAlready_declared rfl cls
  | _ => first | rfl | cases hp

/-- **A value whose stored form was restored is read as its class again exactly if it survives.** -/
theorem kept_stored_iff {v st w : Value} {s u : Session} {key : String} (hn : v ≠ .null)
    (hnum : v.isDeclaredNumber = false) (hjson : ∀ t, v ≠ .jsonText t) (hv : s.classes.Lists v)
    (hst : s.classes.encode v = .ok st)
    (hread : (perform (decode key st (.cls v.classOf)) s).1 = .ok w)
    (hshort : st.written.isShort = true) (hu : u.classes = s.classes) :
    (∃ w', (perform (decode key st.written.toValue (.cls v.classOf)) u).1 = .ok w' ∧ w.Kept w') ↔
      v.Survives := by
  by_cases hp : v.isPrimitive = true
  · obtain rfl := Except.ok.inj (hst.symm.trans (encode_of_isPrimitive hp))
    rw [perform_decode_self hn] at hread
    obtain rfl := Except.ok.inj hread
    exact kept_iff_survives hp hnum hjson (hu ▸ hv) hshort key
  · rw [Bool.not_eq_true] at hp
    obtain ⟨rfl, hp'⟩ | ⟨t, rfl⟩ := encode_cases hst
    · exact absurd hp' (by simp [hp])
    · obtain ⟨hstr, hjsonText⟩ := classOf_ne_text hp
      have hnone := classOf_ne_noneType hn
      have hi (Γ : Classes) := isAlready_jsonText (Γ := Γ) hp hn t
      have htext : u.classes.isAlready (.text t) (.cls v.classOf) = false := by
        rw [← (Value.Alike.text t).isAlready_eq (by simpa [Hint.builtin] using hjsonText), hi]
      obtain ⟨text, htext', hclass⟩ :=
        (fst_perform_decode_eq_ok (by simp) hnone hstr (hi _) key).mp hread
      obtain rfl := Except.ok.inj htext'
      refine iff_of_true ⟨w, ?_, w.kept_refl⟩ (survives_of_not_isPrimitive hv.admits hp)
      rw [← hu] at hclass
      exact (fst_perform_decode_text hnone hstr htext key).mpr hclass

end Carryover
