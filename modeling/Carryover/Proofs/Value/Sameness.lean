import Carryover.Context.Merge
import Mathlib.Tactic.Tauto

/-!
# Sameness of stored values

Two values are the same in storage if they are one value, or of one kind and equal. On the
values that are stored as they are, this is an equivalence (`Same.symm`, `Same.trans`): two of
one kind are equal exactly if they stand for the same number, which is no NaN, or for the same
text (`equals_iff_of_isPrimitive`).

A member of an enumeration belongs to one class, and the class says whether its members are
numbers or texts. `Classes.Admits` states that of a value.
-/

namespace Carryover

/-- Numbers are equal if they are one number, and not a NaN. -/
theorem Quantity.equals_iff {p q : Quantity} : p.equals q = true ↔ p = q ∧ p ≠ .unordered := by
  cases p <;> cases q <;> simp [Quantity.equals]

/-- A member of an enumeration has a declared class, and with it the value that the class gives
to its members. The class of a number that has a declared one is no record and no model. -/
def Classes.Admits (Γ : Classes) : Value → Prop
  | .member cls mixin _ w =>
    (∃ d, Γ.find? cls = some d ∧ d.kind = .enumeration mixin) ∧
      (mixin = .int → ∃ i, w = .int i) ∧ (mixin = .str → ∃ s, w = .text s)
  | .number _ cls _ =>
    Γ.isRecord (.declared cls) = false ∧ Γ.isModel (.declared cls) = false
  | _ => True

namespace Value

/-- Whether a number, or a part of it, is a NaN. -/
def isNan (v : Value) : Bool :=
  match v.quantity? with
  | some (p, q) => p == .unordered || q == .unordered
  | none => false

/-- Whether two values are one value, or of one kind and equal. -/
def Same (v w : Value) : Prop :=
  v = w ∨ v.storageKind = w.storageKind ∧ v.equals w = true

theorem Same.refl (v : Value) : v.Same v :=
  .inl rfl

/-- What is stored as it is, is a text or a number. -/
theorem isPrimitive_iff {v : Value} :
    v.isPrimitive = true ↔ (∃ s, v.asText? = some s) ∨ v.isNumber = true := by
  simp [isPrimitive, Option.isSome_iff_exists]

/-- The kind of texts is that of the values that are texts. -/
theorem storageKind_eq_text_iff {v : Value} :
    v.storageKind = .text ↔ ∃ s, v.asText? = some s := by
  rw [← Option.isSome_iff_exists]
  unfold storageKind
  split
  · simp [asText?]
  · split <;> simp [*]

/-- The kind of a value that is neither a flag nor a text is its class. -/
theorem storageKind_eq_other {v : Value} (ht : v.storageKind ≠ .text)
    (hf : v.storageKind ≠ .flag) : v.storageKind = .other v.classOf := by
  unfold storageKind at *
  split
  · exact absurd rfl hf
  · split
    · simp_all
    · rfl

/-- A text has no quantity. -/
theorem quantity?_of_asText? {v : Value} {s : String} (h : v.asText? = some s) :
    v.quantity? = none := by
  cases v with
  | member c m n w => cases m <;> simp_all [asText?, quantity?]
  | _ => simp_all [asText?, quantity?]

/-- A number stands for a number. -/
theorem quantity?_of_isNumber {Γ : Classes} {v : Value} (hΓ : Γ.Admits v)
    (h : v.isNumber = true) : ∃ q, v.quantity? = some q := by
  cases v with
  | member c m n w =>
    cases m with
    | int =>
      obtain ⟨i, rfl⟩ := hΓ.2.1 rfl
      exact ⟨_, rfl⟩
    | _ => simp [isNumber] at h
  | _ => first | exact ⟨_, rfl⟩ | simp [isNumber] at h

/-- A value that is stored as it is, is equal as scalars are. -/
theorem equals_eq_scalarEquals {v : Value} (h : v.isPrimitive = true) (w : Value) :
    v.equals w = v.scalarEquals w := by
  cases v with
  | row => simp [isPrimitive, asText?, isNumber] at h
  | dict => simp [isPrimitive, asText?, isNumber] at h
  | _ => simp [equals]

/-- Whether a value is a number of a declared class. -/
def isDeclaredNumber : Value → Bool
  | .number .. => true
  | _ => false

/-- A number of a declared class is a number. -/
theorem isNumber_of_isDeclaredNumber {v : Value} (h : v.isDeclaredNumber = true) :
    v.isNumber = true := by
  cases v with
  | number => rfl
  | _ => cases h

/-- The numbers that equal none but themselves are those of declared classes. -/
theorem isDeclaredNumber_of_quantity? {v : Value} {mark : Nat} {q : Quantity}
    (h : v.quantity? = some (.marked mark, q)) : v.isDeclaredNumber = true := by
  have hdouble (x : Number.Double) : x.quantity ≠ .marked mark := by cases x <;> nofun
  have hdecimal (d : Number.Decimal) : d.quantity ≠ .marked mark := by
    unfold Number.Decimal.quantity
    split <;> nofun
  cases v with
  | number => rfl
  | member c m n w => cases m <;> cases w <;> cases h
  | float x => exact absurd (Prod.mk.inj (Option.some.inj h)).1 (hdouble x)
  | complex x y => exact absurd (Prod.mk.inj (Option.some.inj h)).1 (hdouble x)
  | decimal d => exact absurd (Prod.mk.inj (Option.some.inj h)).1 (hdecimal d)
  | _ => cases h

/-- A number of a declared class equals such numbers alone. -/
theorem isDeclaredNumber_of_equals {v w : Value} (h : v.equals w = true)
    (hw : w.isDeclaredNumber = true) : v.isDeclaredNumber = true := by
  cases w with
  | number mark cls attrs =>
    have hscalar : v.scalarEquals (.number mark cls attrs) = true := by
      cases v with
      | row | dict => simp [equals] at h
      | _ => simpa [equals] using h
    have hmarked : (number mark cls attrs).quantity? = some (.marked mark, .exact 0) := rfl
    unfold scalarEquals at hscalar
    rw [hmarked] at hscalar
    cases hq : v.quantity? with
    | none =>
      rw [hq] at hscalar
      cases v <;> simp_all [asText?]
    | some q =>
      obtain ⟨a, b⟩ := q
      simp only [hq, Bool.and_eq_true, Quantity.equals_iff] at hscalar
      exact isDeclaredNumber_of_quantity? (hscalar.1.1 ▸ hq)
  | _ => cases hw

/-- An object equals no value that is read apart from it. -/
theorem object_equals (cls : String) (attrs : List (String × Value)) (w : Value) :
    (Value.object cls attrs).equals w = false := by
  cases w <;> simp [equals, scalarEquals, quantity?, asText?]

end Value

/-- The classes whose values are numbers: those of the built-in numbers, and the enumerations
of numbers. -/
def Classes.IsNumeric (Γ : Classes) : ClassName → Prop
  | .builtin b => b ∈ [.bool, .int, .float, .complex, .decimal, .fraction]
  | .declared name => ∃ d, Γ.find? name = some d ∧ d.kind = .enumeration .int
  | .named .. => False

namespace Value

variable {Γ : Classes} {u v w : Value}

/-- The class of a value says whether it is a number, but for objects of declared classes. -/
theorem isNumber_iff (hv : Γ.Admits v) (ho : ∀ cls attrs, v ≠ .object cls attrs)
    (hn : v.isDeclaredNumber = false) :
    v.isNumber = true ↔ Γ.IsNumeric v.classOf := by
  cases v with
  | member c m n x =>
    obtain ⟨⟨d, hd, hk⟩, -⟩ := hv
    cases m <;> simp [isNumber, classOf, Classes.IsNumeric, hd, hk]
  | object c attrs => exact absurd rfl (ho c attrs)
  | number => cases hn
  | row form => cases form <;> simp [isNumber, classOf, Classes.IsNumeric, RowForm.builtin]
  | octets form => cases form <;> simp [isNumber, classOf, Classes.IsNumeric, OctetForm.builtin]
  | _ => simp [isNumber, classOf, Classes.IsNumeric]

/-- The flags are the values of their kind. -/
theorem storageKind_eq_flag_iff : v.storageKind = .flag ↔ ∃ b, v = .bool b := by
  unfold storageKind
  split
  · simp
  · rename_i h
    constructor
    · split <;> simp
    · rintro ⟨b, rfl⟩
      exact absurd rfl (h b)

/-- A value that is the same as one that is stored as it is, is stored as it is. -/
theorem Same.isPrimitive (hv : Γ.Admits v) (hw : Γ.Admits w) (h : v.Same w)
    (hp : w.isPrimitive = true) : v.isPrimitive = true := by
  obtain rfl | ⟨hk, he⟩ := h
  · exact hp
  rw [isPrimitive_iff] at hp ⊢
  by_cases ht : v.storageKind = .text
  · exact .inl (storageKind_eq_text_iff.mp ht)
  by_cases hf : v.storageKind = .flag
  · obtain ⟨b, rfl⟩ := storageKind_eq_flag_iff.mp hf
    exact .inr rfl
  have hc : v.classOf = w.classOf := by
    have h1 := storageKind_eq_other ht hf
    have h2 := storageKind_eq_other (hk ▸ ht) (hk ▸ hf)
    rw [hk, h2] at h1
    exact (StorageKind.other.inj h1).symm
  have hn : w.isNumber = true :=
    hp.resolve_left fun h => ht (hk.trans (storageKind_eq_text_iff.mpr h))
  have hov : ∀ cls attrs, v ≠ .object cls attrs := by
    rintro cls attrs rfl
    rw [object_equals] at he
    cases he
  have how : ∀ cls attrs, w ≠ .object cls attrs := by
    rintro cls attrs rfl
    cases hn
  -- the numbers of declared classes are told apart by their marks, all others by their classes
  by_cases hwn : w.isDeclaredNumber = true
  · exact .inr (isNumber_of_isDeclaredNumber (isDeclaredNumber_of_equals he hwn))
  by_cases hvn : v.isDeclaredNumber = true
  · exact .inr (isNumber_of_isDeclaredNumber hvn)
  rw [Bool.not_eq_true] at hwn hvn
  rw [isNumber_iff hw how hwn, ← hc, ← isNumber_iff hv hov hvn] at hn
  exact .inr hn

/-- What is not of the kind of texts is no text. -/
theorem asText?_eq_none (h : v.storageKind ≠ .text) : v.asText? = none := by
  cases ht : v.asText? with
  | none => rfl
  | some s => exact absurd (storageKind_eq_text_iff.mpr ⟨s, ht⟩) h

/-- Texts are equal if they are the same. -/
theorem scalarEquals_of_asText? {s t : String} (hv : v.asText? = some s) (hw : w.asText? = some t) :
    v.scalarEquals w = (s == t) := by
  unfold scalarEquals
  rw [quantity?_of_asText? hv, hv, hw]

/-- Numbers are equal if both parts of their quantities are. -/
theorem scalarEquals_of_quantity? {a b c d : Quantity} (hv : v.quantity? = some (a, b))
    (hw : w.quantity? = some (c, d)) : v.scalarEquals w = (a.equals c && b.equals d) := by
  unfold scalarEquals
  rw [hv, hw]

/-- A text is equal to itself alone. -/
theorem scalarEquals_text (v : Value) (s : String) :
    v.scalarEquals (.text s) = (v.asText? == some s) := by
  unfold scalarEquals
  rw [show (Value.text s).quantity? = none from rfl, show (Value.text s).asText? = some s from rfl]
  cases v.quantity? <;> dsimp only <;> cases htext : v.asText? with
  | none => cases v <;> rfl
  | some t => rfl

/-- The values that are texts alone equal texts. -/
theorem equals_text (v : Value) (s : String) : v.equals (.text s) = (v.asText? == some s) := by
  cases v with
  | row => simp [equals, asText?]
  | dict => simp [equals, asText?]
  | _ =>
    rw [equals]
    · exact scalarEquals_text _ s
    all_goals simp

/-- **Values of one kind that are stored as they are, are equal exactly if they stand for the
same text or for the same number, which is no NaN.** -/
theorem equals_iff_of_isPrimitive (hv : Γ.Admits v) (hw : Γ.Admits w)
    (hpv : v.isPrimitive = true) (hpw : w.isPrimitive = true)
    (hk : v.storageKind = w.storageKind) :
    v.equals w = true ↔ v.quantity? = w.quantity? ∧ v.asText? = w.asText? ∧ v.isNan = false := by
  rw [equals_eq_scalarEquals hpv]
  by_cases ht : v.storageKind = .text
  · obtain ⟨s, hs⟩ := storageKind_eq_text_iff.mp ht
    obtain ⟨t, ht⟩ := storageKind_eq_text_iff.mp (hk ▸ ht)
    rw [scalarEquals_of_asText? hs ht]
    simp [hs, ht, quantity?_of_asText? hs, quantity?_of_asText? ht, isNan]
  · have hsv := asText?_eq_none ht
    have hsw := asText?_eq_none (hk ▸ ht)
    obtain ⟨⟨a, b⟩, hqv⟩ :=
      quantity?_of_isNumber hv ((isPrimitive_iff.mp hpv).resolve_left (by simp [hsv]))
    obtain ⟨⟨c, d⟩, hqw⟩ :=
      quantity?_of_isNumber hw ((isPrimitive_iff.mp hpw).resolve_left (by simp [hsw]))
    rw [scalarEquals_of_quantity? hqv hqw, Bool.and_eq_true, Quantity.equals_iff,
      Quantity.equals_iff]
    simp only [hqv, hqw, hsv, hsw, isNan, Option.some.injEq, Prod.mk.injEq, Bool.or_eq_false_iff,
      beq_eq_false_iff_ne]
    tauto

/-- A value that is stored as it is equals itself, unless it is a NaN. -/
theorem equals_self (hv : v.isPrimitive = true) : v.equals v = !v.isNan := by
  rw [equals_eq_scalarEquals hv]
  cases hq : v.quantity? with
  | some q =>
    obtain ⟨p, q⟩ := q
    rw [scalarEquals_of_quantity? hq hq, isNan, hq]
    cases p <;> cases q <;> simp [Quantity.equals]
  | none =>
    have hnan : v.isNan = false := by rw [isNan, hq]
    cases ht : v.asText? with
    | some s => simp [scalarEquals_of_asText? ht ht, hnan]
    | none =>
      -- what is left is a number that is told apart by its name
      have hn : v.isNumber = true := (isPrimitive_iff.mp hv).resolve_left (by simp [ht])
      cases v with
      | member c m n w => simp [scalarEquals, hq, ht, hnan]
      | _ => simp [quantity?, isNumber] at hq hn

/-- Among stored forms of the program, sameness goes both ways. -/
theorem Same.symm (hv : Γ.Admits v) (hw : Γ.Admits w) (hpw : w.isPrimitive = true)
    (h : v.Same w) : w.Same v := by
  have hpv := h.isPrimitive hv hw hpw
  obtain rfl | ⟨hk, he⟩ := h
  · exact .refl v
  · rw [equals_iff_of_isPrimitive hv hw hpv hpw hk] at he
    obtain ⟨hq, ht, hn⟩ := he
    have hn' : w.isNan = false := by rwa [isNan, ← hq]
    exact .inr ⟨hk.symm,
      (equals_iff_of_isPrimitive hw hv hpw hpv hk.symm).mpr ⟨hq.symm, ht.symm, hn'⟩⟩

/-- Among stored forms of the program, what is the same as the same is the same. -/
theorem Same.trans (hu : Γ.Admits u) (hv : Γ.Admits v) (hw : Γ.Admits w)
    (hpv : v.isPrimitive = true) (hpw : w.isPrimitive = true) (huv : u.Same v) (hvw : v.Same w) :
    u.Same w := by
  have hpu := huv.isPrimitive hu hv hpv
  obtain rfl | ⟨hk, he⟩ := huv
  · exact hvw
  obtain rfl | ⟨hk', he'⟩ := hvw
  · exact .inr ⟨hk, he⟩
  rw [equals_iff_of_isPrimitive hu hv hpu hpv hk] at he
  rw [equals_iff_of_isPrimitive hv hw hpv hpw hk'] at he'
  exact .inr ⟨hk.trans hk', (equals_iff_of_isPrimitive hu hw hpu hpw (hk.trans hk')).mpr
    ⟨he.1.trans he'.1, he.2.1.trans he'.2.1, he.2.2⟩⟩

end Value
end Carryover
