import Carryover.Class.Construct
import Carryover.Proofs.Entries

/-!
# What constructors make

A class makes an object of named arguments if its constructor takes each of them and comes to a
value for each parameter (`construct_eq_ok_iff`). Otherwise it refuses its arguments or fails with
the fault of its constructor (`construct_eq_error`).
-/

namespace Carryover

variable {Γ : Classes} {c : ClassName} {arguments : Entries String Value}

/-- The attributes that a constructor gives an object. -/
def Constructor.attributes (k : Constructor) (arguments : Entries String Value) :
    Entries String Value :=
  (k.parameters.filter (·.isStored)).filterMap fun p =>
    (k.given? arguments p.toParameter).map (p.name, ·)

/-- How a class makes an object of named arguments. -/
inductive Classes.Makes (Γ : Classes) (c : ClassName) (arguments : Entries String Value) :
    Value → Prop
  | bare (h : Γ.constructor? c = none) (hnone : arguments = []) :
    Makes Γ c arguments (.object c.short [])
  | bound {k : Constructor} (h : Γ.constructor? c = some k)
    (htaken : ∀ e ∈ arguments, k.refusal? arguments e.1 = none)
    (hgiven : ∀ p ∈ k.parameters, (k.given? arguments p.toParameter).isSome)
    (hfault : k.fault = none) : Makes Γ c arguments (.object c.short (k.attributes arguments))

/-- A parameter that takes an argument by its name comes to the argument of its name. -/
theorem Constructor.given?_of_isNamed {k : Constructor} {p : Parameter} {v : Value}
    (hp : p.isNamed = true) (hv : Entries.get? arguments p.name = some v) :
    k.given? arguments p = some v := by
  unfold Parameter.isNamed at hp
  unfold given?
  cases hkind : p.kind <;> simp_all

/-- The attribute of a name is what the parameter of that name comes to, if each parameter comes to
a value and those of that name are stored. -/
theorem Constructor.get?_attributes {k : Constructor} {name : String}
    (hgiven : ∀ p ∈ k.parameters, (k.given? arguments p.toParameter).isSome)
    (hstored : ∀ p ∈ k.parameters, p.name = name → p.isStored = true) :
    Entries.get? (k.attributes arguments) name =
      (k.parameters.find? (·.name == name)).bind fun p => k.given? arguments p.toParameter := by
  unfold attributes
  -- the values depend on all parameters, the induction is on the list that is searched
  generalize hg : k.given? arguments = given at hgiven ⊢
  clear hg
  revert hgiven hstored
  induction k.parameters with
  | nil => exact fun _ _ => rfl
  | cons p ps ih =>
    intro hstored hgiven
    have ih := ih (fun q hq => hstored q (List.mem_cons_of_mem _ hq))
      fun q hq => hgiven q (List.mem_cons_of_mem _ hq)
    obtain ⟨v, hv⟩ := Option.isSome_iff_exists.mp (hgiven p List.mem_cons_self)
    by_cases hname : p.name = name
    · have hp := hstored p List.mem_cons_self hname
      rw [List.filter_cons_of_pos hp, List.filterMap_cons_some (by rw [hv]; rfl),
        List.find?_cons_of_pos (by simpa using hname), Option.bind_some, hv, Entries.get?,
        if_pos hname]
    · rw [List.find?_cons_of_neg (by simpa using hname), ← ih]
      cases hp : p.isStored with
      | false => rw [List.filter_cons_of_neg (by simp [hp])]
      | true =>
        rw [List.filter_cons_of_pos hp, List.filterMap_cons_some (by rw [hv]; rfl), Entries.get?,
          if_neg hname]

/-- No parameter of some kinds misses a value exactly if each of them comes to one. -/
theorem Constructor.missing_eq_nil_iff {k : Constructor} {kinds : List ParameterKind} :
    k.missing arguments kinds = [] ↔
      ∀ p ∈ k.parameters, p.kind ∈ kinds → (k.given? arguments p.toParameter).isSome := by
  simp only [missing, List.map_eq_nil_iff, List.filter_eq_nil_iff, Bool.and_eq_true,
    List.contains_iff_mem, not_and, Bool.not_eq_true, Option.isNone_eq_false_iff]

/-- Each parameter comes to a value exactly if none of the kinds that can do without one does. -/
theorem Constructor.forall_given_iff {k : Constructor} :
    (∀ p ∈ k.parameters, (k.given? arguments p.toParameter).isSome) ↔
      k.missing arguments [.positionOnly, .either] = [] ∧ k.missing arguments [.nameOnly] = [] := by
  rw [missing_eq_nil_iff, missing_eq_nil_iff]
  refine ⟨fun h => ⟨fun p hp _ => h p hp, fun p hp _ => h p hp⟩, fun h p hp => ?_⟩
  cases hkind : p.kind with
  | positionOnly | either => exact h.1 p hp (by simp [hkind])
  | nameOnly => exact h.2 p hp (by simp [hkind])
  | restPositions | restNames => simp [given?, hkind]

/-- What a constructor comes to once its arguments are taken. -/
theorem construct_of_constructor? {k : Constructor} (hk : Γ.constructor? c = some k)
    (arguments : Entries String Value) :
    (Γ.construct c arguments = .ok (.object c.short (k.attributes arguments)) ∧
        (∀ e ∈ arguments, k.refusal? arguments e.1 = none) ∧
        (∀ p ∈ k.parameters, (k.given? arguments p.toParameter).isSome) ∧ k.fault = none) ∨
      ((∃ message, Γ.construct c arguments = .error (.refused message)) ∧
        ¬ ((∀ e ∈ arguments, k.refusal? arguments e.1 = none) ∧
          ∀ p ∈ k.parameters, (k.given? arguments p.toParameter).isSome)) ∨
      ∃ f, Γ.construct c arguments = .error (.raised f) ∧ k.fault = some f := by
  have htaken : (arguments.findSome? fun e => k.refusal? arguments e.1) = none ↔
      ∀ e ∈ arguments, k.refusal? arguments e.1 = none := List.findSome?_eq_none_iff
  rw [Constructor.forall_given_iff, ← htaken]
  unfold Classes.construct
  rw [hk]
  dsimp only
  cases arguments.findSome? fun e => k.refusal? arguments e.1 with
  | some message => exact .inr (.inl ⟨⟨message, rfl⟩, by simp⟩)
  | none =>
    dsimp only
    cases hpositional : k.missing arguments [.positionOnly, .either] with
    | cons name names => exact .inr (.inl ⟨⟨_, rfl⟩, by simp⟩)
    | nil =>
      cases hnamed : k.missing arguments [.nameOnly] with
      | cons name names => exact .inr (.inl ⟨⟨_, rfl⟩, by simp⟩)
      | nil =>
        cases hfault : k.fault with
        | some f => exact .inr (.inr ⟨f, rfl, rfl⟩)
        | none => exact .inl ⟨rfl, rfl, ⟨rfl, rfl⟩, rfl⟩

/-- **What a class makes of named arguments.** -/
theorem construct_eq_ok_iff {w : Value} :
    Γ.construct c arguments = .ok w ↔ Γ.Makes c arguments w := by
  cases hk : Γ.constructor? c with
  | none =>
    constructor
    · intro h
      unfold Classes.construct at h
      rw [hk] at h
      dsimp only at h
      split at h
      · rename_i hnone
        cases h
        exact .bare hk (by simpa using hnone)
      · cases h
    · intro h
      cases h with
      | bare _ hnone =>
        subst hnone
        unfold Classes.construct
        rw [hk]
        rfl
      | bound h => cases hk.symm.trans h
  | some k =>
    constructor
    · intro h
      obtain ⟨hmade, htaken, hgiven, hfault⟩ | ⟨⟨message, hrefused⟩, -⟩ | ⟨f, hraised, -⟩ :=
        construct_of_constructor? hk arguments
      · rw [hmade] at h
        cases h
        exact .bound hk htaken hgiven hfault
      · cases hrefused.symm.trans h
      · cases hraised.symm.trans h
    · intro h
      cases h with
      | bare h => cases hk.symm.trans h
      | bound h htaken hgiven hfault =>
        obtain rfl := Option.some.inj (hk.symm.trans h)
        obtain ⟨hmade, -⟩ | ⟨-, hnot⟩ | ⟨f, -, hsome⟩ :=
          construct_of_constructor? hk arguments
        · exact hmade
        · exact absurd ⟨htaken, hgiven⟩ hnot
        · cases hfault.symm.trans hsome

end Carryover
