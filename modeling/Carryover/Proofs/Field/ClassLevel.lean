import Carryover.Proofs.Field.Hierarchy

/-!
# Attributes of classes

A class variable or an argument of the constructor is no attribute of the instances. Whether an
attribute is one is told by its nearest annotation: the last one of the first class in the order
that annotates it (`Session.Nearest`).

| nearest annotation | the attribute |
| --- | --- |
| left out | is a field if the declarations before it make it one |
| annotated, or a text that says it some other way | is a field if it carries a directive |

An annotation that is left out is no declaration, so it does not take the place of one that is
inherited (`Nearest.lastOf_declared`); one that is kept does, with the directive it carries
(`Nearest.exists_lastOf_of_kept`). Attributes of classes are no fields exactly if neither makes them
fields (`hidesClassLevel_iff`).
-/

namespace Carryover

/-- A type without the notes on it. -/
def Hint.unannotated : Hint → Hint
  | .annotated h _ => h.unannotated
  | h => h

/-- The last annotation of an attribute in a class. -/
def ClassDecl.annotation? (d : ClassDecl) (attr : String) : Option (String × Hint) :=
  (d.annotations.filter fun e => (attributeNames d.name e.1).2 = attr).getLast?

/-! ### The last declaration of an attribute -/

/-- The last declaration of an attribute is looked for among the later ones first. -/
theorem lastOf_append (ds ds' : List Declaration) (attr : String) :
    lastOf (ds ++ ds') attr = (lastOf ds' attr).or (lastOf ds attr) := by
  unfold lastOf
  rw [List.filter_append, List.getLast?_append]

/-- An attribute without a last declaration has none. -/
theorem lastOf_eq_none_iff {ds : List Declaration} {attr : String} :
    lastOf ds attr = none ↔ ∀ d ∈ ds, d.attr ≠ attr := by
  simp [lastOf]

/-- An attribute is no field exactly if its last declaration carries no directive. -/
theorem forall_fieldsOf_iff {ds : List Declaration} {attr : String} :
    (∀ f ∈ fieldsOf ds, f.attr ≠ attr) ↔ ∀ d, lastOf ds attr = some d → d.directive = none := by
  have hfields := areFieldsOf_fieldsOf ds
  constructor
  · intro h d hd
    cases hdirective : d.directive with
    | none => rfl
    | some directive =>
      have hf : (⟨d.name, attr, d.owner, directive⟩ : Field) ∈ fieldsOf ds :=
        (hfields.mem_iff _).mpr ⟨d, hd, rfl, rfl, hdirective⟩
      exact absurd rfl (h _ hf)
  · rintro h f hf rfl
    obtain ⟨d, hd, -, -, hdirective⟩ := (hfields.mem_iff f).mp hf
    rw [h d hd] at hdirective
    cases hdirective

/-- What is last among some members of a list is last among those of them that are kept. -/
theorem getLast?_filter_of_getLast? {α : Type} {xs : List α} {x : α} {p : α → Bool}
    (h : xs.getLast? = some x) (hx : p x = true) : (xs.filter p).getLast? = some x := by
  obtain ⟨ys, rfl⟩ := List.getLast?_eq_some_iff.mp h
  rw [List.filter_append, List.filter_cons_of_pos hx, List.filter_nil, List.getLast?_concat]

namespace ClassDecl

variable {d : ClassDecl} {attr : String} {e : String × Hint}

/-- The last declaration of an attribute is made by the last of its annotations that can be
fields. -/
theorem lastOf_declared (d : ClassDecl) (attr : String) :
    lastOf d.declared attr =
      ((d.kept.filter fun e => (attributeNames d.name e.1).2 = attr).getLast?).map fun e =>
        ⟨(attributeNames d.name e.1).1, (attributeNames d.name e.1).2, .declared d.name,
          e.2.meaning.directive?⟩ := by
  unfold lastOf
  rw [← List.getLast?_map]
  change List.getLast? (List.filter _ (d.kept.map _)) = _
  rw [List.filter_map]
  rfl

/-- An annotation that is kept is what a class declares of its attribute. -/
theorem lastOf_declared_of_kept (he : d.annotation? attr = some e)
    (hkept : e.2.isKept e.1 = true) :
    lastOf d.declared attr = some ⟨(attributeNames d.name e.1).1, attr, .declared d.name,
      e.2.meaning.directive?⟩ := by
  have hlast : (d.kept.filter fun e => (attributeNames d.name e.1).2 = attr).getLast? = some e := by
    unfold kept
    rw [List.filter_comm]
    exact getLast?_filter_of_getLast? he hkept
  have hattr : (attributeNames d.name e.1).2 = attr := by
    simpa using (List.mem_filter.mp (List.mem_of_getLast? he)).2
  rw [lastOf_declared, hlast, Option.map_some, hattr]

/-- An attribute without an annotation is not declared. -/
theorem lastOf_declared_eq_none (he : d.annotation? attr = none) :
    lastOf d.declared attr = none := by
  have hnone : (d.kept.filter fun e => (attributeNames d.name e.1).2 = attr) = [] := by
    rw [annotation?, List.getLast?_eq_none_iff, List.filter_eq_nil_iff] at he
    exact List.filter_eq_nil_iff.mpr fun e h => he e (List.mem_filter.mp h).1
  rw [lastOf_declared, hnone]
  rfl

end ClassDecl

namespace Session

variable {s : Session} {c k : ClassName} {attr : String} {above below : List ClassName}
  {e : String × Hint}

/-- The last annotation of an attribute in a class of the session. -/
def annotation? (s : Session) (k : ClassName) (attr : String) : Option (String × Hint) :=
  match k with
  | .declared name => (s.classes.find? name).bind fun d => d.annotation? attr
  | _ => none

/-- Whether a directive is registered for an attribute of a class. -/
def Registers (s : Session) (k : ClassName) (attr : String) : Prop :=
  ∃ e ∈ (Entries.get? s.registered k).getD [], (attributeNames k.short e.1).2 = attr

/-- The declarations that count in some classes of an order, those of the last class first. -/
def declaredIn (s : Session) (order : List ClassName) : List Declaration :=
  (order.reverse.filter (· != .builtin .object)).flatMap s.declaredBy

/-- The nearest annotation of an attribute for a class, the class that has it and the classes below
that class. Neither it nor a class above registers the attribute, and none above annotates it. -/
structure Nearest (s : Session) (c : ClassName) (attr : String) (k : ClassName)
    (below : List ClassName) (e : String × Hint) : Prop where
  annotation : s.annotation? k attr = some e
  unregistered : ¬ s.Registers k attr
  order : ∃ above, s.classes.order c = above ++ k :: below ∧
    ∀ k' ∈ above, s.annotation? k' attr = none ∧ ¬ s.Registers k' attr

/-- Whether no attribute that its nearest annotation says is for the class is among some fields. -/
def HidesClassLevel (s : Session) (c : ClassName) (fields : List Field) : Prop :=
  ∀ attr k below e, s.Nearest c attr k below e → e.2.meaning.unannotated.isClassLevel = true →
    ∀ f ∈ fields, f.attr ≠ attr

/-- The last annotation of an attribute is one of a class that is declared. -/
theorem exists_of_annotation? (h : s.annotation? k attr = some e) :
    ∃ name d, k = .declared name ∧ s.classes.find? name = some d ∧ e ∈ d.annotations ∧
      (attributeNames d.name e.1).2 = attr := by
  unfold annotation? at h
  split at h
  · rename_i name
    obtain ⟨d, hfind, hd⟩ := Option.bind_eq_some_iff.mp h
    obtain ⟨he, hattr⟩ := List.mem_filter.mp (List.mem_of_getLast? hd)
    exact ⟨name, d, rfl, hfind, he, by simpa using hattr⟩
  · cases h

/-- An attribute that is not registered is not declared by a registration. -/
theorem lastOf_registered_eq_none (h : ¬ s.Registers k attr) :
    lastOf (registeredDeclarations k ((Entries.get? s.registered k).getD [])) attr = none := by
  refine lastOf_eq_none_iff.mpr fun d hd hattr => h ?_
  obtain ⟨e, he, rfl⟩ := List.mem_map.mp hd
  exact ⟨e, he, hattr⟩

/-- A class that neither annotates nor registers an attribute does not declare it. -/
theorem lastOf_declaredBy_eq_none (he : s.annotation? k attr = none) (hr : ¬ s.Registers k attr) :
    lastOf (s.declaredBy k) attr = none := by
  unfold declaredBy
  dsimp only
  rw [lastOf_append, lastOf_registered_eq_none hr, Option.none_or]
  cases k with
  | declared name =>
    cases hfind : s.classes.find? name with
    | none => simp [hfind, lastOf]
    | some d =>
      have hd : d.annotation? attr = none := by
        simpa only [annotation?, hfind, Option.bind_some] using he
      simp only [hfind]
      exact ClassDecl.lastOf_declared_eq_none hd
  | _ => rfl

/-- Classes above that say nothing of an attribute do not change its last declaration. -/
theorem lastOf_declaredIn_append
    (h : ∀ k ∈ above, s.annotation? k attr = none ∧ ¬ s.Registers k attr) :
    lastOf (s.declaredIn (above ++ below)) attr = lastOf (s.declaredIn below) attr := by
  have hnone : lastOf (s.declaredIn above) attr = none := by
    refine lastOf_eq_none_iff.mpr fun d hd => ?_
    obtain ⟨k, hk, hd⟩ := List.mem_flatMap.mp hd
    obtain ⟨he, hr⟩ := h k (List.mem_reverse.mp (List.mem_filter.mp hk).1)
    exact lastOf_eq_none_iff.mp (lastOf_declaredBy_eq_none he hr) d hd
  have hsplit : s.declaredIn (above ++ below) = s.declaredIn below ++ s.declaredIn above := by
    simp [declaredIn]
  rw [hsplit, lastOf_append, hnone, Option.none_or]

/-- The last declaration of an attribute is made by the class of its nearest annotation or by one
below. -/
theorem Nearest.lastOf_declared (h : s.Nearest c attr k below e) :
    lastOf (s.declared c) attr = lastOf (s.declaredIn (k :: below)) attr := by
  obtain ⟨-, -, above, horder, habove⟩ := h
  rw [← lastOf_declaredIn_append habove, ← horder]
  rfl

/-- The nearest annotation of an attribute is its last declaration, if it is kept. -/
theorem Nearest.exists_lastOf_of_kept (h : s.Nearest c attr k below e)
    (hkept : e.2.isKept e.1 = true) :
    ∃ d, lastOf (s.declared c) attr = some d ∧ d.directive = e.2.meaning.directive? := by
  obtain ⟨he, hr, -⟩ := id h
  unfold annotation? at he
  split at he
  · rename_i name
    obtain ⟨d, hfind, hd⟩ := Option.bind_eq_some_iff.mp he
    let declaration : Declaration :=
      ⟨(attributeNames d.name e.1).1, attr, .declared d.name, e.2.meaning.directive?⟩
    have hlast : lastOf (s.declaredBy (.declared name)) attr = some declaration := by
      unfold declaredBy
      dsimp only
      rw [lastOf_append, lastOf_registered_eq_none hr, Option.none_or, hfind]
      exact ClassDecl.lastOf_declared_of_kept hd hkept
    have hsplit : s.declaredIn (.declared name :: below) =
        s.declaredIn below ++ s.declaredBy (.declared name) := by
      simp [declaredIn, List.filter_append]
    refine ⟨declaration, ?_, rfl⟩
    rw [h.lastOf_declared, hsplit, lastOf_append, hlast]
    rfl
  · cases he

/-- **Attributes of classes are no fields exactly if nothing else makes them fields**: if an
annotation that is kept says that an attribute is for the class, it carries no directive, and if one
says so that is left out, the declarations before it make no field of the attribute. -/
theorem hidesClassLevel_iff (hs : s.Coherent) {fields : List Field}
    (hfields : (perform (contextFields c) s).1 = .ok fields) :
    s.HidesClassLevel c fields ↔ ∀ attr k below e, s.Nearest c attr k below e →
      e.2.meaning.unannotated.isClassLevel = true →
        if e.2.isKept e.1 then e.2.meaning.directive? = none
        else ∀ f ∈ fieldsOf (s.declaredIn (k :: below)), f.attr ≠ attr := by
  have hmade : fields = fieldsOf (s.declared c) := by
    obtain ⟨t, ht, -⟩ := perform_contextFields c s
    rw [ht, hs.fieldsOf?_eq, computeFields_eq] at hfields
    cases hfault : s.fault? c <;> rw [hfault] at hfields <;> cases hfields
    rfl
  subst hmade
  refine forall_congr' fun attr => forall_congr' fun k => forall_congr' fun below =>
    forall_congr' fun e => forall_congr' fun hnearest => forall_congr' fun _ => ?_
  rw [forall_fieldsOf_iff]
  split_ifs with hkept
  · obtain ⟨d, hd, hdirective⟩ := hnearest.exists_lastOf_of_kept hkept
    rw [hd]
    simp [hdirective]
  · rw [hnearest.lastOf_declared, forall_fieldsOf_iff]

/-- The rate of a policy is one of its fields, that of premium policies is for the class. -/
def policies : Classes :=
  { decls := [bare "Policy" [] [("rate", .annotated (.builtin .float) [.directive {}]),
      ("holder", .annotated (.builtin .str) [.directive {}]), ("limit", .classVar none)],
    bare "Premium" ["Policy"]
      [("rate", .written "Fixed[float]" (.classVar (some (.builtin .float))))]] }

theorem hidesClassLevel_iff_premium :
    (start policies).cache = [] ∧
      (perform (contextFields (.declared "Premium")) (start policies)).1 =
        .ok [⟨"holder", "holder", .declared "Policy", {}⟩] ∧
      (start policies).HidesClassLevel (.declared "Premium")
        [⟨"holder", "holder", .declared "Policy", {}⟩] := by
  have hfields : (perform (contextFields (.declared "Premium")) (start policies)).1 =
      .ok [⟨"holder", "holder", .declared "Policy", {}⟩] := by rfl
  refine ⟨rfl, hfields, (hidesClassLevel_iff (coherent_of_cache_nil rfl) hfields).mpr ?_⟩
  rintro attr k below e ⟨he, -, above, horder, -⟩ hlevel
  obtain ⟨name, d, rfl, hfind, hmem, rfl⟩ := exists_of_annotation? he
  have hd : d ∈ policies.decls := List.mem_of_find?_eq_some hfind
  simp only [policies, List.mem_cons, List.not_mem_nil, or_false] at hd
  obtain rfl | rfl := hd
  · simp only [bare, List.mem_cons, List.not_mem_nil, or_false] at hmem
    obtain rfl | rfl | rfl := hmem
    · cases hlevel
    · cases hlevel
    · -- the limit is left out, and nothing else declares it
      obtain rfl : "Policy" = name :=
        eq_of_beq (List.find?_some (p := fun d : ClassDecl => d.name == name) hfind)
      have hbelow : below = [.builtin .object] := by
        have horder' : [ClassName.declared "Premium", .declared "Policy", .builtin .object] =
          above ++ .declared "Policy" :: below := horder
        rcases above with _ | ⟨_, _ | ⟨_, _ | ⟨_, _⟩⟩⟩ <;> simp_all
      subst hbelow
      have hmade : fieldsOf ((start policies).declaredIn [.declared "Policy", .builtin .object]) =
          [⟨"rate", "rate", .declared "Policy", {}⟩,
            ⟨"holder", "holder", .declared "Policy", {}⟩] := rfl
      rw [hmade]
      decide
  · simp only [bare, List.mem_cons, List.not_mem_nil, or_false] at hmem
    subst hmem
    rfl

/-- The limit of an order is a field, that of a trial order is for the class. -/
def trials : Classes :=
  { decls := [bare "Order" [] [("limit", .annotated (.builtin .int) [.directive {}])],
    bare "Trial" ["Order"] [("limit", .classVar (some (.builtin .int)))]] }

/-- **The field of the base stays for the class variable of the derived class.** -/
theorem not_hidesClassLevel :
    ¬ ∀ fields, (perform (contextFields (.declared "Trial")) (start trials)).1 = .ok fields →
      (start trials).HidesClassLevel (.declared "Trial") fields := by
  intro h
  have hfields : (perform (contextFields (.declared "Trial")) (start trials)).1 =
      .ok [⟨"limit", "limit", .declared "Order", {}⟩] := by rfl
  have hnearest : (start trials).Nearest (.declared "Trial") "limit" (.declared "Trial")
      [.declared "Order", .builtin .object] ("limit", .classVar (some (.builtin .int))) :=
    ⟨rfl, by rintro ⟨_, ⟨⟩, -⟩, [], rfl, List.forall_mem_nil _⟩
  exact h _ hfields "limit" _ _ _ hnearest rfl _ (List.mem_singleton_self _) rfl

end Session
end Carryover
