import Carryover.Proofs.Field.Names
import Carryover.Proofs.Field.Registration

/-!
# Annotated or registered

A directive is declared by an annotation or by a call that registers it. The directives in the
annotations of some classes are moved into calls: the annotations go, and one call for each of the
classes registers the directives under the same names in the same order, before all other calls
(`Classes.stripped`, `Classes.registrations`). All classes keep their fields, in place
(`fieldsAfter_stripped`).

A type without a directive, left where an annotation was, would be a declaration as well, and one
that takes the field of a base away: the annotations go altogether.

Names are written over by later calls, and attributes are not: of two names for one attribute, one
of them marked with the class, the other one may come last after the move. A class has at most one
of the two among its annotations, and at most one among its registered names (`NamesOnce`).
-/

namespace Carryover

open Entries

/-- Whether none among the names of a class is the marked form of another one. -/
def NamesOnce (cls : String) (names : List String) : Prop :=
  ∀ name ∈ names, (attributeNames cls name).2 ∈ names → (attributeNames cls name).2 = name

/-- The field of a class that a directive under a name makes. -/
def fieldIn (c : ClassName) (name : String) (directive : Directive) : Field :=
  ⟨(attributeNames c.short name).1, (attributeNames c.short name).2, c, directive⟩

namespace ClassDecl

/-- The directives of the annotations that can be fields. -/
def directives (d : ClassDecl) : Entries String Directive :=
  d.kept.filterMap fun (name, h) => h.meaning.directive?.map (name, ·)

/-- A class without the annotations that can be fields. -/
def stripped (d : ClassDecl) : ClassDecl :=
  { d with annotations := d.annotations.filter fun (name, h) => !h.isKept name }

end ClassDecl

namespace Classes

/-- The directives in the annotations of a class. -/
def directivesOf (Γ : Classes) (name : String) : Entries String Directive :=
  ((Γ.find? name).map ClassDecl.directives).getD []

/-- Classes of which some are without the annotations that can be fields. -/
def stripped (moved : List String) (Γ : Classes) : Classes :=
  { Γ with decls := Γ.decls.map fun d => if d.name ∈ moved then d.stripped else d }

/-- The calls that register the directives in the annotations of some classes. -/
def registrations (moved : List String) (Γ : Classes) : List SessionStep :=
  moved.map fun name => registering (.declared name) (Γ.directivesOf name)

/-- Whether the directives of classes can be annotated or registered. -/
structure Movable (Γ : Classes) (steps : List SessionStep) : Prop where
  /-- Every annotation evaluates. -/
  evaluate : ∀ d ∈ Γ.decls, ∀ e ∈ d.annotations, ∃ m, e.2.evaluate = .ok m
  /-- Every annotation that can be a field carries a directive. -/
  directed : ∀ d ∈ Γ.decls, ∀ e ∈ d.kept, e.2.meaning.directive?.isSome = true
  /-- No class has annotations of one attribute under its marked name and without the mark. -/
  annotated : ∀ d ∈ Γ.decls, NamesOnce d.name (keys d.kept)
  /-- For no class one attribute is registered under its marked name and without the mark. -/
  registered : ∀ d ∈ Γ.decls, NamesOnce d.name (keys (overwritten steps (.declared d.name)))

end Classes

variable {Γ : Classes} {steps : List SessionStep} {moved : List String}

/-! ### Names of attributes -/

/-- Names of one attribute are one name, if no other one is its marked form. -/
theorem NamesOnce.eq_of_attribute {cls : String} {names : List String} (h : NamesOnce cls names)
    {m n : String} (hm : m ∈ names) (hn : n ∈ names)
    (hmn : (attributeNames cls m).2 = (attributeNames cls n).2) : m = n := by
  obtain hm' | ⟨-, hm'⟩ := attributeNames_cases cls m
  · have hself := h n hn (by rwa [← hmn, hm'])
    rw [← hm', hmn, hself]
  · obtain hn' | ⟨-, hn'⟩ := attributeNames_cases cls n
    · have hself := h m hm (by rwa [hmn, hn'])
      rw [← hself, hmn, hn']
    · rw [hm', hn'] at hmn
      exact markedName_injective cls hmn

/-- Of names that stand once, some stand once. -/
theorem NamesOnce.mono {cls : String} {names names' : List String} (h : NamesOnce cls names')
    (hsub : names ⊆ names') : NamesOnce cls names :=
  fun name hname hattr => h name (hsub hname) (hsub hattr)

/-! ### The declarations of one class -/

/-- Registered directives write their fields one after the other. -/
theorem foldl_declare_registered (c : ClassName) (ds : Entries String Directive)
    (fields : Entries String Field) :
    (registeredDeclarations c ds).foldl declare fields =
      putAll fields
        (ds.map fun (name, d) => ((attributeNames c.short name).2, fieldIn c name d)) := by
  rw [registeredDeclarations, putAll, List.foldl_map, List.foldl_map]
  rfl

/-- Registered directives are declared one after the other. -/
theorem registeredDeclarations_append (c : ClassName) (first second : Entries String Directive) :
    registeredDeclarations c (first ++ second) =
      registeredDeclarations c first ++ registeredDeclarations c second :=
  List.map_append

/-- Directives can be written one over the other before they make fields, or after it. -/
theorem foldl_declare_putAll {c : ClassName} {base more : Entries String Directive}
    (hnodup : (keys base).Nodup) (hbase : NamesOnce c.short (keys base))
    (hmore : NamesOnce c.short (keys more)) (fields : Entries String Field) :
    (registeredDeclarations c (putAll base more)).foldl declare fields =
      (registeredDeclarations c (base ++ more)).foldl declare fields := by
  rw [foldl_declare_registered, foldl_declare_registered]
  refine putAll_map_putAll (f := fun name => (attributeNames c.short name).2) (g := fieldIn c)
    (fun j hj k hk => hmore.eq_of_attribute hj hk) (fun before k after hsplit _ j hj hname => ?_) _
  rw [hsplit] at hnodup hbase
  have hjk : j = k :=
    hbase.eq_of_attribute (List.mem_append_right _ (List.mem_cons_of_mem _ hj))
      (List.mem_append_right _ List.mem_cons_self) hname
  exact (List.nodup_cons.mp hnodup.of_append_right).1 (hjk ▸ hj)

/-- Directives declare the same as what has been put of them. -/
theorem foldl_declare_putAll_nil {c : ClassName} {ds : Entries String Directive}
    (h : NamesOnce c.short (keys ds)) (fields : Entries String Field) :
    (registeredDeclarations c (putAll [] ds)).foldl declare fields =
      (registeredDeclarations c ds).foldl declare fields :=
  foldl_declare_putAll nodup_keys_nil (h.mono (List.nil_subset _)) h fields

namespace ClassDecl

variable {d : ClassDecl}

/-- Annotations that carry directives declare what their directives do if they are registered. -/
theorem declared_eq_registered (h : ∀ e ∈ d.kept, e.2.meaning.directive?.isSome = true) :
    d.declared = registeredDeclarations (.declared d.name) d.directives := by
  rw [registeredDeclarations, directives, List.map_filterMap]
  change d.kept.map _ = _
  rw [← List.filterMap_eq_map]
  refine List.filterMap_congr fun e he => ?_
  obtain ⟨directive, hdirective⟩ := Option.isSome_iff_exists.mp (h e he)
  simp [hdirective, ClassName.short]

/-- The directives of a class stand in the annotations that are kept. -/
theorem keys_directives_subset (d : ClassDecl) : keys d.directives ⊆ keys d.kept := by
  intro name hname
  obtain ⟨e, he, rfl⟩ := List.mem_map.mp hname
  obtain ⟨e', he', hdirective⟩ := List.mem_filterMap.mp he
  obtain ⟨directive, -, rfl⟩ := Option.map_eq_some_iff.mp hdirective
  exact List.mem_map_of_mem he'

@[simp] theorem declared_stripped (d : ClassDecl) : d.stripped.declared = [] := by
  simp [declared, stripped]

end ClassDecl

/-! ### Classes without annotations -/

namespace Classes

/-- A class without its annotations is found in the place of the class. -/
theorem find?_stripped (moved : List String) (Γ : Classes) (name : String) :
    (Γ.stripped moved).find? name =
      (Γ.find? name).map fun d => if d.name ∈ moved then d.stripped else d :=
  find?_map (f := fun d => if d.name ∈ moved then d.stripped else d)
    (fun d => by split_ifs <;> rfl) Γ name

/-- Annotations are nothing to the order of the bases. -/
theorem order_stripped (moved : List String) (Γ : Classes) (c : ClassName) :
    (Γ.stripped moved).order c = Γ.order c :=
  order_map (f := fun d => if d.name ∈ moved then d.stripped else d)
    (fun d => by split_ifs <;> exact ⟨rfl, rfl, rfl⟩) Γ c

theorem registrations_cons (name : String) (moved : List String) (Γ : Classes) :
    Γ.registrations (name :: moved) =
      registering (.declared name) (Γ.directivesOf name) :: Γ.registrations moved := rfl

/-- Registrations for some classes are none for another one. -/
theorem accepted_registrations_of_ne {c : ClassName} (h : ∀ name ∈ moved, .declared name ≠ c)
    (Γ : Classes) : accepted (Γ.registrations moved) c = [] := by
  induction moved with
  | nil => rfl
  | cons first moved ih =>
    rw [List.forall_mem_cons] at h
    rw [registrations_cons, accepted_registering_cons, if_neg h.1, ih h.2]

/-- The directives of a class are registered by one call. -/
theorem accepted_registrations (hmoved : moved.Nodup) {name : String} (hname : name ∈ moved)
    (Γ : Classes) : accepted (Γ.registrations moved) (.declared name) = [Γ.directivesOf name] := by
  induction moved with
  | nil => cases hname
  | cons first moved ih =>
    obtain ⟨hfirst, hrest⟩ := List.nodup_cons.mp hmoved
    rw [registrations_cons, accepted_registering_cons]
    obtain rfl | hname := List.mem_cons.mp hname
    · have hnone : ∀ other ∈ moved, ClassName.declared other ≠ .declared name := by
        rintro other hother heq
        obtain rfl := ClassName.declared.inj heq
        exact hfirst hother
      rw [if_pos rfl, accepted_registrations_of_ne hnone]
    · have hne : ClassName.declared first ≠ .declared name := by
        intro heq
        obtain rfl := ClassName.declared.inj heq
        exact hfirst hname
      rw [if_neg hne, ih hrest hname]

end Classes

/-! ### The declarations of a run -/

namespace Session

/-- After some steps, a class declares its annotations and what the steps have registered for it. -/
theorem declaredBy_after (Γ : Classes) (steps : List SessionStep) (name : String) :
    ((start Γ).after steps).declaredBy (.declared name) =
      ((Γ.find? name).map ClassDecl.declared).getD [] ++
        registeredDeclarations (.declared name) (overwritten steps (.declared name)) := by
  rw [declaredBy, getD_registered_after, classes_after]
  rfl

/-- A class whose directives are not moved declares what it did. -/
theorem declaredBy_stripped_of_ne {c : ClassName} (hc : ∀ name ∈ moved, .declared name ≠ c) :
    ((start (Γ.stripped moved)).after (Γ.registrations moved ++ steps)).declaredBy c =
      ((start Γ).after steps).declaredBy c := by
  have hregistered : overwritten (Γ.registrations moved ++ steps) c = overwritten steps c := by
    rw [overwritten, overwritten, accepted_append, Classes.accepted_registrations_of_ne hc,
      List.nil_append]
  cases c with
  | declared name =>
    rw [declaredBy_after, declaredBy_after, hregistered, Classes.find?_stripped]
    cases hfind : Γ.find? name with
    | none => rfl
    | some d =>
      have hname : d.name ∉ moved := fun hd =>
        hc d.name hd (congrArg _ (Classes.name_of_find? hfind))
      rw [Option.map_some, if_neg hname]
  | _ =>
    unfold declaredBy
    rw [getD_registered_after, getD_registered_after, hregistered]

/-- Directives that are registered first make of the fields what they make if they are annotated. -/
theorem foldl_declare_directives {d : ClassDecl} (hd : d ∈ Γ.decls) (h : Γ.Movable steps)
    (fields : Entries String Field) :
    (registeredDeclarations (.declared d.name)
        (([d.directives] ++ accepted steps (.declared d.name)).foldl putAll [])).foldl declare
          fields =
      (d.declared ++ registeredDeclarations (.declared d.name)
        (overwritten steps (.declared d.name))).foldl declare fields := by
  have hlater := h.registered d hd
  unfold overwritten at hlater ⊢
  rw [foldl_putAll] at hlater ⊢
  rw [foldl_putAll, List.flatten_append, List.flatten_singleton, putAll_append]
  generalize (accepted steps (.declared d.name)).flatten = later at hlater ⊢
  let c := ClassName.declared d.name
  have hdirectives : NamesOnce c.short (keys d.directives) :=
    (h.annotated d hd).mono d.keys_directives_subset
  have hfirst : NamesOnce c.short (keys (putAll [] d.directives)) :=
    hdirectives.mono fun name hname => (mem_keys_putAll.mp hname).resolve_left List.not_mem_nil
  have hlater : NamesOnce c.short (keys later) :=
    hlater.mono fun name hname => mem_keys_putAll.mpr (.inr hname)
  calc
    _ = (registeredDeclarations c (putAll [] d.directives ++ later)).foldl declare fields :=
      foldl_declare_putAll (nodup_keys_putAll nodup_keys_nil _) hfirst hlater fields
    _ = (registeredDeclarations c later).foldl declare
          ((registeredDeclarations c d.directives).foldl declare fields) := by
      rw [registeredDeclarations_append, List.foldl_append, foldl_declare_putAll_nil hdirectives]
    _ = _ := by
      rw [List.foldl_append, ClassDecl.declared_eq_registered (h.directed d hd),
        foldl_declare_putAll_nil hlater]

/-- **Each class makes the same of the fields of its bases**, whether its directives are annotated
or registered. -/
theorem foldl_declaredBy_stripped (h : Γ.Movable steps) (hmoved : moved.Nodup) (c : ClassName)
    (fields : Entries String Field) :
    (((start (Γ.stripped moved)).after (Γ.registrations moved ++ steps)).declaredBy c).foldl
        declare fields =
      (((start Γ).after steps).declaredBy c).foldl declare fields := by
  by_cases hc : ∃ name ∈ moved, .declared name = c
  · obtain ⟨name, hname, rfl⟩ := hc
    rw [declaredBy_after, declaredBy_after, Classes.find?_stripped, overwritten, accepted_append,
      Classes.accepted_registrations hmoved hname, Classes.directivesOf]
    cases hfind : Γ.find? name with
    | none => rfl
    | some d =>
      obtain rfl := Classes.name_of_find? hfind
      have hd := List.mem_of_find?_eq_some hfind
      simp only [Option.map_some, Option.getD_some, if_pos hname, ClassDecl.declared_stripped]
      exact foldl_declare_directives hd h fields
  · have hne : ∀ name ∈ moved, .declared name ≠ c := fun name hname heq => hc ⟨name, hname, heq⟩
    rw [declaredBy_stripped_of_ne hne]

/-- A class has the same fields if the directives of some classes are registered instead. -/
theorem fieldsOf_declared_stripped (h : Γ.Movable steps) (hmoved : moved.Nodup) (c : ClassName) :
    fieldsOf (((start (Γ.stripped moved)).after (Γ.registrations moved ++ steps)).declared c) =
      fieldsOf (((start Γ).after steps).declared c) := by
  unfold fieldsOf declared
  rw [classes_after, classes_after, List.foldl_flatMap, List.foldl_flatMap]
  have horder : (start (Γ.stripped moved)).classes.order c = (start Γ).classes.order c :=
    Classes.order_stripped moved Γ c
  have hstep : (fun fields k => (((start (Γ.stripped moved)).after
      (Γ.registrations moved ++ steps)).declaredBy k).foldl declare fields) =
      fun fields k => (((start Γ).after steps).declaredBy k).foldl declare fields :=
    funext fun fields => funext fun k => foldl_declaredBy_stripped h hmoved k fields
  rw [horder, hstep]

end Session

namespace Classes

/-- **Directives can be annotated or registered.** Classes keep their fields, in place, when the
directives in the annotations of any of them are registered instead, before the calls of a run. -/
theorem fieldsAfter_stripped (h : Γ.Movable steps) (hmoved : moved.Nodup) (c : ClassName) :
    ∃ fields, Γ.fieldsAfter steps c = .ok fields ∧
      (Γ.stripped moved).fieldsAfter (Γ.registrations moved ++ steps) c = .ok fields := by
  have hstripped : ∀ d ∈ (Γ.stripped moved).decls, ∀ e ∈ d.annotations,
      ∃ m, e.2.evaluate = .ok m := by
    intro d' hd'
    obtain ⟨d, hd, rfl⟩ := List.mem_map.mp hd'
    split_ifs
    · intro e he
      exact h.evaluate d hd e (List.mem_filter.mp he).1
    · exact h.evaluate d hd
  refine ⟨_, Session.fst_perform_contextFields_after h.evaluate, ?_⟩
  rw [fieldsAfter, Session.fst_perform_contextFields_after hstripped,
    Session.fieldsOf_declared_stripped h hmoved]

/-- An account, and one that declares the owner again, with a private name and a class variable. -/
def accounts (owner : Hint) : Classes :=
  let field := Hint.annotated (.builtin .str) [.directive {}]
  { decls := [Session.bare "Account" [] [("owner", field), ("rate", field)],
    Session.bare "Savings" ["Account"]
      [("owner", owner), ("_Savings__pin", field), ("limit", .classVar (some (.builtin .int)))]] }

/-- The accounts with a text in the place of the type. -/
def savings : Classes :=
  accounts (.written "Owner" (.annotated (.builtin .str) [.directive { key := "holder" }]))

/-- A call that declares the owner and the private name once more, and a lookup. -/
def savingsSteps : List SessionStep :=
  [registering (.declared "Savings") [("__pin", {}), ("owner", { index := 0 })],
    .look (.declared "Savings")]

theorem fieldsAfter_stripped_savings :
    savings.Movable savingsSteps ∧ ["Savings"].Nodup ∧
      ∃ fields, savings.fieldsAfter savingsSteps (.declared "Savings") = .ok fields ∧
        (savings.stripped ["Savings"]).fieldsAfter
          (savings.registrations ["Savings"] ++ savingsSteps) (.declared "Savings") =
            .ok fields := by
  have hfaults : ∀ d ∈ savings.decls, ∀ e ∈ d.annotations, e.2.fault? = none := by decide
  have hdirected : ∀ d ∈ savings.decls, ∀ e ∈ d.kept, e.2.meaning.directive?.isSome = true := by
    decide
  have hnames : ∀ d ∈ savings.decls, NamesOnce d.name (keys d.kept) ∧
      NamesOnce d.name (keys (overwritten savingsSteps (.declared d.name))) := by
    unfold NamesOnce
    decide
  have hmovable : savings.Movable savingsSteps :=
    ⟨fun d hd e he => fault?_eq_none_iff.mp (hfaults d hd e he), hdirected,
      fun d hd => (hnames d hd).1, fun d hd => (hnames d hd).2⟩
  have hmoved : ["Savings"].Nodup := by decide
  exact ⟨hmovable, hmoved, fieldsAfter_stripped hmovable hmoved _⟩

/-- A type that is left in the place of an annotation would move the field of the base. -/
example :
    let owned := accounts (.annotated (.builtin .str) [.directive {}])
    let left := accounts (.builtin .str)
    (owned.fieldsAfter [] (.declared "Savings")).toOption.map (·.map (·.name)) =
        some ["owner", "rate", "__pin"] ∧
      (left.fieldsAfter [registering (.declared "Savings") [("owner", {})]]
          (.declared "Savings")).toOption.map (·.map (·.name)) =
        some ["rate", "__pin", "owner"] := by
  decide

end Classes
end Carryover
