import Carryover.Proofs.Field.Registration

/-!
# Annotations as texts

An annotation may be given as a text that evaluates to the type, in place of the type. That a
type is for the class alone is then read off the text (`isClassForm`), before it is evaluated;
of a type as it is, off the type (`Hint.isClassLevel`). Where the two agree on each annotation that
is replaced, a class keeps the same annotations (`isKept_postpone`), and these stand for the same
types, so that all classes of the hierarchy have the same fields (`contextFields_postpone`).
-/

namespace Carryover

/-- Whether a type is given as it is, and not as a text. -/
def Hint.isEvaluated : Hint → Bool
  | .written .. | .failing .. | .textObject _ => false
  | .object v => v.asText?.isNone
  | _ => true

/-- A type, or the text in its place. -/
def Hint.postpone (h : Hint) : Option String → Hint
  | some text => .written text h
  | none => h

/-- A class with texts in the place of some annotations. -/
def ClassDecl.postpone (texts : String → Option String) (d : ClassDecl) : ClassDecl :=
  { d with annotations := d.annotations.map fun (name, h) => (name, h.postpone (texts name)) }

/-- Classes with texts in the place of some annotations, by class and name. -/
def Classes.postpone (texts : String → String → Option String) (Γ : Classes) : Classes :=
  { Γ with decls := Γ.decls.map fun d => d.postpone (texts d.name) }

/-- Whether all annotations are given as types. -/
def Classes.Evaluated (Γ : Classes) : Prop :=
  ∀ d ∈ Γ.decls, ∀ e ∈ d.annotations, e.2.isEvaluated = true

/-- Whether texts tell the same of each annotation as the type that they stand for: whether it is
for the class alone. -/
def Classes.TellClassLevel (Γ : Classes) (texts : String → String → Option String) : Prop :=
  ∀ d ∈ Γ.decls, ∀ e ∈ d.annotations, ∀ text ∈ texts d.name e.1,
    isClassForm text = e.2.isClassLevel

variable {Γ : Classes} {texts : String → String → Option String}

/-! ### One annotation -/

/-- An annotation that is no text is kept if its name is none of the language and it is not for the
class alone. -/
theorem isKept_of_isEvaluated {h : Hint} (he : h.isEvaluated = true) (name : String) :
    h.isKept name = (!isDunder name && !h.isClassLevel) := by
  cases h <;> first | rfl | cases he

/-- A text that tells the same as the type is kept as the type is. -/
theorem isKept_postpone {h : Hint} (he : h.isEvaluated = true) {text : Option String}
    (htext : ∀ t ∈ text, isClassForm t = h.isClassLevel) (name : String) :
    (h.postpone text).isKept name = h.isKept name := by
  cases text with
  | none => rfl
  | some t =>
    rw [isKept_of_isEvaluated he, ← htext t rfl]
    rfl

/-- A postponed annotation means the same. -/
theorem meaning_postpone {h : Hint} (he : h.isEvaluated = true) (text : Option String) :
    (h.postpone text).meaning = h.meaning := by
  cases text with
  | none => rfl
  | some t => cases h <;> first | rfl | cases he

/-- A postponed annotation has no fault. -/
theorem fault?_postpone {h : Hint} (he : h.isEvaluated = true) (text : Option String) :
    (h.postpone text).fault? = none := by
  cases text with
  | none => cases h <;> first | rfl | cases he
  | some t => rfl

/-! ### One class -/

namespace Classes

/-- A class with postponed annotations is found in the place of the class. -/
theorem find?_postpone (texts : String → String → Option String) (Γ : Classes) (name : String) :
    (Γ.postpone texts).find? name =
      (Γ.find? name).map fun d => d.postpone (texts d.name) :=
  find?_map (f := fun d => d.postpone (texts d.name)) (fun _ => rfl) Γ name

/-- Annotations are nothing to the order of the bases. -/
theorem order_postpone (texts : String → String → Option String) (Γ : Classes) (c : ClassName) :
    (Γ.postpone texts).order c = Γ.order c :=
  order_map (f := fun d => d.postpone (texts d.name)) (fun _ => ⟨rfl, rfl, rfl⟩) Γ c

end Classes

namespace ClassDecl

variable {d : ClassDecl} {given : String → Option String}

/-- The declarations of a class are the same with texts in the place of annotations. -/
theorem declared_postpone (he : ∀ e ∈ d.annotations, e.2.isEvaluated = true)
    (hgiven : ∀ e ∈ d.annotations, ∀ text ∈ given e.1, isClassForm text = e.2.isClassLevel) :
    (d.postpone given).declared = d.declared := by
  unfold declared postpone
  dsimp only
  rw [List.filter_map, List.map_map]
  have hkept : d.annotations.filter ((fun e : String × Hint => e.2.isKept e.1) ∘
      fun e => (e.1, e.2.postpone (given e.1))) = d.annotations.filter fun e => e.2.isKept e.1 :=
    List.filter_congr fun e h => isKept_postpone (he e h) (hgiven e h) e.1
  rw [hkept]
  refine List.map_congr_left fun e h => ?_
  simp only [Function.comp_apply, meaning_postpone (he e (List.mem_filter.mp h).1)]

/-- Postponed annotations can be evaluated. -/
theorem evaluates_postpone (he : ∀ e ∈ d.annotations, e.2.isEvaluated = true) :
    ∀ e ∈ (d.postpone given).annotations, ∃ m, e.2.evaluate = .ok m := by
  intro e h
  obtain ⟨⟨name, h⟩, hmem, rfl⟩ := List.mem_map.mp h
  exact fault?_eq_none_iff.mp (fault?_postpone (he _ hmem) (given name))

end ClassDecl

/-! ### Sessions -/

namespace Session

variable {s t : Session}

/-- Sessions with the same registered directives find the same declarations. -/
theorem declared_postpone (hΓ : Γ.Evaluated) (htexts : Γ.TellClassLevel texts)
    (hs : s.classes = Γ) (ht : t.classes = Γ.postpone texts)
    (hregistered : ∀ k, (Entries.get? t.registered k).getD [] =
      (Entries.get? s.registered k).getD []) (c : ClassName) : t.declared c = s.declared c := by
  unfold declared
  rw [ht, Classes.order_postpone, hs]
  refine List.flatMap_congr fun k _ => ?_
  unfold declaredBy
  rw [hregistered]
  cases k with
  | declared name =>
    dsimp only
    rw [ht, hs, Classes.find?_postpone]
    cases hfind : Γ.find? name with
    | none => rfl
    | some d =>
      have hd := List.mem_of_find?_eq_some hfind
      simp only [Option.map_some, ClassDecl.declared_postpone (hΓ d hd) (htexts d hd)]
  | _ => rfl

/-- **Types and texts in the place of types give the same fields**, to all classes of a hierarchy,
after any lookups, extractions and registrations, if each text tells the same as the type whether it
is for the class alone. -/
theorem contextFields_postpone (hΓ : Γ.Evaluated) (htexts : Γ.TellClassLevel texts)
    (steps : List SessionStep) (c : ClassName) :
    ∃ fields, (perform (contextFields c) ((start Γ).after steps)).1 = .ok fields ∧
      (perform (contextFields c) ((start (Γ.postpone texts)).after steps)).1 = .ok fields := by
  have hs : ∀ d ∈ Γ.decls, ∀ e ∈ d.annotations, ∃ m, e.2.evaluate = .ok m :=
    fun d hd e h => fault?_eq_none_iff.mp (fault?_postpone (hΓ d hd e h) none)
  have ht : ∀ d ∈ (Γ.postpone texts).decls, ∀ e ∈ d.annotations, ∃ m, e.2.evaluate = .ok m := by
    intro d hd
    obtain ⟨d', hd', rfl⟩ := List.mem_map.mp hd
    exact ClassDecl.evaluates_postpone (hΓ d' hd')
  have hregistered : ∀ k,
      (Entries.get? ((start (Γ.postpone texts)).after steps).registered k).getD [] =
        (Entries.get? ((start Γ).after steps).registered k).getD [] := fun k => by
    rw [getD_registered_after, getD_registered_after]
  have hsame := declared_postpone hΓ htexts (classes_after _ steps) (classes_after _ steps)
    hregistered c
  refine ⟨_, fst_perform_contextFields_after hs, ?_⟩
  rw [fst_perform_contextFields_after ht, hsame]

/-- A transfer in the currency that is the same for all of them. -/
def transfers : Classes :=
  { decls := [bare "Record" [] [("tenant", .annotated (.builtin .str) [.directive {}]),
      ("currency", .classVar (some (.builtin .str)))],
    bare "Transfer" ["Record"] [("amount", .annotated (.builtin .int) [.directive {}]),
      ("audit", .initVar (some (.builtin .bool)))]] }

/-- Texts in the place of all annotations but that of the amount. -/
def transferTexts (cls name : String) : Option String :=
  if cls = "Record" then some (if name = "tenant" then "Tenant" else "ClassVar[str]")
  else if name = "audit" then some " InitVar [bool]"
  else none

theorem contextFields_postpone_transfers :
    transfers.Evaluated ∧ transfers.TellClassLevel transferTexts ∧
      ∃ fields,
        (perform (contextFields (.declared "Transfer"))
          ((start transfers).after [.register (.declared "Record") [("code", .directive {})]])).1 =
            .ok fields ∧
        (perform (contextFields (.declared "Transfer"))
          ((start (transfers.postpone transferTexts)).after
            [.register (.declared "Record") [("code", .directive {})]])).1 = .ok fields := by
  have hΓ : transfers.Evaluated := by
    unfold Classes.Evaluated
    decide
  have htexts : transfers.TellClassLevel transferTexts := by
    unfold Classes.TellClassLevel
    decide
  exact ⟨hΓ, htexts, contextFields_postpone hΓ htexts _ _⟩

end Session
end Carryover
