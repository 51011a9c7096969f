import Carryover.Proofs.Class.Order
import Carryover.Proofs.Field.Lookup
import Carryover.Proofs.Field.Runs

/-!
# The fields of a class hierarchy

The declarations that count for a class are those of the classes in its order, bases first and
without the class of all objects: of each class the annotations that can be fields, in order,
and then the names that are registered for it, in order. When every annotation evaluates, a
session looks up the fields that these declarations make (`contextFields_areFieldsOf`). Else it
fails as the first class does whose annotations cannot be evaluated (`Session.computeFields_eq`).
-/

namespace Carryover

/-- The type that an annotation stands for, if it evaluates. -/
def Hint.meaning : Hint → Hint
  | .written _ meaning => meaning
  | h => h

/-- Whether a type is for the class or its constructor and not for the instances. -/
def Hint.isClassLevel : Hint → Bool
  | .classVar _ | .initVar _ => true
  | _ => false

/-- The fault that evaluating an annotation raises, if it raises one. -/
def Hint.fault? : Hint → Option Fault
  | .failing _ fault => some fault
  | _ => none

/-- A fault if there is one, else a value. -/
def faultOr {ε α : Type} (fault : Option ε) (a : α) : Except ε α :=
  match fault with
  | some e => .error e
  | none => .ok a

/-- An annotation evaluates to its fault, or to its meaning if it has none. -/
theorem evaluate_eq (h : Hint) : h.evaluate = faultOr h.fault? h.meaning := by
  cases h <;> rfl

/-- An annotation has no fault if it can be evaluated. -/
theorem fault?_eq_none_iff {h : Hint} : h.fault? = none ↔ ∃ m, h.evaluate = .ok m := by
  cases h <;> simp [Hint.fault?, Hint.evaluate]

/-- The annotations of a class that can be fields. -/
def ClassDecl.kept (d : ClassDecl) : List (String × Hint) :=
  d.annotations.filter fun (name, h) => h.isKept name

/-- The fault that evaluating the annotations of a class raises. They are evaluated when one that
can be a field is a text, and then all of them are. -/
def ClassDecl.fault? (d : ClassDecl) : Option Fault :=
  if d.kept.any fun (_, h) => h.isWritten then d.annotations.findSome? fun (_, h) => h.fault?
  else none

/-- The declarations of a class by the annotations that can be fields. -/
def ClassDecl.declared (d : ClassDecl) : List Declaration :=
  (d.annotations.filter fun (name, h) => h.isKept name).map fun (name, h) =>
    let (natural, attr) := attributeNames d.name name
    ⟨natural, attr, .declared d.name, h.meaning.directive?⟩

namespace Session

/-- The declarations that one class makes: first its annotations, then its registered names. -/
def declaredBy (s : Session) (c : ClassName) : List Declaration :=
  let annotated :=
    match c with
    | .declared name => ((s.classes.find? name).map ClassDecl.declared).getD []
    | _ => []
  annotated ++ registeredDeclarations c ((Entries.get? s.registered c).getD [])

/-- The declarations that count for a class: those of the classes in its order, bases first. -/
def declared (s : Session) (c : ClassName) : List Declaration :=
  ((s.classes.order c).reverse.filter (· != .builtin .object)).flatMap s.declaredBy

/-- Whether every annotation of a class and of its bases evaluates. -/
def Evaluates (s : Session) (c : ClassName) : Prop :=
  ∀ d ∈ s.classes.declsOf c, ∀ e ∈ d.annotations, ∃ m, e.2.evaluate = .ok m

end Session

/-- A step that may raise a fault on each member of a list raises the first of them on the list. -/
theorem mapM_eq_faultOr {ε α β : Type} {f : α → Except ε β} {p : α → Option ε} {g : α → β}
    {xs : List α} (h : ∀ x ∈ xs, f x = faultOr (p x) (g x)) :
    xs.mapM f = faultOr (xs.findSome? p) (xs.map g) := by
  induction xs with
  | nil => rfl
  | cons x xs ih =>
    rw [List.mapM_cons, h x List.mem_cons_self, ih fun y hy => h y (List.mem_cons_of_mem _ hy),
      List.findSome?_cons]
    cases p x with
    | some e => rfl
    | none => cases xs.findSome? p <;> rfl

namespace ClassDecl

/-- The annotations that can be fields stand for their meanings, whether they are evaluated or
taken as they are. -/
theorem keptHints_eq (d : ClassDecl) :
    d.keptHints = faultOr d.fault? (d.kept.map fun (name, h) => (name, h.meaning)) := by
  unfold keptHints fault? kept
  dsimp only
  split_ifs with hw
  · rw [mapM_eq_faultOr (p := fun e => e.2.fault?) (g := fun e => (e.1, e.2, e.2.meaning))]
    · cases d.annotations.findSome? fun e => e.2.fault? with
      | some fault => rfl
      | none =>
        change Except.ok _ = Except.ok _
        rw [List.filterMap_map, ← List.filterMap_eq_map, List.filterMap_filter]
        rfl
    · intro e _
      rw [evaluate_eq]
      cases e.2.fault? <;> rfl
  · have hid : ∀ e ∈ d.annotations.filter fun e => e.2.isKept e.1, (e.1, e.2.meaning) = e := by
      intro e he
      have hwritten : e.2.isWritten = false := by
        simp only [List.any_eq_true, not_exists, not_and, Bool.not_eq_true] at hw
        exact hw e he
      obtain ⟨name, h⟩ := e
      cases h <;> simp_all [Hint.meaning, Hint.isWritten]
    exact congrArg Except.ok ((List.map_congr_left hid).trans (List.map_id' _)).symm

/-- The annotations of a class are what it declares, unless one of them has a fault. -/
theorem annotated_eq (d : ClassDecl) : d.annotated = faultOr d.fault? d.declared := by
  rw [annotated, keptHints_eq]
  cases d.fault? with
  | some fault => rfl
  | none =>
    change Except.ok _ = Except.ok _
    rw [List.map_map]
    rfl

end ClassDecl

namespace Session

variable {s : Session} {c : ClassName}

/-- The fault that evaluating the annotations in a hierarchy raises, bases first. -/
def fault? (s : Session) (c : ClassName) : Option Fault :=
  (s.classes.declsOf c).reverse.findSome? ClassDecl.fault?

/-- The declarations that a session finds are those that count, unless an annotation raises a
fault. -/
theorem declarations_eq_faultOr (s : Session) (c : ClassName) :
    s.declarations c = faultOr (s.fault? c) (s.declared c) := by
  let own (k : ClassName) : Option Fault :=
    match k with
    | .declared name => (s.classes.find? name).bind ClassDecl.fault?
    | _ => none
  have hown (k : ClassName) : s.ownDeclarations k = faultOr (own k) (s.declaredBy k) := by
    unfold ownDeclarations declaredBy
    cases k with
    | declared name =>
      cases hfind : s.classes.find? name with
      | none => simp only [hfind, own]; rfl
      | some d =>
        simp only [hfind, own, ClassDecl.annotated_eq]
        cases hd : d.fault? <;> simp [hd] <;> rfl
    | _ => rfl
  have hfault : ((s.classes.order c).reverse.filter (· != .builtin .object)).findSome? own =
      s.fault? c := by
    unfold fault? Classes.declsOf
    simp only [← List.head?_filterMap, ← List.filterMap_reverse, List.filterMap_filterMap,
      List.filterMap_filter]
    refine congrArg List.head? (List.filterMap_congr fun k _ => ?_)
    cases k with
    | builtin b => cases b <;> rfl
    | _ => rfl
  unfold declarations
  dsimp only
  rw [mapM_eq_faultOr (fun k _ => hown k), hfault]
  cases s.fault? c <;> rfl

/-- The fields that a session finds are those that the declarations make, unless an annotation
raises a fault. -/
theorem computeFields_eq (s : Session) (c : ClassName) :
    s.computeFields c = (faultOr (s.fault? c) (fieldsOf (s.declared c))).mapError .raised := by
  rw [computeFields, declarations_eq_faultOr]
  cases s.fault? c <;> rfl

/-- A class whose annotations can be evaluated has no fault. -/
theorem fault?_eq_none (he : s.Evaluates c) : s.fault? c = none := by
  refine List.findSome?_eq_none_iff.mpr fun d hd => ?_
  rw [List.mem_reverse] at hd
  unfold ClassDecl.fault?
  split_ifs
  · exact List.findSome?_eq_none_iff.mpr fun e h => fault?_eq_none_iff.mpr (he d hd e h)
  · rfl

/-- The declarations that a session finds are those that count, when every annotation
evaluates. -/
theorem declarations_eq (he : s.Evaluates c) : s.declarations c = .ok (s.declared c) := by
  rw [declarations_eq_faultOr, fault?_eq_none he]
  rfl

/-- **A lookup finds the fields that the declarations of a hierarchy make.** -/
theorem contextFields_areFieldsOf (hs : s.Coherent) (he : s.Evaluates c) :
    ∃ fields t, perform (contextFields c) s = (.ok fields, t) ∧
      AreFieldsOf (s.declared c) fields := by
  obtain ⟨t, ht, -⟩ := perform_contextFields c s
  refine ⟨fieldsOf (s.declared c), t, ?_, areFieldsOf_fieldsOf _⟩
  rw [ht, hs.fieldsOf?_eq, computeFields, declarations_eq he]

/-- A class of which only the bases and the annotations matter. -/
def bare (name : String) (bases : List String) (annotations : Entries String Hint) : ClassDecl :=
  { name, kind := .plain, bases, annotations }

/-- A diamond of classes: `tenant` is a field of `Base`, none of `Left`, and one of `Bottom`
again; `code` is a field of `Right`. -/
def diamond : Classes :=
  let field := Hint.annotated (.builtin .str) [.directive {}]
  { decls := [bare "Base" [] [("tenant", field)],
    bare "Left" ["Base"] [("tenant", .builtin .str)],
    bare "Right" ["Base"] [("code", field)],
    bare "Bottom" ["Left", "Right"] [("tenant", .written "Field" field)]] }

theorem contextFields_areFieldsOf_diamond :
    ∃ fields t, perform (contextFields (.declared "Bottom")) (.start diamond) = (.ok fields, t) ∧
      AreFieldsOf ((start diamond).declared (.declared "Bottom")) fields := by
  refine contextFields_areFieldsOf (coherent_of_cache_nil rfl) ?_
  intro d hd e he
  obtain ⟨k, -, hk⟩ := List.mem_filterMap.mp hd
  cases k with
  | declared name =>
    have hall : ∀ d ∈ diamond.decls, ∀ e ∈ d.annotations, ∃ m, e.2.evaluate = .ok m := by
      simp [diamond, bare, Hint.evaluate]
    exact hall d (List.mem_of_find?_eq_some hk) e he
  | _ => cases hk

/-- A field that was taken away and declared again comes last. -/
example : (fieldsOf ((start diamond).declared (.declared "Bottom"))).map (·.name) =
    ["code", "tenant"] := by
  decide

end Session
end Carryover
