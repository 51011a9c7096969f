import Carryover.Proofs.Field.Hierarchy

/-!
# Annotations that cannot be evaluated

Evaluating a text may raise a fault, and then the fields of the class are not found. The
annotations that can be no fields are left out, but not before they are evaluated: when an
annotation that can be a field is a text, all annotations of its class are evaluated.

| class | evaluated |
| --- | --- |
| with a text that can be a field | all annotations |
| without one | none |

So a lookup may stumble over an annotation that can be no field (`Stumbles`). Unless it does, it
fails exactly if an annotation that can be a field cannot be evaluated, and with the fault of the
first of them, bases first (`failsAsKept_iff`).
-/

namespace Carryover
namespace ClassDecl

variable {d : ClassDecl}

/-- A class that raises no fault has none in an annotation that can be a field. -/
theorem fault?_eq_none_of_mem_kept (h : d.fault? = none) {e : String × Hint} (he : e ∈ d.kept) :
    e.2.fault? = none := by
  unfold fault? at h
  split_ifs at h with hw
  · exact List.findSome?_eq_none_iff.mp h e (List.mem_filter.mp he).1
  · obtain ⟨name, h⟩ := e
    have hwritten : h.isWritten = false := by
      simp only [List.any_eq_true, not_exists, not_and, Bool.not_eq_true] at hw
      exact hw _ he
    cases h <;> first | rfl | cases hwritten

/-- The fault of a class is that of its first annotation that cannot be evaluated, and one that can
be a field is a text. -/
theorem fault?_eq_some {fault : Fault} (h : d.fault? = some fault) :
    (∃ e ∈ d.kept, e.2.isWritten = true) ∧ ∃ before e after, d.annotations = before ++ e :: after ∧
      e.2.fault? = some fault ∧ ∀ x ∈ before, x.2.fault? = none := by
  unfold fault? at h
  split_ifs at h with hw
  exact ⟨List.any_eq_true.mp hw, List.findSome?_eq_some_iff.mp h⟩

end ClassDecl

namespace Session

variable {s : Session} {c : ClassName} {fault : Fault}

/-- The annotations in a hierarchy that can be fields, bases first. -/
def kept (s : Session) (c : ClassName) : List (String × Hint) :=
  (s.classes.declsOf c).reverse.flatMap ClassDecl.kept

/-- The fault of the first annotation in a hierarchy that can be a field and cannot be
evaluated. -/
def keptFault? (s : Session) (c : ClassName) : Option Fault :=
  (s.kept c).findSome? fun (_, h) => h.fault?

/-- Whether a lookup fails exactly if an annotation that can be a field cannot be evaluated, and
then with the fault of the first of them. -/
def FailsAsKept (s : Session) (c : ClassName) : Prop :=
  ∀ e, (perform (contextFields c) s).1 = .error e ↔
    ∃ fault, s.keptFault? c = some fault ∧ e = .raised fault

/-- Whether the first annotation that a lookup evaluates and that raises a fault is one that can be
no field. -/
inductive Stumbles (s : Session) (c : ClassName) : Fault → Prop
  | over {above below : List ClassDecl} {d : ClassDecl} {before after : List (String × Hint)}
    {e : String × Hint} {fault : Fault}
    (hdecls : s.classes.declsOf c = above ++ d :: below)
    (hbelow : ∀ k ∈ below, k.fault? = none)
    (htext : ∃ e ∈ d.kept, e.2.isWritten = true)
    (hannotations : d.annotations = before ++ e :: after)
    (hbefore : ∀ x ∈ before, x.2.fault? = none)
    (hdropped : e.2.isKept e.1 = false)
    (hfault : e.2.fault? = some fault) : Stumbles s c fault

/-- A lookup that finds the fields anew fails with the fault of the hierarchy, or gives the fields
that its declarations make. -/
theorem fst_perform_contextFields (hs : s.caching = true → Entries.get? s.cache c = none) :
    (perform (contextFields c) s).1 =
      (faultOr (s.fault? c) (fieldsOf (s.declared c))).mapError .raised := by
  obtain ⟨t, ht, -⟩ := perform_contextFields c s
  have hnone : (if s.caching then Entries.get? s.cache c else none) = none := by
    split_ifs with hcaching
    · exact hs hcaching
    · rfl
  rw [ht, fieldsOf?, hnone]
  exact s.computeFields_eq c

/-- Where a lookup stumbles, it fails. -/
theorem Stumbles.fault?_eq (h : s.Stumbles c fault) : s.fault? c = some fault := by
  obtain ⟨hdecls, hbelow, ⟨x, hx, hwritten⟩, hannotations, hbefore, -, hfault⟩ := h
  rename_i above below d before after e
  have hd : d.fault? = some fault := by
    rw [ClassDecl.fault?, if_pos (List.any_eq_true.mpr ⟨x, hx, hwritten⟩)]
    exact List.findSome?_eq_some_iff.mpr ⟨before, e, after, hannotations, hfault, hbefore⟩
  refine List.findSome?_eq_some_iff.mpr ⟨below.reverse, d, above.reverse, ?_, hd, ?_⟩
  · simp [hdecls]
  · simpa using hbelow

/-- A hierarchy that raises no fault has none in an annotation that can be a field. -/
theorem keptFault?_eq_none (h : s.fault? c = none) : s.keptFault? c = none := by
  refine List.findSome?_eq_none_iff.mpr fun e he => ?_
  obtain ⟨d, hd, he⟩ := List.mem_flatMap.mp he
  exact ClassDecl.fault?_eq_none_of_mem_kept (List.findSome?_eq_none_iff.mp h d hd) he

/-- The fault of a hierarchy is that of the first annotation that can be a field and cannot be
evaluated, or the lookup stumbles. -/
theorem keptFault?_eq_or_stumbles (h : s.fault? c = some fault) :
    s.keptFault? c = some fault ∨ s.Stumbles c fault := by
  obtain ⟨below, d, above, hdecls, hd, hbelow⟩ := List.findSome?_eq_some_iff.mp h
  obtain ⟨htext, before, e, after, hannotations, hfault, hbefore⟩ := ClassDecl.fault?_eq_some hd
  cases hkept : e.2.isKept e.1 with
  | false =>
    have hsplit : s.classes.declsOf c = above.reverse ++ d :: below.reverse := by
      rw [← List.reverse_reverse (s.classes.declsOf c), hdecls]
      simp
    exact .inr (.over hsplit (by simpa using hbelow) htext hannotations hbefore hkept hfault)
  | true =>
    -- all that comes before the annotation and can be a field evaluates
    let keeps (x : String × Hint) : Bool := x.2.isKept x.1
    have hsplit : s.kept c = (below.flatMap ClassDecl.kept ++ before.filter keeps) ++
        e :: (after.filter keeps ++ above.flatMap ClassDecl.kept) := by
      have hd : d.kept = before.filter keeps ++ e :: after.filter keeps := by
        have hkeeps : d.kept = d.annotations.filter keeps := rfl
        rw [hkeeps, hannotations, List.filter_append, List.filter_cons_of_pos (p := keeps) hkept]
      rw [kept, hdecls, List.flatMap_append, List.flatMap_cons, hd]
      simp only [List.append_assoc, List.cons_append]
    refine .inl (List.findSome?_eq_some_iff.mpr ⟨_, e, _, hsplit, hfault, fun x hx => ?_⟩)
    obtain hx | hx := List.mem_append.mp hx
    · obtain ⟨k, hk, hx⟩ := List.mem_flatMap.mp hx
      exact ClassDecl.fault?_eq_none_of_mem_kept (hbelow k hk) hx
    · exact hbefore x (List.mem_filter.mp hx).1

/-- **A lookup fails for the annotations that can be fields, unless it stumbles**: it fails exactly
if one of them cannot be evaluated, and with the fault of the first of them, exactly if it does not
come upon another fault before, in an annotation that can be no field. -/
theorem failsAsKept_iff (hs : s.caching = true → Entries.get? s.cache c = none) :
    s.FailsAsKept c ↔ ∀ fault, s.Stumbles c fault → s.keptFault? c = some fault := by
  have hfails (e : Failure) : (perform (contextFields c) s).1 = .error e ↔
      ∃ fault, s.fault? c = some fault ∧ e = .raised fault := by
    rw [fst_perform_contextFields hs]
    cases s.fault? c with
    | none => simp [faultOr, Except.mapError]
    | some fault => simp [faultOr, Except.mapError, eq_comm]
  constructor
  · intro h fault hstumbles
    obtain ⟨fault', hkept, heq⟩ :=
      (h (.raised fault)).mp ((hfails _).mpr ⟨fault, hstumbles.fault?_eq, rfl⟩)
    rw [hkept, Failure.raised.inj heq]
  · intro h e
    rw [hfails]
    have heq : s.fault? c = s.keptFault? c := by
      cases hfault : s.fault? c with
      | none => exact (keptFault?_eq_none hfault).symm
      | some fault => exact ((keptFault?_eq_or_stumbles hfault).elim id (h fault)).symm
    rw [heq]

/-- A loan is an account. The rate of accounts is for the class and cannot be evaluated, but no
field of accounts is a text; of the fields of loans one cannot be evaluated. -/
def loans : Classes :=
  { decls := [bare "Account" []
      [("rate", .failing "ClassVar[Rate]" ⟨.name, "name 'Rate' is not defined"⟩),
      ("owner", .annotated (.builtin .str) [.directive {}])],
    bare "Loan" ["Account"] [("term", .written "Term" (.annotated (.builtin .int) [.directive {}])),
      ("due", .failing "Day" ⟨.name, "name 'Day' is not defined"⟩)]] }

theorem failsAsKept_iff_loan :
    (start loans).cache = [] ∧ (start loans).FailsAsKept (.declared "Loan") ∧
      (start loans).keptFault? (.declared "Loan") = some ⟨.name, "name 'Day' is not defined"⟩ := by
  have hfault : (start loans).fault? (.declared "Loan") =
      some ⟨.name, "name 'Day' is not defined"⟩ := by decide +kernel
  have hkept : (start loans).keptFault? (.declared "Loan") =
      some ⟨.name, "name 'Day' is not defined"⟩ := by rfl
  refine ⟨rfl, (failsAsKept_iff fun _ => rfl).mpr fun fault h => ?_, hkept⟩
  rw [hkept, ← h.fault?_eq, hfault]

/-- The limit of orders is for the class and cannot be evaluated; the amount is a text. -/
def limited : Classes :=
  { decls := [bare "Order" []
      [("limit", .failing "ClassVar[Money]" ⟨.name, "name 'Money' is not defined"⟩),
      ("amount", .written "Amount" (.annotated (.builtin .int) [.directive {}]))]] }

/-- **A fault of an annotation that is not kept is one of the lookup.** -/
theorem not_failsAsKept : ¬ (start limited).FailsAsKept (.declared "Order") := by
  intro h
  obtain ⟨_, hkept, -⟩ := (h (.raised ⟨.name, "name 'Money' is not defined"⟩)).mp rfl
  cases hkept

end Session
end Carryover
