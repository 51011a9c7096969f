import Carryover.Call.Extract
import Carryover.Proofs.Entries
import Carryover.Proofs.Hint.Resolved
import Carryover.Proofs.Operation

/-!
# Calls of one function, however it is presented

Arguments are bound to the parameters that a callable shows, and the directives are those of the
function at the heart of it. The two differ in a leading `self` at most: it is no parameter that
takes an argument, so a directive on it has nothing to place (`placeArguments_append`). A call comes
to the same for all ways of presenting a function (`extractCall_presented`), up to the name that
tells of hints which cannot be evaluated.

| presentation | parameters shown | parameters with hints |
| --- | --- | --- |
| function, static method, wrapped function | those of the function | the same |
| method, class method, wrapped method, called object | those of the function | `self` as well |
-/

namespace Carryover

open Entries

/-! ### Directives -/

/-- The function at the heart of a presentation is the function, or the function with `self`. -/
theorem function_present (as : Presentation) (f : Signature) (selfHint : Option Hint) :
    (as.present f selfHint).function = f ∨
      (as.present f selfHint).function = f.withSelf selfHint := by
  cases as <;> first | exact .inl rfl | exact .inr rfl

/-- The directives of a function by its hints. -/
def Signature.directives (Γ : Classes) (f : Signature) : Except Fault (Entries String Directive) :=
  (f.table Γ).map fun table => marked (putAll [] table) f.parameters

/-- The directives of a presented function are those of the function that stands behind it. -/
theorem directives_presented (Γ : Classes) (as : Presentation) (f : Signature)
    (selfHint : Option Hint) :
    (Callable.presented as f selfHint).directives Γ =
      (as.present f selfHint).function.directives Γ := by
  change (as.present f selfHint).function.table Γ >>= _ = _
  unfold Signature.directives
  cases (as.present f selfHint).function.table Γ <;> rfl

/-- Tables that agree on the names of parameters give them the same directives. -/
theorem marked_congr {table table' : Entries String Hint} {params : List Parameter}
    (h : ∀ p ∈ params, get? table p.name = get? table' p.name) :
    marked table params = marked table' params :=
  List.filterMap_congr fun p hp => by rw [h p hp]

/-- A first parameter is marked if its type has a directive. -/
theorem marked_cons (table : Entries String Hint) (p : Parameter) (params : List Parameter) :
    marked table (p :: params) =
      ((get? table p.name).bind fun h => h.directive?.map (p.name, ·)).toList ++
        marked table params := by
  unfold marked
  rw [List.filterMap_cons]
  cases (get? table p.name).bind fun h => h.directive?.map (p.name, ·) <;> rfl

variable {Γ : Classes} {f : Signature} {selfHint : Option Hint}

/-- With `self` a function has the hints from before, and that of `self` somewhere among them. -/
theorem exists_hints_withSelf (f : Signature) (selfHint : Option Hint) :
    ∃ before after, f.hints = before ++ after ∧
      (f.withSelf selfHint).hints = before ++ (selfHint.map ("self", ·)).toList ++ after := by
  unfold Signature.withSelf
  dsimp only
  split_ifs
  · refine ⟨(f.parameters.filter (·.kind = .either)).filterMap fun p => p.hint.map (p.name, ·),
      _, rfl, ?_⟩
    cases selfHint <;> simp [Signature.hints, Signature.hintOrder]
  · refine ⟨[], _, rfl, ?_⟩
    cases selfHint <;> simp [Signature.hints, Signature.hintOrder]

/-- With `self` the same fault comes first. -/
theorem unresolved?_withSelf (hself : ∀ h ∈ selfHint, ∃ m, h.resolve Γ = .ok m) :
    (f.withSelf selfHint).unresolved? Γ = f.unresolved? Γ := by
  obtain ⟨before, after, hbefore, hafter⟩ := exists_hints_withSelf f selfHint
  have hnone : ((selfHint.map ("self", ·)).toList.findSome? fun e => e.2.unresolved? Γ) = none := by
    cases selfHint with
    | none => rfl
    | some h =>
      obtain ⟨m, hm⟩ := hself h rfl
      simp [Hint.unresolved?_of_eq_ok hm]
  have hreturns : (f.withSelf selfHint).returns = f.returns := rfl
  rw [Signature.unresolved?, Signature.unresolved?, hafter, hbefore, hreturns]
  simp only [List.findSome?_append, hnone, Option.or_none]

/-- With `self` a table holds the same types for the other parameters. -/
theorem get?_table_withSelf {name : String} (hname : name ≠ "self") :
    get? (putAll [] ((f.withSelf selfHint).hints.map fun (name, h) => (name, h.resolved Γ))) name =
      get? (putAll [] (f.hints.map fun (name, h) => (name, h.resolved Γ))) name := by
  obtain ⟨before, after, hbefore, hafter⟩ := exists_hints_withSelf f selfHint
  rw [hafter, hbefore]
  simp only [List.map_append, putAll_append]
  refine get?_putAll_congr ?_ _
  cases selfHint with
  | none => rfl
  | some h => simp [get?_put, hname.symm]

/-- With `self` a function has the directives from before, and one on `self` at most. -/
theorem directives_withSelf (hf : ∀ p ∈ f.parameters, p.name ≠ "self")
    (hself : ∀ h ∈ selfHint, ∃ m, h.resolve Γ = .ok m) :
    ∃ lead : Entries String Directive, (∀ e ∈ lead, e.1 = "self") ∧
      (f.withSelf selfHint).directives Γ = (f.directives Γ).map (lead ++ ·) := by
  unfold Signature.directives
  rw [Signature.table_eq, Signature.table_eq, unresolved?_withSelf hself]
  cases f.unresolved? Γ with
  | some fault => exact ⟨[], List.forall_mem_nil _, rfl⟩
  | none =>
    refine ⟨_, ?_, congrArg Except.ok ((marked_cons _ _ f.parameters).trans
      (congrArg (_ ++ ·) (marked_congr fun p hp => get?_table_withSelf (hf p hp))))⟩
    intro e he
    obtain ⟨h, -, hd⟩ := Option.bind_eq_some_iff.mp (Option.mem_toList.mp he)
    obtain ⟨_, -, rfl⟩ := Option.map_eq_some_iff.mp hd
    rfl

/-! ### Arguments -/

/-- What is bound goes to the parameters one by one. -/
theorem exists_given_of_bind {params : List Parameter} {positional : List Value}
    {named : Entries String Value} {bound : Arguments}
    (h : bind params positional named = .ok bound) :
    ∃ given, bound = params.filterMap (Binding.withDefault given) := by
  unfold bind at h
  cases hp : Binding.positions named params positional with
  | error f => simp [hp, Bind.bind, Except.bind] at h
  | ok r =>
    cases hn : Binding.names r.2 named with
    | error f => simp [hp, hn, Bind.bind, Except.bind] at h
    | ok r' =>
      simp only [hp, hn, Bind.bind, Except.bind, pure, Except.pure] at h
      split at h <;> cases h <;> exact ⟨_, rfl⟩

/-- No argument has a name that is no parameter's. -/
theorem get?_bind_eq_none {params : List Parameter} {positional : List Value}
    {named : Entries String Value} {bound : Arguments} {name : String}
    (h : bind params positional named = .ok bound) (hname : ∀ p ∈ params, p.name ≠ name) :
    get? bound name = none := by
  obtain ⟨given, rfl⟩ := exists_given_of_bind h
  rw [get?_eq_none_iff]
  intro hmem
  obtain ⟨e, he, rfl⟩ := List.mem_map.mp hmem
  obtain ⟨p, hp, hgiven⟩ := List.mem_filterMap.mp he
  refine hname p hp ?_
  unfold Binding.withDefault at hgiven
  split at hgiven
  · cases hgiven
    rfl
  · split at hgiven <;> cases hgiven <;> rfl

/-- Directives on what takes no argument place nothing. -/
theorem placeArguments_append {bound : Arguments} {lead : Entries String Directive}
    (h : ∀ e ∈ lead, get? bound e.1 = none) (ds : Entries String Directive) (c : Context) :
    placeArguments bound (lead ++ ds) c = placeArguments bound ds c := by
  induction lead with
  | nil => rfl
  | cons e lead ih =>
    obtain ⟨he, hlead⟩ := List.forall_mem_cons.mp h
    obtain ⟨name, d⟩ := e
    rw [List.cons_append, placeArguments, he]
    exact ih hlead

/-! ### Calls -/

/-- What two calls come to is alike if it is the same, or if the hints of both cannot be read for
the same cause. -/
inductive CallAlike : Except Failure Context → Except Failure Context → Prop
  | same (r : Except Failure Context) : CallAlike r r
  | unread (name name' : String) (cause : Failure) :
    CallAlike (.error (.extraction name cause)) (.error (.extraction name' cause))

/-- A call binds its arguments, then reads the directives, then places the arguments. -/
theorem perform_extractCall (c : Callable) (positional : List Value)
    (named : Entries String Value) (s : Session) :
    perform (extractCall c positional named) s =
      match bind (c.parameters s.classes) positional named with
      | .error e => (.error (.binding e), s)
      | .ok bound =>
        match c.directives s.classes with
        | .error fault => (.error (unresolvedHints c.name fault), s)
        | .ok ds => perform (placeArguments bound ds []) s := by
  have hΓ : perform Run.classes s = (.ok s.classes, s) := rfl
  rw [extractCall, perform_bind, hΓ]
  dsimp only
  cases bind (c.parameters s.classes) positional named with
  | error e => rfl
  | ok bound => cases c.directives s.classes <;> rfl

/-- **A presented function is called as the function is**: its arguments are bound to the parameters
of the function, and placed by the directives of the function. -/
theorem perform_extractCall_presented (hf : ∀ p ∈ f.parameters, p.name ≠ "self")
    (as : Presentation) (positional : List Value) (named : Entries String Value) (s : Session)
    (hself : ∀ h ∈ selfHint, ∃ m, h.resolve s.classes = .ok m) :
    perform (extractCall (.presented as f selfHint) positional named) s =
      match bind f.parameters positional named with
      | .error e => (.error (.binding e), s)
      | .ok bound =>
        match f.directives s.classes with
        | .error fault =>
          (.error (unresolvedHints (Callable.presented as f selfHint).name fault), s)
        | .ok ds => perform (placeArguments bound ds []) s := by
  have hparameters : (Callable.presented as f selfHint).parameters s.classes = f.parameters :=
    as.parameters_present f selfHint
  rw [perform_extractCall, hparameters, directives_presented]
  cases hbind : bind f.parameters positional named with
  | error e => rfl
  | ok bound =>
    obtain hplain | hwith := function_present as f selfHint
    · rw [hplain]
    · obtain ⟨lead, hlead, hdirectives⟩ := directives_withSelf hf hself
      rw [hwith, hdirectives]
      cases f.directives s.classes with
      | error fault => rfl
      | ok ds =>
        have hnone : ∀ e ∈ lead, get? bound e.1 = none :=
          fun e he => (hlead e he).symm ▸ get?_bind_eq_none hbind hf
        exact congrArg (perform · s) (placeArguments_append hnone ds [])

/-- **How a function is presented does not matter to a call of it**: on its own or wrapped, as a
method of any kind or as the call of an object, and whatever the hint of `self` says, the same
arguments give the same context, fail to be bound alike, or find the hints unreadable for the same
cause. -/
theorem extractCall_presented {f : Signature} {selfHint selfHint' : Option Hint}
    (hf : ∀ p ∈ f.parameters, p.name ≠ "self") (s : Session)
    (hself : ∀ h ∈ selfHint, ∃ m, h.resolve s.classes = .ok m)
    (hself' : ∀ h ∈ selfHint', ∃ m, h.resolve s.classes = .ok m) (as as' : Presentation)
    (positional : List Value) (named : Entries String Value) :
    CallAlike (perform (extractCall (.presented as f selfHint) positional named) s).1
        (perform (extractCall (.presented as' f selfHint') positional named) s).1 ∧
      (perform (extractCall (.presented as f selfHint) positional named) s).2 =
        (perform (extractCall (.presented as' f selfHint') positional named) s).2 := by
  rw [perform_extractCall_presented hf as _ _ s hself,
    perform_extractCall_presented hf as' _ _ s hself']
  cases bind f.parameters positional named with
  | error e => exact ⟨.same _, rfl⟩
  | ok bound =>
    dsimp only
    cases f.directives s.classes with
    | error fault =>
      dsimp only [unresolvedHints]
      split_ifs
      · exact ⟨.unread _ _ _, rfl⟩
      · exact ⟨.same _, rfl⟩
    | ok ds => exact ⟨.same _, rfl⟩

/-- A payment of an order, which is given by its position alone, through a channel. -/
def payment : Signature where
  name := "pay"
  parameters :=
    [⟨"order", .positionOnly, some (.annotated (.builtin .int) [.directive {}]), none⟩,
      ⟨"channel", .nameOnly, some (.annotated (.builtin .str) [.directive {}]), some (.text "web")⟩]

/-- A hint of `self` that carries a directive of its own. -/
def paymentDesk : Hint :=
  .annotated .any [.directive { key := "desk" }]

theorem extractCall_presented_payment :
    (∀ p ∈ payment.parameters, p.name ≠ "self") ∧ paymentDesk.resolve {} = .ok paymentDesk ∧
      CallAlike
        (perform (extractCall (.presented .wrappedMethod payment (some paymentDesk)) [.int 7] [])
          (.start {})).1
        (perform (extractCall (.presented .staticMethod payment none) [.int 7] [])
          (.start {})).1 ∧
      (perform (extractCall (.presented .staticMethod payment none) [.int 7] []) (.start {})).1 =
        .ok [("order", .int 7), ("channel", .text "web")] := by
  have hf : ∀ p ∈ payment.parameters, p.name ≠ "self" := by simp [payment]
  have hself : ∀ h ∈ some paymentDesk, ∃ m, h.resolve {} = .ok m := by
    rintro _ ⟨⟩
    exact ⟨paymentDesk, rfl⟩
  have hkey (name : String) : ({} : Directive).resolve name = name :=
    Directive.resolve_of_blank Text.blank_empty Text.blank_empty name
  refine ⟨hf, rfl, (extractCall_presented hf (.start {}) hself (by simp) _ _ _ _).1, ?_⟩
  change Except.ok [(({} : Directive).resolve "order", Value.int 7),
    (({} : Directive).resolve "channel", Value.text "web")] = _
  rw [hkey, hkey]

end Carryover
