import Carryover.Proofs.Action.StoredForms

/-!
# What stored texts are restored as

The tree of a stored text gives the context of an action under one key: the entries of the object
there, and none if nothing or a null is there. Any other text is to be refused. That is what
restoring a text comes to, but an entry that is false, zero or empty is passed over as if it were
absent (`restoresText_iff`).

| text | to be restored | restored |
| --- | --- | --- |
| not JSON, or no object | refused | refused |
| an object without the entry, or with a null there | without entries | without entries |
| an object with an object there | with its entries | with its entries |
| an object with a false, zero or empty entry | refused | without entries |
| an object with another entry | refused | refused |
-/

namespace Carryover
namespace Action

open Entries

/-- The parts of the identity of an action. -/
def identityParts : List String :=
  ["xid", "branch_id", "action_name", "is_delay_report"]

/-- The pairs that the tree of a stored text gives a context, unless it is to be refused. -/
def givenPairs? : Json → Option (Entries String Json)
  | .object entries =>
    match get? entries storedKey with
    | none | some .null => some []
    | some (.object pairs) => some pairs
    | some _ => none
  | _ => none

/-- Whether an action is restored as its text says: it holds exactly the pairs that the text gives,
in order, and is not marked as changed; it is refused because of its value if the text gives
none. -/
inductive RestoresText (text : String) : Except Failure Action → Prop
  | restored {pairs : Entries String Json} {a : Action}
    (hpairs : (Json.parse? text).bind givenPairs? = some pairs)
    (hcontext : a.context = pairs.map fun (k, w) => (k, w.toValue)) (hupdated : a.updated = false) :
    RestoresText text (.ok a)
  | refused {e : Failure} (hnone : (Json.parse? text).bind givenPairs? = none)
    (hclass : e.isA .badValue = true) : RestoresText text (.error e)

/-- Whether a tree has an entry for the context that is false, zero or empty, and neither a null nor
an object. -/
def isPassedOver : Json → Bool
  | .object entries =>
    match get? entries storedKey with
    | none | some .null | some (.object _) => false
    | some entry => isFalsy entry
  | _ => false

/-! ### The identity -/

/-- Each part of the identity can be set, and counts as no change. -/
theorem setPart_of_mem {key : String} (hkey : key ∈ identityParts) (a : Action) (v : Value) :
    ∃ b, a.setPart key v = .ok b ∧ b.updated = a.updated := by
  simp only [identityParts, List.mem_cons, List.not_mem_nil, or_false] at hkey
  obtain rfl | rfl | rfl | rfl := hkey <;> exact ⟨_, rfl, rfl⟩

/-- An action with an identity alone is not marked as changed. -/
theorem make_of_identityParts {identity : Entries String Value}
    (h : ∀ e ∈ identity, e.1 ∈ identityParts) :
    ∃ a, make identity = .ok a ∧ a.context = [] ∧ a.updated = false := by
  have hset (a : Action) : ∃ b, identity.foldlM (fun a e => a.setPart e.1 e.2) a = .ok b ∧
      b.updated = a.updated := by
    induction identity generalizing a with
    | nil => exact ⟨a, rfl, rfl⟩
    | cons e identity ih =>
      obtain ⟨b, hb, hupdated⟩ := setPart_of_mem (h e List.mem_cons_self) a e.2
      obtain ⟨c, hc, hupdated'⟩ := ih (fun e he => h e (List.mem_cons_of_mem _ he)) b
      refine ⟨c, ?_, hupdated'.trans hupdated⟩
      simp only [List.foldlM_cons, hb]
      exact hc
  obtain ⟨a, ha, hupdated⟩ := hset {}
  exact ⟨a, ha, context_make ha, hupdated⟩

/-! ### The context -/

/-- The pairs that a text gives are the context that is read from it, each value as its tree has it.
-/
theorem contextOfText_of_givenPairs? {text : String} {pairs : Entries String Json}
    (h : (Json.parse? text).bind givenPairs? = some pairs) :
    contextOfText text = .ok (pairs.map fun (k, w) => (k, w.toValue)) := by
  obtain ⟨j, hparse, hpairs⟩ := Option.bind_eq_some_iff.mp h
  unfold givenPairs? at hpairs
  unfold contextOfText
  rw [hparse]
  split at hpairs
  · split at hpairs <;> simp_all [isFalsy]
  · cases hpairs

/-- A tree that is passed over gives no pairs, and its text has the empty context. -/
theorem contextOfText_of_isPassedOver {text : String} {j : Json}
    (hparse : Json.parse? text = some j) (h : isPassedOver j = true) :
    givenPairs? j = none ∧ contextOfText text = .ok [] := by
  unfold isPassedOver at h
  unfold givenPairs? contextOfText
  rw [hparse]
  split at h
  · split at h <;> simp_all
  · cases h

/-- A text that gives no pairs is refused unless its tree is passed over. -/
theorem contextOfText_error {text : String} (hnone : (Json.parse? text).bind givenPairs? = none)
    (h : (Json.parse? text).any isPassedOver = false) :
    ∃ e, contextOfText text = .error e ∧ e.isA .badValue = true := by
  unfold contextOfText
  cases hparse : Json.parse? text with
  | none => exact ⟨_, rfl, rfl⟩
  | some j =>
    rw [hparse] at hnone h
    simp only [Option.bind_some, Option.any_some] at hnone h
    unfold givenPairs? at hnone
    unfold isPassedOver at h
    split at hnone
    · split at hnone <;> simp_all [Failure.isA, Failure.classes]
    · simp_all [Failure.isA, Failure.classes]

/-- A text gives the action its context, or is refused as its context is. -/
theorem ofText?_of_make {text : String} {identity : Entries String Value} {a : Action}
    (hne : text ≠ "") (ha : make identity = .ok a) :
    ofText? (some text) identity =
      (contextOfText text).map fun context => { a with context := context } := by
  rw [ofText?, ha]
  simp only [Bind.bind, Except.bind]
  cases contextOfText text <;> rfl

/-- A text with a JSON is not empty. -/
theorem ne_empty_of_parse? {text : String} {j : Json} (h : Json.parse? text = some j) :
    text ≠ "" := by
  rintro rfl
  cases h

/-- **An action is restored as its text says exactly if no entry is passed over.** -/
theorem restoresText_iff {text : String} {identity : Entries String Value} (hne : text ≠ "")
    (hidentity : ∀ e ∈ identity, e.1 ∈ identityParts) :
    RestoresText text (ofText? (some text) identity) ↔
      (Json.parse? text).any isPassedOver = false := by
  obtain ⟨a, ha, -, hupdated⟩ := make_of_identityParts hidentity
  rw [ofText?_of_make hne ha]
  constructor
  · intro h
    rw [Option.any_eq_false]
    intro j hparse
    by_contra hpassed
    obtain ⟨hnone, hempty⟩ := contextOfText_of_isPassedOver hparse (by simpa using hpassed)
    rw [hempty] at h
    cases h with
    | restored hpairs => simp [hparse, hnone] at hpairs
  · intro hkept
    cases hpairs : (Json.parse? text).bind givenPairs? with
    | some pairs =>
      rw [contextOfText_of_givenPairs? hpairs]
      exact .restored hpairs rfl hupdated
    | none =>
      obtain ⟨e, herror, hclass⟩ := contextOfText_error hpairs hkept
      rw [herror]
      exact .refused hpairs hclass

/-- The tree of a stored text with two pairs, beside an entry that no context needs. -/
def twoGiven : Json :=
  .object [("xid", .text "x-1"), (storedKey, .object [("b", .int 2), ("a", .null)])]

theorem parse?_twoGiven : Json.parse? twoGiven.render = some twoGiven := by
  refine Json.parse?_render (.object (by decide) (by decide) ?_)
  simp only [List.forall_mem_cons]
  refine ⟨.text (by decide), .object (by decide) (by decide) ?_, List.forall_mem_nil _⟩
  simp only [List.forall_mem_cons]
  exact ⟨.int (by decide) (by decide), .null (by decide), List.forall_mem_nil _⟩

theorem restoresText_iff_twoGiven :
    twoGiven.render ≠ "" ∧
      RestoresText twoGiven.render (ofText? (some twoGiven.render) [("xid", .text "x-1")]) := by
  have hne : twoGiven.render ≠ "" := ne_empty_of_parse? parse?_twoGiven
  refine ⟨hne, (restoresText_iff hne (by simp [identityParts])).mpr ?_⟩
  rw [parse?_twoGiven]
  rfl

/-- The tree of a stored text with a list in the place of the context. -/
def listGiven : Json :=
  .object [(storedKey, .list [])]

theorem parse?_listGiven : Json.parse? listGiven.render = some listGiven := by
  refine Json.parse?_render (.object (by decide) (by decide) ?_)
  exact List.forall_mem_singleton.mpr (.list (by decide) (List.forall_mem_nil _))

/-- A list in the place of the stored pairs is taken for no pairs. -/
theorem ofText?_listGiven : ofText? (some listGiven.render) [] = .ok {} := by
  have hmake : make [] = .ok {} := rfl
  obtain ⟨-, hempty⟩ := contextOfText_of_isPassedOver parse?_listGiven rfl
  rw [ofText?_of_make (ne_empty_of_parse? parse?_listGiven) hmake, hempty]
  rfl

/-- Not every text is restored as it says: an empty list is taken for no context. -/
theorem not_restoresText :
    ¬ ∀ (text : String) (j : Json) (identity : Entries String Value),
      Json.parse? text = some j → (∀ e ∈ identity, e.1 ∈ identityParts) →
        RestoresText text (ofText? (some text) identity) := by
  intro h
  have hlist := h listGiven.render listGiven [] parse?_listGiven (List.forall_mem_nil _)
  have hnone : givenPairs? listGiven = none := rfl
  rw [ofText?_listGiven] at hlist
  cases hlist with
  | restored hpairs => simp [parse?_listGiven, hnone] at hpairs

end Action
end Carryover
