import Carryover.Proofs.Action.Restore
import Carryover.Proofs.Stored.Survival

/-!
# Typed reads of restored actions

A value that was written to an action and read as its own class is read as this class again after
the action was stored and restored, if the stored text can be read and the value survives, and only
then (`kept_restored_iff`).

| value | survives |
| --- | --- |
| flag, whole number, double, text | always |
| member of an enumeration of numbers | always |
| member of an enumeration of texts, complex number | never |
| fraction | if it is a whole number |
| decimal number | if it is a whole number, or has the fewest digits of a double |
| number of a declared class | never: the action cannot be stored |
| any other value, stored as a JSON text | always |

What is stored as a JSON text is a plain text after the action was restored, and is read by the same
text. Flags, numbers and texts are read as they are before that, and by the JSON they were written
as afterwards.
-/

namespace Carryover

open Entries

namespace Action

variable {Γ : Classes}

/-- The tree of an action is reread entry by entry. -/
theorem reread_tree {es : Entries String Json} (hkeys : (keys es).Nodup) :
    (Json.object [(storedKey, .object es)]).reread 0 =
      (Json.rereadEntries 2 es).map fun fs => .object [(storedKey, .object fs)] := by
  have hput (fs : Entries String Json) (hfs : Json.rereadEntries 2 es = some fs) :
      putAll [] fs = fs := by
    rw [Json.rereadEntries_eq_mapM] at hfs
    exact putAll_of_nodup (by simpa [keys_of_mapM hfs] using hkeys)
  simp only [Json.reread, Json.rereadEntries]
  cases hfs : Json.rereadEntries 2 es with
  | none => simp
  | some fs =>
    have hone (j : Json) : putAll [] [(storedKey, j)] = [(storedKey, j)] := rfl
    simp [Json.depthLimit, hput fs hfs, hone]

/-- Of a text that is no JSON no action is made. -/
theorem ofText?_of_parse?_eq_none {text : String} (hne : text ≠ "")
    (h : Json.parse? text = none) : ofText? (some text) [] = .error .malformedJson := by
  have hc : contextOfText text = .error .malformedJson := by
    rw [contextOfText, h]
  have hm : make [] = .ok {} := rfl
  rw [ofText?, hm]
  simp only [hc]
  rfl

/-- What is restored. -/
theorem ofText?_render {es : Entries String Json} (hkeys : (keys es).Nodup) {r : Action} :
    ofText? (some (Json.object [(storedKey, .object es)]).render) [] = .ok r ↔
      (Json.object [(storedKey, .object es)]).isShort = true ∧
        ∃ fs, Json.rereadEntries 2 es = some fs ∧
          r = { context := fs.map fun (k, j) => (k, j.toValue) } := by
  have hparse := Json.parse?_render_eq (.object [(storedKey, .object es)])
  have hne : (Json.object [(storedKey, .object es)]).render ≠ "" := by
    simp [Json.render, Json.chars]
  rw [reread_tree hkeys] at hparse
  by_cases hshort : (Json.object [(storedKey, .object es)]).isShort = true
  · rw [if_pos hshort] at hparse
    cases hfs : Json.rereadEntries 2 es with
    | none =>
      rw [hfs] at hparse
      simp [ofText?_of_parse?_eq_none hne hparse]
    | some fs =>
      rw [hfs] at hparse
      simp [ofText?_of_parse? hparse, hshort, eq_comm]
  · rw [if_neg hshort] at hparse
    simp [ofText?_of_parse?_eq_none hne hparse, hshort]

/-- A typed read decodes what the context holds, or the absent value. -/
theorem perform_read (a : Action) (key : String) (target : Hint) (s : Session) :
    perform (a.read key (some target)) s =
      perform (decode key ((get? a.context key).getD .null) target) s := rfl

/-- The absent value is read as its class by none. -/
theorem ne_null_of_read {a : Action} {key : String} {v w : Value} {s : Session}
    (h : (perform (a.read key (some (.cls v.classOf))) s).1 = .ok w) : v ≠ .null := by
  rintro rfl
  cases h

/-- A write that comes to its end leaves the stored form of the value under the key. -/
theorem context_of_add {a b : Action} {key : String} {v : Value} {changed : Bool} (hn : v ≠ .null)
    (h : perform (add Γ key v) a = (.ok changed, b)) :
    ∃ st, Γ.encode v = .ok st ∧ b.context = put a.context key st := by
  have hupdate : a.update Γ (.one key v) = (.ok changed, b) := h
  rw [update_eq, Update.toContext, perform_mergeOne hn] at hupdate
  cases hst : Γ.encode v with
  | error f =>
    rw [hst] at hupdate
    cases hupdate
  | ok st =>
    refine ⟨st, rfl, ?_⟩
    rw [hst] at hupdate
    dsimp only at hupdate
    split at hupdate
    · rename_i heq
      cases hupdate
      exact (Prod.mk.inj heq).2.symm
    · cases hupdate

/-- The stored form of a value is reread as it is. -/
theorem reread_written {v : Value} (hΓ : Γ.Admits v) (hv : v.isPrimitive = true)
    (hn : v.isDeclaredNumber = false) {depth : Nat} (hdepth : depth ≤ Json.depthLimit) :
    v.written.reread depth = some v.written := by
  cases v with
  | bool | int | float | complex | decimal | fraction | text | jsonText =>
    simp [Value.written, Json.reread, not_lt.mpr hdepth]
  | member cls mixin name w =>
    obtain ⟨-, i, rfl⟩ | ⟨-, t, rfl⟩ := value_of_isPrimitive hΓ hv <;>
      simp [Value.written, Json.reread, not_lt.mpr hdepth]
  | number => cases hn
  | _ => cases hv

/-- The tree of an action after a write, if it had one before. -/
theorem strictJson?_put {a b : Action} {key text : String} {st : Value}
    (hkeys : (keys a.context).Nodup) (htext : a.toText Γ = .ok text) (hΓ : Γ.Admits st)
    (hst : st.isPrimitive = true) (hn : st.isDeclaredNumber = false)
    (hb : b.context = put a.context key st) :
    ∃ es : Entries String Json, (keys es).Nodup ∧ get? es key = some st.written ∧
      Γ.strictJson? b.stored = some (.object [(storedKey, .object es)]) := by
  rw [toText_eq, strictJson?_stored_eq] at htext
  cases hes : a.context.mapM (entryJson? Γ) with
  | none => simp [hes] at htext
  | some es =>
    have hput := mapM_put hes (toJson?_of_isPrimitive hΓ hst hn false 251) key
    refine ⟨put es key st.written, ?_, by simp [get?_put], ?_⟩
    · have hkeys' := keys_of_mapM hes
      exact nodup_keys_put (by rwa [hkeys']) key _
    · rw [strictJson?_stored_eq, hb]
      exact congrArg _ hput

/-- What is stored as a number of a declared class is this number. -/
theorem isDeclaredNumber_of_encode {v st : Value} (h : Γ.encode v = .ok st) :
    st.isDeclaredNumber = v.isDeclaredNumber := by
  obtain ⟨rfl, -⟩ | ⟨t, rfl⟩ := encode_cases h
  · rfl
  · cases v with
    | number => cases h
    | _ => rfl

/-- **A typed read survives that an action is stored and restored exactly if the stored text can be
read and the value survives.** An action with a number of a declared class cannot be stored. -/
theorem kept_restored_iff {a b : Action} {key text : String} {v w : Value} {changed : Bool}
    {s u : Session} (hkeys : (keys a.context).Nodup) (htext : a.toText s.classes = .ok text)
    (hv : s.classes.Lists v) (hjson : ∀ t, v ≠ .jsonText t)
    (hadd : perform (add s.classes key v) a = (.ok changed, b))
    (hread : (perform (b.read key (some (.cls v.classOf))) s).1 = .ok w)
    (hu : u.classes = s.classes) :
    if v.isDeclaredNumber then b.toText s.classes = .error .unwritable
    else ∃ j, s.classes.strictJson? b.stored = some j ∧ b.toText s.classes = .ok j.render ∧
      ((∃ r w', ofText? (some j.render) [] = .ok r ∧
        (perform (r.read key (some (.cls v.classOf))) u).1 = .ok w' ∧ w.Kept w') ↔
          j.IsLegible ∧ v.Survives) := by
  have hn := ne_null_of_read hread
  obtain ⟨st, hst, hb⟩ := context_of_add hn hadd
  have hΓ := admits_of_encode hv.admits hst
  have hp := isPrimitive_of_encode hst
  have hget' : get? b.context key = some st := by rw [hb, get?_put, if_pos rfl]
  have hsame := isDeclaredNumber_of_encode hst
  split_ifs with hnum
  · exact toText_of_declaredNumber hget' hΓ (hsame.trans hnum)
  rw [Bool.not_eq_true] at hnum
  obtain ⟨es, hes, hget, htree⟩ := strictJson?_put hkeys htext hΓ hp (hsame.trans hnum) hb
  have hread' : (perform (decode key st (.cls v.classOf)) s).1 = .ok w := by
    rw [perform_read, hget'] at hread
    exact hread
  refine ⟨_, htree, by rw [toText_eq, htree], ?_⟩
  have hshort (h : (Json.object [(storedKey, .object es)]).isShort = true) :
      st.written.isShort = true := by
    simp only [Json.isShort, Json.entriesShort, Bool.and_true, Json.entriesShort_eq_all] at h
    exact List.all_eq_true.mp h _ (mem_of_get? hget)
  have hrestored {fs : Entries String Json} (hfs : Json.rereadEntries 2 es = some fs) :
      get? (fs.map fun (k, j) => (k, j.toValue)) key = some st.written.toValue := by
    rw [Json.rereadEntries_eq_mapM] at hfs
    rw [get?_map, get?_of_mapM hfs, hget, Option.bind_some,
      reread_written hΓ hp (hsame.trans hnum) (by decide)]
    rfl
  have hiff (h : st.written.isShort = true) :=
    kept_stored_iff hn hnum hjson hv hst hread' h hu
  constructor
  · rintro ⟨r, w', hr, hw', hkept⟩
    obtain ⟨hs, fs, hfs, rfl⟩ := (ofText?_render hes).mp hr
    rw [perform_read, hrestored hfs] at hw'
    exact ⟨⟨hs, by simp [reread_tree hes, hfs]⟩, (hiff (hshort hs)).mp ⟨w', hw', hkept⟩⟩
  · rintro ⟨⟨hs, hsome⟩, hsurvives⟩
    obtain ⟨w', hw', hkept⟩ := (hiff (hshort hs)).mpr hsurvives
    rw [reread_tree hes, Option.isSome_map] at hsome
    obtain ⟨fs, hfs⟩ := Option.isSome_iff_exists.mp hsome
    refine ⟨_, w', (ofText?_render hes).mpr ⟨hs, fs, hfs, rfl⟩, ?_, hkept⟩
    rw [perform_read, hrestored hfs]
    exact hw'

/-- An action to which a member of an enumeration of numbers was written. -/
def leveled : Action :=
  { context := [("level", low)], updated := true }

theorem lists_low : levels.Lists low := by
  simp [Classes.Lists, low, levels, Classes.find?, Classes.Admits]

theorem kept_restored_iff_level :
    ∃ j, levels.strictJson? leveled.stored = some j ∧ leveled.toText levels = .ok j.render ∧
      ((∃ r w', ofText? (some j.render) [] = .ok r ∧
        (perform (r.read "level" (some (.cls low.classOf))) (.start levels)).1 = .ok w' ∧
          low.Kept w') ↔ j.IsLegible ∧ low.Survives) := by
  have hread : (perform (leveled.read "level" (some (.cls low.classOf))) (.start levels)).1 =
      .ok low :=
    congrArg Prod.fst (perform_decode_self (by simp [low]) "level" (.start levels))
  exact kept_restored_iff (a := {}) (s := .start levels) (by simp) rfl lists_low (by simp [low])
    rfl hread rfl

/-- An enumeration of texts. -/
def colors : Classes :=
  { decls := [{ name := "Color", kind := .enumeration .str, members := [("RED", .text "red")] }] }

/-- A member of it. -/
def red : Value :=
  .member "Color" .str "RED" (.text "red")

/-- An action to which it was written. -/
def colored : Action :=
  { context := [("color", red)], updated := true }

theorem lists_red : colors.Lists red := by
  simp [Classes.Lists, red, colors, Classes.find?, Classes.Admits]

/-- A member of an enumeration of texts is read before its action is stored and not after the action
was restored. -/
theorem not_kept_restored :
    ¬ ∀ (a b : Action) (key text : String) (v w : Value) (changed : Bool) (s : Session),
      s.classes.Lists v → (∀ t, v ≠ .jsonText t) → a.toText s.classes = .ok text →
        perform (add s.classes key v) a = (.ok changed, b) →
          (perform (b.read key (some (.cls v.classOf))) s).1 = .ok w →
            ∃ text r w', b.toText s.classes = .ok text ∧ ofText? (some text) [] = .ok r ∧
              (perform (r.read key (some (.cls v.classOf))) s).1 = .ok w' ∧ w.Kept w' := by
  intro h
  have hread : (perform (colored.read "color" (some (.cls red.classOf))) (.start colors)).1 =
      .ok red :=
    congrArg Prod.fst (perform_decode_self (by simp [red]) "color" (.start colors))
  obtain ⟨text, r, w', htext, hr, hw', hkept⟩ :=
    h {} colored "color" _ red red true (.start colors) lists_red (by simp [red]) rfl rfl hread
  obtain rfl := Except.ok.inj htext
  obtain ⟨-, fs, hfs, rfl⟩ := (ofText?_render (by simp)).mp hr
  cases hfs
  exact (kept_iff_survives rfl rfl (by simp [red]) lists_red rfl "color").mp ⟨w', hw', hkept⟩

end Action
end Carryover
