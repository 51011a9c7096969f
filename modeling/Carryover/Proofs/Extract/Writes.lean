import Carryover.Extract
import Carryover.Proofs.Field.Lookup

/-!
# Extraction as a list of writes

The fields of an object make a list of writes: a field that is stored makes one, a field that
is flattened makes those of its value, and a field without a value makes none.

| field | writes |
| --- | --- |
| unset, absent, or without the element | none |
| with `flatten` | those of the value |
| otherwise | the value, under the resolved key |

The context that is extracted is what these writes make of an empty one, one after the other:
to write the context of a value that was flattened is to make the writes it was made by
(`putAll_putAll`).
-/

namespace Carryover

open Entries

/-- A value, unless it is the absent one. -/
def Value.present? : Value → Option Value
  | .null => none
  | v => some v

/-- A value is present if it is not the absent value. -/
theorem present?_eq_some_iff {v w : Value} : v.present? = some w ↔ v = w ∧ w ≠ .null := by
  cases v <;> simp only [Value.present?, Option.some.injEq] <;> grind

/-- What a directive takes of a value: the value, or an element of it if it is a sequence and the
directive has an index; nothing if that is absent. -/
def Directive.selected? (d : Directive) (v : Value) : Option Value :=
  let taken :=
    if 0 ≤ d.index then
      match v.elements? with
      | some items => items[d.index.toNat]?
      | none => some v
    else some v
  taken.bind Value.present?

/-- What a directive takes of a value, unless it has an index and the elements cannot be
counted. -/
def Directive.take? (d : Directive) (v : Value) : Except Fault (Option Value) :=
  if 0 ≤ d.index ∧ v.isUncountable then .error .uncountable else .ok (d.selected? v)

/-- The writes of some fields of an object, in order. -/
inductive FieldWrites (s : Session) :
    Value → List Field → List (String × Value) → Prop
  | nil {target : Value} : FieldWrites s target [] []
  | unset {target : Value} {f : Field} {fields : List Field} {ws : List (String × Value)}
    (hread : s.classes.attribute? target f.attr = .ok none)
    (hrest : FieldWrites s target fields ws) : FieldWrites s target (f :: fields) ws
  | skipped {target v : Value} {f : Field} {fields : List Field} {ws : List (String × Value)}
    (hread : s.classes.attribute? target f.attr = .ok (some v))
    (hv : f.directive.take? v = .ok none)
    (hrest : FieldWrites s target fields ws) : FieldWrites s target (f :: fields) ws
  | stored {target v w : Value} {f : Field} {fields : List Field} {ws : List (String × Value)}
    (hread : s.classes.attribute? target f.attr = .ok (some v))
    (hv : f.directive.take? v = .ok (some w)) (hflat : f.directive.flatten = false)
    (hrest : FieldWrites s target fields ws) :
    FieldWrites s target (f :: fields) ((f.directive.resolve f.name, w) :: ws)
  | flattened {target v w : Value} {f : Field} {fields inner : List Field}
    {ws ws' : List (String × Value)}
    (hread : s.classes.attribute? target f.attr = .ok (some v))
    (hv : f.directive.take? v = .ok (some w)) (hflat : f.directive.flatten = true)
    (hfields : s.fieldsOf? w.classOf = .ok inner) (hinner : FieldWrites s w inner ws')
    (hrest : FieldWrites s target fields ws) :
    FieldWrites s target (f :: fields) (ws' ++ ws)

/-- The writes of an object: those of its fields, in order. -/
def Writes (s : Session) (target : Value) (ws : List (String × Value)) : Prop :=
  target ≠ .null ∧ ∃ fields, s.fieldsOf? target.classOf = .ok fields ∧
    FieldWrites s target fields ws

/-- What is taken of a value is selected. -/
theorem selected?_of_take? {d : Directive} {v : Value} {o : Option Value}
    (h : d.take? v = .ok o) : d.selected? v = o := by
  unfold Directive.take? at h
  split_ifs at h
  exact Except.ok.inj h

/-- What is taken of a value is not the absent value. -/
theorem take?_ne_null {d : Directive} {v w : Value} (h : d.take? v = .ok (some w)) :
    w ≠ .null := by
  obtain ⟨_, -, hw⟩ := Option.bind_eq_some_iff.mp (selected?_of_take? h)
  exact (present?_eq_some_iff.mp hw).2

/-- Fields make one list of writes. -/
theorem FieldWrites.unique {s : Session} {target : Value} {fields : List Field}
    {ws ws' : List (String × Value)} (h : FieldWrites s target fields ws)
    (h' : FieldWrites s target fields ws') : ws = ws' := by
  induction h generalizing ws' with
  | nil =>
    cases h'
    rfl
  | unset hread _ ih => cases h' <;> grind
  | skipped hread hv _ ih => cases h' <;> grind
  | stored hread hv hflat _ ih => cases h' <;> grind
  | flattened hread hv hflat hfields _ _ ihinner ih => cases h' <;> grind

/-- An object has one list of writes. -/
theorem Writes.unique {s : Session} {target : Value} {ws ws' : List (String × Value)}
    (h : Writes s target ws) (h' : Writes s target ws') : ws = ws' := by
  obtain ⟨-, fields, hfields, hws⟩ := h
  obtain ⟨-, fields', hfields', hws'⟩ := h'
  obtain rfl := Except.ok.inj (hfields.symm.trans hfields')
  exact hws.unique hws'

/-! ### What a directive takes -/

/-- An element is taken from a sequence that has one, and nothing from one that has none. -/
theorem perform_takeElement (role name : String) {v : Value} (hv : v.isUncountable = false)
    {i : Int} (hi : 0 ≤ i) (s : Session) :
    ∃ log, perform (takeElement role name v i) s =
      (.ok (match v.elements? with
        | some items => items[i.toNat]?.getD .null
        | none => v), { s with log := log }) := by
  unfold takeElement
  rw [hv, if_neg Bool.false_ne_true]
  cases v.elements? with
  | none => exact ⟨_, rfl⟩
  | some items =>
    cases items with
    | nil => exact ⟨s.log, rfl⟩
    | cons x xs =>
      dsimp only
      split_ifs with hlen
      · refine ⟨s.log ++ [.outOfBounds i role name (x :: xs).length], ?_⟩
        rw [List.getElem?_eq_none (by omega)]
        rfl
      · have hlt : i.toNat < (x :: xs).length := by omega
        have hat : elementAt? (x :: xs) i = some (x :: xs)[i.toNat] := by
          rw [elementAt?, if_pos hi, List.getElem?_eq_getElem hlt]
        rw [hat, List.getElem?_eq_getElem hlt]
        exact ⟨s.log, rfl⟩

/-- Places what a directive takes of a value. -/
def placeTaken (extract : Value → Run Context) (name : String) (d : Directive) (c : Context) :
    Option Value → Run Context
  | none => return c
  | some w =>
    if d.flatten then do
      let inner ← extract w
      return putAll c inner
    else return put c (d.resolve name) w

/-- What is taken is extracted if the directive flattens it, and else written under its key. -/
theorem perform_placeTaken (extract : Value → Run Context) (name : String) (d : Directive)
    (c : Context) (o : Option Value) (s : Session) :
    perform (placeTaken extract name d c o) s =
      match o with
      | none => (.ok c, s)
      | some w =>
        if d.flatten then ((perform (extract w) s).1.map (putAll c), (perform (extract w) s).2)
        else (.ok (put c (d.resolve name) w), s) := by
  cases o with
  | none => rfl
  | some w =>
    dsimp only [placeTaken]
    split_ifs
    · rw [perform_bind]
      rcases perform (extract w) s with ⟨_ | inner, t⟩ <;> rfl
    · rfl

/-- A value that is there is placed in two steps. -/
theorem place_of_ne_null {v : Value} (hv : v ≠ .null) (extract : Value → Run Context)
    (role name : String) (d : Directive) (c : Context) :
    place extract role name v d c =
      (if 0 ≤ d.index then takeElement role name v d.index else pure v) >>=
        fun w => placeTaken extract name d c w.present? := by
  have hplace : place extract role name v d c =
      (if 0 ≤ d.index then takeElement role name v d.index else pure v) >>= fun w =>
        match w with
        | .null => return c
        | w =>
          if d.flatten then do
            let inner ← extract w
            return putAll c inner
          else return put c (d.resolve name) w := by
    cases v
    case null => contradiction
    all_goals
      unfold place
      dsimp only
      split_ifs <;> rfl
  rw [hplace]
  refine congrArg _ (funext fun w => ?_)
  cases w <;> rfl

/-- The value of a field is placed as the directive takes it, if its elements can be counted. -/
theorem perform_place (extract : Value → Run Context) (role name : String) (v : Value)
    (d : Directive) (c : Context) (s : Session) :
    ∃ log, perform (place extract role name v d c) s =
      match d.take? v with
      | .error fault => (.error (.raised fault), { s with log := log })
      | .ok o => perform (placeTaken extract name d c o) { s with log := log } := by
  by_cases hv : v = .null
  · subst hv
    have hnone : d.take? .null = .ok none := by
      simp [Directive.take?, Value.isUncountable, Directive.selected?, Value.elements?,
        Value.present?]
    exact ⟨s.log, by rw [hnone]; rfl⟩
  rw [place_of_ne_null hv, perform_bind]
  by_cases hi : 0 ≤ d.index
  · cases hcount : v.isUncountable with
    | true =>
      have htake : perform (takeElement role name v d.index) s =
          (.error (.raised .uncountable), s) := by
        rw [takeElement, hcount]
        rfl
      refine ⟨s.log, ?_⟩
      rw [Directive.take?, if_pos hi, if_pos ⟨hi, hcount⟩, htake]
    | false =>
      obtain ⟨log, htake⟩ := perform_takeElement role name hcount hi s
      refine ⟨log, ?_⟩
      rw [Directive.take?, if_pos hi, if_neg (by simp [hcount]), htake, Directive.selected?,
        if_pos hi]
      cases v.elements? with
      | none => rfl
      | some items =>
        dsimp only
        cases items[d.index.toNat]? <;> rfl
  · refine ⟨s.log, ?_⟩
    rw [Directive.take?, if_neg hi, if_neg (by simp [hi]), perform_pure, Directive.selected?,
      if_neg hi]
    rfl

/-! ### What an extraction comes to -/

/-- Reading a field gives the attribute that it names, or fails with the fault of that. -/
theorem perform_readField (target : Value) (f : Field) (s : Session) :
    perform (readField target f) s =
      (match s.classes.attribute? target f.attr with
        | .ok v => .ok v
        | .error fault => .error (.raised fault), s) := by
  have hΓ : perform Run.classes s = (.ok s.classes, s) := rfl
  rw [readField, perform_bind, hΓ]
  dsimp only
  cases s.classes.attribute? target f.attr <;> rfl

/-- The failure of an extraction names the class of the object, unless it is itself a failed
extraction or no error. -/
def Failure.inExtraction (c : ClassName) (e : Failure) : Failure :=
  if e.isA .extraction || !e.isError then e else .extraction c.qualified e

/-- What an extraction comes to: its fields are looked up and placed into an empty context. -/
theorem perform_extractStep {target : Value} (hn : target ≠ .null)
    (extract : Value → Run Context) (s : Session) :
    perform (extractStep extract target) s =
      match perform (contextFields target.classOf) s with
      | (.error e, t) => (.error (e.inExtraction target.classOf), t)
      | (.ok fields, t) =>
        if fields = [] then (.ok [], { t with log := t.log ++ [.noFields target.classOf] })
        else
          let p := perform (placeFields extract target fields []) t
          (p.1.mapError (Failure.inExtraction target.classOf), p.2) := by
  have hfails (e : Failure) (t : Session) :
      perform (if e.isA .extraction || !e.isError then throw e
        else throw (.extraction target.classOf.qualified e) : Run Context) t =
        (.error (e.inExtraction target.classOf), t) := by
    unfold Failure.inExtraction
    split_ifs <;> rfl
  unfold extractStep
  split
  · contradiction
  · rw [perform_tryCatch, perform_bind]
    rcases perform (contextFields target.classOf) s with ⟨e | fields, t⟩
    · exact hfails e t
    · by_cases hf : fields = []
      · subst hf
        rfl
      · have hempty : fields.isEmpty = false := by simpa using hf
        simp only [hempty, Bool.false_eq_true, if_false, if_neg hf]
        rcases perform (placeFields extract target fields []) t with ⟨e | c, u⟩
        · exact hfails e u
        · rfl

/-- An extraction that succeeds has placed the fields of its object into an empty context. -/
theorem perform_extractStep_eq_ok {extract : Value → Run Context} {target : Value}
    {c : Context} {s u : Session} :
    perform (extractStep extract target) s = (.ok c, u) ↔
      target ≠ .null ∧ ∃ fields t, perform (contextFields target.classOf) s = (.ok fields, t) ∧
        if fields = [] then c = [] ∧ u = { t with log := t.log ++ [.noFields target.classOf] }
        else perform (placeFields extract target fields []) t = (.ok c, u) := by
  by_cases hn : target = .null
  · subst hn
    simp [extractStep]
  · rw [perform_extractStep hn]
    simp only [hn, ne_eq, not_false_eq_true, true_and]
    rcases perform (contextFields target.classOf) s with ⟨e | fields, t⟩
    · simp
    · simp only [Prod.mk.injEq, Except.ok.injEq, and_assoc, exists_and_left, exists_eq_left']
      split_ifs with hf
      · simp [eq_comm]
      · generalize perform (placeFields extract target fields []) t = p
        obtain ⟨e | d, v⟩ := p <;> simp [Except.mapError]

/-- Fields are placed one after the other: one that is unset is passed by. -/
theorem perform_placeFields_cons (extract : Value → Run Context) (target : Value) (f : Field)
    (fields : List Field) (c : Context) (s : Session) :
    ∃ log, perform (placeFields extract target (f :: fields) c) s =
      match s.classes.attribute? target f.attr with
      | .error fault => (.error (.raised fault), s)
      | .ok none => perform (placeFields extract target fields c) { s with log := log }
      | .ok (some v) =>
        match f.directive.take? v with
        | .error fault => (.error (.raised fault), { s with log := log })
        | .ok none => perform (placeFields extract target fields c) { s with log := log }
        | .ok (some w) =>
          if f.directive.flatten then
            match perform (extract w) { s with log := log } with
            | (.ok inner, t) => perform (placeFields extract target fields (putAll c inner)) t
            | (.error e, t) => (.error e, t)
          else
            perform (placeFields extract target fields (put c (f.directive.resolve f.name) w))
              { s with log := log } := by
  rw [placeFields, perform_bind, perform_readField]
  cases s.classes.attribute? target f.attr with
  | error fault => exact ⟨s.log, rfl⟩
  | ok o =>
    cases o with
    | none => exact ⟨_, rfl⟩
    | some v =>
      obtain ⟨log, hplace⟩ := perform_place extract "field" f.name v f.directive c s
      refine ⟨log, ?_⟩
      dsimp only
      rw [perform_bind, hplace]
      rcases f.directive.take? v with fault | _ | w
      · rfl
      · rfl
      · dsimp only
        rw [perform_placeTaken]
        dsimp only
        split_ifs
        · rcases perform (extract w) { s with log := log } with ⟨_ | inner, t⟩ <;> rfl
        · rfl

/-- An extraction may go down as many levels as the object and the classes weigh. -/
theorem perform_extractContext (target : Value) (s : Session) :
    perform (extractContext target) s =
      perform (extractWithin (target.weight + s.classes.weight + 1) target) s := by
  have hΓ : perform Run.classes s = (.ok s.classes, s) := rfl
  rw [extractContext, perform_bind, hΓ]

/-! ### What is extracted -/

/-- Whether each context that an operation extracts is what the writes of its object make. -/
def Extracts (s : Session) (extract : Value → Run Context) : Prop :=
  ∀ w c t u, s.Agrees t → perform (extract w) t = (.ok c, u) →
    s.Agrees u ∧ ∃ ws, Writes s w ws ∧ c = putAll [] ws

variable {s t u : Session} {extract : Value → Run Context} {target : Value} {c d : Context}

/-- Fields that are placed are placed by their writes. -/
theorem fieldWrites_of_placeFields (he : Extracts s extract) {fields : List Field}
    (ht : s.Agrees t) (h : perform (placeFields extract target fields c) t = (.ok d, u)) :
    s.Agrees u ∧ ∃ ws, FieldWrites s target fields ws ∧ d = putAll c ws := by
  induction fields generalizing c t with
  | nil =>
    cases h
    exact ⟨ht, [], .nil, rfl⟩
  | cons f fields ih =>
    obtain ⟨log, hcons⟩ := perform_placeFields_cons extract target f fields c t
    have hlog : s.Agrees { t with log := log } := ht.trans (t.agrees_log log)
    generalize { t with log := log } = t' at hcons hlog
    rw [hcons, ht.classes] at h
    cases hread : s.classes.attribute? target f.attr with
    | error fault =>
      rw [hread] at h
      cases h
    | ok o =>
      rw [hread] at h
      cases o with
      | none =>
        obtain ⟨hu, ws, hws, rfl⟩ := ih hlog h
        exact ⟨hu, ws, .unset hread hws, rfl⟩
      | some v =>
        rcases hv : f.directive.take? v with fault | _ | w
        · simp only [hv] at h
          cases h
        · simp only [hv] at h
          obtain ⟨hu, ws, hws, rfl⟩ := ih hlog h
          exact ⟨hu, ws, .skipped hread hv hws, rfl⟩
        · simp only [hv] at h
          split_ifs at h with hflat
          · split at h
            · rename_i inner t'' hinner
              obtain ⟨ht'', ws', ⟨hn, fs, hfs, hws'⟩, rfl⟩ := he w inner t' t'' hlog hinner
              obtain ⟨hu, ws, hws, rfl⟩ := ih ht'' h
              refine ⟨hu, ws' ++ ws, .flattened hread hv hflat hfs hws' hws, ?_⟩
              rw [putAll_append, putAll_putAll (by simp), putAll_nil]
            · cases h
          · obtain ⟨hu, ws, hws, rfl⟩ := ih hlog h
            exact ⟨hu, _, .stored hread hv (Bool.eq_false_iff.mpr hflat) hws, rfl⟩

/-- A step of the extraction gives what the writes of the object make, if it does so for the
values that are flattened. -/
theorem Extracts.step (he : Extracts s extract) : Extracts s (extractStep extract) := by
  intro target c t u ht h
  obtain ⟨hn, fields, t', hfields, hplace⟩ := perform_extractStep_eq_ok.mp h
  obtain ⟨t'', hlookup, hagrees⟩ := perform_contextFields target.classOf t
  obtain ⟨hfs, rfl⟩ := Prod.mk.inj (hlookup.symm.trans hfields)
  rw [ht.fields] at hfs
  have ht' := ht.trans hagrees
  split_ifs at hplace with hnil
  · obtain ⟨rfl, rfl⟩ := hplace
    exact ⟨ht'.trans (t''.agrees_log _), [], ⟨hn, fields, hfs, hnil ▸ .nil⟩, rfl⟩
  · obtain ⟨hu, ws, hws, rfl⟩ := fieldWrites_of_placeFields he ht' hplace
    exact ⟨hu, ws, ⟨hn, fields, hfs, hws⟩, rfl⟩

/-- What is extracted is what the writes of the object make. -/
theorem extracts_extractWithin (s : Session) (room : Nat) : Extracts s (extractWithin room) := by
  induction room with
  | zero =>
    intro w c t u _ h
    cases h
  | succ room ih => exact ih.step

end Carryover
