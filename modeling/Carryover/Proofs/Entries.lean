import Carryover.Entries
import Mathlib.Data.List.Induction
import Mathlib.Data.List.Nodup
import Mathlib.Data.List.Perm.Subperm
import Mathlib.Tactic.SplitIfs

/-!
# Laws of mappings in order of first insertion

A mapping made by writes has each key once (`nodup_keys_put`). Writing the entries of such a
mapping is the same as making the writes it was made by (`putAll_putAll`), the order of the keys
included, and lays them over the entries that are there (`putAll_eq_overwrite`). Writes can be made
under other names of the keys, unless a name is given twice (`putAll_map_putAll`).
-/

namespace Carryover
namespace Entries

variable {κ ν : Type} [DecidableEq κ]

@[simp] theorem putAll_nil (es : Entries κ ν) : putAll es [] = es := rfl

@[simp] theorem putAll_cons (es more : Entries κ ν) (e : κ × ν) :
    putAll es (e :: more) = putAll (put es e.1 e.2) more := rfl

/-- Entries that are put are put one after the other. -/
theorem putAll_append (es first second : Entries κ ν) :
    putAll es (first ++ second) = putAll (putAll es first) second :=
  List.foldl_append ..

omit [DecidableEq κ] in
@[simp] theorem keys_nil : keys ([] : Entries κ ν) = [] := rfl

omit [DecidableEq κ] in
@[simp] theorem keys_cons (e : κ × ν) (es : Entries κ ν) : keys (e :: es) = e.1 :: keys es := rfl

/-- The keys are those that have a value. -/
theorem mem_keys_iff {es : Entries κ ν} {k : κ} : k ∈ keys es ↔ ∃ v, get? es k = some v := by
  induction es with
  | nil => simp
  | cons e rest ih =>
    obtain ⟨k', v'⟩ := e
    by_cases h : k' = k
    · simp [get?, h]
    · simp [get?, h, Ne.symm h, ih]

/-- No value is found exactly under what is no key. -/
theorem get?_eq_none_iff {es : Entries κ ν} {k : κ} : get? es k = none ↔ k ∉ keys es := by
  rw [mem_keys_iff]
  cases get? es k <;> simp

/-- A value is looked for in the first entries and then in the others. -/
theorem get?_append (es more : Entries κ ν) (k : κ) :
    get? (es ++ more) k = (get? es k).or (get? more k) := by
  induction es with
  | nil => rfl
  | cons e es ih =>
    by_cases hk : e.1 = k
    · simp [get?, hk]
    · simp [get?, hk, ih]

omit [DecidableEq κ] in
/-- No entry stands under what is no key. -/
theorem ne_of_mem_of_not_mem_keys {es : Entries κ ν} {e : κ × ν} {k : κ} (he : e ∈ es)
    (hk : k ∉ keys es) : e.1 ≠ k := by
  rintro rfl
  exact hk (List.mem_map_of_mem he)

/-- An entry that is found is there. -/
theorem mem_of_get? {es : Entries κ ν} {k : κ} {v : ν} (h : get? es k = some v) : (k, v) ∈ es := by
  induction es with
  | nil => cases h
  | cons e rest ih =>
    obtain ⟨k', v'⟩ := e
    by_cases hk : k' = k
    · simp only [get?, if_pos hk, Option.some.injEq] at h
      simp [hk, h]
    · simp only [get?, if_neg hk] at h
      exact List.mem_cons_of_mem _ (ih h)

/-- After a write an entry is the one written or one from before. -/
theorem mem_put {es : Entries κ ν} {k : κ} {v : ν} {e : κ × ν} (h : e ∈ put es k v) :
    e = (k, v) ∨ e ∈ es := by
  induction es with
  | nil => exact .inl (List.mem_singleton.mp h)
  | cons d rest ih =>
    obtain ⟨k', v'⟩ := d
    by_cases hk : k' = k
    · rw [put, if_pos hk] at h
      exact (List.mem_cons.mp h).imp_right (List.mem_cons_of_mem _)
    · rw [put, if_neg hk] at h
      obtain rfl | h := List.mem_cons.mp h
      · exact .inr List.mem_cons_self
      · exact (ih h).imp_right (List.mem_cons_of_mem _)

/-- A write to a key that is there replaces its value in place. -/
theorem exists_put_of_get? {es : Entries κ ν} {k : κ} {v : ν} (h : get? es k = some v) :
    ∃ before after, es = before ++ (k, v) :: after ∧
      ∀ w, put es k w = before ++ (k, w) :: after := by
  induction es with
  | nil => cases h
  | cons e rest ih =>
    obtain ⟨k', v'⟩ := e
    by_cases hk : k' = k
    · subst hk
      rw [get?, if_pos rfl] at h
      obtain rfl := Option.some.inj h
      exact ⟨[], rest, rfl, fun w => by simp [put]⟩
    · rw [get?, if_neg hk] at h
      obtain ⟨before, after, rfl, hput⟩ := ih h
      exact ⟨(k', v') :: before, after, rfl, fun w => by simp [put, hk, hput]⟩

/-- After several writes an entry is one of those written or one from before. -/
theorem mem_putAll {es more : Entries κ ν} {e : κ × ν} (h : e ∈ putAll es more) :
    e ∈ es ∨ e ∈ more := by
  induction more generalizing es with
  | nil => exact .inl h
  | cons d more ih =>
    rw [putAll_cons] at h
    obtain h | h := ih h
    · obtain rfl | h := mem_put h
      · exact .inr List.mem_cons_self
      · exact .inl h
    · exact .inr (List.mem_cons_of_mem _ h)

/-- Erasing a key brings no entry. -/
theorem mem_of_mem_erase {es : Entries κ ν} {k : κ} {e : κ × ν} (h : e ∈ erase es k) :
    e ∈ es := by
  induction es with
  | nil => cases h
  | cons d rest ih =>
    rw [erase] at h
    split_ifs at h
    · exact List.mem_cons_of_mem _ h
    · obtain rfl | h := List.mem_cons.mp h
      · exact List.mem_cons_self
      · exact List.mem_cons_of_mem _ (ih h)

/-! ### Keys that stand once -/

omit [DecidableEq κ] in
theorem nodup_keys_nil : (keys ([] : Entries κ ν)).Nodup :=
  List.nodup_nil

/-- Putting a value keeps each key once. -/
theorem nodup_keys_put {es : Entries κ ν} (h : (keys es).Nodup) (k : κ) (v : ν) :
    (keys (put es k v)).Nodup := by
  rw [keys_put]
  split_ifs with hk
  · exact h
  · exact h.append (List.nodup_singleton k) (by simpa using hk)

/-- Writing to an absent key appends. -/
theorem put_of_not_mem {es : Entries κ ν} {k : κ} (h : k ∉ keys es) (v : ν) :
    put es k v = es ++ [(k, v)] := by
  induction es with
  | nil => rfl
  | cons e rest ih =>
    obtain ⟨k', v'⟩ := e
    simp only [keys_cons, List.mem_cons, not_or] at h
    simp [put, Ne.symm h.1, ih h.2]

/-- Entries whose keys stand once and are absent before are appended. -/
theorem putAll_of_nodup {es more : Entries κ ν} (h : (keys (es ++ more)).Nodup) :
    putAll es more = es ++ more := by
  induction more generalizing es with
  | nil => simp
  | cons e more ih =>
    have hsplit : es ++ e :: more = es ++ [(e.1, e.2)] ++ more := by simp
    have hk : e.1 ∉ keys es := by
      intro hmem
      rw [keys, List.map_append, List.nodup_append] at h
      exact h.2.2 _ hmem _ (by simp) rfl
    rw [putAll_cons, put_of_not_mem hk, ih (hsplit ▸ h), hsplit]

/-! ### Writing the entries of a mapping -/

/-- Of two values that are put under one key, the last one stays. -/
@[simp] theorem put_put (es : Entries κ ν) (k : κ) (v w : ν) :
    put (put es k v) k w = put es k w := by
  induction es with
  | nil => simp [put]
  | cons e rest ih =>
    obtain ⟨k', v'⟩ := e
    by_cases h : k' = k
    · simp [put, h]
    · simp [put, h, ih]

/-- A write to a key that is present can be made before or after a write to another key. -/
theorem put_comm_of_mem {es : Entries κ ν} {j k : κ} (hk : k ∈ keys es) (hne : j ≠ k) (v w : ν) :
    put (put es k v) j w = put (put es j w) k v := by
  induction es with
  | nil => cases hk
  | cons e rest ih =>
    obtain ⟨k', v'⟩ := e
    by_cases h : k' = k
    · subst h
      simp [put, Ne.symm hne]
    · have hk' : k ∈ keys rest := by simpa [Ne.symm h] using hk
      by_cases hj : k' = j
      · simp [put, hj, hne]
      · simp [put, h, hj, ih hk']

/-- A write to a key that is present can be made before or after writes to other keys. -/
theorem putAll_put_comm {es more : Entries κ ν} {k : κ} (hk : k ∈ keys es) (hm : k ∉ keys more)
    (v : ν) : putAll (put es k v) more = put (putAll es more) k v := by
  induction more generalizing es with
  | nil => rfl
  | cons e more ih =>
    simp only [keys_cons, List.mem_cons, not_or] at hm
    have hk' : k ∈ keys (put es e.1 e.2) := by
      rw [keys_put]
      split_ifs
      · exact hk
      · exact List.mem_append_left _ hk
    rw [putAll_cons, put_comm_of_mem hk (Ne.symm hm.1), ih hk' hm.2, putAll_cons]

/-- Writing the entries of a mapping after a write to it is writing them and then making the
write. -/
theorem putAll_put {es more : Entries κ ν} (h : (keys more).Nodup) (k : κ) (v : ν) :
    putAll es (put more k v) = put (putAll es more) k v := by
  induction more generalizing es with
  | nil => rfl
  | cons e more ih =>
    obtain ⟨k', v'⟩ := e
    obtain ⟨hnot, hrest⟩ := List.nodup_cons.mp h
    by_cases hk : k' = k
    · subst hk
      have hmem : k' ∈ keys (put es k' v') := by
        rw [mem_keys_iff]
        exact ⟨v', by simp [get?_put]⟩
      simp only [put, if_pos, putAll_cons]
      rw [← putAll_put_comm hmem hnot, put_put]
    · simp only [put, if_neg hk, putAll_cons]
      exact ih hrest

/-- **Writing a mapping is making the writes it was made by.** -/
theorem putAll_putAll {es base : Entries κ ν} (h : (keys base).Nodup) (more : Entries κ ν) :
    putAll es (putAll base more) = putAll (putAll es base) more := by
  induction more generalizing base with
  | nil => rfl
  | cons e more ih => rw [putAll_cons, ih (nodup_keys_put h e.1 e.2), putAll_put h, putAll_cons]

/-- Putting entries or what has been put of them comes to the same. -/
theorem putAll_putAll_nil (es more : Entries κ ν) : putAll es (putAll [] more) = putAll es more :=
  putAll_putAll nodup_keys_nil more

/-- What a key reads as after writes depends on what it read as before alone. -/
theorem get?_putAll_congr {es es' : Entries κ ν} {k : κ} (h : get? es k = get? es' k)
    (more : Entries κ ν) : get? (putAll es more) k = get? (putAll es' more) k := by
  induction more generalizing es es' with
  | nil => exact h
  | cons e more ih => exact ih (by rw [get?_put, get?_put, h])

/-- A key that is not written reads as before. -/
theorem get?_putAll_of_not_mem {more : Entries κ ν} {k : κ} (h : k ∉ keys more)
    (es : Entries κ ν) : get? (putAll es more) k = get? es k := by
  induction more generalizing es with
  | nil => rfl
  | cons e more ih =>
    simp only [keys_cons, List.mem_cons, not_or] at h
    rw [putAll_cons, ih h.2, get?_put, if_neg (Ne.symm h.1)]

/-! ### Several writes at once -/

/-- A mapping with another one over it: a key of both keeps its place and takes the value of the
other, and the keys that are new come last. -/
def overwrite (es more : Entries κ ν) : Entries κ ν :=
  (es.map fun (k, v) => (k, (get? more k).getD v)) ++ more.filter fun (k, _) => !has es k

theorem has_iff {es : Entries κ ν} {k : κ} : has es k = true ↔ k ∈ keys es := by
  rw [mem_keys_iff, has, Option.isSome_iff_exists]

/-- A write to a key that is present changes the value under it alone. -/
theorem put_eq_map {es : Entries κ ν} {k : κ} (h : (keys es).Nodup) (hk : k ∈ keys es) (v : ν) :
    put es k v = es.map fun (j, u) => (j, if j = k then v else u) := by
  induction es with
  | nil => cases hk
  | cons e rest ih =>
    obtain ⟨k', v'⟩ := e
    rw [keys_cons, List.nodup_cons] at h
    by_cases hkk : k' = k
    · subst hkk
      have hrest : (rest.map fun (j, u) => (j, if j = k' then v else u)) = rest := by
        refine (List.map_congr_left fun e he => ?_).trans (List.map_id rest)
        simp [ne_of_mem_of_not_mem_keys he h.1]
      simp [put, hrest]
    · have hk' : k ∈ keys rest := by simpa [Ne.symm hkk] using hk
      simp [put, hkk, ih h.2 hk']

/-- One more write below entries that do not have its key. -/
theorem overwrite_put {es more : Entries κ ν} {k : κ} (h : (keys es).Nodup)
    (hk : k ∉ keys more) (v : ν) : overwrite (put es k v) more = overwrite es ((k, v) :: more) := by
  have hnone : get? more k = none := get?_eq_none_iff.mpr hk
  by_cases hmem : k ∈ keys es
  · have hkeys : ∀ j, has (put es k v) j = has es j := by
      intro j
      rw [Bool.eq_iff_iff, has_iff, has_iff, keys_put, if_pos hmem]
    have hput : (put es k v).map (fun (j, u) => (j, (get? more j).getD u)) =
        es.map fun (j, u) => (j, (get? ((k, v) :: more) j).getD u) := by
      rw [put_eq_map h hmem, List.map_map]
      refine List.map_congr_left fun e _ => ?_
      by_cases he : e.1 = k
      · simp [get?, he, hnone]
      · simp [get?, he, Ne.symm he]
    simp only [overwrite, hput, hkeys, List.filter_cons, has_iff.mpr hmem, Bool.not_true,
      Bool.false_eq_true, if_false]
  · have hbefore : (es.map fun (j, u) => (j, (get? more j).getD u)) =
        es.map fun (j, u) => (j, (get? ((k, v) :: more) j).getD u) :=
      List.map_congr_left fun e he => by
        simp [get?, Ne.symm (ne_of_mem_of_not_mem_keys he hmem)]
    have hafter : (more.filter fun (j, _) => !has (es ++ [(k, v)]) j) =
        more.filter fun (j, _) => !has es j := by
      refine List.filter_congr fun e he => ?_
      have hlast : get? [(k, v)] e.1 = none := by
        simp [get?, Ne.symm (ne_of_mem_of_not_mem_keys he hk)]
      simp only [has, get?_append, hlast, Option.or_none]
    have habsent : has es k = false := by rwa [← Bool.not_eq_true, has_iff]
    rw [put_of_not_mem hmem, overwrite, overwrite, hafter, List.map_append, hbefore,
      List.filter_cons_of_pos (by simpa using habsent)]
    simp [hnone]

/-- **Writing the entries of a mapping is to lay it over the one that is there.** -/
theorem putAll_eq_overwrite {es more : Entries κ ν} (h : (keys es).Nodup)
    (hmore : (keys more).Nodup) : putAll es more = overwrite es more := by
  induction more generalizing es with
  | nil => simp [overwrite, get?]
  | cons e more ih =>
    obtain ⟨hnot, hrest⟩ := List.nodup_cons.mp hmore
    rw [putAll_cons, ih (nodup_keys_put h e.1 e.2) hrest, overwrite_put h hnot]

/-- After the entries of a mapping are written a key reads as in it, or else as before. -/
theorem get?_putAll {more : Entries κ ν} (hmore : (keys more).Nodup) (es : Entries κ ν) (k : κ) :
    get? (putAll es more) k = (get? more k).or (get? es k) := by
  induction more generalizing es with
  | nil => rfl
  | cons e more ih =>
    obtain ⟨hnot, hrest⟩ := List.nodup_cons.mp hmore
    rw [putAll_cons, ih hrest, get?_put]
    by_cases hk : e.1 = k
    · have hnone : get? more k = none := get?_eq_none_iff.mpr (hk ▸ hnot)
      simp [get?, hk, hnone]
    · simp [get?, hk]

/-- The keys are those from before and those that are put. -/
theorem mem_keys_putAll {es more : Entries κ ν} {k : κ} :
    k ∈ keys (putAll es more) ↔ k ∈ keys es ∨ k ∈ keys more := by
  induction more generalizing es with
  | nil => simp
  | cons e more ih =>
    rw [putAll_cons, ih, keys_put, keys_cons, List.mem_cons]
    split_ifs with he
    · constructor
      · rintro (h | h)
        · exact .inl h
        · exact .inr (.inr h)
      · rintro (h | rfl | h)
        · exact .inl h
        · exact .inl he
        · exact .inr h
    · simp only [List.mem_append, List.mem_singleton, or_assoc]

/-- Mappings written one over the other are the writes that all of them make. -/
theorem foldl_putAll (es : Entries κ ν) (parts : List (Entries κ ν)) :
    parts.foldl putAll es = putAll es parts.flatten := by
  induction parts generalizing es with
  | nil => rfl
  | cons part parts ih => rw [List.foldl_cons, ih, List.flatten_cons, putAll_append]

/-- Whether a mapping is what mappings come to that are written one over the other: each key stands
where it came first and has the value that came last. -/
structure IsMerged (parts : List (Entries κ ν)) (whole : Entries κ ν) : Prop where
  keys_eq : keys whole = (keys parts.flatten).eraseDups
  get?_eq : ∀ k, get? whole k = get? parts.flatten.reverse k

/-- The last entry is put after the others. -/
theorem putAll_concat (es more : Entries κ ν) (e : κ × ν) :
    putAll es (more ++ [e]) = put (putAll es more) e.1 e.2 := by
  rw [putAll_append, putAll_cons, putAll_nil]

/-- Mappings with the same keys in the same order and the same values are one. -/
theorem eq_of_get?_eq {es fs : Entries κ ν} (hkeys : keys es = keys fs) (hes : (keys es).Nodup)
    (h : ∀ k, get? es k = get? fs k) : es = fs := by
  induction es generalizing fs with
  | nil =>
    cases fs with
    | nil => rfl
    | cons f fs => cases hkeys
  | cons e es ih =>
    cases fs with
    | nil => cases hkeys
    | cons f fs =>
      obtain ⟨k, v⟩ := e
      obtain ⟨k', w⟩ := f
      obtain ⟨rfl, hrest⟩ : k = k' ∧ keys es = keys fs := List.cons.inj hkeys
      obtain ⟨hnot, hnodup⟩ := List.nodup_cons.mp hes
      have hvw : v = w := by simpa [get?] using h k
      have htail : ∀ j, get? es j = get? fs j := by
        intro j
        by_cases hj : k = j
        · subst hj
          have hnot' : k ∉ keys fs := hrest ▸ hnot
          rw [get?_eq_none_iff.mpr hnot, get?_eq_none_iff.mpr hnot']
        · simpa [get?, hj] using h j
      rw [hvw, ih hrest hnodup htail]

/-- Putting entries keeps each key once. -/
theorem nodup_keys_putAll {es : Entries κ ν} (h : (keys es).Nodup) (more : Entries κ ν) :
    (keys (putAll es more)).Nodup := by
  induction more generalizing es with
  | nil => exact h
  | cons e more ih => exact ih (nodup_keys_put h e.1 e.2)

/-- **Mappings that are written one over the other come to the merged one.** -/
theorem isMerged_foldl_putAll (parts : List (Entries κ ν)) :
    IsMerged parts (parts.foldl putAll []) := by
  rw [foldl_putAll]
  generalize hes : parts.flatten = es
  constructor
  · rw [hes]
    clear hes
    induction es using List.reverseRecOn with
    | nil => rfl
    | append_singleton es e ih =>
      have hmem : e.1 ∈ (keys es).eraseDups ↔ e.1 ∈ keys es := List.mem_eraseDups
      have hkeys : keys (es ++ [e]) = keys es ++ [e.1] := List.map_append
      rw [putAll_concat, keys_put, ih, hkeys, List.eraseDups_append]
      by_cases he : e.1 ∈ keys es
      · rw [if_pos (hmem.mpr he)]
        simp [List.removeAll, he]
      · rw [if_neg (mt hmem.mp he)]
        simp [List.removeAll, he, List.eraseDups_cons]
  · intro k
    rw [hes]
    clear hes
    induction es using List.reverseRecOn with
    | nil => rfl
    | append_singleton es e ih =>
      rw [putAll_concat, get?_put, ih, List.reverse_concat]
      rfl

/-- What several parts are merged to is what putting one after the other gives. -/
theorem IsMerged.eq_foldl_putAll {parts : List (Entries κ ν)} {whole : Entries κ ν}
    (h : IsMerged parts whole) : whole = parts.foldl putAll [] := by
  have hmerged := isMerged_foldl_putAll parts
  have hkeys : keys (parts.foldl putAll []) = keys whole := hmerged.keys_eq.trans h.keys_eq.symm
  have hnodup : (keys (parts.foldl putAll [])).Nodup := by
    rw [foldl_putAll]
    exact nodup_keys_putAll nodup_keys_nil _
  exact (eq_of_get?_eq hkeys hnodup fun k => (hmerged.get?_eq k).trans (h.get?_eq k).symm).symm

/-! ### Removed keys -/

/-- Erasing a key takes it from the keys. -/
theorem keys_erase (es : Entries κ ν) (k : κ) : keys (erase es k) = (keys es).erase k := by
  induction es with
  | nil => rfl
  | cons e rest ih =>
    obtain ⟨k', v⟩ := e
    by_cases h : k' = k
    · simp [erase, h]
    · simp [erase, h, ih]

/-- A removed key has no value, every other key the one from before. -/
theorem get?_erase {es : Entries κ ν} (h : (keys es).Nodup) (k j : κ) :
    get? (erase es k) j = if k = j then none else get? es j := by
  by_cases hkj : k = j
  · subst hkj
    rw [if_pos rfl, get?_eq_none_iff, keys_erase]
    exact h.not_mem_erase
  · rw [if_neg hkj]
    induction es with
    | nil => rfl
    | cons e rest ih =>
      obtain ⟨k', v⟩ := e
      rw [keys_cons, List.nodup_cons] at h
      by_cases hk : k' = k
      · simp [erase, get?, hk, hkj]
      · simp [erase, get?, hk, ih h.2]

/-- The value of an entry is found under its key. -/
theorem get?_of_mem {es : Entries κ ν} (h : (keys es).Nodup) {k : κ} {v : ν}
    (hkv : (k, v) ∈ es) : get? es k = some v := by
  induction es with
  | nil => cases hkv
  | cons e rest ih =>
    obtain ⟨k', v'⟩ := e
    rw [keys_cons, List.nodup_cons] at h
    obtain heq | hkv := List.mem_cons.mp hkv
    · cases heq
      simp [get?]
    · have hne : k' ≠ k := (ne_of_mem_of_not_mem_keys hkv h.1).symm
      simp [get?, hne, ih h.2 hkv]

/-- Where each key stands once, what is found is what stands there. -/
theorem get?_eq_some_iff {es : Entries κ ν} (h : (keys es).Nodup) {k : κ} {v : ν} :
    get? es k = some v ↔ (k, v) ∈ es :=
  ⟨mem_of_get?, get?_of_mem h⟩

/-- What a key reads as does not depend on the order of the entries. -/
theorem get?_eq_of_perm {es es' : Entries κ ν} (h : (keys es).Nodup) (hperm : es'.Perm es) (k : κ) :
    get? es' k = get? es k := by
  have h' : (keys es').Nodup := (hperm.map Prod.fst).nodup_iff.mpr h
  ext v
  rw [get?_eq_some_iff h, get?_eq_some_iff h', hperm.mem_iff]

omit [DecidableEq κ] in
/-- Mappings with the same keys, one of which has all entries of the other, are one but for the
order. -/
theorem perm_of_keys_perm {es es' : Entries κ ν} (h : (keys es).Nodup)
    (hkeys : (keys es').Perm (keys es)) (hmem : ∀ e ∈ es', e ∈ es) : es'.Perm es := by
  have hnodup : es'.Nodup := .of_map _ (hkeys.nodup_iff.mpr h)
  have hlength : es'.length = es.length := by simpa [keys] using hkeys.length_eq
  exact (List.subperm_of_subset hnodup hmem).perm_of_length_le (Nat.le_of_eq hlength.symm)

/-! ### Steps on the values -/

/-- A change of all values changes what is found. -/
theorem get?_map {μ : Type} (f : ν → μ) (es : Entries κ ν) (k : κ) :
    get? (es.map fun (k, v) => (k, f v)) k = (get? es k).map f := by
  induction es with
  | nil => rfl
  | cons e es ih =>
    by_cases hk : e.1 = k
    · simp [get?, hk]
    · simp [get?, hk, ih]

section Renamed

variable {κ' μ : Type} [DecidableEq κ'] {f : κ → κ'} {g : κ → ν → μ}

/-- A write can be made in place, or last, if its key is not written after its place. -/
theorem putAll_in_place {after : Entries κ ν} {k : κ} (hk : k ∉ keys after)
    (es before : Entries κ ν) (u v : ν) :
    putAll es (before ++ (k, v) :: after) = put (putAll es (before ++ (k, u) :: after)) k v := by
  have hmem : k ∈ keys (put (putAll es before) k u) :=
    mem_keys_iff.mpr ⟨u, by rw [get?_put, if_pos rfl]⟩
  rw [putAll_append, putAll_append, putAll_cons, putAll_cons, ← putAll_put_comm hmem hk, put_put]

/-- A write can be made before or after the keys are renamed, if no key that stands after its own
gets the same name. -/
theorem putAll_map_put {base : Entries κ ν} {k : κ}
    (hbase : ∀ before after, keys base = before ++ k :: after → ∀ j ∈ after, f j ≠ f k)
    (es : Entries κ' μ) (v : ν) :
    putAll es ((put base k v).map fun (j, u) => (f j, g j u)) =
      put (putAll es (base.map fun (j, u) => (f j, g j u))) (f k) (g k v) := by
  by_cases hk : k ∈ keys base
  · obtain ⟨u, hu⟩ := mem_keys_iff.mp hk
    obtain ⟨before, after, rfl, hput⟩ := exists_put_of_get? hu
    have hafter : f k ∉ keys (after.map fun (j, u) => (f j, g j u)) := by
      intro hmem
      obtain ⟨e', he', hname⟩ := List.mem_map.mp hmem
      obtain ⟨e, he, rfl⟩ := List.mem_map.mp he'
      exact hbase (keys before) (keys after) List.map_append e.1 (List.mem_map_of_mem he) hname
    rw [hput, List.map_append, List.map_append]
    exact putAll_in_place hafter ..
  · rw [put_of_not_mem hk, List.map_append, putAll_append]
    rfl

/-- **Writes can be made before or after their keys are renamed**, if no two of them get the same
name, nor one of them and a key that stands after it. -/
theorem putAll_map_putAll {base more : Entries κ ν}
    (hmore : ∀ j ∈ keys more, ∀ k ∈ keys more, f j = f k → j = k)
    (hbase : ∀ before k after, keys base = before ++ k :: after → k ∈ keys more →
      ∀ j ∈ after, f j ≠ f k)
    (es : Entries κ' μ) :
    putAll es ((putAll base more).map fun (j, u) => (f j, g j u)) =
      putAll es ((base ++ more).map fun (j, u) => (f j, g j u)) := by
  induction more generalizing base with
  | nil => rw [List.append_nil, putAll_nil]
  | cons e more ih =>
    have hrest : ∀ j ∈ keys more, ∀ k ∈ keys more, f j = f k → j = k := fun j hj k hk =>
      hmore j (List.mem_cons_of_mem _ hj) k (List.mem_cons_of_mem _ hk)
    have hput : ∀ before k after, keys (put base e.1 e.2) = before ++ k :: after → k ∈ keys more →
        ∀ j ∈ after, f j ≠ f k := by
      intro before k after hsplit hk j hj
      have hk' : k ∈ keys (e :: more) := List.mem_cons_of_mem _ hk
      rw [keys_put] at hsplit
      split_ifs at hsplit with he
      · exact hbase before k after hsplit hk' j hj
      · -- the new key is the last one, and no other key that is written gets its name
        obtain rfl | ⟨middle, last, rfl⟩ := after.eq_nil_or_concat'
        · cases hj
        · rw [← List.cons_append, ← List.append_assoc] at hsplit
          obtain ⟨hkeys, hlast⟩ := List.append_inj' hsplit rfl
          obtain rfl := List.singleton_inj.mp hlast
          obtain hj | hj := List.mem_append.mp hj
          · exact hbase before k middle hkeys hk' j hj
          · obtain rfl := List.mem_singleton.mp hj
            intro hname
            obtain rfl := hmore e.1 List.mem_cons_self k hk' hname
            exact he (hkeys ▸ List.mem_append_right _ List.mem_cons_self)
    have hfirst : ∀ before after, keys base = before ++ e.1 :: after → ∀ j ∈ after, f j ≠ f e.1 :=
      fun before after hsplit => hbase before e.1 after hsplit List.mem_cons_self
    rw [putAll_cons, ih hrest hput, List.map_append, putAll_append, putAll_map_put hfirst,
      List.map_append, putAll_append]
    rfl

end Renamed

section Steps

variable {μ : Type} {f : ν → Option μ} {es : Entries κ ν} {fs : Entries κ μ}

omit [DecidableEq κ] in
/-- Values are made one by one, each under the key of the one that it is made of. -/
theorem mapM_cons_eq_some {e : κ × ν} :
    (e :: es).mapM (fun e => (f e.2).map (e.1, ·)) = some fs ↔
      ∃ w rest, f e.2 = some w ∧ es.mapM (fun e => (f e.2).map (e.1, ·)) = some rest ∧
        fs = (e.1, w) :: rest := by
  rw [List.mapM_cons]
  cases f e.2 <;> cases es.mapM (fun e => (f e.2).map (e.1, ·)) <;> simp [eq_comm]

omit [DecidableEq κ] in
/-- A step on the values keeps the keys. -/
theorem keys_of_mapM (h : es.mapM (fun e => (f e.2).map (e.1, ·)) = some fs) :
    keys fs = keys es := by
  induction es generalizing fs with
  | nil =>
    cases h
    rfl
  | cons e es ih =>
    obtain ⟨w, rest, -, hrest, rfl⟩ := mapM_cons_eq_some.mp h
    simp [ih hrest]

/-- What is found among the values that are made is made of what was found. -/
theorem get?_of_mapM (h : es.mapM (fun e => (f e.2).map (e.1, ·)) = some fs) (k : κ) :
    get? fs k = (get? es k).bind f := by
  induction es generalizing fs with
  | nil =>
    cases h
    rfl
  | cons e es ih =>
    obtain ⟨w, rest, hw, hrest, rfl⟩ := mapM_cons_eq_some.mp h
    by_cases hk : e.1 = k
    · simp [get?, hk, hw]
    · simp [get?, hk, ih hrest]

/-- A step on the values of a mapping succeeds after a write if it does before it and on the value
written. -/
theorem mapM_put (h : es.mapM (fun e => (f e.2).map (e.1, ·)) = some fs) {v : ν} {w : μ}
    (hw : f v = some w) (k : κ) :
    (put es k v).mapM (fun e => (f e.2).map (e.1, ·)) = some (put fs k w) := by
  induction es generalizing fs with
  | nil =>
    cases h
    exact mapM_cons_eq_some.mpr ⟨w, [], hw, rfl, rfl⟩
  | cons e es ih =>
    obtain ⟨u, rest, hu, hrest, rfl⟩ := mapM_cons_eq_some.mp h
    by_cases hk : e.1 = k
    · rw [put, if_pos hk, put, if_pos hk]
      exact mapM_cons_eq_some.mpr ⟨w, rest, hw, hrest, rfl⟩
    · rw [put, if_neg hk, put, if_neg hk]
      exact mapM_cons_eq_some.mpr ⟨u, put rest k w, hu, ih hrest, rfl⟩

end Steps

end Entries
end Carryover
