/-!
# Mappings in order of first insertion

A mapping is the list of its entries. Writing to a key that is present replaces its value and
keeps its place; writing to an absent key appends.
-/

namespace Carryover

/-- A mapping with its entries in order of first insertion. -/
abbrev Entries (κ ν : Type) := List (κ × ν)

namespace Entries

variable {κ ν : Type} [DecidableEq κ]

/-- The value under a key. -/
def get? (es : Entries κ ν) (k : κ) : Option ν :=
  match es with
  | [] => none
  | (k', v) :: rest => if k' = k then some v else get? rest k

/-- Whether a key is present. -/
def has (es : Entries κ ν) (k : κ) : Bool :=
  (get? es k).isSome

/-- Writes a value to a key. -/
def put (es : Entries κ ν) (k : κ) (v : ν) : Entries κ ν :=
  match es with
  | [] => [(k, v)]
  | (k', v') :: rest => if k' = k then (k, v) :: rest else (k', v') :: put rest k v

/-- Writes entries one after the other. -/
def putAll (es more : Entries κ ν) : Entries κ ν :=
  more.foldl (fun acc e => put acc e.1 e.2) es

/-- Removes a key. -/
def erase (es : Entries κ ν) (k : κ) : Entries κ ν :=
  match es with
  | [] => []
  | (k', v') :: rest => if k' = k then rest else (k', v') :: erase rest k

/-- The keys in order. -/
def keys (es : Entries κ ν) : List κ :=
  es.map (·.1)

@[simp] theorem get?_nil (k : κ) : get? ([] : Entries κ ν) k = none := rfl

/-- A written key reads as the value written, every other key as before. -/
theorem get?_put (es : Entries κ ν) (k j : κ) (v : ν) :
    get? (put es k v) j = if k = j then some v else get? es j := by
  induction es with
  | nil => simp [put, get?]
  | cons e rest ih =>
    obtain ⟨k', v'⟩ := e
    by_cases h : k' = k
    · subst h
      simp only [put, get?, if_pos]
      split <;> rfl
    · simp only [put, if_neg h, get?, ih]
      by_cases h' : k' = j
      · subst h'
        simp [Ne.symm h]
      · simp [h']

/-- The keys after a write: the same, or one more at the end. -/
theorem keys_put (es : Entries κ ν) (k : κ) (v : ν) :
    keys (put es k v) = if k ∈ keys es then keys es else keys es ++ [k] := by
  induction es with
  | nil => simp [put, keys]
  | cons e rest ih =>
    obtain ⟨k', v'⟩ := e
    by_cases h : k' = k
    · subst h
      simp [put, keys]
    · have hk : k ≠ k' := fun hh => h hh.symm
      have ih' : List.map (fun x => x.1) (put rest k v) =
          if k ∈ List.map (fun x => x.1) rest then List.map (fun x => x.1) rest
          else List.map (fun x => x.1) rest ++ [k] := ih
      simp only [put, if_neg h, keys, List.map_cons, List.mem_cons, hk, false_or, ih']
      split <;> simp

end Entries
end Carryover
