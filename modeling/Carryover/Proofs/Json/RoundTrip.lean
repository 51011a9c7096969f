import Carryover.Proofs.Entries
import Carryover.Proofs.Json.Token

/-!
# JSON is read back

The characters of a tree are cut into its tokens if its whole numbers have at most 4300 digits.
The tokens are put together to a tree if nothing in it stands inside of more than 200 lists and
objects; of the entries of an object under one key the last counts (`parse?_render_eq`). So a tree
within the limits of the reader, whose objects have distinct keys, is read back as it is
(`parse?_render`).
-/

namespace Carryover
namespace Json

/-! ### What is read of a tree -/

mutual

/-- Whether the whole numbers in a tree have at most 4300 digits. -/
def isShort : Json → Bool
  | .int i => decide ((Nat.toDigits 10 i.natAbs).length ≤ 4300)
  | .list items => itemsShort items
  | .object entries => entriesShort entries
  | _ => true

/-- Whether the whole numbers in trees have at most 4300 digits. -/
def itemsShort : List Json → Bool
  | [] => true
  | j :: js => isShort j && itemsShort js

/-- Whether the whole numbers in the entries of an object have at most 4300 digits. -/
def entriesShort : List (String × Json) → Bool
  | [] => true
  | (_, j) :: es => isShort j && entriesShort es

end

mutual

/-- The tree that is put together of the tokens of a tree that stands inside of `depth` lists and
objects. -/
def reread (depth : Nat) : Json → Option Json
  | .list items =>
    if depthLimit < depth then none else (rereadItems (depth + 1) items).map .list
  | .object entries =>
    if depthLimit < depth then none
    else (rereadEntries (depth + 1) entries).map fun es => .object (Entries.putAll [] es)
  | j => if depthLimit < depth then none else some j

/-- The trees that are put together of the tokens of the items of a list. -/
def rereadItems (depth : Nat) : List Json → Option (List Json)
  | [] => some []
  | j :: js => do
    let j ← reread depth j
    let js ← rereadItems depth js
    some (j :: js)

/-- The entries that are put together of the tokens of the entries of an object. -/
def rereadEntries (depth : Nat) : List (String × Json) → Option (List (String × Json))
  | [] => some []
  | (k, j) :: es => do
    let j ← reread depth j
    let es ← rereadEntries depth es
    some ((k, j) :: es)

end

/-! ### The tokens of a tree -/

mutual

/-- The tokens of a tree. -/
def tokens : Json → List Token
  | .list items => .openList :: (itemsTokens items ++ [.closeList])
  | .object entries => .openObject :: (entriesTokens entries ++ [.closeObject])
  | j => [.scalar j]

/-- The tokens of the items of a list. -/
def itemsTokens : List Json → List Token
  | [] => []
  | [j] => tokens j
  | j :: js => tokens j ++ .comma :: itemsTokens js

/-- The tokens of the entries of an object. -/
def entriesTokens : List (String × Json) → List Token
  | [] => []
  | [(k, j)] => .scalar (.text k) :: .colon :: tokens j
  | (k, j) :: es => .scalar (.text k) :: .colon :: (tokens j ++ .comma :: entriesTokens es)

end

theorem AtEnd.comma (rest : List Char) : AtEnd (',' :: rest) := by
  rintro c ⟨⟩
  exact .inl rfl

theorem AtEnd.closeList (rest : List Char) : AtEnd (']' :: rest) := by
  rintro c ⟨⟩
  exact .inr (.inl rfl)

theorem AtEnd.closeObject (rest : List Char) : AtEnd ('}' :: rest) := by
  rintro c ⟨⟩
  exact .inr (.inr rfl)

/-- Whether the characters `cs` are cut into the tokens `ts` when a text with `P` follows; unless
`ok`, no text that begins with them has tokens. -/
structure Cuts (P : List Char → Prop) (ok : Bool) (cs : List Char) (ts : List Token) : Prop where
  length_le : ts.length ≤ cs.length
  tokens? : ∀ (n : Nat) (rest : List Char), P rest →
    tokens? (n + ts.length) (cs ++ rest) = if ok then (tokens? n rest).map (ts ++ ·) else none

namespace Cuts

variable {P Q : List Char → Prop} {ok ok' : Bool} {cs cs' : List Char} {ts ts' : List Token}

/-- No characters are cut into no tokens. -/
theorem nil : Cuts P true [] [] :=
  ⟨le_rfl, fun n rest _ => by simp⟩

/-- Characters that are read as one token are cut into it. -/
theorem one {t : Token} (hP : P []) (h : ∀ rest, P rest → token? (cs ++ rest) = some (t, rest)) :
    Cuts P true cs [t] := by
  refine ⟨?_, fun n rest hrest => tokens?_of_token? (h rest hrest) n⟩
  cases cs with
  | nil => cases h [] hP
  | cons c cs => exact Nat.succ_le_succ (Nat.zero_le _)

/-- Characters that no token begins with cannot be cut. -/
theorem fail {c : Char} {t : Token} (hc : isGap c = false)
    (h : ∀ rest, P rest → token? (c :: (cs ++ rest)) = none) : Cuts P false (c :: cs) [t] :=
  ⟨Nat.succ_le_succ (Nat.zero_le _), fun _ rest hrest =>
    tokens?_of_token?_eq_none hc (h rest hrest) _⟩

/-- Characters are cut part by part, if each part ends where the next one can begin. -/
theorem append (h : Cuts P ok cs ts) (h' : Cuts Q ok' cs' ts')
    (hpq : ∀ rest, Q rest → P (cs' ++ rest)) : Cuts Q (ok && ok') (cs ++ cs') (ts ++ ts') := by
  refine ⟨?_, fun n rest hrest => ?_⟩
  · rw [List.length_append, List.length_append]
    exact Nat.add_le_add h.length_le h'.length_le
  · have hlen : n + (ts ++ ts').length = n + ts'.length + ts.length := by
      rw [List.length_append]
      omega
    rw [hlen, List.append_assoc, h.tokens? _ _ (hpq rest hrest), h'.tokens? n rest hrest]
    cases ok <;> cases ok' <;> simp [Function.comp_def]

/-- A character that is a token of its own comes before a text. -/
theorem mark {c : Char} {t : Token} (hc : ∀ rest, token? (c :: rest) = some (t, rest))
    (h : Cuts P ok cs ts) : Cuts P ok (c :: cs) (t :: ts) := by
  have hmark : Cuts (fun _ => True) true [c] [t] := one trivial fun rest _ => hc rest
  exact hmark.append h fun _ _ => trivial

/-- A character that is a token of its own comes after a value. -/
theorem close {c : Char} {t : Token} (h : Cuts AtEnd ok cs ts)
    (hc : ∀ rest, token? (c :: rest) = some (t, rest)) (hend : ∀ rest, AtEnd (c :: rest)) :
    Cuts P ok (cs ++ [c]) (ts ++ [t]) := by
  have hclose := h.append (mark hc (nil (P := P))) fun rest _ => hend rest
  rwa [Bool.and_true] at hclose

/-- A key comes before a value. -/
theorem member (k : String) (h : Cuts P ok cs ts) :
    Cuts P ok (textChars k ++ ':' :: cs) (.scalar (.text k) :: .colon :: ts) := by
  have hkey : Cuts (fun _ => True) true (textChars k) [.scalar (.text k)] :=
    one trivial fun rest _ => token?_textChars k rest
  exact hkey.append (mark (fun _ => rfl) h) fun _ _ => trivial

end Cuts

/-- The characters of a whole number are cut into it, if it is short. -/
theorem cuts_intChars (i : Int) :
    Cuts AtEnd (isShort (.int i)) (intChars i) [.scalar (.int i)] := by
  by_cases hi : (Nat.toDigits 10 i.natAbs).length ≤ 4300
  · rw [isShort, decide_eq_true hi]
    exact .one .nil fun rest hrest => by rw [token?_intChars i hrest, if_pos hi]
  · obtain ⟨c, cs, hcons, hc⟩ := signed_cons (decide (i < 0)) i.natAbs
    rw [← intChars_eq] at hcons
    rw [isShort, decide_eq_false hi, hcons]
    refine .fail hc fun rest hrest => ?_
    rw [← List.cons_append, ← hcons, token?_intChars i hrest, if_neg hi]

mutual

/-- The characters of a tree are cut into its tokens if its whole numbers are short. -/
theorem cuts_chars : ∀ j : Json, Cuts AtEnd (isShort j) (chars j) (tokens j)
  | .null => .one .nil fun _ _ => rfl
  | .bool true => .one .nil fun _ _ => rfl
  | .bool false => .one .nil fun _ _ => rfl
  | .int i => cuts_intChars i
  | .float x => .one .nil fun _ => token?_double x
  | .text s => .one .nil fun rest _ => token?_textChars s rest
  | .list items => by
    rw [chars, tokens, isShort]
    exact .mark (fun _ => rfl) ((cuts_itemsChars items).close (fun _ => rfl) AtEnd.closeList)
  | .object entries => by
    rw [chars, tokens, isShort]
    exact .mark (fun _ => rfl) ((cuts_entriesChars entries).close (fun _ => rfl) AtEnd.closeObject)

/-- The characters of items are cut into their tokens. -/
theorem cuts_itemsChars : ∀ items : List Json,
    Cuts AtEnd (itemsShort items) (itemsChars items) (itemsTokens items)
  | [] => .nil
  | [j] => by
    rw [itemsShort, itemsShort, Bool.and_true]
    exact cuts_chars j
  | j :: j' :: js => by
    rw [itemsShort, itemsChars, itemsTokens]
    · exact (cuts_chars j).append (.mark (fun _ => rfl) (cuts_itemsChars (j' :: js)))
        fun rest _ => AtEnd.comma _
    · simp
    · simp

/-- The characters of entries are cut into their tokens. -/
theorem cuts_entriesChars : ∀ entries : List (String × Json),
    Cuts AtEnd (entriesShort entries) (entriesChars entries) (entriesTokens entries)
  | [] => .nil
  | [(k, j)] => by
    rw [entriesShort, entriesShort, Bool.and_true]
    exact .member k (cuts_chars j)
  | (k, j) :: e :: es => by
    rw [entriesShort, entriesChars, entriesTokens]
    · exact .member k ((cuts_chars j).append (.mark (fun _ => rfl) (cuts_entriesChars (e :: es)))
        fun rest _ => AtEnd.comma _)
    · simp
    · simp

end

/-! ### The tree of the tokens -/

section Step

variable {depth fuel : Nat} {ts : List Token}

/-- A scalar is read as it is, if the nesting is not too deep. -/
theorem value?_scalar (depth fuel : Nat) (j : Json) (rest : List Token) :
    value? (fuel + 1) depth (.scalar j :: rest) =
      if depthLimit < depth then none else some (j, rest) := by
  simp [value?]

/-- An empty list is read as it is, if the nesting is not too deep. -/
theorem value?_list_nil (depth fuel : Nat) (rest : List Token) :
    value? (fuel + 1) depth (.openList :: .closeList :: rest) =
      if depthLimit < depth then none else some (.list [], rest) := by
  simp [value?]

/-- An empty object is read as it is, if the nesting is not too deep. -/
theorem value?_object_nil (depth fuel : Nat) (rest : List Token) :
    value? (fuel + 1) depth (.openObject :: .closeObject :: rest) =
      if depthLimit < depth then none else some (.object [], rest) := by
  simp [value?]

/-- A list is read item by item, one level deeper. -/
theorem value?_list (hts : ∀ more, ts ≠ .closeList :: more) :
    value? (fuel + 1) depth (.openList :: ts) =
      if depthLimit < depth then none
      else (items? fuel (depth + 1) ts).map fun (js, rest) => (.list js, rest) := by
  simp [value?]

/-- An object is read member by member, one level deeper, and of equal keys the last one counts. -/
theorem value?_object (hts : ∀ more, ts ≠ .closeObject :: more) :
    value? (fuel + 1) depth (.openObject :: ts) =
      if depthLimit < depth then none
      else (members? fuel (depth + 1) ts).map fun (es, rest) =>
        (.object (Entries.putAll [] es), rest) := by
  simp [value?]

end Step

/-- A JSON has a token. -/
theorem length_tokens_pos (j : Json) : 0 < (tokens j).length := by
  cases j <;> simp [tokens]

/-- The first token of a tree closes nothing. -/
theorem tokens_ne_closeList (j : Json) (more rest : List Token) :
    tokens j ++ more ≠ .closeList :: rest := by
  cases j <;> simp [tokens]

/-- The tokens of items do not begin with the end of the list. -/
theorem itemsTokens_ne_closeList (j : Json) (js : List Json) (more rest : List Token) :
    itemsTokens (j :: js) ++ more ≠ .closeList :: rest := by
  cases js with
  | nil => exact tokens_ne_closeList j more rest
  | cons j' js =>
    rw [itemsTokens, List.append_assoc]
    · exact tokens_ne_closeList j _ rest
    · simp

/-- The tokens of entries do not begin with the end of the object. -/
theorem entriesTokens_ne_closeObject (e : String × Json) (es : List (String × Json))
    (more rest : List Token) : entriesTokens (e :: es) ++ more ≠ .closeObject :: rest := by
  cases es <;> simp [entriesTokens]

mutual

/-- The tokens of a tree are put together to the tree that is reread. -/
theorem value?_tokens : ∀ (j : Json) {depth fuel : Nat}, 2 * (tokens j).length ≤ fuel → ∀ rest,
    value? fuel depth (tokens j ++ rest) = (reread depth j).map (·, rest)
  | .list [], depth, fuel + 1, hfuel, rest => by
    rw [tokens, itemsTokens, reread, rereadItems]
    exact (value?_list_nil depth fuel rest).trans (by split_ifs <;> rfl)
  | .object [], depth, fuel + 1, hfuel, rest => by
    rw [tokens, entriesTokens, reread, rereadEntries]
    exact (value?_object_nil depth fuel rest).trans (by split_ifs <;> rfl)
  | .list (j :: js), depth, fuel + 1, hfuel, rest => by
    rw [tokens] at hfuel ⊢
    simp only [List.length_cons, List.length_append] at hfuel
    rw [List.cons_append, List.append_assoc, value?_list (itemsTokens_ne_closeList j js _),
      List.singleton_append, items?_tokens j js (by omega), reread]
    split_ifs <;> simp [Function.comp_def]
  | .object (e :: es), depth, fuel + 1, hfuel, rest => by
    rw [tokens] at hfuel ⊢
    simp only [List.length_cons, List.length_append] at hfuel
    rw [List.cons_append, List.append_assoc, value?_object (entriesTokens_ne_closeObject e es _),
      List.singleton_append, members?_tokens e es (by omega), reread]
    split_ifs <;> simp [Function.comp_def]
  | .null, depth, fuel + 1, hfuel, rest | .bool _, depth, fuel + 1, hfuel, rest
  | .int _, depth, fuel + 1, hfuel, rest | .float _, depth, fuel + 1, hfuel, rest
  | .text _, depth, fuel + 1, hfuel, rest => by
    rw [tokens, reread]
    · exact (value?_scalar depth fuel _ rest).trans (by split_ifs <;> rfl)
    all_goals simp
  | j, depth, 0, hfuel, rest => by
    have := length_tokens_pos j
    omega

/-- The tokens of items are read as what is reread of the items. -/
theorem items?_tokens : ∀ (j : Json) (js : List Json) {depth fuel : Nat},
    2 * (itemsTokens (j :: js)).length + 1 ≤ fuel → ∀ rest,
      items? fuel depth (itemsTokens (j :: js) ++ .closeList :: rest) =
        (rereadItems depth (j :: js)).map (·, rest)
  | j, [], depth, fuel + 1, hfuel, rest => by
    rw [itemsTokens] at hfuel ⊢
    rw [items?, value?_tokens j (by omega), rereadItems, rereadItems]
    cases reread depth j <;> rfl
  | j, j' :: js, depth, fuel + 1, hfuel, rest => by
    have htokens : itemsTokens (j :: j' :: js) =
      tokens j ++ .comma :: itemsTokens (j' :: js) := by
      rw [itemsTokens]
      simp
    rw [htokens] at hfuel ⊢
    simp only [List.length_cons, List.length_append] at hfuel
    have hrest : items? fuel depth (itemsTokens (j' :: js) ++ .closeList :: rest) =
        (rereadItems depth (j' :: js)).map (·, rest) := items?_tokens j' js (by omega) rest
    rw [List.append_assoc, items?, value?_tokens j (by omega), rereadItems]
    cases reread depth j with
    | none => rfl
    | some j =>
      simp only [Option.map_some, Option.bind_eq_bind, Option.bind_some, List.cons_append, hrest]
      rw [Option.map_eq_bind, Option.bind_assoc, Option.map_bind]
      rfl

/-- The tokens of entries are read as what is reread of the entries. -/
theorem members?_tokens : ∀ (e : String × Json) (es : List (String × Json)) {depth fuel : Nat},
    2 * (entriesTokens (e :: es)).length + 1 ≤ fuel → ∀ rest,
      members? fuel depth (entriesTokens (e :: es) ++ .closeObject :: rest) =
        (rereadEntries depth (e :: es)).map (·, rest)
  | (k, j), [], depth, fuel + 1, hfuel, rest => by
    rw [entriesTokens] at hfuel ⊢
    simp only [List.length_cons] at hfuel
    rw [List.cons_append, List.cons_append, members?, value?_tokens j (by omega), rereadEntries,
      rereadEntries]
    cases reread depth j <;> rfl
  | (k, j), e :: es, depth, fuel + 1, hfuel, rest => by
    have htokens : entriesTokens ((k, j) :: e :: es) =
        .scalar (.text k) :: .colon :: (tokens j ++ .comma :: entriesTokens (e :: es)) := by
      rw [entriesTokens]
      simp
    rw [htokens] at hfuel ⊢
    simp only [List.length_cons, List.length_append] at hfuel
    have hrest : members? fuel depth (entriesTokens (e :: es) ++ .closeObject :: rest) =
        (rereadEntries depth (e :: es)).map (·, rest) := members?_tokens e es (by omega) rest
    rw [List.cons_append, List.cons_append, List.append_assoc, members?,
      value?_tokens j (by omega), rereadEntries]
    cases reread depth j with
    | none => rfl
    | some j =>
      simp only [Option.map_some, Option.bind_eq_bind, Option.bind_some, List.cons_append, hrest]
      rw [Option.map_eq_bind, Option.bind_assoc, Option.map_bind]
      rfl

end

/-! ### The tree of the characters -/

/-- **A written tree is read as the tree that is reread, if its whole numbers are short.** -/
theorem parse?_render_eq (j : Json) :
    parse? j.render = if isShort j then reread 0 j else none := by
  obtain ⟨hlen, hcuts⟩ := cuts_chars j
  have htokens := hcuts ((chars j).length - (tokens j).length) [] .nil
  have hvalue : value? (2 * (tokens j).length + 1) 0 (tokens j ++ []) =
      (reread 0 j).map (·, []) := value?_tokens j (Nat.le_succ _) []
  rw [Nat.sub_add_cancel hlen, List.append_nil, tokens?, Option.map_some, List.append_nil]
    at htokens
  rw [List.append_nil] at hvalue
  rw [parse?, render, String.toList_ofList, ofChars?, htokens]
  split_ifs
  · cases hr : reread 0 j <;> simp [hvalue, hr]
  · rfl

/-- Whether a tree is within the limits of the reader: its whole numbers have at most 4300 digits,
and nothing in it stands inside of more than 200 lists and objects. -/
def IsLegible (j : Json) : Prop :=
  j.isShort = true ∧ (j.reread 0).isSome

/-- The text of a tree can be read exactly if the tree is within the limits. -/
theorem isSome_parse?_render (j : Json) : (parse? j.render).isSome ↔ j.IsLegible := by
  rw [parse?_render_eq, IsLegible]
  split_ifs with h <;> simp [h]

theorem itemsShort_eq_all (js : List Json) : itemsShort js = js.all isShort := by
  induction js with
  | nil => rfl
  | cons j js ih => rw [itemsShort, ih, List.all_cons]

theorem entriesShort_eq_all (es : List (String × Json)) :
    entriesShort es = es.all fun e => isShort e.2 := by
  induction es with
  | nil => rfl
  | cons e es ih => rw [entriesShort, ih, List.all_cons]

/-- The entries of an object are reread one by one. -/
theorem rereadEntries_eq_mapM (depth : Nat) (es : List (String × Json)) :
    rereadEntries depth es = es.mapM fun e => (reread depth e.2).map (e.1, ·) := by
  induction es with
  | nil => rfl
  | cons e es ih =>
    rw [rereadEntries, ih, List.mapM_cons]
    cases reread depth e.2 <;> rfl

/-- Items are reread as they are if each of them is. -/
theorem rereadItems_eq_self {depth : Nat} {js : List Json}
    (h : ∀ j ∈ js, reread depth j = some j) : rereadItems depth js = some js := by
  induction js with
  | nil => rfl
  | cons j js ih =>
    simp [rereadItems, h j List.mem_cons_self, ih fun i hi => h i (List.mem_cons_of_mem j hi)]

/-- Entries are reread as they are if each of them is. -/
theorem rereadEntries_eq_self {depth : Nat} {es : List (String × Json)}
    (h : ∀ e ∈ es, reread depth e.2 = some e.2) : rereadEntries depth es = some es := by
  induction es with
  | nil => rfl
  | cons e es ih =>
    simp [rereadEntries, h e List.mem_cons_self, ih fun i hi => h i (List.mem_cons_of_mem e hi)]

/-! ### Trees that are read back -/

/-- Whether a tree that stands inside of `depth` lists and objects is within the limits of the
reader. -/
inductive Readable : Nat → Json → Prop
  | null {depth : Nat} (h : depth ≤ depthLimit) : Readable depth .null
  | bool {depth : Nat} {b : Bool} (h : depth ≤ depthLimit) : Readable depth (.bool b)
  | int {depth : Nat} {i : Int} (h : depth ≤ depthLimit)
      (hi : (Nat.toDigits 10 i.natAbs).length ≤ 4300) : Readable depth (.int i)
  | float {depth : Nat} {x : Number.Double} (h : depth ≤ depthLimit) : Readable depth (.float x)
  | text {depth : Nat} {s : String} (h : depth ≤ depthLimit) : Readable depth (.text s)
  | list {depth : Nat} {items : List Json} (h : depth ≤ depthLimit)
      (hitems : ∀ j ∈ items, Readable (depth + 1) j) : Readable depth (.list items)
  | object {depth : Nat} {entries : List (String × Json)} (h : depth ≤ depthLimit)
      (hkeys : (Entries.keys entries).Nodup) (hes : ∀ e ∈ entries, Readable (depth + 1) e.2) :
      Readable depth (.object entries)

/-- What is within the limits does not stand too deep. -/
theorem Readable.depth_le {depth : Nat} {j : Json} (hj : Readable depth j) :
    depth ≤ depthLimit := by
  cases hj <;> assumption

/-- Room for more than can be read is room for one value and for more than can be read in it. -/
theorem exists_room {depth room : Nat} (hdepth : depth ≤ depthLimit)
    (hroom : depthLimit < depth + room) :
    ∃ inner, room = inner + 1 ∧ depthLimit < depth + 1 + inner :=
  ⟨room - 1, by omega, by omega⟩

/-- What is within the limits has short numbers alone. -/
theorem Readable.isShort {depth : Nat} {j : Json} (hj : Readable depth j) : isShort j = true := by
  induction hj with
  | int h hi => exact decide_eq_true hi
  | list h hitems ih =>
    rw [Json.isShort, itemsShort_eq_all]
    exact List.all_eq_true.mpr ih
  | object h hkeys hes ih =>
    rw [Json.isShort, entriesShort_eq_all]
    exact List.all_eq_true.mpr ih
  | _ => rfl

/-- What is within the limits is reread as it is. -/
theorem Readable.reread {depth : Nat} {j : Json} (hj : Readable depth j) :
    reread depth j = some j := by
  induction hj with
  | list h hitems ih => simp [Json.reread, not_lt.mpr h, rereadItems_eq_self ih]
  | @object depth entries h hkeys hes ih =>
    have hput : Entries.putAll [] entries = entries :=
      Entries.putAll_of_nodup (by simpa using hkeys)
    simp [Json.reread, not_lt.mpr h, rereadEntries_eq_self ih, hput]
  | _ h => simp [Json.reread, not_lt.mpr h]

/-- **A tree within the limits of the reader is read back from its text.** -/
theorem parse?_render {j : Json} (hj : Readable 0 j) : parse? j.render = some j := by
  rw [parse?_render_eq, hj.isShort, hj.reread, if_pos rfl]

end Json
end Carryover
