import Carryover.Json.OfValue
import Carryover.Proofs.Json.Numeral

/-!
# Texts that are read as JSON

A text that is taken for JSON is not read as itself.

| text | read as |
| --- | --- |
| `red` | no JSON |
| `"red"` | `red` |
| `1/2`, `1+2j` | no JSON |

Outside of its texts JSON is made of few characters (`plainChars`): a text without quotes that has
any other character is no JSON (`parse?_eq_none`). The text that another one is read as is shorter
(`length_lt_of_parse?`).
-/

namespace Carryover
namespace Json

open Number

/-! ### Texts that are no JSON -/

/-- The characters that JSON is made of outside of its texts. -/
def plainChars : List Char :=
  "0123456789.+-eE[]\x7b\x7d,:nulltruefalseNaNInfinity \n\r\t".toList

/-- Whether what stands before the rest of a text is made of plain characters. -/
def Consumes (cs rest : List Char) : Prop :=
  ∃ used, cs = used ++ rest ∧ ∀ c ∈ used, c ∈ plainChars

namespace Consumes

variable {cs rest more : List Char}

theorem refl (cs : List Char) : Consumes cs cs :=
  ⟨[], rfl, List.forall_mem_nil _⟩

theorem trans (h : Consumes cs rest) (h' : Consumes rest more) : Consumes cs more := by
  obtain ⟨used, rfl, hused⟩ := h
  obtain ⟨used', rfl, hused'⟩ := h'
  exact ⟨used ++ used', by simp, List.forall_mem_append.mpr ⟨hused, hused'⟩⟩

/-- A plain character is consumed. -/
theorem cons {c : Char} (hc : c ∈ plainChars) (h : Consumes cs rest) : Consumes (c :: cs) rest := by
  obtain ⟨used, rfl, hused⟩ := h
  exact ⟨c :: used, rfl, List.forall_mem_cons.mpr ⟨hc, hused⟩⟩

/-- What is not plain is left. -/
theorem mem (h : Consumes cs rest) {c : Char} (hc : c ∉ plainChars) (hcs : c ∈ cs) : c ∈ rest := by
  obtain ⟨used, rfl, hused⟩ := h
  exact (List.mem_append.mp hcs).resolve_left fun hmem => hc (hused c hmem)

/-- A character that is not there is not there after some have been consumed. -/
theorem not_mem (h : Consumes cs rest) {c : Char} (hcs : c ∉ cs) : c ∉ rest := by
  obtain ⟨used, rfl, -⟩ := h
  exact fun hmem => hcs (List.mem_append_right used hmem)

/-- Digits are consumed. -/
theorem spanDigits (cs : List Char) : Consumes cs (spanDigits cs).2 := by
  rw [Number.spanDigits, List.span_eq_takeWhile_dropWhile]
  refine ⟨cs.takeWhile Char.isDigit, List.takeWhile_append_dropWhile.symm, fun c hc => ?_⟩
  have hdigit := List.all_eq_true.mp (List.all_takeWhile (p := Char.isDigit)) c hc
  exact Decimal.of_isDigit (P := (· ∈ plainChars)) hdigit (by decide)

/-- A sign is consumed. -/
theorem sign (cs : List Char) : Consumes cs (Scientific.sign cs).2 := by
  unfold Scientific.sign
  split
  · exact cons (by decide) (refl _)
  · exact cons (by decide) (refl _)
  · exact refl _

/-- A word of plain characters is consumed. -/
theorem word? {w : List Char} (hw : ∀ c ∈ w, c ∈ plainChars) (h : word? w cs = some rest) :
    Consumes cs rest := by
  rw [Json.word?, Option.ite_none_right_eq_some] at h
  obtain ⟨hbegin, hrest⟩ := h
  obtain ⟨more, rfl⟩ := List.isPrefixOf_iff_prefix.mp hbegin
  rw [List.drop_left] at hrest
  exact ⟨w, by rw [Option.some.inj hrest], hw⟩

/-- A fraction is consumed. -/
theorem fraction? {part : Option (List Char)} (h : fraction? cs = some (part, rest)) :
    Consumes cs rest := by
  unfold Json.fraction? at h
  split at h
  · rename_i cs
    rw [Option.ite_none_left_eq_some] at h
    obtain ⟨-, hrest⟩ := h
    cases hrest
    exact cons (by decide) (spanDigits cs)
  · cases h
    exact refl _

/-- An exponent is consumed. -/
theorem exponent? {e : Option Int} (h : exponent? cs = some (e, rest)) : Consumes cs rest := by
  unfold Json.exponent? at h
  split at h
  · rename_i c cs
    split at h
    · rename_i hmark
      rw [Option.ite_none_left_eq_some] at h
      obtain ⟨-, hrest⟩ := h
      cases hrest
      have hc : c ∈ plainChars := by
        obtain hc | hc := Bool.or_eq_true_iff.mp hmark <;> obtain rfl := eq_of_beq hc <;> decide
      exact cons hc ((sign cs).trans (spanDigits _))
    · cases h
      exact refl _
  · cases h
    exact refl _

/-- A number is consumed. -/
theorem number? {negative : Bool} {j : Json} (h : number? negative cs = some (j, rest)) :
    Consumes cs rest := by
  unfold Json.number? at h
  have hwhole := spanDigits cs
  generalize Number.spanDigits cs = span at h hwhole
  obtain ⟨whole, after⟩ := span
  dsimp only at h hwhole
  split at h
  · cases h
  · cases h
  · obtain ⟨⟨part, more⟩, hpart, h⟩ := Option.bind_eq_some_iff.mp h
    obtain ⟨⟨e, tail⟩, he, h⟩ := Option.bind_eq_some_iff.mp h
    have hread := hwhole.trans ((fraction? hpart).trans (exponent? he))
    dsimp only at h
    split at h
    · split at h
      · cases h
      · cases h
        exact hread
    · cases h
      exact hread

/-- A token is consumed, where there is no quotation mark. -/
theorem token? {t : Token} (hquote : '"' ∉ cs) (h : token? cs = some (t, rest)) :
    Consumes cs rest := by
  have hword {c : Char} {w cs : List Char} {t' : Token} (hc : c ∈ plainChars)
      (hw : w.all (fun d => d ∈ plainChars) = true)
      (h : (Json.word? w cs).map (t', ·) = some (t, rest)) : Consumes (c :: cs) rest := by
    obtain ⟨after, hafter, heq⟩ := Option.map_eq_some_iff.mp h
    cases heq
    exact cons hc (word? (List.all_iff_forall_prop.mp hw) hafter)
  have hnumber {negative : Bool} {cs : List Char}
      (h : (Json.number? negative cs).map (fun e => (Token.scalar e.1, e.2)) =
        some (t, rest)) : Consumes cs rest := by
    obtain ⟨⟨j, after⟩, hafter, heq⟩ := Option.map_eq_some_iff.mp h
    cases heq
    exact number? hafter
  rw [token?.eq_def] at h
  split at h
  iterate 6
    · cases h
      exact cons (by decide) (refl _)
  · exact absurd List.mem_cons_self hquote
  iterate 5
    · exact hword (by decide) (by decide) h
  · exact cons (by decide) (hword (by decide) (by decide) h)
  · exact cons (by decide) (hnumber h)
  · exact hnumber h

end Consumes

/-- The characters between tokens are plain ones. -/
theorem mem_plainChars_of_isGap {c : Char} (hc : isGap c = true) : c ∈ plainChars := by
  simp only [isGap, Bool.or_eq_true, beq_iff_eq] at hc
  obtain ((rfl | rfl) | rfl) | rfl := hc <;> decide

/-- A text without quotes that has a character that is not plain has no tokens. -/
theorem tokens?_eq_none {c : Char} (hc : c ∉ plainChars) :
    ∀ {n : Nat} {cs : List Char}, c ∈ cs → '"' ∉ cs → tokens? n cs = none
  | _, [], hcs, _ => nomatch hcs
  | 0, d :: cs, _, _ => rfl
  | n + 1, d :: cs, hcs, hquote => by
    rw [tokens?]
    split
    · rename_i hgap
      have hread : Consumes (d :: cs) cs := .cons (mem_plainChars_of_isGap hgap) (.refl cs)
      exact tokens?_eq_none hc (hread.mem hc hcs) (hread.not_mem hquote)
    · cases htoken : token? (d :: cs) with
      | none => rfl
      | some r =>
        have hread := Consumes.token? hquote htoken
        have hrest := tokens?_eq_none hc (n := n) (hread.mem hc hcs) (hread.not_mem hquote)
        simp [hrest]

/-- **A text without quotes is no JSON if it has a character that is not plain.** -/
theorem parse?_eq_none {s : String} {c : Char} (hc : c ∉ plainChars) (hs : c ∈ s.toList)
    (hquote : '"' ∉ s.toList) : parse? s = none := by
  rw [parse?, ofChars?, tokens?_eq_none hc hs hquote]
  rfl

/-- The text of a fraction that is no whole number is no JSON. -/
theorem parse?_fraction {q : Rat} (hq : q.den ≠ 1) : parse? (Fraction.render q) = none := by
  have hdigits (n : Nat) : ∀ c ∈ Nat.toDigits 10 n, c ∈ "0123456789-/".toList := fun c hc =>
    List.mem_append_left "-/".toList (Decimal.mem_digits (isDigit_toDigits c hc))
  have hchars : ∀ c ∈ (Fraction.render q).toList, c ∈ "0123456789-/".toList := by
    rw [Fraction.render, if_neg hq, toString_int, toString_nat, intChars_eq]
    simp only [String.toList_append, String.toList_ofList, List.forall_mem_append]
    refine ⟨⟨⟨?_, hdigits _⟩, List.all_iff_forall_prop.mp (by decide)⟩, hdigits _⟩
    split_ifs
    · exact List.forall_mem_singleton.mpr (by decide)
    · exact List.forall_mem_nil _
  refine parse?_eq_none (c := '/') (by decide) ?_ fun hquote => ?_
  · simp [Fraction.render, hq]
  · exact absurd (hchars _ hquote) (by decide)

/-- The text of a complex number is no JSON. -/
theorem parse?_complexJson (re im : Double) : parse? (complexJson re im) = none := by
  have hdouble (x : Double) : ∀ c ∈ (Layout.positional.render x).toList,
      c ∈ "0123456789.-Nainf+j".toList := by
    rw [Layout.render, String.toList_ofList]
    exact fun c hc => List.mem_append_left "+j".toList (Layout.mem_positional c hc)
  have hchars : ∀ c ∈ (complexJson re im).toList, c ∈ "0123456789.-Nainf+j".toList := by
    have him : ∀ c ∈ (Layout.positional.render im ++ "j").toList,
        c ∈ "0123456789.-Nainf+j".toList := by
      rw [String.toList_append, List.forall_mem_append]
      exact ⟨hdouble im, List.all_iff_forall_prop.mp (by decide)⟩
    unfold complexJson
    dsimp only
    split_ifs
    · exact him
    all_goals
      rw [String.toList_append, String.toList_append, List.forall_mem_append,
        List.forall_mem_append]
      exact ⟨⟨hdouble re, List.all_iff_forall_prop.mp (by decide)⟩, him⟩
  have hj : 'j' ∈ (complexJson re im).toList := by
    unfold complexJson
    dsimp only
    split_ifs <;> simp
  refine parse?_eq_none (by decide) hj fun hquote => ?_
  exact absurd (hchars _ hquote) (by decide)

/-! ### Texts that are read as texts -/

/-- Four hexadecimal digits take some characters. -/
theorem length_fourHex? {cs rest : List Char} {n : Nat} (h : fourHex? cs = some (n, rest)) :
    rest.length < cs.length := by
  unfold fourHex? at h
  split at h
  · simp only [Option.bind_eq_bind, Option.bind_eq_some_iff] at h
    obtain ⟨_, _, _, _, _, _, _, _, heq⟩ := h
    cases heq
    simp only [List.length_cons]
    omega
  · cases h

/-- An escape by number takes some characters. -/
theorem length_unicodeEscape? {cs rest : List Char} {c : Char}
    (h : unicodeEscape? cs = some (c, rest)) : rest.length < cs.length := by
  obtain ⟨⟨n, after⟩, hfour, h⟩ := Option.bind_eq_some_iff.mp h
  have hlen := length_fourHex? hfour
  dsimp only at h
  split_ifs at h
  · split at h
    · obtain ⟨⟨m, more⟩, hsecond, h⟩ := Option.bind_eq_some_iff.mp h
      have hmore := length_fourHex? hsecond
      dsimp only at h
      split_ifs at h
      obtain ⟨-, rfl⟩ := Prod.mk.inj (Option.some.inj h)
      simp only [List.length_cons] at hlen
      omega
    · cases h
  · obtain ⟨-, rfl⟩ := Prod.mk.inj (Option.some.inj h)
    exact hlen

/-- The character after a backslash takes up at least one. -/
theorem length_escaped? {cs rest : List Char} {c : Char} (h : escaped? cs = some (c, rest)) :
    rest.length < cs.length := by
  unfold escaped? at h
  split at h
  iterate 8
    · cases h
      exact Nat.lt_succ_self _
  · exact (length_unicodeEscape? h).trans (Nat.lt_succ_self _)
  · cases h

/-- The characters of a text are at most as many as were read for them, and there is a quote. -/
theorem length_textBody? : ∀ {n : Nat} {cs out rest : List Char},
    textBody? n cs = some (out, rest) → out.length + rest.length < cs.length
  | 0, cs, out, rest, h => nomatch h
  | n + 1, [], out, rest, h => nomatch h
  | n + 1, c :: cs, out, rest, h => by
    rw [textBody?] at h
    split_ifs at h
    · cases h
      simp
    · obtain ⟨⟨d, after⟩, hescaped, h⟩ := Option.bind_eq_some_iff.mp h
      obtain ⟨⟨ds, more⟩, hbody, heq⟩ := Option.bind_eq_some_iff.mp h
      have hafter := length_escaped? hescaped
      have hds := length_textBody? hbody
      cases heq
      simp only [List.length_cons]
      omega
    · obtain ⟨⟨ds, more⟩, hbody, heq⟩ := Option.bind_eq_some_iff.mp h
      have hds := length_textBody? hbody
      cases heq
      simp only [List.length_cons]
      omega

/-- A number is no text. -/
theorem number?_ne_text {negative : Bool} {cs rest : List Char} {t : String} :
    number? negative cs ≠ some (.text t, rest) := by
  intro h
  unfold number? at h
  generalize spanDigits cs = span at h
  obtain ⟨whole, after⟩ := span
  dsimp only at h
  split at h
  · cases h
  · cases h
  · obtain ⟨⟨part, more⟩, -, h⟩ := Option.bind_eq_some_iff.mp h
    obtain ⟨⟨e, tail⟩, -, h⟩ := Option.bind_eq_some_iff.mp h
    dsimp only at h
    split at h
    · split at h <;> cases h
    · cases h

/-- Only quotes begin a text. -/
theorem length_of_token? {cs rest : List Char} {t : String}
    (h : token? cs = some (.scalar (.text t), rest)) : t.length + rest.length < cs.length := by
  have hword {w cs : List Char} {j : Json}
      (h : (word? w cs).map (Token.scalar j, ·) = some (.scalar (.text t), rest)) :
      j = .text t := by
    obtain ⟨after, -, heq⟩ := Option.map_eq_some_iff.mp h
    cases heq
    rfl
  have hnumber {negative : Bool} {cs : List Char} :
      (number? negative cs).map (fun e => (Token.scalar e.1, e.2)) ≠
        some (.scalar (.text t), rest) := by
    intro h
    obtain ⟨⟨j, after⟩, hafter, heq⟩ := Option.map_eq_some_iff.mp h
    cases heq
    exact number?_ne_text hafter
  rw [token?.eq_def] at h
  split at h
  iterate 6
    · cases h
  · obtain ⟨⟨out, after⟩, hbody, heq⟩ := Option.map_eq_some_iff.mp h
    have hlen := length_textBody? hbody
    cases heq
    rw [String.length_ofList, List.length_cons]
    omega
  iterate 6
    · cases hword h
  · exact absurd h hnumber
  · exact absurd h hnumber

/-- A text that is the only token is shorter than what it is read from. -/
theorem length_of_tokens? : ∀ {n : Nat} {cs : List Char} {t : String},
    tokens? n cs = some [.scalar (.text t)] → t.length < cs.length
  | n, [], t, h => by
    rw [tokens?] at h
    cases h
  | 0, c :: cs, t, h => nomatch h
  | n + 1, c :: cs, t, h => by
    rw [tokens?] at h
    split_ifs at h
    · exact (length_of_tokens? h).trans (Nat.lt_succ_self _)
    · obtain ⟨⟨u, rest⟩, htoken, h⟩ := Option.bind_eq_some_iff.mp h
      obtain ⟨us, -, heq⟩ := Option.bind_eq_some_iff.mp h
      cases heq
      have hlen := length_of_token? htoken
      omega

/-- Only a text is put together to one. -/
theorem eq_scalar_of_value? {n depth : Nat} {ts rest : List Token} {t : String}
    (h : value? (n + 1) depth ts = some (.text t, rest)) : ts = .scalar (.text t) :: rest := by
  have hmap {α : Type} {o : Option (α × List Token)} {f : α → Json} (hf : ∀ a, f a ≠ .text t) :
      o.map (fun (a, rest) => (f a, rest)) ≠ some (.text t, rest) := by
    intro h
    obtain ⟨⟨a, after⟩, -, heq⟩ := Option.map_eq_some_iff.mp h
    exact hf a (Prod.mk.inj heq).1
  rw [value?.eq_def] at h
  dsimp only at h
  split_ifs at h
  split at h
  · cases h
    rfl
  · cases h
  · exact absurd h (hmap fun _ => by simp)
  · cases h
  · exact absurd h (hmap (f := fun es => .object (Entries.putAll [] es)) fun _ => by simp)
  · cases h

/-- **The text that another one is read as is shorter.** -/
theorem length_lt_of_parse? {s t : String} (h : parse? s = some (.text t)) :
    t.length < s.length := by
  obtain ⟨ts, htokens, h⟩ := Option.bind_eq_some_iff.mp h
  obtain ⟨⟨j, rest⟩, hvalue, h⟩ := Option.bind_eq_some_iff.mp h
  dsimp only at h
  split_ifs at h with hrest
  obtain rfl := Option.some.inj h
  obtain rfl := List.isEmpty_iff.mp hrest
  rw [eq_scalar_of_value? hvalue] at htokens
  exact length_of_tokens? htokens

end Json
end Carryover
