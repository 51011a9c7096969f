import Carryover.Proofs.Json.Number

/-!
# Written scalars are tokens

The characters of a scalar are cut off from a text as one token.
-/

namespace Carryover
namespace Json

open Number

/-! ### Texts -/

/-- A hexadecimal digit is read back. -/
theorem hexValue?_hexDigit : ∀ d < 16, hexValue? (Text.hexDigit d) = some d := by
  decide

/-- Four hexadecimal digits are read back. -/
theorem fourHex?_hexDigits {n : Nat} (hn : n < 16 ^ 4) (rest : List Char) :
    fourHex? (Text.hexDigits 4 n ++ rest) = some (n, rest) := by
  have hdigit (m : Nat) : hexValue? (Text.hexDigit (m % 16)) = some (m % 16) :=
    hexValue?_hexDigit _ (Nat.mod_lt m (by decide))
  simp only [Text.hexDigits, List.nil_append, List.cons_append, fourHex?, hdigit,
    Option.bind_eq_bind, Option.bind_some]
  congr 2
  omega

/-- A character below a space is read from its number. -/
theorem unicodeEscape?_hexDigits {c : Char} (hc : c.toNat < 0x20) (rest : List Char) :
    unicodeEscape? (Text.hexDigits 4 c.toNat ++ rest) = some (c, rest) := by
  rw [unicodeEscape?, fourHex?_hexDigits (by omega)]
  have hpair : ¬(0xD800 ≤ c.toNat) := by omega
  have hhalf : ¬(0xDC00 ≤ c.toNat) := by omega
  simp [hpair, hhalf]

/-- An escaped character is read as the character. -/
theorem textBody?_backslash {n : Nat} {c : Char} {cs rest : List Char}
    (h : escaped? cs = some (c, rest)) :
    textBody? (n + 1) ('\\' :: cs) =
      (textBody? n rest).map fun (ds, more) => (c :: ds, more) := by
  rw [textBody?]
  cases hn : textBody? n rest <;> simp [h, hn]

/-- A written character is read back. -/
theorem textBody?_escape (c : Char) (n : Nat) (rest : List Char) :
    textBody? (n + 1) (escape c ++ rest) =
      (textBody? n rest).map fun (cs, more) => (c :: cs, more) := by
  rw [escape]
  split_ifs with hself hn hr ht hb hf hlow
  · refine textBody?_backslash ?_
    obtain h | h := Bool.or_eq_true_iff.mp hself <;> obtain rfl := eq_of_beq h <;> rfl
  · obtain rfl := eq_of_beq hn
    exact textBody?_backslash rfl
  · obtain rfl := eq_of_beq hr
    exact textBody?_backslash rfl
  · obtain rfl := eq_of_beq ht
    exact textBody?_backslash rfl
  · obtain rfl : c = '\x08' := Char.toNat_inj.mp hb
    exact textBody?_backslash rfl
  · obtain rfl : c = '\x0c' := Char.toNat_inj.mp hf
    exact textBody?_backslash rfl
  · exact textBody?_backslash (unicodeEscape?_hexDigits hlow rest)
  · obtain ⟨hquote, hslash⟩ := Bool.or_eq_false_iff.mp (Bool.eq_false_of_not_eq_true hself)
    rw [List.singleton_append, textBody?]
    cases textBody? n rest <;> simp_all

/-- **The characters of a text are read back** up to the closing quote. -/
theorem textBody?_flatMap (cs : List Char) (n : Nat) (rest : List Char) :
    textBody? (n + 1 + cs.length) (cs.flatMap escape ++ '"' :: rest) = some (cs, rest) := by
  induction cs with
  | nil => rfl
  | cons c cs ih =>
    rw [List.flatMap_cons, List.append_assoc, List.length_cons, ← Nat.add_assoc, textBody?_escape,
      ih]
    rfl

/-- A text is no longer than its escaped characters. -/
theorem length_le_flatMap_escape (cs : List Char) : cs.length ≤ (cs.flatMap escape).length := by
  have hpos (c : Char) : 0 < (escape c).length := by
    rw [escape]
    split_ifs <;> simp
  induction cs with
  | nil => exact le_rfl
  | cons c cs ih =>
    rw [List.flatMap_cons, List.length_append, List.length_cons]
    have := hpos c
    omega

/-! ### Tokens -/

/-- The characters of a text are read as it. -/
theorem token?_textChars (s : String) (rest : List Char) :
    token? (textChars s ++ rest) = some (.scalar (.text s), rest) := by
  have hlen := length_le_flatMap_escape s.toList
  have hbody := textBody?_flatMap s.toList
    ((s.toList.flatMap escape).length - s.toList.length + rest.length + 1) rest
  have hfuel : (s.toList.flatMap escape).length - s.toList.length + rest.length + 1 + 1 +
      s.toList.length = (s.toList.flatMap escape ++ '"' :: rest).length + 1 := by
    rw [List.length_append, List.length_cons]
    omega
  rw [hfuel] at hbody
  rw [textChars, List.cons_append, List.append_assoc, List.singleton_append, token?, hbody]
  simp

/-- A digit begins a number. -/
theorem token?_digit {c : Char} (hc : c.isDigit = true) (cs : List Char) :
    token? (c :: cs) = (number? false (c :: cs)).map fun (j, rest) => (.scalar j, rest) := by
  rw [token?.eq_def]
  split <;> simp_all

/-- A digit after a minus begins a number. -/
theorem token?_minus {c : Char} (hc : c.isDigit = true) (cs : List Char) :
    token? ('-' :: c :: cs) = (number? true (c :: cs)).map fun (j, rest) => (.scalar j, rest) := by
  rw [token?.eq_def]
  split <;> simp_all

/-- A number is a token. -/
theorem token?_number {cs rest : List Char} {j : Json} (h : number? false cs = some (j, rest)) :
    token? cs = some (.scalar j, rest) := by
  obtain ⟨c, more, rfl, hc⟩ := number?_head h
  rw [token?_digit hc, h]
  rfl

/-- A number after a minus is a token. -/
theorem token?_minus_number {cs rest : List Char} {j : Json}
    (h : number? true cs = some (j, rest)) : token? ('-' :: cs) = some (.scalar j, rest) := by
  obtain ⟨c, more, rfl, hc⟩ := number?_head h
  rw [token?_minus hc, h]
  rfl

/-- A digit, with or without a sign before it, begins a number. -/
theorem token?_signed {c : Char} (hc : c.isDigit = true) (cs : List Char) (negative : Bool) :
    token? ((if negative then ['-'] else []) ++ c :: cs) =
      (number? negative (c :: cs)).map fun (j, rest) => (.scalar j, rest) := by
  cases negative with
  | true => exact token?_minus hc cs
  | false => exact token?_digit hc cs

/-- A whole number after a sign is a token if it has at most 4300 digits. -/
theorem token?_signed_whole (negative : Bool) (n : Nat) {rest : List Char} (hrest : AtEnd rest) :
    token? ((if negative then ['-'] else []) ++ (Nat.toDigits 10 n ++ rest)) =
      if (Nat.toDigits 10 n).length ≤ 4300 then
        some (.scalar (.int (if negative then -(n : Int) else n)), rest)
      else none := by
  have hw := isWhole_toDigits n
  have hnumber := number?_whole negative hw hrest
  obtain ⟨c, ds, hcons⟩ := List.exists_cons_of_ne_nil hw.ne_nil
  have htoken := token?_signed (hw.digits c (hcons ▸ List.mem_cons_self)) (ds ++ rest) negative
  rw [← List.cons_append, ← hcons, hnumber, ofDigits_toDigits] at htoken
  rw [htoken]
  split_ifs <;> rfl

/-- A whole number is written as its sign and its digits. -/
theorem intChars_eq (i : Int) :
    intChars i = (if decide (i < 0) then ['-'] else []) ++ Nat.toDigits 10 i.natAbs := by
  rw [intChars]
  by_cases h : i < 0 <;> simp [h]

/-- A whole number is a token if it has at most 4300 digits. -/
theorem token?_intChars (i : Int) {rest : List Char} (hrest : AtEnd rest) :
    token? (intChars i ++ rest) =
      if (Nat.toDigits 10 i.natAbs).length ≤ 4300 then some (.scalar (.int i), rest)
      else none := by
  have hi : (if decide (i < 0) = true then -(i.natAbs : Int) else i.natAbs) = i := by
    split_ifs with h
    · have := of_decide_eq_true h
      omega
    · have := of_decide_eq_false (Bool.eq_false_of_not_eq_true h)
      omega
  rw [intChars_eq, List.append_assoc, token?_signed_whole _ _ hrest, hi]

/-- A double is a token. -/
theorem token?_double (x : Double) {rest : List Char} (hrest : AtEnd rest) :
    token? (Layout.json.chars x ++ rest) = some (.scalar (.float x), rest) := by
  cases x with
  | nan => rfl
  | infinite negative => cases negative <;> rfl
  | finite x =>
    have h := number?_magnitude x.negative x.shortest hrest
    rw [x.shortest_readsBack] at h
    rw [Layout.chars]
    split_ifs with hneg
    · rw [hneg] at h
      exact token?_minus_number h
    · rw [Bool.eq_false_of_not_eq_true hneg] at h
      exact token?_number h

/-- A blank does not begin a token. -/
theorem isGap_of_token? {c : Char} {cs : List Char} {r : Token × List Char}
    (h : token? (c :: cs) = some r) : isGap c = false := by
  by_contra hc
  rw [Bool.not_eq_false] at hc
  simp only [isGap, Bool.or_eq_true, beq_iff_eq] at hc
  obtain ((rfl | rfl) | rfl) | rfl := hc <;> cases h

/-- The text of a whole number, and of a number after a sign, does not begin with a blank. -/
theorem signed_cons (negative : Bool) (n : Nat) :
    ∃ c cs, (if negative then ['-'] else []) ++ Nat.toDigits 10 n = c :: cs ∧ isGap c = false := by
  cases negative with
  | true => exact ⟨'-', _, rfl, rfl⟩
  | false =>
    obtain ⟨c, cs, hcons⟩ := List.exists_cons_of_ne_nil (Nat.toDigits_ne_nil (n := n) (b := 10))
    refine ⟨c, cs, hcons, ?_⟩
    have hc : c.isDigit = true := isDigit_toDigits c (hcons ▸ List.mem_cons_self)
    by_contra hgap
    simp only [isGap, Bool.not_eq_false, Bool.or_eq_true, beq_iff_eq] at hgap
    obtain ((rfl | rfl) | rfl) | rfl := hgap <;> cases hc

/-- A token at the start of a text is cut off. -/
theorem tokens?_of_token? {cs rest : List Char} {t : Token} (h : token? cs = some (t, rest))
    (n : Nat) : tokens? (n + 1) cs = (tokens? n rest).map (t :: ·) := by
  cases cs with
  | nil => cases h
  | cons c cs =>
    rw [tokens?, isGap_of_token? h, h, if_neg Bool.false_ne_true]
    cases hn : tokens? n rest <;> simp [hn]

/-- A text that does not begin with a token has no tokens. -/
theorem tokens?_of_token?_eq_none {c : Char} {cs : List Char} (hc : isGap c = false)
    (h : token? (c :: cs) = none) (n : Nat) : tokens? n (c :: cs) = none := by
  cases n with
  | zero => rfl
  | succ n =>
    rw [tokens?, hc, h]
    rfl

end Json
end Carryover
