import Carryover.Proofs.Stored.Failures

/-!
# Reads one after the other

A read keeps its type, and a later read is made as the kept type that is the same as its own. So
what a read comes to may depend on those before it, but only through the kept type. Reads never
depend on each other exactly if types that are the same read all texts alike
(`readAll_eq_map_iff`); the types of unions whose members come in another order are the same and do
not (`not_readAll_eq_map`).
-/

namespace Carryover

/-- A read of a stored value. -/
structure StoredRead where
  key : String
  stored : Value
  target : Hint

/-- Performs a read. -/
def StoredRead.run (r : StoredRead) : Run Value :=
  decode r.key r.stored r.target

/-- What reads come to that are made one after the other, failed ones included. -/
def Session.readAll (s : Session) : List StoredRead → List (Except Failure Value)
  | [] => []
  | r :: reads => (perform r.run s).1 :: (perform r.run s).2.readAll reads

variable {Γ : Classes} {s t : Session} {h k target : Hint} {text : String}

/-! ### Types that are the same -/

/-- Whether a type is made of others, or of listed values. -/
def Hint.isComposed : Hint → Bool
  | .row .. | .dict .. | .tuple _ | .union _ | .literal _ | .annotated .. => true
  | .classVar _ | .initVar _ | .written .. | .failing .. => true
  | _ => false

/-- Types that are the same are equal, or both are composed. -/
theorem eq_or_isComposed_of_same (hs : h.same k = true) :
    h = k ∨ h.isComposed = true ∧ k.isComposed = true := by
  unfold Hint.same at hs
  split at hs <;> simp_all [Hint.isComposed]

/-- A type that is not composed is the same as itself alone. -/
theorem eq_of_same_of_not_isComposed (hs : h.same k = true) (hh : h.isComposed = false) :
    h = k := by
  obtain heq | ⟨hcomposed, -⟩ := eq_or_isComposed_of_same hs
  · exact heq
  · rw [hh] at hcomposed
    cases hcomposed

/-- The type of arguments is the same as itself alone. -/
theorem eq_argumentsHint_of_same (hs : argumentsHint.same k = true) : k = argumentsHint := by
  cases k with
  | dict spelling key value =>
    simp only [argumentsHint, Hint.same, Bool.and_eq_true, beq_iff_eq] at hs
    obtain ⟨⟨rfl, hkey⟩, hvalue⟩ := hs
    obtain rfl := eq_of_same_of_not_isComposed hkey rfl
    obtain rfl := eq_of_same_of_not_isComposed hvalue rfl
    rfl
  | _ => simp [argumentsHint, Hint.same] at hs

/-! ### Types in one order alone -/

/-- Whether a type can be written in one order alone: it has no union and lists no values. -/
inductive Hint.IsOrdered : Hint → Prop
  | cls (c : ClassName) : IsOrdered (.cls c)
  | any : IsOrdered .any
  | nothing : IsOrdered .nothing
  | row (form : RowForm) (spelling : Spelling) {item : Hint} (hitem : IsOrdered item) :
      IsOrdered (.row form spelling item)
  | dict (spelling : Spelling) {key value : Hint} (hkey : IsOrdered key)
      (hvalue : IsOrdered value) : IsOrdered (.dict spelling key value)
  | tuple {hs : List Hint} (hhs : ∀ h ∈ hs, IsOrdered h) : IsOrdered (.tuple hs)
  | annotated {base : Hint} (notes : List Note) (hbase : IsOrdered base) :
      IsOrdered (.annotated base notes)

/-- Types that are each the same as themselves alone are one by one the same as themselves alone. -/
theorem eq_of_sameAll {hs ks : List Hint} (hhs : ∀ h ∈ hs, ∀ k, h.same k = true → h = k)
    (hsame : Hint.sameAll hs ks = true) : hs = ks := by
  induction hs generalizing ks with
  | nil =>
    cases ks with
    | nil => rfl
    | cons k ks => cases hsame
  | cons h hs ih =>
    obtain ⟨hh, hrest⟩ := List.forall_mem_cons.mp hhs
    cases ks with
    | nil => cases hsame
    | cons k ks =>
      simp only [Hint.sameAll, Bool.and_eq_true] at hsame
      rw [hh k hsame.1, ih hrest hsame.2]

/-- A type that can be written in one order alone is the same as itself alone. -/
theorem Hint.IsOrdered.eq_of_same (hh : h.IsOrdered) (hs : h.same k = true) : h = k := by
  induction hh generalizing k with
  | cls c => exact eq_of_same_of_not_isComposed hs rfl
  | any => exact eq_of_same_of_not_isComposed hs rfl
  | nothing => exact eq_of_same_of_not_isComposed hs rfl
  | row form spelling _ ih =>
    cases k with
    | row =>
      simp only [Hint.same, Bool.and_eq_true, beq_iff_eq] at hs
      obtain ⟨⟨rfl, rfl⟩, hs⟩ := hs
      rw [ih hs]
    | _ => cases hs
  | dict spelling _ _ ihkey ihvalue =>
    cases k with
    | dict =>
      simp only [Hint.same, Bool.and_eq_true, beq_iff_eq] at hs
      obtain ⟨⟨rfl, hkey⟩, hvalue⟩ := hs
      rw [ihkey hkey, ihvalue hvalue]
    | _ => cases hs
  | tuple _ ih =>
    cases k with
    | tuple ks =>
      rw [Hint.same] at hs
      rw [eq_of_sameAll (fun h hmem k => ih h hmem) hs]
    | _ => cases hs
  | annotated notes _ ih =>
    cases k with
    | annotated =>
      simp only [Hint.same, Bool.and_eq_true, beq_iff_eq] at hs
      obtain ⟨hs, rfl⟩ := hs
      rw [ih hs]
    | _ => cases hs

/-! ### Reads of texts -/

/-- A composed type is a target. -/
theorem checkTarget_of_isComposed (hk : target.isComposed = true) :
    Γ.checkTarget target = .ok () := by
  cases target <;> first | rfl | cases hk

/-- No stored value is already one of a composed type. -/
theorem isAlready_of_isComposed (hk : target.isComposed = true) (v : Value) :
    Γ.isAlready v target = false := by
  cases target <;> first | rfl | cases hk

/-- A composed type is not that of texts. -/
theorem isText_of_isComposed (hk : target.isComposed = true) : target.isText = false := by
  cases target <;> first | rfl | cases hk

/-- A text is read by the adapter that is kept for the type, or by a new one. -/
theorem perform_readText_of_readable (h : target.unreadable? s.classes = none) (text : String) :
    perform (readText target text) s =
      (s.classes.readAs (s.adapterOf target) text, (perform (adapterFor target) s).2) := by
  have hΓ : perform Run.classes s = (.ok s.classes, s) := rfl
  rw [readText, perform_bind, hΓ]
  dsimp only
  rw [h]
  dsimp only
  rw [perform_adapterFor_bind, perform_liftExcept]

/-- A text is read as a composed type that can be read into by what it fits the type as that is
read in its place. -/
theorem perform_decode_composed (hk : target.isComposed = true)
    (hreadable : target.unreadable? s.classes = none) (key text : String) :
    perform (decode key (.text text) target) s =
      ((s.classes.readAs (s.adapterOf target) text).mapError
        (s.classes.readFailure key (.text text) target), (perform (adapterFor target) s).2) := by
  have htext : s.classes.storedText (.text text) = .ok text := rfl
  rw [perform_decode (by simp), checkTarget_of_isComposed hk]
  dsimp only
  rw [isAlready_of_isComposed hk, isText_of_isComposed hk, perform_bind, perform_liftExcept, htext]
  dsimp only
  rw [perform_readText_of_readable hreadable]
  rfl

/-! ### Reads that do not depend on what is kept -/

/-- Different failures to fit a type are different failures of a read. -/
theorem readFailure_injective {key : String} {v : Value} {e e' : Failure}
    (he : e.isMisfit = true) (he' : e'.isMisfit = true)
    (h : Γ.readFailure key v target e = Γ.readFailure key v target e') : e = e' := by
  rw [Classes.readFailure, Classes.readFailure, if_pos (isConverted_of_isMisfit he),
    if_pos (isConverted_of_isMisfit he')] at h
  injection h

/-- Reads that fail alike to the outside have failed alike. -/
theorem readAs_eq_of_mapError {key : String} {v : Value}
    (heq : (Γ.readAs h text).mapError (Γ.readFailure key v target) =
      (Γ.readAs k text).mapError (Γ.readFailure key v target)) :
    Γ.readAs h text = Γ.readAs k text := by
  cases hh : Γ.readAs h text with
  | ok w =>
    cases hk : Γ.readAs k text with
    | ok w' =>
      rw [hh, hk] at heq
      cases heq
      rfl
    | error e =>
      rw [hh, hk] at heq
      cases heq
  | error e =>
    cases hk : Γ.readAs k text with
    | ok w =>
      rw [hh, hk] at heq
      cases heq
    | error e' =>
      rw [hh, hk] at heq
      rw [readFailure_injective (readAs_error hh) (readAs_error hk) (Except.error.inj heq)]

/-- A read comes to the same in two sessions if texts are read alike in them. -/
theorem fst_perform_decode_congr (hΓ : t.classes = s.classes)
    (h : target.unreadable? s.classes = none → ∀ text,
      s.classes.readAs (t.adapterOf target) text = s.classes.readAs (s.adapterOf target) text)
    (key : String) (v : Value) :
    (perform (decode key v target) t).1 = (perform (decode key v target) s).1 := by
  have htype (text : String) : t.readType target text = s.readType target text := by
    unfold Session.readType
    rw [hΓ]
    split
    · rename_i hu
      exact h hu text
    · rfl
  by_cases hv : v = .null
  · subst hv
    rw [perform_decode_null, perform_decode_null, hΓ]
  rw [perform_decode hv, perform_decode hv, hΓ]
  cases s.classes.checkTarget target with
  | error f => rfl
  | ok _ =>
    dsimp only
    split_ifs
    · rfl
    · rfl
    · rw [perform_bind, perform_bind, perform_liftExcept, perform_liftExcept]
      cases s.classes.storedText v with
      | error e => rfl
      | ok text =>
        dsimp only
        rw [fst_perform_readText, fst_perform_readText, htype]

/-- Whether the types that are kept are some that can be read into, or that of arguments. -/
structure Session.Keeps (s : Session) (Γ : Classes) (P : Hint → Prop) : Prop where
  classes : s.classes = Γ
  adapters : ∀ h ∈ s.adapters, P h ∧ h.unreadable? Γ = none ∨ h = argumentsHint

variable {P : Hint → Prop}

theorem adapters_adapterFor_start (h : Hint) :
    (perform (adapterFor h) (.start Γ)).2.adapters = [h] := rfl

/-- A new session keeps no adapters. -/
theorem keeps_start (Γ : Classes) (P : Hint → Prop) : (Session.start Γ).Keeps Γ P :=
  ⟨rfl, List.forall_mem_nil _⟩

/-- Decoding changes no class. -/
theorem classes_decode (key : String) (v : Value) (target : Hint) (s : Session) :
    (perform (decode key v target) s).2.classes = s.classes := by
  obtain ht | ⟨k, -, ht⟩ := snd_perform_decode key v target s <;> rw [ht]
  rfl

/-- A read keeps no other types. -/
theorem Session.Keeps.run (hs : s.Keeps Γ P) {r : StoredRead} (hr : P r.target) :
    (perform r.run s).2.Keeps Γ P := by
  refine ⟨(classes_decode _ _ _ s).trans hs.classes, fun h hh => ?_⟩
  obtain (⟨rfl, hu⟩ | rfl) | hh := mem_adapters_decode hh
  · exact .inl ⟨hr, hs.classes ▸ hu⟩
  · exact .inr rfl
  · exact hs.adapters h hh

/-- What is read in the place of a type reads texts alike, if the kept types that are the same
do. -/
theorem Session.Keeps.readAs_adapterOf (hs : s.Keeps Γ P)
    (halike : ∀ h, P h → h.same k = true → h.unreadable? Γ = none →
      ∀ text, Γ.readAs h text = Γ.readAs k text) (text : String) :
    Γ.readAs (s.adapterOf k) text = Γ.readAs k text := by
  unfold Session.adapterOf
  cases hfind : s.adapters.find? fun h => h.same k with
  | none => rfl
  | some h =>
    have hsame : h.same k = true := List.find?_some (p := fun h : Hint => h.same k) hfind
    obtain ⟨hP, hu⟩ | rfl := hs.adapters h (List.mem_of_find?_eq_some hfind)
    · exact halike h hP hsame hu text
    · rw [eq_argumentsHint_of_same hsame]
      rfl

/-- If types that are the same read alike, each read comes to what it comes to in a new session. -/
theorem readAll_eq_map (hs : s.Keeps Γ P)
    (halike : ∀ h k, P h → P k → h.same k = true → h.unreadable? Γ = none →
      k.unreadable? Γ = none → ∀ text, Γ.readAs h text = Γ.readAs k text)
    {reads : List StoredRead} (hreads : ∀ r ∈ reads, P r.target) :
    s.readAll reads = reads.map fun r => (perform r.run (.start Γ)).1 := by
  induction reads generalizing s with
  | nil => rfl
  | cons r reads ih =>
    obtain ⟨hr, hrest⟩ := List.forall_mem_cons.mp hreads
    rw [Session.readAll, List.map_cons, ih (hs.run hr) hrest]
    congr 1
    exact fst_perform_decode_congr hs.classes (fun hu text => by
      have hempty : (Session.start Γ).adapterOf r.target = r.target := rfl
      rw [hempty]
      exact hs.readAs_adapterOf (fun h hh hsame hu' => halike h _ hh hr hsame hu' hu) text)
      r.key r.stored

/-- If a read of a text does not depend on one of it as the same type, both types read it alike. -/
theorem readAs_eq_of_readAll (hsame : h.same k = true) (hh : h.unreadable? Γ = none)
    (hk : k.unreadable? Γ = none) {key : String}
    (hreads : (Session.start Γ).readAll [⟨key, .text text, h⟩, ⟨key, .text text, k⟩] =
      [⟨key, .text text, h⟩, ⟨key, .text text, k⟩].map fun r : StoredRead =>
        (perform r.run (.start Γ)).1) :
    Γ.readAs h text = Γ.readAs k text := by
  obtain rfl | ⟨hch, hck⟩ := eq_or_isComposed_of_same hsame
  · rfl
  simp only [Session.readAll, List.map_cons, List.map_nil, List.cons.injEq] at hreads
  obtain ⟨-, hsecond, -⟩ := hreads
  -- the first read keeps its type, and the second one is made as that
  have hkept : (perform (adapterFor h) (.start Γ)).2.adapterOf k = h := by
    simp [Session.adapterOf, adapters_adapterFor_start, hsame]
  rw [StoredRead.run, StoredRead.run, perform_decode_composed hch hh] at hsecond
  dsimp only at hsecond
  rw [perform_decode_composed hck hk, perform_decode_composed hck hk, hkept] at hsecond
  exact readAs_eq_of_mapError hsecond

/-- **Reads never depend on the reads before them exactly if types that are the same read all
texts alike**: whatever the keys and the stored values of the reads are, as long as their types are
among those in question. -/
theorem readAll_eq_map_iff (Γ : Classes) (P : Hint → Prop) :
    (∀ reads : List StoredRead, (∀ r ∈ reads, P r.target) →
      (Session.start Γ).readAll reads = reads.map fun r => (perform r.run (.start Γ)).1) ↔
      ∀ h k, P h → P k → h.same k = true → h.unreadable? Γ = none → k.unreadable? Γ = none →
        ∀ text, Γ.readAs h text = Γ.readAs k text := by
  constructor
  · intro hall h k hh hk hsame hu hu' text
    exact readAs_eq_of_readAll hsame hu hu' (hall [⟨"", .text text, h⟩, ⟨"", .text text, k⟩]
      (by simp [hh, hk]))
  · intro halike reads hreads
    exact readAll_eq_map (keeps_start Γ P) halike hreads

/-- Lists of whole numbers and of doubles, read from one text. -/
def listReads : List StoredRead :=
  [⟨"n", .text "[1]", .row .list .capital (.builtin .int)⟩,
    ⟨"n", .text "[1]", .row .list .capital (.builtin .float)⟩]

theorem readAll_eq_map_iff_lists :
    (∀ r ∈ listReads, r.target.IsOrdered) ∧
      (Session.start {}).readAll listReads =
        listReads.map fun r => (perform r.run (.start {})).1 := by
  have hordered : ∀ r ∈ listReads, r.target.IsOrdered := by
    simp only [listReads, List.forall_mem_cons, List.not_mem_nil, false_implies, implies_true,
      and_true]
    exact ⟨.row _ _ (.cls _), .row _ _ (.cls _)⟩
  exact ⟨hordered, (readAll_eq_map_iff {} Hint.IsOrdered).mpr
    (fun h k hh _ hsame _ _ _ => hh.eq_of_same hsame ▸ rfl) listReads hordered⟩

/-- **Reads as types without unions and listed values never depend on the reads before them.** -/
theorem readAll_eq_map_of_isOrdered {reads : List StoredRead}
    (hreads : ∀ r ∈ reads, r.target.IsOrdered) :
    (Session.start Γ).readAll reads = reads.map fun r => (perform r.run (.start Γ)).1 :=
  readAll_eq_map (keeps_start Γ Hint.IsOrdered)
    (fun _ _ hh _ hsame _ _ _ => hh.eq_of_same hsame ▸ rfl) hreads

/-! ### Unions in another order -/

/-- Whole numbers and doubles, in this order. -/
def wholeFirst : Hint :=
  .union [.builtin .int, .builtin .float]

/-- Doubles and whole numbers, in this order. -/
def doubleFirst : Hint :=
  .union [.builtin .float, .builtin .int]

theorem same_wholeFirst : wholeFirst.same doubleFirst = true := by
  decide

theorem unreadable?_wholeFirst : wholeFirst.unreadable? Γ = none := by
  simp [wholeFirst, Hint.unreadable?, Hint.schemaFailure, Hint.anyFailure, Hint.isReadable]

theorem unreadable?_doubleFirst : doubleFirst.unreadable? Γ = none := by
  simp [doubleFirst, Hint.unreadable?, Hint.schemaFailure, Hint.anyFailure, Hint.isReadable]

theorem parse?_one : Json.parse? "\"1\"" = some (.text "1") := rfl

theorem fitInt_one : Json.fitBuiltin Γ .int (.text "1") = .ok (.of (.int 1) .lax) := rfl

theorem fitFloat_one :
    Json.fitBuiltin Γ .float (.text "1") = .ok (.of (.float (.ofInt 1)) .lax) := rfl

/-- The text is read as a whole number if this member comes first. -/
theorem readAs_wholeFirst : Γ.readAs wholeFirst "\"1\"" = .ok (.int 1) := by
  rw [Classes.readAs, parse?_one]
  simp [wholeFirst, Json.fit, Json.fitUnion, fitInt_one, fitFloat_one, Json.isFinal, Json.better,
    Fit.isBetter, Fit.of]

/-- It is read as a double if that member comes first. -/
theorem readAs_doubleFirst : Γ.readAs doubleFirst "\"1\"" = .ok (.float (.ofInt 1)) := by
  rw [Classes.readAs, parse?_one]
  simp [doubleFirst, Json.fit, Json.fitUnion, fitInt_one, fitFloat_one, Json.isFinal, Json.better,
    Fit.isBetter, Fit.of]

/-- Not every read is independent of those before it: a text that stands for a whole number is read
as the member that comes first, in the order that was read first. -/
theorem not_readAll_eq_map :
    ¬ ∀ (Γ : Classes) (reads : List StoredRead),
      (Session.start Γ).readAll reads = reads.map fun r => (perform r.run (.start Γ)).1 := by
  intro h
  have heq := readAs_eq_of_readAll same_wholeFirst unreadable?_wholeFirst unreadable?_doubleFirst
    (h {} [⟨"n", .text "\"1\"", wholeFirst⟩, ⟨"n", .text "\"1\"", doubleFirst⟩])
  rw [readAs_wholeFirst, readAs_doubleFirst] at heq
  cases heq

end Carryover
