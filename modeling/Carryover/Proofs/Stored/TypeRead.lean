import Carryover.Proofs.Hint.Proper
import Carryover.Proofs.Stored.Reading

/-!
# Reads as a type

A read as any type comes to one of four results: the value itself, its text, what its text fits the
type as, and an object that a class makes of its text (`fst_perform_decode`). Of what has been read
before, the result depends on the kept type alone that is read in the place of the type. The types
that are kept after any reads list no member of a union twice, if none that is read does
(`isProper_adapters_reads`).
-/

namespace Carryover

/-- The type that is read in the place of a type: the kept one that is the same, if there is one. -/
def Session.adapterOf (s : Session) (target : Hint) : Hint :=
  (s.adapters.find? fun h => h.same target).getD target

theorem fst_perform_adapterFor (target : Hint) (s : Session) :
    (perform (adapterFor target) s).1 = .ok (s.adapterOf target) := rfl

/-- A lookup of a type goes on with the one that is read in its place. -/
theorem perform_adapterFor_bind {α : Type} (target : Hint) (f : Hint → Run α) (s : Session) :
    perform (adapterFor target >>= f) s =
      perform (f (s.adapterOf target)) (perform (adapterFor target) s).2 := by
  have hadapter := fst_perform_adapterFor target s
  rw [perform_bind]
  generalize perform (adapterFor target) s = p at hadapter
  obtain ⟨r, t⟩ := p
  obtain rfl : r = .ok (s.adapterOf target) := hadapter
  rfl

/-- Reads a JSON text as a value of a type. -/
def Session.readType (s : Session) (target : Hint) (text : String) : Except Failure Value :=
  match target.unreadable? s.classes with
  | none => s.classes.readAs (s.adapterOf target) text
  | some e =>
    match plainClass? target e with
    | some c => s.classes.readArguments c text
    | none => .error e

/-- A text is read into a type by what is kept for it. -/
theorem fst_perform_readText (target : Hint) (text : String) (s : Session) :
    (perform (readText target text) s).1 = s.readType target text := by
  have hΓ : perform Run.classes s = (.ok s.classes, s) := rfl
  rw [readText, perform_bind, hΓ]
  unfold Session.readType
  dsimp only
  cases target.unreadable? s.classes with
  | none =>
    dsimp only
    rw [perform_adapterFor_bind, perform_liftExcept]
  | some e =>
    dsimp only
    cases plainClass? target e with
    | none => rfl
    | some c =>
      dsimp only
      rw [perform_adapterFor_bind, perform_liftExcept]

/-- **What a read comes to**, if it comes to a value. -/
theorem fst_perform_decode {v w : Value} (hv : v ≠ .null) (key : String) (target : Hint)
    (s : Session) :
    (perform (decode key v target) s).1 = .ok w ↔
      s.classes.checkTarget target = .ok () ∧
        if s.classes.isAlready v target then v = w
        else if target.isText then .text (s.classes.plain v) = w
        else ∃ text, s.classes.storedText v = .ok text ∧ s.readType target text = .ok w := by
  rw [perform_decode hv]
  cases s.classes.checkTarget target with
  | error e => simp
  | ok _ =>
    dsimp only
    split_ifs
    · simp
    · simp
    · rw [mapError_eq_ok, perform_bind, perform_liftExcept]
      cases s.classes.storedText v with
      | error e => simp
      | ok text => simp [fst_perform_readText]

/-- A text is read as a type by what the tree that it stands for fits. -/
theorem readType_eq_ok {s : Session} {target : Hint} (ht : target.unreadable? s.classes = none)
    {text : String} {w : Value} :
    s.readType target text = .ok w ↔ ∃ j f, Json.parse? text = some j ∧
      Json.fit s.classes (s.adapterOf target) j = .ok f ∧ f.value = w := by
  unfold Session.readType
  rw [ht]
  dsimp only
  rw [Classes.readAs]
  cases Json.parse? text with
  | none => simp
  | some j => cases hfit : Json.fit s.classes (s.adapterOf target) j <;> simp [hfit]

/-! ### Kept types -/

/-- A type that is kept after a lookup is the one looked up, or was kept before. -/
theorem mem_adapters_adapterFor {h target : Hint} {s : Session}
    (hh : h ∈ (perform (adapterFor target) s).2.adapters) : h = target ∨ h ∈ s.adapters := by
  have hmem : h ∈ s.adapterOf target :: s.adapters.eraseP fun h => h.same target :=
    List.mem_of_mem_take hh
  obtain rfl | hmem := List.mem_cons.mp hmem
  · unfold Session.adapterOf
    cases hfind : s.adapters.find? fun h => h.same target with
    | none => exact .inl rfl
    | some h => exact .inr (List.mem_of_find?_eq_some hfind)
  · exact .inr (List.mem_of_mem_eraseP hmem)

/-- Whether one session is another one after at most one lookup of a type, that of a target that
can be read into or that of named arguments. -/
def Session.AfterLookup (s t : Session) (target : Hint) : Prop :=
  t = s ∨ ∃ h, (h = target ∧ h.unreadable? s.classes = none ∨ h = argumentsHint) ∧
    t = (perform (adapterFor h) s).2

/-- Reading a text changes the session at most by a lookup of a type. -/
theorem snd_perform_readText (target : Hint) (text : String) (s : Session) :
    s.AfterLookup (perform (readText target text) s).2 target := by
  have hΓ : perform Run.classes s = (.ok s.classes, s) := rfl
  rw [readText, perform_bind, hΓ]
  dsimp only
  cases hfault : target.unreadable? s.classes with
  | none =>
    dsimp only
    rw [perform_adapterFor_bind, perform_liftExcept]
    exact .inr ⟨target, .inl ⟨rfl, hfault⟩, rfl⟩
  | some e =>
    dsimp only
    cases plainClass? target e with
    | none => exact .inl rfl
    | some c =>
      dsimp only
      rw [perform_adapterFor_bind, perform_liftExcept]
      exact .inr ⟨argumentsHint, .inr rfl, rfl⟩

/-- A read changes the session at most by a lookup of a type. -/
theorem snd_perform_decode (key : String) (v : Value) (target : Hint) (s : Session) :
    s.AfterLookup (perform (decode key v target) s).2 target := by
  by_cases hv : v = .null
  · subst hv
    rw [perform_decode_null]
    exact .inl rfl
  · rw [perform_decode hv]
    cases s.classes.checkTarget target with
    | error e => exact .inl rfl
    | ok _ =>
      dsimp only
      split_ifs
      · exact .inl rfl
      · exact .inl rfl
      · rw [perform_bind, perform_liftExcept]
        cases s.classes.storedText v with
        | error e => exact .inl rfl
        | ok text => exact snd_perform_readText target text s

/-- A read keeps the types from before, and the one that it looks up. -/
theorem mem_adapters_decode {h target : Hint} {key : String} {v : Value} {s : Session}
    (hh : h ∈ (perform (decode key v target) s).2.adapters) :
    (h = target ∧ h.unreadable? s.classes = none ∨ h = argumentsHint) ∨ h ∈ s.adapters := by
  obtain hs | ⟨k, hk, hs⟩ := snd_perform_decode key v target s
  · rw [hs] at hh
    exact .inr hh
  · rw [hs] at hh
    obtain rfl | hh := mem_adapters_adapterFor hh
    · exact .inl hk
    · exact .inr hh

/-- A read keeps no type that lists a member of a union twice, unless it is one to be read. -/
theorem isProper_adapters_decode {target : Hint} {key : String} {v : Value} {s : Session}
    (hs : ∀ h ∈ s.adapters, h.isProper = true) (ht : target.isProper = true) :
    ∀ h ∈ (perform (decode key v target) s).2.adapters, h.isProper = true := by
  intro h hh
  obtain (⟨rfl, -⟩ | rfl) | hh := mem_adapters_decode hh
  · exact ht
  · rfl
  · exact hs h hh

/-- **The kept types list each member of a union once** after any reads, failed ones included, as
types that do. -/
theorem isProper_adapters_reads {reads : List (String × Value × Hint)} {s : Session}
    (hs : ∀ h ∈ s.adapters, h.isProper = true) (hreads : ∀ r ∈ reads, r.2.2.isProper = true) :
    ∀ h ∈ (reads.foldl (fun t r => (perform (decode r.1 r.2.1 r.2.2) t).2) s).adapters,
      h.isProper = true := by
  induction reads generalizing s with
  | nil => exact hs
  | cons r reads ih =>
    obtain ⟨hr, hrest⟩ := List.forall_mem_cons.mp hreads
    exact ih (isProper_adapters_decode hs hr) hrest

end Carryover
