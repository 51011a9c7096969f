import Carryover.Proofs.Field.ClassLevel
import Carryover.Proofs.Field.Moved

/-!
# Private names

A class declares a directive for a name in one of three ways: by an annotation of the name with the
mark of the class, as annotations of private names are compiled, by an annotation of the name as it
is, and by a call that registers it. In each of them the last declaration of the attribute is of the
name as it is and of the attribute that objects hold (`Session.Declares.declaresLast`). So a class
finds its private names where objects hold them, and so do the classes that inherit the attributes
(`findsPrivateNames`). The class of all objects does not: no lookup asks for what is registered for
it (`not_findsPrivateNames`).
-/

namespace Carryover

variable {name spelling : String}

/-- Whether an annotation is for the instances, as far as its type says, or its text in the place of
the type. -/
def Hint.isForInstances : Hint → Bool
  | .written text _ | .failing text _ => !isClassForm text
  | .classVar _ | .initVar _ => false
  | _ => true

/-- An annotation is kept if it is for instances and its name is none of the language. -/
theorem isKept_eq (h : Hint) (name : String) :
    h.isKept name = (!isDunder name && h.isForInstances) := by
  cases h <;> rfl

/-- The ways in which a class declares a directive for a name: by an annotation of the name with the
mark of the class, by an annotation of the name as it is, and by a call that registers it. -/
inductive Way where
  | marked
  | unmarked
  | registered
  deriving DecidableEq

namespace Session

/-- Whether a class annotates a spelling of a name with a directive, and declares no spelling of the
name after it. -/
inductive Annotates (s : Session) (name spelling : String) (directive : Directive) :
    ClassName → Prop
  | last {d : ClassDecl} {h : Hint} (before after : List (String × Hint))
    (hfind : s.classes.find? d.name = some d)
    (hannotations : d.annotations = before ++ (spelling, h) :: after)
    (hinstances : h.isForInstances = true)
    (hdirective : h.meaning.directive? = some directive)
    (hafter : ∀ e ∈ after, Spells d.name name e.1 → e.2.isForInstances = false)
    (hunregistered : ∀ e ∈ (Entries.get? s.registered (.declared d.name)).getD [],
      ¬ Spells d.name name e.1) : Annotates s name spelling directive (.declared d.name)

/-- Whether a class declares a directive for a name in one of the ways, and declares no spelling of
the name after it. -/
inductive Declares (s : Session) (name : String) (directive : Directive) (k : ClassName) :
    Way → Prop
  | marked (h : s.Annotates name (heldName k.short name) directive k) :
    Declares s name directive k .marked
  | unmarked (h : s.Annotates name name directive k) : Declares s name directive k .unmarked
  | registered (before after : Entries String Directive)
    (hregistered : (Entries.get? s.registered k).getD [] = before ++ (name, directive) :: after)
    (hafter : ∀ e ∈ after, ¬ Spells k.short name e.1) : Declares s name directive k .registered

/-- The classes that take the declarations of an attribute from a class: the class itself, and those
that have it below them, if none before it in the order declares the attribute. -/
inductive Inherits (s : Session) (attr : String) (k : ClassName) : ClassName → Prop
  | own : Inherits s attr k k
  | below {c : ClassName} (above below : List ClassName)
    (horder : s.classes.order c = above ++ k :: below)
    (habove : ∀ k' ∈ above, ∀ d ∈ s.declaredBy k', d.attr ≠ attr) : Inherits s attr k c

/-- Whether the names of a class are found where objects hold them, in whichever way they are
declared, by the class and by those that have it below them. -/
structure FindsPrivateNames (s : Session) (k : ClassName) : Prop where
  /-- A private name makes a field of that name, and the attribute is marked with the class. -/
  privateName : ∀ way name directive c, isPrivate name.toList = true →
    s.Declares name directive k way → s.Inherits (markedName k.short name) k c →
      s.fault? c = none → ∃ fields, (perform (contextFields c) s).1 = .ok fields ∧
        ⟨name, markedName k.short name, k, directive⟩ ∈ fields
  /-- Any other name that is not marked makes a field of that name and that attribute; one with two
  underscores at both ends has to be registered. -/
  otherName : ∀ way name directive c, isPrivate name.toList = false →
    ¬ privateMark k.short <+: name.toList → (way ≠ .registered → isDunder name = false) →
      s.Declares name directive k way → s.Inherits name k c →
        s.fault? c = none → ∃ fields, (perform (contextFields c) s).1 = .ok fields ∧
          ⟨name, name, k, directive⟩ ∈ fields
  /-- Two private names have two attributes. -/
  distinct : ∀ m n, isPrivate m.toList = true → isPrivate n.toList = true → m ≠ n →
    (attributeNames k.short m).2 ≠ (attributeNames k.short n).2

end Session

/-- An annotation that can be a field is declared, and after it the annotations after it. -/
theorem exists_declared_eq_append {d : ClassDecl} {before after : List (String × Hint)}
    {e : String × Hint} (hannotations : d.annotations = before ++ e :: after)
    (hkept : e.2.isKept e.1 = true) :
    ∃ before' after', d.declared = before' ++ ⟨(attributeNames d.name e.1).1,
        (attributeNames d.name e.1).2, .declared d.name, e.2.meaning.directive?⟩ :: after' ∧
      ∀ x ∈ after', ∃ y ∈ after, y.2.isKept y.1 = true ∧
        x.attr = (attributeNames d.name y.1).2 := by
  let keeps (y : String × Hint) : Bool := y.2.isKept y.1
  unfold ClassDecl.declared
  rw [hannotations, List.filter_append, List.filter_cons_of_pos (p := keeps) hkept, List.map_append,
    List.map_cons]
  refine ⟨_, _, rfl, fun x hx => ?_⟩
  obtain ⟨y, hy, rfl⟩ := List.mem_map.mp hx
  obtain ⟨hy, hkept⟩ := List.mem_filter.mp hy
  exact ⟨y, hy, hkept, rfl⟩

/-- A declaration with a directive makes a field, if its attribute is not declared after it. -/
theorem mem_fieldsOf_append_cons {d : Declaration} {directive : Directive}
    (hdirective : d.directive = some directive) (before : List Declaration)
    {after : List Declaration} (hafter : ∀ e ∈ after, e.attr ≠ d.attr) :
    ⟨d.name, d.attr, d.owner, directive⟩ ∈ fieldsOf (before ++ d :: after) := by
  have hlast : lastOf (before ++ d :: after) d.attr = some d := by
    rw [List.append_cons, lastOf_append, lastOf_eq_none_iff.mpr hafter, Option.none_or,
      lastOf_concat, if_pos rfl]
  exact ((areFieldsOf_fieldsOf _).mem_iff _).mpr ⟨d, hlast, rfl, rfl, hdirective⟩

namespace Session

variable {s : Session} {k c : ClassName} {way : Way} {directive : Directive}

/-- Whether a class declares a name and the attribute that objects hold with a directive, and does
not declare the attribute after it. -/
def DeclaresLast (s : Session) (k : ClassName) (name : String) (directive : Directive) : Prop :=
  ∃ before after, s.declaredBy k =
      before ++ ⟨name, heldName k.short name, k, some directive⟩ :: after ∧
    ∀ e ∈ after, e.attr ≠ heldName k.short name

/-- Directives under other spellings declare other attributes. -/
theorem attr_ne_of_unregistered (hcls : ∃ c ∈ k.short.toList, c ≠ '_')
    (hmark : ¬ privateMark k.short <+: name.toList) {ds : Entries String Directive}
    (hds : ∀ e ∈ ds, ¬ Spells k.short name e.1) :
    ∀ e ∈ registeredDeclarations k ds, e.attr ≠ heldName k.short name := by
  intro e he heq
  obtain ⟨x, hx, rfl⟩ := List.mem_map.mp he
  exact hds x hx ((attribute_eq_iff hcls hmark).mp heq)

/-- An annotation under a spelling of the name is the last declaration of its attribute. -/
theorem Annotates.declaresLast (h : s.Annotates name spelling directive k)
    (hspelling : Spells k.short name spelling) (hcls : ∃ c ∈ k.short.toList, c ≠ '_')
    (hmark : ¬ privateMark k.short <+: name.toList) (hdunder : isDunder name = false) :
    s.DeclaresLast k name directive := by
  obtain @⟨d, hint, before, after, hfind, hannotations, hinstances, hdirective, hafter,
    hunregistered⟩ := h
  have hkept : hint.isKept spelling = true := by
    rw [isKept_eq, isDunder_of_spells hcls hdunder hspelling, hinstances]
    rfl
  obtain ⟨before', after', hdeclared, hafter'⟩ := exists_declared_eq_append hannotations hkept
  have hnames : attributeNames d.name spelling = (name, heldName d.name name) :=
    attributeNames_of_spells hcls hmark hspelling
  refine ⟨before', after' ++ registeredDeclarations (.declared d.name) _, ?_,
    List.forall_mem_append.mpr ⟨fun e he heq => ?_,
      attr_ne_of_unregistered hcls hmark hunregistered⟩⟩
  · unfold declaredBy
    simp only [hfind, Option.map_some, Option.getD_some, hdeclared, hnames, hdirective,
      List.append_assoc, List.cons_append]
    rfl
  · -- of the later annotations, those of the same attribute are for the class alone
    obtain ⟨x, hx, hkept, hattr⟩ := hafter' e he
    have hspells := (attribute_eq_iff hcls hmark).mp (hattr.symm.trans heq)
    rw [isKept_eq, hafter x hx hspells, Bool.and_false] at hkept
    cases hkept

/-- **In each way a class declares the name as it is and the attribute that objects hold.** -/
theorem Declares.declaresLast (h : s.Declares name directive k way)
    (hcls : ∃ c ∈ k.short.toList, c ≠ '_') (hmark : ¬ privateMark k.short <+: name.toList)
    (hdunder : way ≠ .registered → isDunder name = false) : s.DeclaresLast k name directive := by
  cases h with
  | marked h => exact h.declaresLast (.inr rfl) hcls hmark (hdunder (by decide))
  | unmarked h => exact h.declaresLast (.inl rfl) hcls hmark (hdunder (by decide))
  | registered before after hregistered hafter =>
    have hnames := attributeNames_of_spells hcls hmark (.inl rfl)
    obtain ⟨annotated, hdeclared⟩ : ∃ annotated, s.declaredBy k =
        annotated ++ registeredDeclarations k ((Entries.get? s.registered k).getD []) := ⟨_, rfl⟩
    refine ⟨annotated ++ registeredDeclarations k before, registeredDeclarations k after, ?_,
      attr_ne_of_unregistered hcls hmark hafter⟩
    rw [hdeclared, hregistered, registeredDeclarations_append, List.append_assoc]
    simp only [registeredDeclarations, List.map_cons, hnames]

/-- What a class declares last of an attribute makes a field of the classes that inherit it. -/
theorem DeclaresLast.mem_fields (h : s.DeclaresLast k name directive)
    (hk : k ≠ .builtin .object) (hinherits : s.Inherits (heldName k.short name) k c) :
    ⟨name, heldName k.short name, k, directive⟩ ∈ fieldsOf (s.declared c) := by
  obtain ⟨above, below, horder, habove⟩ : ∃ above below,
      s.classes.order c = above ++ k :: below ∧
        ∀ k' ∈ above, ∀ d ∈ s.declaredBy k', d.attr ≠ heldName k.short name := by
    cases hinherits with
    | own =>
      obtain ⟨below, horder⟩ := exists_order_eq_cons s.classes k
      exact ⟨[], below, horder, List.forall_mem_nil _⟩
    | below above below horder habove => exact ⟨above, below, horder, habove⟩
  obtain ⟨before, after, hdeclaredBy, hafter⟩ := h
  have hdeclared : s.declared c = (s.declaredIn below ++ before) ++
      ⟨name, heldName k.short name, k, some directive⟩ :: (after ++ s.declaredIn above) := by
    have hsplit : s.declared c = s.declaredIn below ++ (s.declaredBy k ++ s.declaredIn above) := by
      change s.declaredIn (s.classes.order c) = _
      simp [horder, declaredIn, List.filter_append, hk]
    simp [hsplit, hdeclaredBy]
  rw [hdeclared]
  refine mem_fieldsOf_append_cons rfl _ (List.forall_mem_append.mpr ⟨hafter, fun d hd => ?_⟩)
  obtain ⟨k', hk', hd⟩ := List.mem_flatMap.mp hd
  exact habove k' (List.mem_reverse.mp (List.mem_filter.mp hk').1) d hd

/-- A lookup that comes upon no fault finds the fields of names, declared in whichever way. -/
theorem exists_contextFields_of_declares (hs : s.Coherent) (hk : k ≠ .builtin .object)
    (hcls : ∃ c ∈ k.short.toList, c ≠ '_') (hmark : ¬ privateMark k.short <+: name.toList)
    (hdunder : way ≠ .registered → isDunder name = false)
    (h : s.Declares name directive k way) (hinherits : s.Inherits (heldName k.short name) k c)
    (hfault : s.fault? c = none) :
    ∃ fields, (perform (contextFields c) s).1 = .ok fields ∧
      ⟨name, heldName k.short name, k, directive⟩ ∈ fields := by
  refine ⟨fieldsOf (s.declared c), ?_, (h.declaresLast hcls hmark hdunder).mem_fields hk hinherits⟩
  rw [hs.fst_perform_contextFields, computeFields_eq, hfault]
  rfl

/-- **A class finds its private names where objects hold them**: under the name that is marked with
the class, whether they are annotated with the mark, annotated without it, or registered. Other
names are found as they are, and no two private names share an attribute. -/
theorem findsPrivateNames (hs : s.Coherent) (hk : k ≠ .builtin .object)
    (hcls : ∃ c ∈ k.short.toList, c ≠ '_') : s.FindsPrivateNames k where
  privateName way name directive c hname hdeclares hinherits hfault := by
    have hheld : heldName k.short name = markedName k.short name := heldName_of_isPrivate hname
    rw [← hheld] at hinherits ⊢
    exact exists_contextFields_of_declares hs hk hcls (not_marked_of_isPrivate hcls hname)
      (fun _ => isDunder_of_isPrivate hname) hdeclares hinherits hfault
  otherName way name directive c hname hmark hdunder hdeclares hinherits hfault := by
    have hheld : heldName k.short name = name := heldName_of_not_isPrivate hname
    rw [← hheld] at hinherits
    have hfields := exists_contextFields_of_declares hs hk hcls hmark hdunder hdeclares hinherits
      hfault
    rwa [hheld] at hfields
  distinct m n hm hn hne heq := by
    rw [attributeNames_of_isPrivate hcls hm, attributeNames_of_isPrivate hcls hn] at heq
    exact hne (markedName_injective k.short heq)

/-- A vault that annotates a private name with the mark, and another one, by a text, without it. -/
def vault : ClassDecl :=
  bare "__Vault" [] [("_Vault__pin", .annotated (.builtin .str) [.directive {}]),
    ("__code", .written "Code" (.annotated (.builtin .str) [.directive {}]))]

/-- The vault, and a safe that has it below and a private name of its own, spelled as one of the
vault. -/
def vaults : Classes :=
  { decls := [vault,
      bare "Safe" ["__Vault"] [("__pin", .annotated (.builtin .str) [.directive {}])]] }

/-- A session with the vaults that has registered a private name, and looked the safe up. -/
def vaultSession : Session :=
  (start vaults).after
    [registering (.declared "__Vault") [("__limit", {})], .look (.declared "Safe")]

theorem findsPrivateNames_vault :
    vaultSession.Coherent ∧ ClassName.declared "__Vault" ≠ .builtin .object ∧
      (∃ c ∈ (ClassName.declared "__Vault").short.toList, c ≠ '_') ∧
      vaultSession.Declares "__pin" {} (.declared "__Vault") .marked ∧
      vaultSession.Declares "__code" {} (.declared "__Vault") .unmarked ∧
      vaultSession.Declares "__limit" {} (.declared "__Vault") .registered ∧
      vaultSession.Inherits "_Vault__pin" (.declared "__Vault") (.declared "Safe") ∧
      vaultSession.fault? (.declared "Safe") = none ∧
      vaultSession.FindsPrivateNames (.declared "__Vault") := by
  have hs : vaultSession.Coherent := (fresh_after _ _).coherent
  have hk : ClassName.declared "__Vault" ≠ .builtin .object := by decide
  have hcls : ∃ c ∈ (ClassName.declared "__Vault").short.toList, c ≠ '_' :=
    ⟨'V', by decide, by decide⟩
  have hmarked : vaultSession.Annotates "__pin" "_Vault__pin" {} (.declared "__Vault") :=
    .last (d := vault) [] _ rfl rfl rfl rfl (by decide) (by decide)
  have hunmarked : vaultSession.Annotates "__code" "__code" {} (.declared "__Vault") :=
    .last (d := vault) [_] [] rfl rfl rfl rfl (by decide) (by decide)
  have hregistered : vaultSession.Declares "__limit" {} (.declared "__Vault") .registered :=
    .registered [] [] rfl (List.forall_mem_nil _)
  have hinherits :
      vaultSession.Inherits "_Vault__pin" (.declared "__Vault") (.declared "Safe") :=
    .below [.declared "Safe"] [.builtin .object] rfl (by decide)
  exact ⟨hs, hk, hcls, .marked hmarked, .unmarked hunmarked, hregistered, hinherits, by rfl,
    findsPrivateNames hs hk hcls⟩

/-- A directive that is registered for the class of all objects is not found. -/
theorem not_findsPrivateNames : ¬ ∀ (s : Session) (k : ClassName), s.Coherent →
    (∃ c ∈ k.short.toList, c ≠ '_') → s.FindsPrivateNames k := by
  intro h
  let s := (start {}).after [registering (.builtin .object) [("__tag", {})]]
  have hnone : (perform (contextFields (.builtin .object)) s).1 = .ok [] := rfl
  have hdeclares : s.Declares "__tag" {} (.builtin .object) .registered :=
    .registered [] [] rfl (List.forall_mem_nil _)
  have hfinds : s.FindsPrivateNames (.builtin .object) :=
    h s _ (fresh_after _ _).coherent ⟨'o', by decide, by decide⟩
  obtain ⟨fields, hfields, hmem⟩ :=
    hfinds.privateName .registered "__tag" {} _ (by decide) hdeclares .own rfl
  rw [hnone] at hfields
  obtain rfl := Except.ok.inj hfields
  cases hmem

end Session
end Carryover
