import Carryover.Class.Order
import Carryover.Proofs.Entries

/-!
# Orders of classes

The order of a class begins with the class itself (`exists_order_eq_cons`). It depends on the names,
the kinds and the bases of the declared classes, and on nothing else that they hold (`order_map`).
-/

namespace Carryover

/-- A declared class stands first in its own order. -/
theorem order_declared (Γ : Classes) (name : String) :
    ∃ rest, Γ.order (.declared name) = .declared name :: rest := by
  have hall (ds : List ClassDecl) (acc : Entries String (List ClassName))
      (hacc : ∀ e ∈ acc, ∃ rest, e.2 = ClassName.declared e.1 :: rest) :
      ∀ e ∈ ds.foldl (fun acc d => acc ++ [(d.name, Classes.orderOfDecl acc d)]) acc,
        ∃ rest, e.2 = ClassName.declared e.1 :: rest := by
    induction ds generalizing acc with
    | nil => exact hacc
    | cons d ds ih =>
      exact ih _ (List.forall_mem_append.mpr
        ⟨hacc, List.forall_mem_singleton.mpr ⟨_, rfl⟩⟩)
  rw [Classes.order]
  cases hget : Entries.get? Γ.orders name with
  | none => exact ⟨_, rfl⟩
  | some l => exact hall Γ.decls [] (List.forall_mem_nil _) _ (Entries.mem_of_get? hget)

/-- A class stands first in its own order. -/
theorem exists_order_eq_cons (Γ : Classes) (c : ClassName) : ∃ rest, Γ.order c = c :: rest := by
  cases c with
  | builtin b => cases b <;> exact ⟨_, rfl⟩
  | declared name => exact order_declared Γ name
  | named home name => exact ⟨_, rfl⟩

/-- A class is in its own order. -/
theorem mem_order_self (Γ : Classes) (c : ClassName) : c ∈ Γ.order c := by
  obtain ⟨rest, horder⟩ := exists_order_eq_cons Γ c
  simp [horder]

/-- The declaration of a class comes before those of the classes below it. -/
theorem declsOf_declared {Γ : Classes} {name : String} {d : ClassDecl}
    (hd : Γ.find? name = some d) : ∃ rest, Γ.declsOf (.declared name) = d :: rest := by
  obtain ⟨rest, horder⟩ := order_declared Γ name
  rw [Classes.declsOf, horder, List.filterMap_cons]
  simp only [hd]
  exact ⟨_, rfl⟩

/-- The classes in an order are declared. -/
theorem Classes.mem_decls_of_mem_declsOf {Γ : Classes} {c : ClassName} {d : ClassDecl}
    (h : d ∈ Γ.declsOf c) : d ∈ Γ.decls := by
  obtain ⟨k, -, hk⟩ := List.mem_filterMap.mp h
  cases k with
  | declared name => exact List.mem_of_find?_eq_some hk
  | _ => cases hk

namespace Classes

variable {f : ClassDecl → ClassDecl}

/-- A change of declarations that keeps their names keeps which one is found. -/
theorem find?_map (hf : ∀ d, (f d).name = d.name) (Γ : Classes) (name : String) :
    find? { Γ with decls := Γ.decls.map f } name = (Γ.find? name).map f := by
  have hnames : (fun d => d.name == name) ∘ f = fun d => d.name == name :=
    funext fun d => by rw [Function.comp_apply, hf]
  rw [find?, find?, List.find?_map, hnames]

/-- The order of classes depends on their names, kinds and bases alone. -/
theorem order_map (hf : ∀ d, (f d).name = d.name ∧ (f d).kind = d.kind ∧ (f d).bases = d.bases)
    (Γ : Classes) (c : ClassName) : order { Γ with decls := Γ.decls.map f } c = Γ.order c := by
  have horders : orders { Γ with decls := Γ.decls.map f } = Γ.orders := by
    unfold orders orderOfDecl
    simp only [List.foldl_map, hf]
  cases c with
  | declared name => rw [order, order, horders]
  | _ => rfl

end Classes
end Carryover
