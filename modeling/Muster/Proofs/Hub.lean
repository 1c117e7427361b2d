import Muster.Hub
import Muster.Proofs.Rows

/-!
What attaching a table changes: the handlers of its node, and nothing else. Where handlers are
numbered receivers and each new one is attached at once, every node is bound to its last.
-/

namespace Muster

namespace Hub

variable {η ℓ : Type}

theorem bound_attach (h : Hub η ℓ) (node other : NodeId) (name : MessageName)
    (table : HandlerTable η) :
    (h.attach node table).bound other name =
      if other = node then
        match table.find? name with
        | none => .error (.unknownMessage node name)
        | some entry => .ok entry.handler
      else h.bound other name := by
  unfold bound attach
  by_cases same : other = node
  · subst same
    cases found : table.find? name <;> simp [found]
  · simp only [Table.find?_insert, if_neg same]

/-- A node is bound to the last of its receivers; they are numbered as in the list. -/
def Latest (h : Hub Nat ℓ) (name : MessageName) (nodes : List NodeId) : Prop :=
  ∀ node site, h.bound node name = .ok site →
    nodes[site]? = some node ∧ ∀ other : Nat, nodes[other]? = some node → other ≤ site

variable {h g : Hub Nat ℓ} {name : MessageName} {nodes : List NodeId}

theorem Latest.mono (latest : h.Latest name nodes)
    (bound : ∀ {node site}, g.bound node name = .ok site → h.bound node name = .ok site) :
    g.Latest name nodes :=
  fun node site here => latest node site (bound here)

theorem Latest.set {γ : Type} {rows : List γ} {f : γ → NodeId} {i : Nat} {old row : γ}
    (latest : h.Latest name (rows.map f)) (found : rows[i]? = some old) (same : f row = f old) :
    h.Latest name ((rows.set i row).map f) := by
  rw [map_set_same found same]
  exact latest

theorem bound_detach {node other : NodeId} {table : HandlerTable Nat} {site : Nat}
    (gone : table.find? name = none)
    (bound : (h.attach node table).bound other name = .ok site) :
    h.bound other name = .ok site := by
  rw [bound_attach] at bound
  split at bound
  · rw [gone] at bound
    cases bound
  · exact bound

theorem Latest.attach (latest : h.Latest name nodes) {node : NodeId} {table : HandlerTable Nat}
    (found : table.find? name = some ⟨nodes.length, true⟩) :
    (h.attach node table).Latest name (nodes ++ [node]) := by
  intro other site here
  rw [bound_attach] at here
  split at here
  · rename_i same
    rw [found] at here
    obtain rfl := Except.ok.inj here
    refine ⟨by rw [List.getElem?_concat_length, same], fun older known => ?_⟩
    rcases getElem?_append_cases known with old | ⟨rfl, -⟩
    · exact Nat.le_of_lt (List.getElem?_eq_some_iff.mp old).1
    · exact Nat.le_refl _
  · rename_i apart
    obtain ⟨own, latest⟩ := latest other site here
    refine ⟨getElem?_append_old own, fun older known => ?_⟩
    rcases getElem?_append_cases known with old | ⟨-, new⟩
    · exact latest older old
    · exact absurd new apart

end Hub

end Muster
