import Muster.Proofs.Hub
import Muster.Proofs.Overrides
import Muster.Proofs.Run.ActTurns

/-!
Which handlers a message can reach. A process installs its own handlers at its own node when it
starts, and every other handler is from outside; a message is bound when it is sent.
-/

namespace Muster

/-- The process that a handler belongs to. -/
def Handler.owner? : Handler → Option SiteId
  | .consumeTestdata id | .produceToken id | .consumeToken id => some id
  | .recorder _ _ => none

/-- Handlers from outside alone. -/
def Outside (table : HandlerTable Handler) : Prop :=
  ∀ name entry, table.find? name = some entry → entry.handler.owner? = none

namespace Table

variable {κ ν : Type} [Ord κ] [Std.TransOrd κ] [Std.LawfulEqOrd κ] [DecidableEq κ]

theorem find?_foldl_insert {entries : List (κ × ν)} {t : Table κ ν} {key : κ} {value : ν}
    (found : (entries.foldl (fun t entry => t.insert entry.1 entry.2) t).find? key = some value) :
    (key, value) ∈ entries ∨ t.find? key = some value := by
  induction entries generalizing t with
  | nil => exact .inr found
  | cons entry rest ih =>
    rcases ih found with later | before
    · exact .inl (List.mem_cons_of_mem _ later)
    · rw [find?_insert] at before
      split at before
      · rename_i same
        obtain rfl := Option.some.inj before
        exact .inl (by rw [same]; exact List.mem_cons_self)
      · exact .inr before

theorem mem_of_find?_ofList {pairs : List (κ × ν)} {key : κ} {value : ν}
    (found : (ofList pairs).find? key = some value) : (key, value) ∈ pairs :=
  (find?_foldl_insert found).resolve_right nofun

end Table

theorem Listener.outside_table (listeners : List Listener) :
    Outside (Listener.table listeners) := by
  intro name entry found
  obtain ⟨listener, -, same⟩ := List.mem_map.mp (Table.mem_of_find?_ofList found)
  obtain ⟨-, rfl⟩ := Prod.mk.inj same
  rfl

namespace Registry

theorem outside_register {registry : Registry Handler}
    (outside : ∀ d, Outside (registry.direction d)) (d : Direction) (listener : Listener) :
    ∀ other, Outside ((registry.register d listener.name listener.entry).direction other) := by
  intro other
  rw [direction_register]
  split
  · intro name entry found
    rw [Table.find?_insert] at found
    split at found
    · obtain rfl := Option.some.inj found
      rfl
    · exact outside other name entry found
  · exact outside other

theorem outside_overridesFor {registry : Registry Handler}
    (outside : ∀ d, Outside (registry.direction d)) (directions : List Direction) :
    Outside (registry.overridesFor directions) := by
  intro name entry found
  rw [find?_overridesFor] at found
  obtain ⟨d, -, found⟩ := List.exists_of_findSome?_eq_some found
  exact outside d name entry found

end Registry

/-- A process starts with its own handlers and those from outside. -/
theorem Setup.owner_of_handlers {setup : Setup} {registry : Registry Handler} {id : SiteId}
    (outside : ∀ d, Outside (registry.direction d)) {name : MessageName}
    {entry : HandlerEntry Handler} (found : (setup.handlers registry id).find? name = some entry) :
    ∀ owner ∈ entry.handler.owner?, owner = id := by
  rw [handlers, HandlerTable.find?_build] at found
  rcases Option.or_eq_some_iff.mp found with override | ⟨-, default⟩
  · rw [Registry.outside_overridesFor outside _ _ _ override]
    exact nofun
  · obtain ⟨⟨name, offered⟩, member, same⟩ :=
      List.mem_filterMap.mp (Table.mem_of_find?_ofList default)
    obtain ⟨handler, rfl, bound⟩ := Option.map_eq_some_iff.mp same
    obtain ⟨-, rfl⟩ := Prod.mk.inj bound
    have own : handler = .produceToken id ∨ handler = .consumeTestdata id ∨
        handler = .consumeToken id := by
      grind [builtins, Role.isMasterSide, Role.isWorkerSide]
    rcases own with rfl | rfl | rfl <;> exact fun owner here => (Option.some.inj here).symm

namespace Run

variable {r s : Run} {id : SiteId}

/-- What an act changes in the wiring: a process that starts installs handlers of its own, and
messages are bound to what is installed. -/
structure Rewires (r s : Run) : Prop where
  outside : ∀ d, Outside (s.registry.direction d)
  bound : ∀ {node name handler}, s.hub.bound node name = .ok handler →
    r.hub.bound node name = .ok handler ∨ ∀ id ∈ handler.owner?,
      id = r.sites.length ∧ ∃ site, s.site? id = some site ∧ site.node = node
  inbox : ∀ invocation ∈ s.hub.inbox, invocation ∈ r.hub.inbox ∨
    ∃ target name, r.hub.bound target name = .ok invocation.handler

theorem rewires_of_sends (outside : ∀ d, Outside (r.registry.direction d)) (sends : Sends r s) :
    Rewires r s where
  outside := sends.registry ▸ outside
  bound here := .inl ((sends.bound _ _).symm.trans here)
  inbox := sends.inbox

theorem rewires_act (fits : r.Fits) (outside : ∀ d, Outside (r.registry.direction d)) (act : Act) :
    Rewires r (r.act act) := by
  -- a table that is attached counts at its node alone
  have attached : ∀ {node target : NodeId} {name : MessageName} {handler : Handler}
      {table : HandlerTable Handler},
      (r.hub.attach node table).bound target name = .ok handler →
      r.hub.bound target name = .ok handler ∨
        target = node ∧ ∃ entry, table.find? name = some entry ∧ entry.handler = handler := by
    intro node target name handler table here
    rw [Hub.bound_attach] at here
    split at here
    · rename_i same
      cases found : table.find? name with
      | none => rw [found] at here; cases here
      | some entry =>
        rw [found] at here
        exact .inr ⟨same, entry, rfl, Except.ok.inj here⟩
    · exact .inl here
  have plain : act.Plain → Rewires r (r.act act) :=
    fun plain => rewires_of_sends outside (effect_act plain).sends
  cases act with
  | start files shuffles setup =>
    have attaches : { setup with attachesLeft := none }.attachesLeft = none := rfl
    rcases r.start_cases files shuffles attaches with same | ⟨site, log, parts, same⟩
    · exact rewires_of_sends outside (by rw [act, same]; exact .refl r)
    · rw [act, same]
      refine ⟨outside, fun here => (attached here).imp_right ?_, fun _ => .inl⟩
      rintro ⟨rfl, entry, found, rfl⟩ id owned
      rw [parts.effective] at found
      obtain rfl := Setup.owner_of_handlers outside found id owned
      exact ⟨rfl, site, List.getElem?_concat_length, rfl⟩
  | override direction listener =>
    exact ⟨Registry.outside_register outside direction listener, .inl, fun _ => .inl⟩
  | clearRegistry =>
    refine ⟨fun d name entry found => ?_, .inl, fun _ => .inl⟩
    cases d <;> cases found
  | attach node listeners =>
    refine ⟨outside, fun here => (attached here).imp_right ?_, fun _ => .inl⟩
    rintro ⟨-, entry, found, rfl⟩ id owned
    rw [Listener.outside_table listeners _ _ found] at owned
    cases owned
  | detach node =>
    refine ⟨outside, fun {target name handler} here => .inl ?_, fun _ => .inl⟩
    simp only [act, detach, Hub.detach, Hub.bound, Table.find?_erase] at here
    split at here
    · cases here
    · rename_i table found
      split at found
      · cases found
      · rw [Hub.bound, found]
        exact here
  | teardown id =>
    cases found : r.site? id with
    | none => exact rewires_of_sends outside (by simpa [act, teardown, found] using Sends.refl r)
    | some site =>
      obtain ⟨log, ends⟩ := teardown_eq fits found
      rw [act, ends]
      refine ⟨outside, fun here => (attached here).imp_right ?_, fun _ => .inl⟩
      rintro ⟨-, entry, found, -⟩
      cases found
  | completeSpawning =>
    refine rewires_of_sends outside
      (map_getD_of_done (motive := Sends r) (.refl r) fun _ s done => ?_)
    obtain ⟨site, -, done⟩ := Option.bind_eq_some_iff.mp done
    obtain ⟨-, rfl⟩ := Prod.mk.inj (Option.some.inj done)
    exact .trans (s := r.setSite _ _) (sends_of_hub rfl rfl) (sends_record ..)
  | stepBarrier =>
    refine rewires_of_sends outside
      (map_getD_of_done (motive := Sends r) (.refl r) fun _ s done => ?_)
    obtain ⟨site, -, done⟩ := Option.bind_eq_some_iff.mp done
    obtain ⟨-, rfl⟩ := Prod.mk.inj (Option.some.inj done)
    exact sends_of_hub rfl rfl
  | _ => exact plain trivial

end Run

end Muster
