import Mathlib.Data.List.Perm.Basic
import Muster.Proofs.Run.ActTurns

/-!
The calls of a run. A call that has not returned has its place for itself, and whoever waits is a
call that has not returned. Once a call is cancelled it returns so.
-/

namespace Muster

theorem Call.site_of_place {call other : Call} {place : Place} (placed : call.place? = some place)
    (same : other.place? = some place) : call.site = other.site := by
  rw [← placed] at same
  cases call with
  | data => cases other <;> cases same; rfl
  | token => cases other <;> cases same; rfl
  | issue => cases placed

theorem Run.standing?_of_place {call other : Call} {place : Place}
    (placed : call.place? = some place) (same : other.place? = some place) (r : Run) :
    r.standing? call = r.standing? other := by
  rw [← placed] at same
  cases call with
  | data => cases other <;> cases same; rfl
  | token => cases other <;> cases same; rfl
  | issue => cases placed

namespace Site

variable {s : Site} {id : SiteId} {place : Place}

/-- The places of a process that somebody waits in. -/
def places (s : Site) (id : SiteId) : List Place :=
  (s.requester.elim [] fun requester => requester.pending.waiting.map (.data id)) ++
    s.client.elim [] fun client => client.pending.waiting.map (.token id)

theorem length_places (s : Site) (id : SiteId) :
    (s.places id).length = s.dataWaits + s.tokenWaits := by
  unfold places dataWaits tokenWaits
  cases s.requester <;> cases s.client <;> simp [Pending.size]

theorem mem_places (fits : s.Fits) : place ∈ s.places id ↔
    ∃ call : Call, call.place? = some place ∧ call.site = id ∧ s.standing? call = some .waits := by
  rw [places, List.mem_append]
  constructor
  · rintro (data | token)
    · cases has : s.requester with
      | none => simp [has] at data
      | some requester =>
        rw [has] at data
        obtain ⟨request, waits, rfl⟩ := List.mem_map.mp data
        refine ⟨.data id request, rfl, rfl, ?_⟩
        rw [standing?, has]
        exact (fits.requester requester has).waits_iff.mp waits
    · cases has : s.client with
      | none => simp [has] at token
      | some client =>
        rw [has] at token
        obtain ⟨request, waits, rfl⟩ := List.mem_map.mp token
        refine ⟨.token id "" request, rfl, rfl, ?_⟩
        rw [standing?, has]
        exact (fits.client client has).waits_iff.mp waits
  · rintro ⟨call, placed, rfl, waits⟩
    cases call with
    | data id request =>
      obtain ⟨requester, has, waits⟩ := Option.bind_eq_some_iff.mp waits
      obtain rfl := Option.some.inj placed
      refine .inl ?_
      rw [has]
      exact List.mem_map_of_mem ((fits.requester requester has).waits_iff.mpr waits)
    | token id identity request =>
      obtain ⟨client, has, waits⟩ := Option.bind_eq_some_iff.mp waits
      obtain rfl := Option.some.inj placed
      refine .inr ?_
      rw [has]
      exact List.mem_map_of_mem ((fits.client client has).waits_iff.mpr waits)
    | issue => cases placed

theorem nodup_places (fits : s.Fits) (id : SiteId) : (s.places id).Nodup := by
  rw [places, List.nodup_append]
  refine ⟨?_, ?_, fun data member token there same => ?_⟩
  · cases has : s.requester with
    | none => exact .nil
    | some requester =>
      exact List.pairwise_map.mpr ((fits.requester requester has).once.imp fun apart same =>
        apart (Place.data.inj same).2)
  · cases has : s.client with
    | none => exact .nil
    | some client =>
      exact List.pairwise_map.mpr ((fits.client client has).once.imp fun apart same =>
        apart (Place.token.inj same).2)
  · subst same
    cases has : s.requester <;> cases had : s.client <;> simp [has, had] at member there
    obtain ⟨_, -, rfl⟩ := member
    obtain ⟨_, -, same⟩ := there
    cases same

end Site

namespace Run

variable {r s : Run} {scope : Scope} {entered : Option SiteId} {number : Nat} {call : Call}

theorem Grows.standing (grows : Grows scope r s) {standing : Standing}
    (stays : ∀ place ∈ call.place?, scope.gone ≠ some place)
    (stands : r.standing? call = some standing) :
    ∃ later, s.standing? call = some later ∧ (standing ≠ .waits → later = standing) := by
  obtain ⟨site, found, stands⟩ := Option.bind_eq_some_iff.mp stands
  obtain ⟨next, here, steps⟩ := grows.kept found
  obtain ⟨later, still, same⟩ := steps.standing rfl stays stands
  exact ⟨later, by rw [standing?, here]; exact still, same⟩

theorem Grows.back (grows : Grows scope r s) {place : Place} (placed : call.place? = some place)
    (waits : s.standing? call = some .waits) :
    r.standing? call = some .waits ∨ scope.opened = some place := by
  obtain ⟨site, found, waits⟩ := Option.bind_eq_some_iff.mp waits
  cases before : r.site? call.site with
  | none => cases ((grows.born found before).2 call).symm.trans waits
  | some old =>
    obtain ⟨next, here, steps⟩ := grows.kept before
    obtain rfl := Option.some.inj (here.symm.trans found)
    refine (steps.back rfl placed waits).imp_left fun waited => ?_
    rw [standing?, before]
    exact waited

/-- The calls that have not returned, and the places they hold. -/
structure Sound (r : Run) : Prop where
  fits : r.Fits
  made : ∀ {number call}, r.calls.find? number = some call → number ≤ r.made
  past : ∀ {number result}, (number, result) ∈ r.returned → number ≤ r.made
  unreturned : ∀ {number call}, r.calls.find? number = some call →
    ∀ result, (number, result) ∉ r.returned
  stands : ∀ {number call}, r.calls.find? number = some call →
    ∃ standing, r.standing? call = some standing
  single : ∀ {number other call next place}, r.calls.find? number = some call →
    r.calls.find? other = some next → call.place? = some place → next.place? = some place →
    number = other
  held : ∀ {call place}, call.place? = some place → r.standing? call = some .waits →
    ∃ number next, r.calls.find? number = some next ∧ next.place? = some place

theorem sound_begin (master : NodeId) : (begin master).Sound where
  fits := ⟨nofun, rfl⟩
  made := nofun
  past := nofun
  unreturned := nofun
  stands := nofun
  single := nofun
  held _ := nofun

/-- Nobody new waits, and nobody leaves. -/
theorem sound_goes (sound : r.Sound) (grows : Grows { entered } r s)
    (calls : ∀ number, s.calls.find? number = r.calls.find? number) (made : r.made ≤ s.made)
    (returned : ∀ {number result}, (number, result) ∈ s.returned →
      (number, result) ∈ r.returned ∨ number = s.made ∧ r.made < number) : s.Sound where
  fits := grows.fits
  made {number call} found := by
    rw [calls] at found
    exact Nat.le_trans (sound.made found) made
  past {number result} member := by
    rcases returned member with old | ⟨new, -⟩
    · exact Nat.le_trans (sound.past old) made
    · exact Nat.le_of_eq new
  unreturned {number call} found result member := by
    rw [calls] at found
    rcases returned member with old | ⟨-, new⟩
    · exact sound.unreturned found result old
    · exact absurd (sound.made found) (Nat.not_le_of_lt new)
  stands {number call} found := by
    rw [calls] at found
    obtain ⟨standing, stands⟩ := sound.stands found
    obtain ⟨later, still, -⟩ := grows.standing nofun stands
    exact ⟨later, still⟩
  single {number other call next place} found there := by
    rw [calls] at found there
    exact sound.single found there
  held {call place} placed waits := by
    obtain ⟨number, next, found, same⟩ :=
      sound.held placed ((grows.back placed waits).resolve_right nofun)
    exact ⟨number, next, (calls number).trans found, same⟩

/-- A call takes a free place. -/
theorem sound_holds (sound : r.Sound) {next : Call}
    (grows : Grows { entered, opened := next.place? } r s)
    (fresh : next.place?.isSome = true → r.standing? next = none)
    (waits : s.standing? next = some .waits) (made : s.made = r.made + 1)
    (calls : s.calls = r.calls.insert (r.made + 1) next) (returned : s.returned = r.returned) :
    s.Sound := by
  have found_iff : ∀ number, s.calls.find? number =
      if number = r.made + 1 then some next else r.calls.find? number := by
    intro number
    rw [calls, Table.find?_insert]
  have free : ∀ {number call place}, r.calls.find? number = some call → call.place? = some place →
      next.place? ≠ some place := by
    intro number call place found placed same
    obtain ⟨standing, stands⟩ := sound.stands found
    rw [standing?_of_place placed same, fresh (by rw [same]; rfl)] at stands
    cases stands
  refine ⟨grows.fits, fun {number call} found => ?_, fun {number result} member => ?_,
    fun {number call} found result member => ?_, fun {number call} found => ?_,
    fun {number other call later place} found there placed same => ?_,
    fun {call place} placed waiting => ?_⟩
  · rw [found_iff] at found
    rw [made]
    split at found
    · omega
    · exact Nat.le_succ_of_le (sound.made found)
  · rw [returned] at member
    rw [made]
    exact Nat.le_succ_of_le (sound.past member)
  · rw [returned] at member
    rw [found_iff] at found
    split at found
    · have past := sound.past member
      omega
    · exact sound.unreturned found result member
  · rw [found_iff] at found
    split at found
    · obtain rfl := Option.some.inj found
      exact ⟨_, waits⟩
    · obtain ⟨standing, stands⟩ := sound.stands found
      obtain ⟨later, still, -⟩ := grows.standing nofun stands
      exact ⟨later, still⟩
  · rw [found_iff] at found there
    split at found <;> split at there
    · omega
    · obtain rfl := Option.some.inj found
      exact absurd placed (free there same)
    · obtain rfl := Option.some.inj there
      exact absurd same (free found placed)
    · exact sound.single found there placed same
  · -- whoever waits waited before, or is the new call
    rcases grows.back placed waiting with waited | opened
    · obtain ⟨number, later, found, same⟩ := sound.held placed waited
      refine ⟨number, later, ?_, same⟩
      have below := sound.made found
      rw [found_iff, if_neg (by omega), found]
    · exact ⟨r.made + 1, next, by rw [found_iff, if_pos rfl], opened⟩

/-- A call leaves its place. -/
theorem sound_returns (sound : r.Sound) {number : Nat} {call : Call} {result : CallResult}
    (found : r.calls.find? number = some call)
    (grows : Grows { entered, gone := call.place? } r s)
    (gone : call.place?.isSome = true → s.standing? call = none) (made : s.made = r.made)
    (calls : s.calls = r.calls.erase number)
    (returned : s.returned = r.returned ++ [(number, result)]) : s.Sound := by
  have found_iff : ∀ {other next}, s.calls.find? other = some next ↔
      other ≠ number ∧ r.calls.find? other = some next := by
    intro other next
    rw [calls, Table.find?_erase]
    split <;> simp [*]
  refine ⟨grows.fits, fun {other next} here => ?_, fun {other result} member => ?_,
    fun {other next} here result member => ?_, fun {other next} here => ?_,
    fun {first second one two place} here there placed same => ?_,
    fun {next place} placed waiting => ?_⟩
  · rw [made]
    exact sound.made (found_iff.mp here).2
  · rw [made]
    rw [returned, List.mem_append, List.mem_singleton] at member
    rcases member with old | new
    · exact sound.past old
    · rw [(Prod.mk.inj new).1]
      exact sound.made found
  · obtain ⟨apart, old⟩ := found_iff.mp here
    rw [returned, List.mem_append, List.mem_singleton] at member
    rcases member with before | new
    · exact sound.unreturned old result before
    · exact apart (Prod.mk.inj new).1
  · obtain ⟨apart, old⟩ := found_iff.mp here
    obtain ⟨standing, stands⟩ := sound.stands old
    -- the place that is left was held by the call that returns and by no other
    have stays : ∀ place ∈ next.place?, call.place? ≠ some place := fun place placed same =>
      apart (sound.single old found placed same)
    obtain ⟨later, still, -⟩ := grows.standing stays stands
    exact ⟨later, still⟩
  · exact sound.single (found_iff.mp here).2 (found_iff.mp there).2 placed same
  · obtain ⟨other, later, here, same⟩ :=
      sound.held placed ((grows.back placed waiting).resolve_right nofun)
    refine ⟨other, later, found_iff.mpr ⟨?_, here⟩, same⟩
    rintro rfl
    obtain rfl := Option.some.inj (here.symm.trans found)
    rw [standing?_of_place placed same, gone (by rw [same]; rfl)] at waiting
    cases waiting

theorem Sound.find?_next (sound : r.Sound) : r.calls.find? (r.made + 1) = none := by
  cases found : r.calls.find? (r.made + 1) with
  | none => rfl
  | some call => exact absurd (sound.made found) (Nat.not_succ_le_self _)

theorem sound_turn (sound : r.Sound) (turn : Turn entered r s) : s.Sound := by
  cases turn with
  | goes grows made calls returned =>
    exact sound_goes sound grows (fun _ => by rw [calls]) (Nat.le_of_eq made.symm)
      fun member => .inl (returned ▸ member)
  | answers result grows made calls returned =>
    refine sound_goes sound grows (fun number => ?_) (by omega) fun {number result} member => ?_
    · rw [calls, Table.find?_erase]
      split
      · rename_i same
        rw [same, sound.find?_next]
      · rfl
    · rw [returned, List.mem_append, List.mem_singleton] at member
      refine member.imp_right fun new => ?_
      have same := (Prod.mk.inj new).1
      omega
  | holds next grows fresh waits made calls returned =>
    exact sound_holds sound grows fresh waits made calls returned
  | returns number call result found grows gone cancelled made calls returned =>
    exact sound_returns sound found grows gone made calls returned

theorem sound_acts (sound : r.Sound) (list : List Act) : (r.acts list).Sound :=
  acts_induction (fun act sound => sound_turn sound (turn_act sound.fits act)) sound list

theorem sound_of_reachable (reached : r.Reachable) : r.Sound := by
  obtain ⟨master, list, rfl⟩ := reached
  exact sound_acts (sound_begin master) list

/-! ### Counting -/

/-- The calls in the tables of a process that wait and have not been handed a value. -/
def waiters (r : Run) (id : SiteId) : List (Nat × Call) :=
  r.calls.entries.filter fun row =>
    row.2.site = id && row.2.place?.isSome && r.standing? row.2 = some .waits

theorem mem_waiters {id : SiteId} : (number, call) ∈ r.waiters id ↔
    r.calls.find? number = some call ∧ call.site = id ∧ call.place?.isSome = true ∧
      r.standing? call = some .waits := by
  rw [waiters, List.mem_filter, Table.find?_eq_some_iff_mem]
  simp only [Bool.and_eq_true, decide_eq_true_eq, and_assoc]

/-- As many calls wait as the tables of the process say. -/
theorem length_waiters (sound : r.Sound) {id : SiteId} {site : Site}
    (found : r.site? id = some site) :
    (r.waiters id).length = site.dataWaits + site.tokenWaits := by
  have fits := sound.fits.sites found
  have placed : ((r.waiters id).filterMap (·.2.place?)).length = (r.waiters id).length := by
    rw [List.length_filterMap_eq_countP, List.countP_eq_length]
    rintro ⟨number, call⟩ member
    exact (mem_waiters.mp member).2.2.1
  have once : ((r.waiters id).filterMap (·.2.place?)).Nodup := by
    have keys : (r.waiters id).Pairwise fun row other => row.1 ≠ other.1 :=
      (List.pairwise_map.mp r.calls.nodup_keys).sublist List.filter_sublist
    refine List.pairwise_filterMap.mpr (keys.imp_of_mem ?_)
    rintro ⟨number, call⟩ ⟨other, next⟩ member there apart place placed _ same rfl
    exact apart (sound.single (mem_waiters.mp member).1 (mem_waiters.mp there).1 placed same)
  have same : ((r.waiters id).filterMap (·.2.place?)).Perm (site.places id) := by
    refine (List.perm_ext_iff_of_nodup once (Site.nodup_places fits id)).mpr fun place => ?_
    have stands : ∀ {call : Call}, call.site = id → r.standing? call = site.standing? call := by
      rintro call rfl
      rw [standing?, found, Option.bind_some]
    rw [Site.mem_places fits, List.mem_filterMap]
    constructor
    · rintro ⟨⟨number, call⟩, member, placed⟩
      obtain ⟨-, here, -, waits⟩ := mem_waiters.mp member
      exact ⟨call, placed, here, (stands here).symm.trans waits⟩
    · rintro ⟨call, placed, here, waits⟩
      rw [← stands here] at waits
      obtain ⟨number, next, kept, same⟩ := sound.held placed waits
      refine ⟨(number, next), mem_waiters.mpr ⟨kept, ?_, by rw [same]; rfl, ?_⟩, same⟩
      · rw [Call.site_of_place same placed, here]
      · rw [standing?_of_place same placed, waits]
  rw [← placed, same.length_eq, Site.length_places]

/-! ### Cancelled calls -/

/-- The call is cancelled and has not returned, or it has returned as cancelled. -/
def CutOff (r : Run) (number : Nat) (call : Call) : Prop :=
  (r.calls.find? number = some call ∧ r.standing? call = some .cancelled) ∨
    (r.calls.find? number = none ∧ number ≤ r.made ∧
      ∀ result, (number, result) ∈ r.returned ↔ result = call.cancelled)

theorem Grows.cancelled (grows : Grows scope r s)
    (stays : ∀ place ∈ call.place?, scope.gone ≠ some place)
    (cancelled : r.standing? call = some .cancelled) : s.standing? call = some .cancelled := by
  obtain ⟨later, still, same⟩ := grows.standing stays cancelled
  rw [still, same nofun]

theorem cutOff_turn (sound : r.Sound) (turn : Turn entered r s) (cut : r.CutOff number call) :
    s.CutOff number call := by
  -- no new call is meant, whichever way the call is cut off
  have past : number ≤ r.made :=
    cut.elim (fun held => sound.made held.1) fun finished => finished.2.1
  have fresh : number ≠ r.made + 1 := by omega
  cases turn with
  | goes grows made calls returned =>
    unfold CutOff
    rw [calls, made, returned]
    exact cut.imp_left fun ⟨found, cancelled⟩ => ⟨found, grows.cancelled nofun cancelled⟩
  | answers result grows made calls returned =>
    unfold CutOff
    rw [calls, Table.find?_erase, if_neg fresh, made, returned]
    refine cut.imp (fun ⟨found, cancelled⟩ => ⟨found, grows.cancelled nofun cancelled⟩) ?_
    rintro ⟨gone, -, results⟩
    refine ⟨gone, by omega, fun result => ?_⟩
    simp [results, fresh]
  | holds next grows _ waits made calls returned =>
    unfold CutOff
    rw [calls, Table.find?_insert, if_neg fresh, made, returned]
    refine cut.imp (fun ⟨found, cancelled⟩ => ⟨found, grows.cancelled nofun cancelled⟩) ?_
    exact fun ⟨gone, _, results⟩ => ⟨gone, by omega, results⟩
  | returns other next result there grows _ resolved made calls returned =>
    unfold CutOff
    rw [calls, Table.find?_erase, made, returned]
    rcases cut with ⟨found, cancelled⟩ | ⟨gone, -, results⟩
    · by_cases same : number = other
      · subst same
        obtain rfl := Option.some.inj (found.symm.trans there)
        rw [if_pos rfl, resolved cancelled]
        refine .inr ⟨rfl, past, fun value => ?_⟩
        simp [sound.unreturned found]
      · rw [if_neg same]
        refine .inl ⟨found, grows.cancelled (fun place placed leaves => ?_) cancelled⟩
        exact same (sound.single found there placed leaves)
    · have apart : number ≠ other := by
        rintro rfl
        cases gone.symm.trans there
      rw [if_neg apart]
      refine .inr ⟨gone, past, fun value => ?_⟩
      simp [results, apart]

theorem cutOff_acts (sound : r.Sound) (cut : r.CutOff number call) (list : List Act) :
    (r.acts list).CutOff number call := by
  have both : (r.acts list).Sound ∧ (r.acts list).CutOff number call := by
    refine acts_induction (motive := fun r => r.Sound ∧ r.CutOff number call) ?_ ⟨sound, cut⟩ list
    rintro r act ⟨sound, cut⟩
    have turn := turn_act sound.fits act
    exact ⟨sound_turn sound turn, cutOff_turn sound turn cut⟩
  exact both.2

/-- A call that is cancelled can return, and returns so. -/
theorem returns_of_cancelled (fits : r.Fits) (found : r.calls.find? number = some call)
    (cancelled : r.standing? call = some .cancelled) :
    ∃ next, r.step (.returns number) = some next ∧
      next.returned = r.returned ++ [(number, call.cancelled)] := by
  rw [step, Run.returns, found]
  cases call with
  | data id request =>
    obtain ⟨site, here, closed⟩ := Option.bind_eq_some_iff.mp cancelled
    obtain ⟨requester, has, closed⟩ := Option.bind_eq_some_iff.mp closed
    have present : r.site? id = some site := here
    obtain ⟨last, resolved⟩ := Pending.resolve_of_cancelled
      ((fits.sites here).requester requester has) r.time closed
    simp only [Option.bind_eq_bind, Option.bind_some, present, has, Requester.resolve, resolved,
      Option.map_some]
    exact ⟨_, rfl, rfl⟩
  | token id identity request =>
    obtain ⟨site, here, closed⟩ := Option.bind_eq_some_iff.mp cancelled
    obtain ⟨client, has, closed⟩ := Option.bind_eq_some_iff.mp closed
    have present : r.site? id = some site := here
    obtain ⟨last, resolved⟩ := Pending.resolve_of_cancelled
      ((fits.sites here).client client has) r.time closed
    simp only [Option.bind_eq_bind, Option.bind_some, present, has, TokenClient.resolve, resolved,
      Option.map_some]
    exact ⟨_, rfl, rfl⟩
  | issue id flight =>
    simp only [Option.bind_eq_bind, Option.bind_some, flightOutcome?_of_cancelled cancelled]
    exact ⟨_, rfl, rfl⟩

end Run

end Muster
