import Muster.Message
import Muster.Proofs.Pending
import Muster.Proofs.Rows

/-!
Calls and replies over ids. A seat is one incarnation of a node with its own pending requests; a
call leaves a slip with its seat and id, and a reply is made for one slip but finds its caller by
the id alone, at the seat that the node has by then. A reply goes astray if it was made for an
earlier seat and comes while a caller of the present one waits under the same id. If none does,
every call gets the reply that was made for it, and only then.
-/

namespace Muster

structure Seat (β : Type) where
  node : NodeId
  pending : Pending β := {}

structure Slip where
  seat : Nat
  id : Nat
deriving DecidableEq

structure Stamp (β : Type) where
  /-- the call that it was made for -/
  asked : Nat
  seat : Nat
  id : Nat
  reply : β
  /-- a caller got it -/
  accepted : Bool
deriving DecidableEq

structure Correspondence (β : Type) where
  seats : List (Seat β)
  slips : List Slip
  stamps : List (Stamp β)

namespace Correspondence

variable {β : Type} {c d : Correspondence β} {late : Prop}

def nodeOf (c : Correspondence β) (i : Nat) : Option NodeId := (c.seats[i]?).map (·.node)

/-- What may happen; the proposition says that a reply for an earlier seat comes to a caller. -/
inductive Moves (c : Correspondence β) : Prop → Correspondence β → Prop
  | rests : Moves c False c
  | starts (node : NodeId) : Moves c False { c with seats := c.seats ++ [{ node }] }
  | fades (i : Nat) (seat : Seat β) (pending : Pending β) (found : c.seats[i]? = some seat)
      (fades : seat.pending.Fades pending) :
      Moves c False { c with seats := c.seats.set i { seat with pending } }
  | opens (i : Nat) (seat : Seat β) (found : c.seats[i]? = some seat) :
      Moves c False { c with
        seats := c.seats.set i { seat with pending := seat.pending.register.2 }
        slips := c.slips ++ [⟨i, seat.pending.nextId⟩] }
  | comes (i asked : Nat) (seat : Seat β) (slip : Slip) (reply : β)
      (found : c.seats[i]? = some seat) (made : c.slips[asked]? = some slip)
      (older : slip.seat ≤ i) (home : c.nodeOf slip.seat = some seat.node) :
      Moves c (seat.pending.Outstanding slip.id ∧ slip.seat < i) { c with
        seats := c.seats.set i { seat with pending := (seat.pending.complete slip.id reply).2 }
        stamps := c.stamps ++
          [⟨asked, i, slip.id, reply, (seat.pending.complete slip.id reply).1⟩] }

/-! ### What is kept -/

structure Grows (c d : Correspondence β) : Prop where
  slips : ∀ {number : Nat} {slip}, c.slips[number]? = some slip → d.slips[number]? = some slip
  nodes : ∀ {i node}, c.nodeOf i = some node → d.nodeOf i = some node
  stamps : c.stamps ⊆ d.stamps

theorem Grows.refl (c : Correspondence β) : c.Grows c := ⟨id, id, List.Subset.refl _⟩

theorem nodeOf_set {i : Nat} {seat : Seat β} (found : c.seats[i]? = some seat)
    (pending : Pending β) (j : Nat) :
    ((c.seats.set i { seat with pending })[j]?).map (·.node) = c.nodeOf j := by
  by_cases same : j = i
  · subst same
    rw [getElem?_set_same found, nodeOf, found, Option.map_some, Option.map_some]
  · rw [List.getElem?_set_ne (Ne.symm same), nodeOf]

theorem grows_of_moves (moves : c.Moves late d) : c.Grows d := by
  cases moves with
  | rests => exact .refl c
  | starts node =>
    refine { Grows.refl c with nodes := fun {i known} here => ?_ }
    obtain ⟨seat, found, same⟩ := Option.map_eq_some_iff.mp here
    simp only [nodeOf, getElem?_append_old found, Option.map_some, same]
  | fades i seat pending found =>
    exact { Grows.refl c with nodes := fun known => (nodeOf_set found pending _).trans known }
  | opens i seat found =>
    exact { Grows.refl c with
      slips := getElem?_append_old
      nodes := fun known => (nodeOf_set found _ _).trans known }
  | comes i asked seat slip reply found =>
    exact { Grows.refl c with
      nodes := fun known => (nodeOf_set found _ _).trans known
      stamps := List.subset_append_left _ _ }

/-! ### Ids -/

/-- The reply came through to a call. -/
structure Reaches (c : Correspondence β) (stamp : Stamp β) (number : Nat) : Prop where
  came : stamp ∈ c.stamps
  accepted : stamp.accepted = true
  made : c.slips[number]? = some ⟨stamp.seat, stamp.id⟩

/-- The ids of a seat are those of its calls, one each, and nobody waits under another. -/
structure Numbered (c : Correspondence β) : Prop where
  known : ∀ {number : Nat} {slip}, c.slips[number]? = some slip →
    ∃ seat, c.seats[slip.seat]? = some seat ∧ slip.id < seat.pending.nextId
  unique : ∀ {number other : Nat} {slip}, c.slips[number]? = some slip →
    c.slips[other]? = some slip → number = other
  waited : ∀ {i : Nat} {seat : Seat β} {id}, c.seats[i]? = some seat →
    seat.pending.callers.contains id = true → ∃ number : Nat, c.slips[number]? = some ⟨i, id⟩

theorem Numbered.set (numbered : c.Numbered) {i : Nat} {seat : Seat β} {pending : Pending β}
    (found : c.seats[i]? = some seat) (nextId : pending.nextId = seat.pending.nextId)
    (callers : ∀ {id}, pending.callers.contains id = true →
      seat.pending.callers.contains id = true)
    (seats : d.seats = c.seats.set i { seat with pending }) (slips : d.slips = c.slips) :
    d.Numbered := by
  refine ⟨fun {number slip} made => ?_, fun {number other slip} made remade => ?_,
    fun {j other id} here present => ?_⟩
  · rw [slips] at made
    obtain ⟨own, here, below⟩ := numbered.known made
    rw [seats]
    by_cases same : slip.seat = i
    · rw [same] at here ⊢
      obtain rfl := Option.some.inj (found.symm.trans here)
      exact ⟨_, getElem?_set_same found, Nat.lt_of_lt_of_eq below nextId.symm⟩
    · exact ⟨own, by rw [List.getElem?_set_ne (Ne.symm same), here], below⟩
  · rw [slips] at made remade
    exact numbered.unique made remade
  · rw [seats] at here
    rw [slips]
    rcases getElem?_set_cases found here with ⟨rfl, rfl⟩ | ⟨-, old⟩
    · exact numbered.waited found (callers present)
    · exact numbered.waited old present

theorem numbered_start (numbered : c.Numbered) (node : NodeId) :
    Numbered { c with seats := c.seats ++ [{ node }] } := by
  refine ⟨fun {number slip} made => ?_, numbered.unique, fun {i seat id} here present => ?_⟩
  · obtain ⟨seat, found, below⟩ := numbered.known made
    exact ⟨seat, getElem?_append_old found, below⟩
  · rcases getElem?_append_cases here with old | ⟨-, rfl⟩
    · exact numbered.waited old present
    · cases present

theorem numbered_open (numbered : c.Numbered) {i : Nat} {seat : Seat β}
    (found : c.seats[i]? = some seat) :
    Numbered { c with
      seats := c.seats.set i { seat with pending := seat.pending.register.2 }
      slips := c.slips ++ [⟨i, seat.pending.nextId⟩] } := by
  have fresh : ∀ {number : Nat} {slip}, c.slips[number]? = some slip → slip.seat = i →
      slip.id < seat.pending.nextId := by
    intro number slip made same
    obtain ⟨own, here, below⟩ := numbered.known made
    rw [same] at here
    obtain rfl := Option.some.inj (found.symm.trans here)
    exact below
  refine ⟨fun {number slip} made => ?_, fun {number other slip} made remade => ?_,
    fun {j other id} here present => ?_⟩
  · rcases getElem?_append_cases made with old | ⟨-, rfl⟩
    · obtain ⟨own, here, below⟩ := numbered.known old
      by_cases same : slip.seat = i
      · rw [same]
        exact ⟨_, getElem?_set_same found, Nat.lt_succ_of_lt (fresh old same)⟩
      · exact ⟨own, by rw [List.getElem?_set_ne (Ne.symm same), here], below⟩
    · exact ⟨_, getElem?_set_same found, Nat.lt_succ_self _⟩
  · rcases getElem?_append_cases made with old | ⟨rfl, rfl⟩ <;>
      rcases getElem?_append_cases remade with older | ⟨rfl, same⟩
    · exact numbered.unique old older
    · subst same
      exact absurd (fresh old rfl) (Nat.lt_irrefl _)
    · exact absurd (fresh older rfl) (Nat.lt_irrefl _)
    · rfl
  · rcases getElem?_set_cases found here with ⟨rfl, rfl⟩ | ⟨-, old⟩
    · rw [Pending.contains_register, Bool.or_eq_true, decide_eq_true_eq] at present
      rcases present with rfl | old
      · exact ⟨c.slips.length, List.getElem?_concat_length⟩
      · obtain ⟨number, made⟩ := numbered.waited found old
        exact ⟨number, getElem?_append_old made⟩
    · obtain ⟨number, made⟩ := numbered.waited old present
      exact ⟨number, getElem?_append_old made⟩

theorem numbered_step (numbered : c.Numbered) (moves : c.Moves late d) : d.Numbered := by
  cases moves with
  | rests => exact numbered
  | starts node => exact numbered_start numbered node
  | fades i seat pending found fades =>
    exact numbered.set found fades.nextId fades.callers rfl rfl
  | opens i seat found => exact numbered_open numbered found
  | comes i asked seat slip reply found =>
    refine numbered.set found (Pending.nextId_complete ..) (fun {id} present => ?_) rfl rfl
    rwa [Pending.contains_complete] at present

/-! ### Replies -/

/-- The reply was made for a call of this id, at the seat it came to or at an earlier one of the
same node. -/
def Routed (c : Correspondence β) (stamp : Stamp β) : Prop :=
  ∃ slip, c.slips[stamp.asked]? = some slip ∧ slip.id = stamp.id ∧ slip.seat ≤ stamp.seat ∧
    ∃ node, c.nodeOf slip.seat = some node ∧ c.nodeOf stamp.seat = some node

/-- Whatever waits at a seat came there, and whatever was accepted reached a call. -/
structure Sound (c : Correspondence β) : Prop where
  numbered : c.Numbered
  routed : ∀ {stamp}, stamp ∈ c.stamps → c.Routed stamp
  reached : ∀ {stamp}, stamp ∈ c.stamps → stamp.accepted = true →
    ∃ number, c.Reaches stamp number
  received : ∀ {i : Nat} {seat : Seat β} {id reply}, c.seats[i]? = some seat →
    seat.pending.received? id = some reply → ∃ stamp ∈ c.stamps, stamp.accepted = true ∧
      stamp.seat = i ∧ stamp.id = id ∧ stamp.reply = reply

theorem sound_empty : Sound (⟨[], [], []⟩ : Correspondence β) :=
  ⟨⟨nofun, nofun, nofun⟩, nofun, nofun, nofun⟩

theorem Routed.grow {stamp : Stamp β} (routed : c.Routed stamp) (grows : c.Grows d) :
    d.Routed stamp := by
  obtain ⟨slip, made, id, older, node, home, here⟩ := routed
  exact ⟨slip, grows.slips made, id, older, node, grows.nodes home, grows.nodes here⟩

theorem Reaches.grow {stamp : Stamp β} {number : Nat} (reaches : c.Reaches stamp number)
    (grows : c.Grows d) : d.Reaches stamp number :=
  ⟨grows.stamps reaches.came, reaches.accepted, grows.slips reaches.made⟩

theorem Sound.keep (sound : c.Sound) (grows : c.Grows d) (numbered : d.Numbered)
    (stamps : d.stamps = c.stamps)
    (received : ∀ {i : Nat} {seat : Seat β} {id reply}, d.seats[i]? = some seat →
      seat.pending.received? id = some reply →
      ∃ before, c.seats[i]? = some before ∧ before.pending.received? id = some reply) :
    d.Sound := by
  refine ⟨numbered, fun {stamp} came => ?_, fun {stamp} came accepted => ?_,
    fun {i seat id reply} found waits => ?_⟩
  · rw [stamps] at came
    exact (sound.routed came).grow grows
  · rw [stamps] at came
    obtain ⟨number, reaches⟩ := sound.reached came accepted
    exact ⟨number, reaches.grow grows⟩
  · rw [stamps]
    obtain ⟨before, here, held⟩ := received found waits
    exact sound.received here held

theorem sound_comes (sound : c.Sound) {i asked : Nat} {seat : Seat β} {slip : Slip} {reply : β}
    (found : c.seats[i]? = some seat) (made : c.slips[asked]? = some slip) (older : slip.seat ≤ i)
    (home : c.nodeOf slip.seat = some seat.node) :
    Sound { c with
      seats := c.seats.set i { seat with pending := (seat.pending.complete slip.id reply).2 }
      stamps := c.stamps ++
        [⟨asked, i, slip.id, reply, (seat.pending.complete slip.id reply).1⟩] } := by
  have moves := Moves.comes i asked seat slip reply found made older home
  have grows := grows_of_moves moves
  refine ⟨numbered_step sound.numbered moves, fun {stamp} came => ?_,
    fun {stamp} came accepted => ?_, fun {j other id value} here waits => ?_⟩
  · rcases List.mem_append.mp came with old | new
    · exact (sound.routed old).grow grows
    · obtain rfl := List.mem_singleton.mp new
      have here : c.nodeOf i = some seat.node := by rw [nodeOf, found, Option.map_some]
      exact Routed.grow ⟨slip, made, rfl, older, seat.node, home, here⟩ grows
  · rcases List.mem_append.mp came with old | new
    · obtain ⟨number, reaches⟩ := sound.reached old accepted
      exact ⟨number, reaches.grow grows⟩
    · obtain rfl := List.mem_singleton.mp new
      obtain ⟨-, present⟩ := Pending.complete_eq_true.mp accepted
      obtain ⟨number, opened⟩ := sound.numbered.waited found present
      exact ⟨number, came, accepted, opened⟩
  · rcases getElem?_set_cases found here with ⟨rfl, rfl⟩ | ⟨-, old⟩
    · rcases Pending.received?_complete waits with before | ⟨rfl, rfl, taken⟩
      · obtain ⟨stamp, came, rest⟩ := sound.received found before
        exact ⟨stamp, List.mem_append_left _ came, rest⟩
      · exact ⟨_, List.mem_append_right _ (List.mem_singleton.mpr rfl), taken, rfl, rfl, rfl⟩
    · obtain ⟨stamp, came, rest⟩ := sound.received old waits
      exact ⟨stamp, List.mem_append_left _ came, rest⟩

theorem sound_step (sound : c.Sound) (moves : c.Moves late d) : d.Sound := by
  have grows := grows_of_moves moves
  have numbered := numbered_step sound.numbered moves
  cases moves with
  | rests => exact sound
  | starts node =>
    refine sound.keep grows numbered rfl fun {i seat id reply} found waits => ?_
    rcases getElem?_append_cases found with old | ⟨-, rfl⟩
    · exact ⟨seat, old, waits⟩
    · cases waits
  | fades i seat pending found fades =>
    refine sound.keep grows numbered rfl fun {j other id reply} here waits => ?_
    rcases getElem?_set_cases found here with ⟨rfl, rfl⟩ | ⟨-, old⟩
    · exact ⟨seat, found, fades.received waits⟩
    · exact ⟨other, old, waits⟩
  | opens i seat found =>
    refine sound.keep grows numbered rfl fun {j other id reply} here waits => ?_
    rcases getElem?_set_cases found here with ⟨rfl, rfl⟩ | ⟨-, old⟩
    · rw [Pending.received?_register] at waits
      split at waits
      · cases waits
      · exact ⟨seat, found, waits⟩
    · exact ⟨other, old, waits⟩
  | comes i asked seat slip reply found made older home =>
    exact sound_comes sound found made older home

/-- A reply that waits for a call came through to it. -/
theorem Sound.reaches_of_received (sound : c.Sound) {i id number : Nat} {seat : Seat β} {reply : β}
    (found : c.seats[i]? = some seat) (made : c.slips[number]? = some ⟨i, id⟩)
    (waits : seat.pending.received? id = some reply) :
    ∃ stamp ∈ c.stamps, c.Reaches stamp number ∧ stamp.reply = reply := by
  obtain ⟨stamp, came, accepted, seat, id, taken⟩ := sound.received found waits
  refine ⟨stamp, came, ⟨came, accepted, ?_⟩, taken⟩
  rw [seat, id, made]

/-! ### Whose replies come through -/

/-- Every reply that came through to a call was made for it. -/
def OwnReplies (c : Correspondence β) : Prop :=
  ∀ stamp number, c.Reaches stamp number → stamp.asked = number

/-- The reply was made for an earlier seat, and came through to a caller of this one. -/
def Strays (c : Correspondence β) (stamp : Stamp β) : Prop :=
  stamp.accepted = true ∧
    ∃ slip, c.slips[stamp.asked]? = some slip ∧ slip.seat < stamp.seat

theorem own_of_same_seat (sound : c.Sound) {stamp : Stamp β} {number : Nat} {slip : Slip}
    (reaches : c.Reaches stamp number) (made : c.slips[stamp.asked]? = some slip)
    (same : slip.seat = stamp.seat) : stamp.asked = number := by
  obtain ⟨again, remade, id, -⟩ := sound.routed reaches.came
  obtain rfl := Option.some.inj (made.symm.trans remade)
  refine sound.numbered.unique made ?_
  rw [reaches.made, ← same, ← id]

theorem ownReplies_iff (sound : c.Sound) :
    c.OwnReplies ↔ ¬∃ stamp ∈ c.stamps, c.Strays stamp := by
  constructor
  · rintro own ⟨stamp, came, accepted, slip, made, earlier⟩
    obtain ⟨number, reaches⟩ := sound.reached came accepted
    rw [own stamp number reaches] at made
    obtain rfl := Option.some.inj (made.symm.trans reaches.made)
    exact Nat.lt_irrefl _ earlier
  · intro none stamp number reaches
    -- ids repeat from seat to seat only, so a reply for another call was made for an earlier seat
    obtain ⟨slip, made, -, older, -⟩ := sound.routed reaches.came
    refine own_of_same_seat sound reaches made (Nat.le_antisymm older ?_)
    refine Nat.le_of_not_lt fun earlier => none ⟨stamp, reaches.came, reaches.accepted, slip, ?_⟩
    exact ⟨made, earlier⟩

/-- Where every node has one seat, no reply can go astray. -/
theorem ownReplies_of_nodup (sound : c.Sound) (distinct : (c.seats.map (·.node)).Nodup) :
    c.OwnReplies := by
  intro stamp number reaches
  obtain ⟨slip, made, -, -, node, home, here⟩ := sound.routed reaches.came
  refine own_of_same_seat sound reaches made ?_
  obtain ⟨seat, found, -⟩ := Option.map_eq_some_iff.mp home
  have below : slip.seat < (c.seats.map (·.node)).length := by
    simpa using (List.getElem?_eq_some_iff.mp found).1
  refine (List.getElem?_inj below distinct).mp ?_
  rw [List.getElem?_map, List.getElem?_map]
  exact home.trans here.symm

theorem strays_step (sound : c.Sound) (moves : c.Moves late d) :
    (∃ stamp ∈ d.stamps, d.Strays stamp) ↔ (∃ stamp ∈ c.stamps, c.Strays stamp) ∨ late := by
  have grows := grows_of_moves moves
  have old : ∀ stamp ∈ c.stamps, d.Strays stamp ↔ c.Strays stamp := by
    intro stamp came
    obtain ⟨slip, made, -⟩ := sound.routed came
    simp only [Strays, made, grows.slips made]
  have kept : (∃ stamp ∈ c.stamps, d.Strays stamp) ↔ ∃ stamp ∈ c.stamps, c.Strays stamp :=
    exists_congr fun stamp => and_congr_right (old stamp)
  cases moves with
  | rests | starts | fades | opens => exact kept.trans (or_false _).symm.to_iff
  | comes i asked seat slip reply found made older home =>
    have last : seat.pending.Outstanding slip.id ∧ slip.seat < i ↔
        Strays { c with
          seats := c.seats.set i { seat with pending := (seat.pending.complete slip.id reply).2 }
          stamps := c.stamps ++
            [⟨asked, i, slip.id, reply, (seat.pending.complete slip.id reply).1⟩] }
          ⟨asked, i, slip.id, reply, (seat.pending.complete slip.id reply).1⟩ := by
      simp only [Strays, made, Pending.complete_eq_true, Option.some.injEq, exists_eq_left']
    rw [← kept, last]
    simp only [List.mem_append, List.mem_singleton, or_and_right, exists_or, exists_eq_left]

/-- A move keeps replies with their calls unless one comes late to a caller. -/
theorem ownReplies_step (sound : c.Sound) (moves : c.Moves late d) :
    d.OwnReplies ↔ c.OwnReplies ∧ ¬late := by
  rw [ownReplies_iff (sound_step sound moves), ownReplies_iff sound, strays_step sound moves,
    not_or]

end Correspondence

end Muster
