import Muster.Proofs.Stats.Merging

/-!
The statistics of scenarios, all in one pass over a book or one scenario at a time: both ways agree.
There are groups for the first words of the names and no others, and it does not matter in which
order the book was written.
-/

namespace Muster

/-! ### Words -/

namespace Text

/-- The pieces between blanks that are not empty. -/
def words (text : String) : List String :=
  ((text.toList.splitOnP isBlank).filter fun piece => !piece.isEmpty).map String.ofList

theorem head?_splitOnP (cs : List Char) :
    (cs.splitOnP isBlank).head? = some (cs.takeWhile fun c => !isBlank c) := by
  induction cs with
  | nil => rfl
  | cons c rest ih =>
    rw [List.splitOnP_cons_eq_if_modifyHead]
    by_cases blank : isBlank c = true
    · simp [blank]
    · simp [blank, List.head?_modifyHead, ih]

/-- The first word is the first of all words, and empty if there is none. -/
theorem firstWord_eq_head (text : String) : firstWord text = (words text).head?.getD "" := by
  have pieces : ∀ cs : List Char,
      ((cs.splitOnP isBlank).find? fun piece => !piece.isEmpty).getD [] =
        (cs.dropWhile isBlank).takeWhile fun c => !isBlank c := by
    intro cs
    induction cs with
    | nil => rfl
    | cons c rest ih =>
      rw [List.splitOnP_cons_eq_if_modifyHead]
      by_cases blank : isBlank c = true
      · simp [blank, ih]
      · obtain ⟨first, others, split⟩ :=
          List.exists_cons_of_ne_nil (List.splitOnP_ne_nil isBlank rest)
        have head := head?_splitOnP rest
        rw [split, List.head?_cons, Option.some.injEq] at head
        simp [blank, split, head]
  unfold firstWord words
  rw [← pieces, List.head?_map, List.head?_filter]
  cases (text.toList.splitOnP isBlank).find? fun piece => !piece.isEmpty <;> rfl

end Text

namespace StatsBook

/-! ### Writing a book -/

inductive Posting
  | request (name : String) (ms : Millis)
  | failure (name : String)
  | merge (name : String) (stats : RequestStats)
deriving DecidableEq

namespace Posting

def name : Posting → String
  | .request name _ | .failure name | .merge name _ => name

def stats : Posting → RequestStats
  | .request _ ms => .single (.request ms)
  | .failure _ => .single .failure
  | .merge _ stats => stats

end Posting

def post (book : StatsBook) : Posting → StatsBook
  | .request name ms => book.logRequest name ms
  | .failure name => book.logFailure name
  | .merge name stats => book.set name ((book.entry name).merge stats)

theorem post_eq (book : StatsBook) (p : Posting) :
    book.post p = ⟨book.entries.alter p.name fun old => (old.getD {}).merge p.stats⟩ := by
  cases p with
  | request name ms => exact congrArg (book.set name) (RequestStats.record_eq _ (.request ms))
  | failure name => exact congrArg (book.set name) (RequestStats.record_eq _ .failure)
  | merge name stats => rfl

theorem post_comm (book : StatsBook) (p q : Posting) :
    (book.post p).post q = (book.post q).post p := by
  simp only [post_eq]
  refine congrArg StatsBook.mk (Table.alter_comm _ _ _ _ _ fun _ old => ?_)
  simp only [Option.getD_some, RequestStats.merge_assoc]
  rw [RequestStats.merge_comm q.stats]

instance : RightCommutative post := ⟨post_comm⟩

def after (book : StatsBook) (postings : List Posting) : StatsBook := postings.foldl post book

theorem after_perm (book : StatsBook) {postings others : List Posting}
    (perm : postings.Perm others) : book.after postings = book.after others :=
  perm.foldl_eq book

/-! ### Groups -/

theorem find?_byScenario (book : StatsBook) (identifier : String) :
    book.byScenario.find? identifier = book.forScenario identifier :=
  Table.find?_foldl_alter (fun entry : String × RequestStats => scenarioIdentifier entry.1)
    (fun (merged : Option RequestStats) entry => (merged.getD {}).merge entry.2)
    book.entries.entries ∅ identifier

theorem mem_keys_byScenario {book : StatsBook} {identifier : String} :
    identifier ∈ book.byScenario.keys ↔
      ∃ name ∈ book.entries.keys, scenarioIdentifier name = identifier := by
  rw [Table.mem_keys_iff, find?_byScenario, forScenario_eq]
  constructor
  · intro grouped
    have filled : book.share identifier ≠ [] := by
      intro none
      rw [if_pos none] at grouped
      cases grouped
    obtain ⟨entry, shared⟩ := List.exists_mem_of_ne_nil _ filled
    obtain ⟨member, same⟩ := mem_share.mp shared
    exact ⟨entry.1, List.mem_map_of_mem member, same⟩
  · rintro ⟨name, listed, same⟩
    obtain ⟨entry, member, rfl⟩ := List.mem_map.mp listed
    rw [if_neg (List.ne_nil_of_mem (mem_share.mpr ⟨member, same⟩))]
    rfl

/-- The groups of a book are what its scenarios have one by one, they are those of the first words of
the names, and neither depends on the order in which the book was written. -/
theorem groupings_agree (book : StatsBook) :
    (∀ identifier, book.byScenario.find? identifier = book.forScenario identifier) ∧
      (∀ identifier, identifier ∈ book.byScenario.keys ↔
        ∃ name ∈ book.entries.keys, (Text.words name).head?.getD "" = identifier) ∧
      ∀ postings others : List Posting, postings.Perm others →
        (book.after postings).byScenario = (book.after others).byScenario ∧
        ∀ identifier, (book.after postings).forScenario identifier =
          (book.after others).forScenario identifier := by
  refine ⟨find?_byScenario book, fun identifier => ?_, fun postings others perm => ?_⟩
  · simp only [← Text.firstWord_eq_head]
    exact mem_keys_byScenario
  · rw [after_perm book perm]
    exact ⟨rfl, fun _ => rfl⟩

/-- Names of two scenarios, one of them after a blank, and a name that is blank. -/
def morning : List Posting :=
  [.request "001 Register" 12, .failure " ", .request "\u3000001\u00a0Read" 640, .failure "002",
    .merge "001 Register" (.single (.request 57))]

theorem groupings_agree_reordered :
    morning.Perm morning.reverse ∧
      (after {} morning).byScenario = (after {} morning.reverse).byScenario ∧
      (after {} morning).byScenario.find? "001" = (after {} morning.reverse).forScenario "001" ∧
      "" ∈ (after {} morning).byScenario.keys ∧
      (after {} morning).byScenario.keys = ["", "001", "002"] := by
  have perm : morning.Perm morning.reverse := (List.reverse_perm morning).symm
  obtain ⟨-, -, order⟩ := groupings_agree {}
  obtain ⟨same, each⟩ := order morning morning.reverse perm
  obtain ⟨agree, keys, -⟩ := groupings_agree (after {} morning)
  refine ⟨perm, same, (agree "001").trans (each "001"), (keys "").mpr ?_, by decide⟩
  exact ⟨" ", by decide, by decide⟩

end StatsBook

end Muster
