import Muster.Proofs.Catalog
import Muster.Proofs.Rows
import Muster.Proofs.Stats.Shares
import Muster.Verdict

/-!
Whose the entries of a book are. The scenarios of a valid configuration have distinct single words
as identifiers, so the first word of a name tells at most one of them. An entry is unmatched or
belongs to that one, and nothing is lost or counted twice.
-/

namespace Muster

/-! ### First words -/

namespace Text

/-- Nothing, or text after a blank. -/
def Detached (rest : String) : Prop := ∀ c ∈ rest.toList.head?, isBlank c = true

instance (rest : String) : Decidable (Detached rest) :=
  inferInstanceAs (Decidable (∀ c ∈ rest.toList.head?, isBlank c = true))

theorem firstWord_append {word rest : String} (single : ScenarioConfig.isWord word = true)
    (detached : Detached rest) : firstWord (word ++ rest) = word := by
  obtain ⟨nonempty, solid⟩ := ScenarioConfig.isWord_iff.mp single
  obtain ⟨c, cs, chars⟩ := List.exists_cons_of_ne_nil nonempty
  have here : isBlank c = false := solid c (chars ▸ List.mem_cons_self)
  have started : (word ++ rest).toList.dropWhile isBlank = word.toList ++ rest.toList := by
    rw [String.toList_append, chars, List.cons_append, List.dropWhile_cons_of_neg]
    rw [here]
    exact Bool.false_ne_true
  have ended : rest.toList.takeWhile (fun c => !isBlank c) = [] := by
    unfold Detached at detached
    cases tail : rest.toList with
    | nil => rfl
    | cons first more =>
      rw [tail] at detached
      rw [List.takeWhile_cons_of_neg]
      simpa using detached first rfl
  have whole : ∀ c ∈ word.toList, (!isBlank c) = true := fun c member => by
    rw [solid c member]
    rfl
  rw [firstWord, started, List.takeWhile_append_of_pos whole, ended, List.append_nil,
    String.ofList_toList]

end Text

namespace StatsBook

/-- A figure of a whole book. -/
def total (book : StatsBook) (figure : RequestStats → Nat) : Nat :=
  (book.entries.values.map figure).sum

theorem entry_eq_of_mem {book : StatsBook} {entry : String × RequestStats}
    (member : entry ∈ book.entries.entries) : book.entry entry.1 = entry.2 := by
  rw [StatsBook.entry, Table.find?_eq_some_iff_mem.mpr member, Option.getD_some]

end StatsBook

/-! ### Owners -/

namespace Catalog

/-- The entry is in the share of the scenario at an index, and in no other. -/
structure Owns (c : Catalog) (book : StatsBook) (i : Nat) (entry : String × RequestStats) :
    Prop where
  shared : ∃ s, c.scenarios[i]? = some s ∧ entry ∈ book.share s.identifier
  alone : ∀ {j : Nat} {other}, c.scenarios[j]? = some other →
    entry ∈ book.share other.identifier → j = i

/-- A figure of the unmatched entries and of the statistics of all scenarios. -/
def divided (c : Catalog) (book : StatsBook) (unmatched : List String)
    (figure : RequestStats → Nat) : Nat :=
  (unmatched.map fun name => figure (book.entry name)).sum +
    (c.scenarios.map fun s => ((book.forScenario s.identifier).map figure).getD 0).sum

variable {c : Catalog} {book : StatsBook}

theorem unmatched_eq (c : Catalog) (book : StatsBook) :
    c.unmatched book = (book.entries.entries.filter fun entry =>
      StatsBook.scenarioIdentifier entry.1 ∉ c.scenarios.map Scenario.identifier).map Prod.fst := by
  rw [unmatched, Table.keys, List.filter_map]
  refine congrArg (List.map Prod.fst) (List.filter_congr fun entry _ => ?_)
  rw [Bool.eq_iff_iff]
  simp [hasIdentifier]

theorem mem_unmatched {entry : String × RequestStats} (member : entry ∈ book.entries.entries) :
    entry.1 ∈ c.unmatched book ↔
      StatsBook.scenarioIdentifier entry.1 ∉ c.scenarios.map Scenario.identifier := by
  rw [unmatched, List.mem_filter]
  have key : entry.1 ∈ book.entries.keys := List.mem_map_of_mem member
  simp [hasIdentifier, key]

/-- The unmatched entries and the shares make up the book. -/
theorem perm_shares (distinct : (c.scenarios.map Scenario.identifier).Nodup)
    (book : StatsBook) :
    (book.entries.entries.filter (fun entry =>
        StatsBook.scenarioIdentifier entry.1 ∉ c.scenarios.map Scenario.identifier) ++
      c.scenarios.flatMap fun s => book.share s.identifier).Perm book.entries.entries := by
  have fibers := perm_fibers (fun entry : String × RequestStats =>
    StatsBook.scenarioIdentifier entry.1) distinct book.entries.entries
  rwa [List.flatMap_map] at fibers

theorem owns_of_mem (distinct : (c.scenarios.map Scenario.identifier).Nodup) {i : Nat}
    {s : Scenario} {entry : String × RequestStats} (found : c.scenarios[i]? = some s)
    (member : entry ∈ book.share s.identifier) : c.Owns book i entry := by
  refine ⟨⟨s, found, member⟩, fun {j other} present shared => ?_⟩
  have same : other.identifier = s.identifier :=
    (StatsBook.mem_share.mp shared).2.symm.trans (StatsBook.mem_share.mp member).2
  have below : j < (c.scenarios.map Scenario.identifier).length := by
    simpa using (List.getElem?_eq_some_iff.mp present).1
  refine (List.getElem?_inj below distinct).mp ?_
  rw [List.getElem?_map, List.getElem?_map, present, found, Option.map_some, Option.map_some, same]

/-- What a figure comes to does not depend on how the book is divided. -/
theorem divided_eq_total (distinct : (c.scenarios.map Scenario.identifier).Nodup)
    {figure : RequestStats → Nat} (additive : RequestStats.Additive figure) :
    c.divided book (c.unmatched book) figure = book.total figure := by
  have alone : (c.unmatched book).map (fun name => figure (book.entry name)) =
      (book.entries.entries.filter fun entry => StatsBook.scenarioIdentifier entry.1 ∉
        c.scenarios.map Scenario.identifier).map fun entry => figure entry.2 := by
    rw [unmatched_eq, List.map_map]
    refine List.map_congr_left fun entry member => ?_
    exact congrArg figure (StatsBook.entry_eq_of_mem (List.mem_filter.mp member).1)
  have merged : ∀ s : Scenario, ((book.forScenario s.identifier).map figure).getD 0 =
      ((book.share s.identifier).map fun entry => figure entry.2).sum := by
    intro s
    rw [StatsBook.forScenario_eq]
    by_cases none : book.share s.identifier = []
    · rw [if_pos none, none]
      rfl
    · rw [if_neg none, Option.map_some, Option.getD_some, additive.mergeAll, List.map_map]
      rfl
  have whole := ((perm_shares distinct book).map fun entry => figure entry.2).sum_nat
  rw [List.map_append, List.sum_append, List.map_flatMap] at whole
  rw [divided, StatsBook.total, alone, Table.values, List.map_map]
  have nested : ∀ scenarios : List Scenario,
      (scenarios.map fun s =>
        ((book.share s.identifier).map fun entry => figure entry.2).sum).sum =
      (scenarios.flatMap fun s => (book.share s.identifier).map fun entry => figure entry.2).sum
      := by
    intro scenarios
    induction scenarios with
    | nil => rfl
    | cons s rest ih => rw [List.map_cons, List.sum_cons, ih, List.flatMap_cons, List.sum_append]
  simp only [merged, nested]
  exact whole

/-- Every entry of a book is accounted for once. -/
structure Attributes (c : Catalog) (book : StatsBook) (unmatched : List String) : Prop where
  known : unmatched ⊆ book.entries.keys
  once : ∀ entry ∈ book.entries.entries,
    (unmatched.count entry.1 = 1 ∧ ∀ s ∈ c.scenarios, entry ∉ book.share s.identifier) ∨
      (unmatched.count entry.1 = 0 ∧ ∃ i, c.Owns book i entry)
  merged : ∀ s ∈ c.scenarios, book.forScenario s.identifier =
    if book.share s.identifier = [] then none
    else some (.mergeAll ((book.share s.identifier).map Prod.snd))
  /-- an identifier, alone or before a blank, tells the scenario -/
  told : ∀ {i : Nat} {s rest stats}, c.scenarios[i]? = some s → Text.Detached rest →
    (s.identifier ++ rest, stats) ∈ book.entries.entries →
      c.Owns book i (s.identifier ++ rest, stats) ∧ s.identifier ++ rest ∉ unmatched
  requests : c.divided book unmatched RequestStats.requests = book.total RequestStats.requests
  failures : c.divided book unmatched RequestStats.failures = book.total RequestStats.failures
  buckets : ∀ time, c.divided book unmatched (RequestStats.countIn time) =
    book.total (RequestStats.countIn time)

theorem nodup_unmatched (c : Catalog) (book : StatsBook) : (c.unmatched book).Nodup :=
  book.entries.nodup_keys.filter _

theorem attributes_unmatched (distinct : (c.scenarios.map Scenario.identifier).Nodup)
    (words : ∀ s ∈ c.scenarios, ScenarioConfig.isWord s.identifier = true) (book : StatsBook) :
    c.Attributes book (c.unmatched book) := by
  constructor
  case known => exact fun name listed => (List.mem_filter.mp listed).1
  case once =>
    intro entry member
    by_cases owned : StatsBook.scenarioIdentifier entry.1 ∈ c.scenarios.map Scenario.identifier
    · have matched : entry.1 ∉ c.unmatched book := fun listed =>
        (mem_unmatched member).mp listed owned
      obtain ⟨s, known, same⟩ := List.mem_map.mp owned
      obtain ⟨i, found⟩ := List.mem_iff_getElem?.mp known
      have shared := StatsBook.mem_share.mpr ⟨member, same.symm⟩
      exact .inr ⟨List.count_eq_zero.mpr matched, i, owns_of_mem distinct found shared⟩
    · have listed := (mem_unmatched member).mpr owned
      refine .inl ⟨?_, fun s known shared => owned ?_⟩
      · rw [(c.nodup_unmatched book).count, if_pos listed]
      · exact List.mem_map.mpr ⟨s, known, (StatsBook.mem_share.mp shared).2.symm⟩
  case merged => exact fun s _ => book.forScenario_eq s.identifier
  case told =>
    intro i s rest stats found detached member
    have known := List.mem_of_getElem? found
    have first : StatsBook.scenarioIdentifier (s.identifier ++ rest) = s.identifier :=
      Text.firstWord_append (words s known) detached
    refine ⟨owns_of_mem distinct found (StatsBook.mem_share.mpr ⟨member, first⟩), fun listed => ?_⟩
    refine (mem_unmatched member).mp listed ?_
    rw [first]
    exact List.mem_map_of_mem known
  case requests => exact divided_eq_total distinct RequestStats.additive_requests
  case failures => exact divided_eq_total distinct RequestStats.additive_failures
  case buckets => exact fun time => divided_eq_total distinct (RequestStats.additive_countIn time)

/-- A pass over the catalog of a valid configuration attributes every entry of a book, whatever it
is called, to one scenario or to none. -/
theorem entries_attributed {config : Config} (valid : config.check = .ok ()) :
    ∃ catalog, config.catalog = .ok catalog ∧ ∀ book exitCode,
      catalog.Attributes book (catalog.validate book exitCode).report.unmatched := by
  obtain ⟨made, distinct, words⟩ := Config.catalog_of_check valid
  exact ⟨_, made, fun book _ => attributes_unmatched distinct words book⟩

def store : Config :=
  { scenarios := [{ name := "browse", identifier := some "1" },
      { name := "buy", identifier := some "10" }, { name := "leave" }] }

/-- Names with a no-break space, with padding, and with a longer identifier. -/
def storeBook : StatsBook :=
  (["10\u00a0GET /", "100", " 1", "", "1", "003 GET /"].foldl
    (fun book name => book.logRequest name 12) {})

theorem entries_attributed_prefixes :
    store.check = .ok () ∧ ∃ catalog, store.catalog = .ok catalog ∧
      catalog.Attributes storeBook (catalog.validate storeBook .success).report.unmatched ∧
      (catalog.validate storeBook .success).report.unmatched = ["", "100"] ∧
      (catalog.scenarios.map fun s => (storeBook.share s.identifier).map Prod.fst) =
        [[" 1", "1"], ["10\u00a0GET /"], ["003 GET /"]] := by
  have valid : store.check = .ok () := by decide +kernel
  obtain ⟨catalog, made, attributes⟩ := entries_attributed valid
  refine ⟨valid, catalog, made, attributes storeBook .success, ?_⟩
  rw [(Config.catalog_of_check valid).1] at made
  obtain rfl := Except.ok.inj made
  decide +kernel

end Catalog

end Muster
