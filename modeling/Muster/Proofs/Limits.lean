import Mathlib.Data.List.TakeWhile
import Mathlib.Data.Nat.Digits.Defs
import Mathlib.Data.String.Basic
import Muster.Proofs.Catalog

/-!
How long the names and the paths are that a run takes from a valid configuration. They are checked
without the blanks around them and used with these blanks, so a limit holds of what is used if it
still holds with the blanks added. Identifiers have no blanks and are always within their limit.
-/

namespace Muster

namespace Text

def leading (text : String) : String := String.ofList (text.toList.takeWhile isBlank)

def trailing (text : String) : String :=
  String.ofList ((text.toList.dropWhile isBlank).reverse.takeWhile isBlank).reverse

/-- How many bytes of blanks are around a text. -/
def padding (text : String) : Nat := (leading text).utf8ByteSize + (trailing text).utf8ByteSize

theorem trimmed_between (text : String) : leading text ++ trim text ++ trailing text = text := by
  have tail : trimChars text.toList ++ (trailing text).toList = text.toList.dropWhile isBlank := by
    rw [trimChars, trailing, String.toList_ofList, ← List.reverse_append,
      List.takeWhile_append_dropWhile, List.reverse_reverse]
  rw [String.append_assoc, ← String.ofList_toList (s := trailing text), leading, trim,
    ← String.ofList_append, ← String.ofList_append, tail, List.takeWhile_append_dropWhile,
    String.ofList_toList]

theorem bytes_trim_add_padding (text : String) :
    (trim text).utf8ByteSize + padding text = text.utf8ByteSize := by
  have bytes := congrArg String.utf8ByteSize (trimmed_between text)
  rw [String.utf8ByteSize_append, String.utf8ByteSize_append] at bytes
  unfold padding
  omega

theorem isBlank_of_mem_leading {text : String} {c : Char} (member : c ∈ (leading text).toList) :
    isBlank c = true := by
  rw [leading, String.toList_ofList] at member
  exact List.mem_takeWhile_imp member

theorem isBlank_of_mem_trailing {text : String} {c : Char} (member : c ∈ (trailing text).toList) :
    isBlank c = true := by
  rw [trailing, String.toList_ofList, List.mem_reverse] at member
  exact List.mem_takeWhile_imp member

theorem bytes_ofList_le (cs : List Char) : (String.ofList cs).utf8ByteSize ≤ 4 * cs.length := by
  induction cs with
  | nil => exact Nat.le_refl 0
  | cons c rest ih =>
    have first := Char.utf8Size_le_four c
    rw [String.ofList_cons, String.utf8ByteSize_append, String.utf8ByteSize_singleton,
      List.length_cons]
    omega

theorem trim_append_of_allBlank (text : String) {blanks : String} (blank : allBlank blanks = true) :
    trim (text ++ blanks) = trim text := by
  rw [allBlank_eq_all, List.all_eq_true] at blank
  have nothing : blanks.toList.dropWhile isBlank = [] :=
    List.dropWhile_eq_nil_iff.mpr blank
  rw [trim, trim, String.toList_append, trimChars, trimChars, List.dropWhile_append]
  split
  · rename_i none
    rw [nothing, List.isEmpty_iff.mp none]
  · rw [List.reverse_append, List.dropWhile_append_of_pos (by simpa using blank)]

end Text

namespace Path

variable {current cs solid : List Char} {piece : List Char}

theorem splitFrom_ne_nil : splitFrom current cs ≠ [] := by
  fun_induction splitFrom current cs with
  | case1 => exact List.cons_ne_nil _ _
  | case2 => exact List.cons_ne_nil _ _
  | case3 _ _ _ _ ih => exact ih

theorem splitFrom_append_of_solid (noSlash : '/' ∉ solid) :
    splitFrom current (solid ++ cs) = splitFrom (solid.reverse ++ current) cs := by
  induction solid generalizing current with
  | nil => rfl
  | cons c rest ih =>
    rw [List.mem_cons, not_or] at noSlash
    rw [List.cons_append, splitFrom, ih noSlash.2, List.reverse_cons, List.append_assoc,
      List.singleton_append]
    rintro rfl
    exact noSlash.1 rfl

/-- Only the first piece depends on what was read before. -/
theorem tail_splitFrom : (splitFrom current cs).tail = (splitFrom [] cs).tail := by
  induction cs generalizing current with
  | nil => rfl
  | cons c rest ih =>
    by_cases slash : c = '/'
    · subst slash
      rfl
    · rw [splitFrom, splitFrom, ih, @ih [c]]
      · exact slash
      · exact slash

/-- Only the last piece depends on what follows without a slash. -/
theorem dropLast_splitFrom_append (noSlash : '/' ∉ solid) :
    (splitFrom current (cs ++ solid)).dropLast = (splitFrom current cs).dropLast := by
  induction cs generalizing current with
  | nil =>
    rw [List.nil_append, ← List.append_nil solid, splitFrom_append_of_solid noSlash]
    rfl
  | cons c rest ih =>
    by_cases slash : c = '/'
    · subst slash
      rw [List.cons_append, splitFrom, splitFrom, List.dropLast_cons_of_ne_nil splitFrom_ne_nil,
        List.dropLast_cons_of_ne_nil splitFrom_ne_nil, ih]
    · rw [List.cons_append, splitFrom, splitFrom, ih]
      · exact slash
      · exact slash

/-- Text without slashes around a path changes its first and its last piece only. -/
theorem mem_splitFrom_padded {whole lead trail : List Char} (padded : whole = lead ++ (cs ++ trail))
    (before : '/' ∉ lead) (after : '/' ∉ trail) (member : piece ∈ splitFrom [] whole) :
    (splitFrom [] whole).head? = some piece ∨ (splitFrom [] whole).getLast? = some piece ∨
      piece ∈ splitFrom [] cs := by
  have tail : (splitFrom [] whole).tail = (splitFrom [] (cs ++ trail)).tail := by
    rw [padded, splitFrom_append_of_solid before, tail_splitFrom]
  obtain ⟨first, later, all⟩ := List.exists_cons_of_ne_nil (@splitFrom_ne_nil [] whole)
  rw [all, List.tail_cons] at tail
  rw [all] at member ⊢
  rcases List.mem_cons.mp member with rfl | inTail
  · exact .inl rfl
  · -- what follows the first piece is that of the inner text, except for the last piece
    right
    have nonempty : later ≠ [] := List.ne_nil_of_mem inTail
    rw [← List.dropLast_append_getLast nonempty] at inTail
    rcases List.mem_append.mp inTail with inner | last
    · rw [tail, ← List.tail_dropLast, dropLast_splitFrom_append after] at inner
      exact .inr (List.dropLast_subset _ (List.mem_of_mem_tail inner))
    · rw [List.mem_singleton.mp last, List.getLast?_cons_of_ne_nil nonempty,
        List.getLast?_eq_some_getLast nonempty]
      exact .inl rfl

theorem pieces_of_solid {path : String} (noSlash : '/' ∉ path.toList) : pieces path = [path] := by
  rw [pieces, ← List.append_nil path.toList, splitFrom_append_of_solid noSlash, splitFrom,
    List.append_nil, List.reverse_reverse, List.map_singleton, String.ofList_toList]

/-- The blanks around a path are in its first and in its last piece. -/
theorem mem_pieces_trim {path piece : String} (member : piece ∈ pieces path) :
    (pieces path).head? = some piece ∨ (pieces path).getLast? = some piece ∨
      piece ∈ pieces (Text.trim path) := by
  have slash : Text.isBlank '/' = false := by decide
  have before : '/' ∉ (Text.leading path).toList := fun blank =>
    Bool.false_ne_true (slash.symm.trans (Text.isBlank_of_mem_leading blank))
  have after : '/' ∉ (Text.trailing path).toList := fun blank =>
    Bool.false_ne_true (slash.symm.trans (Text.isBlank_of_mem_trailing blank))
  have padded : path.toList = (Text.leading path).toList ++ ((Text.trim path).toList ++
      (Text.trailing path).toList) := by
    rw [← String.toList_append, ← String.toList_append, ← String.append_assoc,
      Text.trimmed_between]
  obtain ⟨chars, split, rfl⟩ := List.mem_map.mp member
  unfold pieces
  rw [List.head?_map, List.getLast?_map]
  rcases mem_splitFrom_padded padded before after split with head | last | inner
  · exact .inl (congrArg (Option.map String.ofList) head)
  · exact .inr (.inl (congrArg (Option.map String.ofList) last))
  · exact .inr (.inr (List.mem_map_of_mem inner))

/-- Pieces that are no components are short. -/
theorem components_within {path : String} {bound : Nat} (positive : 0 < bound) :
    (∀ c ∈ components path, c.utf8ByteSize ≤ bound) ↔
      ∀ piece ∈ pieces path, piece.utf8ByteSize ≤ bound := by
  constructor
  · intro within piece member
    by_cases dropped : piece = "" ∨ piece = "."
    · rcases dropped with rfl | rfl
      · exact Nat.zero_le _
      · exact positive
    · obtain ⟨index, here, rfl⟩ := List.mem_iff_getElem.mp member
      refine within _ (List.mem_filterMap.mpr ⟨(_, index), List.mk_mem_zipIdx_iff_getElem?.mpr
        (List.getElem?_eq_getElem here), ?_⟩)
      rw [not_or] at dropped
      simp [dropped.1, dropped.2]
  · intro within c member
    obtain ⟨⟨piece, index⟩, listed, kept⟩ := List.mem_filterMap.mp member
    dsimp only at kept
    split at kept
    · cases kept
    · obtain rfl := Option.some.inj kept
      exact within _ (List.fst_mem_of_mem_zipIdx listed)

end Path

/-! ### What is short enough -/

def ShortName (name : String) : Prop := name.utf8ByteSize ≤ Config.maxNameBytes

structure ShortPath (path : String) : Prop where
  whole : path.utf8ByteSize ≤ Config.maxPathBytes
  components : ∀ c ∈ Path.components path, c.utf8ByteSize ≤ Config.maxComponentBytes

structure ShortWord (identifier : String) : Prop where
  word : ScenarioConfig.isWord identifier = true
  short : identifier.utf8ByteSize ≤ Config.maxNameBytes

/-- Not blank, and short enough with the blanks around it. -/
def AsWritten (short : String → Prop) (text : String) : Prop :=
  Text.allBlank text = false ∧ short text

/-- Not blank, and short enough without the blanks around it. -/
def Trimmed (short : String → Prop) (text : String) : Prop :=
  Text.allBlank text = false ∧ short (Text.trim text)

def PaddedNameFits (name : String) : Prop :=
  (Text.trim name).utf8ByteSize + Text.padding name ≤ Config.maxNameBytes

/-- The blanks around a path leave it short enough, and its two outer pieces. -/
structure PaddedPathFits (path : String) : Prop where
  whole : (Text.trim path).utf8ByteSize + Text.padding path ≤ Config.maxPathBytes
  first : ∀ piece ∈ (Path.pieces path).head?, piece.utf8ByteSize ≤ Config.maxComponentBytes
  last : ∀ piece ∈ (Path.pieces path).getLast?, piece.utf8ByteSize ≤ Config.maxComponentBytes

instance {name : String} : Decidable (PaddedNameFits name) := inferInstanceAs (Decidable (_ ≤ _))

instance {path : String} : Decidable (PaddedPathFits path) :=
  decidable_of_iff (_ ∧ _ ∧ _)
    ⟨fun ⟨whole, first, last⟩ => ⟨whole, first, last⟩,
      fun ⟨whole, first, last⟩ => ⟨whole, first, last⟩⟩

theorem checkPath_eq_ok {path : String} : checkPath path = .ok () ↔ ShortPath path := by
  unfold checkPath
  by_cases long : Config.maxPathBytes < path.utf8ByteSize
  · rw [if_pos long]
    exact ⟨nofun, fun short => absurd short.whole (Nat.not_le.mpr long)⟩
  · rw [if_neg long]
    split
    · rename_i component
      refine ⟨nofun, fun short => ?_⟩
      obtain ⟨c, member, long⟩ := List.any_eq_true.mp component
      exact absurd (short.components c member) (Nat.not_le.mpr (of_decide_eq_true long))
    · rename_i none
      refine ⟨fun _ => ⟨Nat.not_lt.mp long, fun c member => ?_⟩, fun _ => rfl⟩
      rw [List.any_eq_true] at none
      exact Nat.not_lt.mp fun long => none ⟨c, member, decide_eq_true long⟩

theorem shortPath_of_padded {path : String} (trimmed : ShortPath (Text.trim path))
    (padded : PaddedPathFits path) : ShortPath path where
  whole := Text.bytes_trim_add_padding path ▸ padded.whole
  components := by
    have positive : 0 < Config.maxComponentBytes := by decide
    rw [Path.components_within positive]
    intro piece member
    rcases Path.mem_pieces_trim member with first | last | inner
    · exact padded.first piece first
    · exact padded.last piece last
    · exact (Path.components_within positive).mp trimmed.components piece inner

theorem ShortPath.padded {path : String} (short : ShortPath path) : PaddedPathFits path := by
  have pieces := (Path.components_within (by decide)).mp short.components
  exact
    { whole := Text.bytes_trim_add_padding path ▸ short.whole
      first := fun piece head => pieces piece (List.mem_of_mem_head? head)
      last := fun piece last => pieces piece (List.mem_of_mem_getLast? last) }

theorem trimmed_of_pathFault?_eq_none {path : String} (fine : pathFault? path = none) :
    Trimmed ShortPath path := by
  unfold pathFault? at fine
  dsimp only at fine
  split at fine
  · cases fine
  · rename_i named
    split at fine
    · rename_i passed
      exact ⟨ScenarioConfig.allBlank_of_trim (Bool.eq_false_iff.mpr named),
        checkPath_eq_ok.mp passed⟩
    · cases fine

namespace ScenarioConfig

variable {s : ScenarioConfig}

def paths (s : ScenarioConfig) : List String :=
  ((s.data.map (·.sources)).getD []).filterMap DataSource.path?

theorem limits_of_check (valid : s.check = .ok ()) :
    Trimmed ShortName s.name ∧ (∀ identifier ∈ s.identifier, ShortWord identifier) ∧
      ∀ path ∈ s.paths, Trimmed ShortPath path := by
  obtain ⟨named, short, identified, sources⟩ := parts_of_check valid
  refine ⟨⟨allBlank_of_trim named, short⟩, fun identifier given => ?_, fun path member => ?_⟩
  · obtain ⟨word, short⟩ := checkIdentifier_eq_ok.mp identified identifier given
    exact ⟨word, short⟩
  · obtain ⟨source, listed, opens⟩ := List.mem_filterMap.mp member
    have passed := sources source listed
    rw [checkSource, opens, Option.bind_some] at passed
    split at passed
    · cases passed
    · rename_i fine
      exact trimmed_of_pathFault?_eq_none fine

theorem shortWord_effectiveIdentifier (chosen : ∀ identifier ∈ s.identifier, ShortWord identifier)
    {index : Nat} (few : index < Config.maxScenarios) :
    ShortWord (s.effectiveIdentifier index) where
  word := isWord_effectiveIdentifier (fun identifier given => (chosen identifier given).word) index
  short := by
    unfold effectiveIdentifier
    cases given : s.identifier with
    | some identifier => exact (chosen identifier given).short
    | none =>
      have few : (Nat.toDigits 10 (index + 1)).length ≤ 4 :=
        (Nat.length_toDigits_le_iff (by decide) (by decide)).mpr (by
          unfold Config.maxScenarios at few
          omega)
      rw [Option.getD_none]
      refine Nat.le_trans (Text.bytes_ofList_le _) ?_
      rw [List.length_append, List.length_replicate]
      unfold Config.maxNameBytes
      omega

end ScenarioConfig

namespace Config

variable {c : Config}

def logFile? (c : Config) : Option String := if c.logSink = .file then c.logPath else none

/-- What holds of every name, identifier and path that a run takes from a configuration. -/
structure Limited (c : Config) (name identifier path : String → Prop) : Prop where
  planned : ∀ plan ∈ c.plans, name plan.scenario
  listed : ∃ catalog, c.catalog = .ok catalog ∧
    ∀ s ∈ catalog.scenarios, name s.name ∧ identifier s.identifier
  sources : ∀ s ∈ c.scenarios, ∀ file ∈ s.paths, path file
  log : ∀ file ∈ c.logFile?, path file

theorem Limited.combine {name name' name'' identifier identifier' path path' path'' : String → Prop}
    (one : c.Limited name identifier path) (other : c.Limited name' identifier' path')
    (names : ∀ text, name text → name' text → name'' text)
    (paths : ∀ text, path text → path' text → path'' text) :
    c.Limited name'' identifier path'' := by
  obtain ⟨catalog, made, listed⟩ := one.listed
  obtain ⟨_, again, listed'⟩ := other.listed
  obtain rfl := Except.ok.inj (made.symm.trans again)
  exact
    { planned := fun plan member =>
        names _ (one.planned plan member) (other.planned plan member)
      listed := ⟨catalog, made, fun s member =>
        ⟨names _ (listed s member).1 (listed' s member).1, (listed s member).2⟩⟩
      sources := fun s member file given =>
        paths _ (one.sources s member file given) (other.sources s member file given)
      log := fun file given => paths _ (one.log file given) (other.log file given) }

theorem check_of_checkScenarios {names identifiers : List String} {index : Nat}
    {scenarios : List ScenarioConfig}
    (valid : checkScenarios names identifiers index scenarios = .ok ()) :
    ∀ s ∈ scenarios, s.check = .ok () := by
  induction scenarios generalizing names identifiers index with
  | nil => nofun
  | cons first rest ih =>
    obtain ⟨checked, -, -, later⟩ := checkScenarios_cons_eq_ok valid
    rintro s (_ | ⟨_, member⟩)
    · exact checked
    · exact ih later s member

theorem trimmed_logFile (valid : checkLog c = .ok ()) :
    ∀ file ∈ c.logFile?, Trimmed ShortPath file := by
  intro file given
  unfold logFile? at given
  split at given
  · rename_i sink
    unfold checkLog at valid
    rw [sink, given] at valid
    dsimp only at valid
    split at valid
    · cases valid
    · rename_i fine
      exact trimmed_of_pathFault?_eq_none fine
  · cases given

theorem limited_trimmed (valid : c.check = .ok ()) :
    c.Limited (Trimmed ShortName) ShortWord (Trimmed ShortPath) := by
  obtain ⟨logged, few, scenarios⟩ := sections_of_check valid
  have limits := fun s member => ScenarioConfig.limits_of_check
    (check_of_checkScenarios scenarios s member)
  refine ⟨fun plan member => ?_, ⟨_, (catalog_of_check valid).1, fun listed member => ?_⟩,
    fun s member => (limits s member).2.2, trimmed_logFile logged⟩
  · obtain ⟨s, given, made⟩ := List.mem_filterMap.mp member
    obtain ⟨_, -, rfl⟩ := Option.map_eq_some_iff.mp made
    exact (limits s given).1
  · obtain ⟨⟨s, index⟩, given, rfl⟩ := List.mem_map.mp member
    have member : s ∈ c.scenarios := List.fst_mem_of_mem_zipIdx given
    obtain ⟨name, identifier, -⟩ := limits s member
    refine ⟨name, ScenarioConfig.shortWord_effectiveIdentifier identifier ?_⟩
    exact Nat.lt_of_lt_of_le (List.snd_lt_of_mem_zipIdx given) few

/-- One scenario, with blanks after its name, the path of its test data and that of the log. -/
def padded (count : Nat) : Config :=
  let blanks := String.ofList (List.replicate count ' ')
  { scenarios := [
      { name := "login" ++ blanks
        data := some { sources := [.jsonFile ("users.json" ++ blanks)] } }]
    logSink := .file
    logPath := some ("run.log" ++ blanks) }

theorem bytes_blanks (count : Nat) :
    (String.ofList (List.replicate count ' ')).utf8ByteSize = count := by
  induction count with
  | zero => rfl
  | succ count ih =>
    rw [List.replicate_succ, String.ofList_cons, String.utf8ByteSize_append,
      String.utf8ByteSize_singleton, ih, Nat.add_comm]
    rfl

theorem check_padded (count : Nat) : (padded count).check = .ok () := by
  have blank : Text.allBlank (String.ofList (List.replicate count ' ')) = true := by
    rw [Text.allBlank_eq_all, String.toList_ofList, List.all_eq_true]
    intro c member
    rw [List.eq_of_mem_replicate member]
    rfl
  unfold padded
  generalize String.ofList (List.replicate count ' ') = blanks at blank
  have name : Text.trim ("login" ++ blanks) = "login" := by
    rw [Text.trim_append_of_allBlank _ blank]
    decide +kernel
  have source : pathFault? ("users.json" ++ blanks) = none := by
    rw [pathFault?, Text.trim_append_of_allBlank _ blank]
    decide +kernel
  have log : pathFault? ("run.log" ++ blanks) = none := by
    rw [pathFault?, Text.trim_append_of_allBlank _ blank]
    decide +kernel
  simp only [check, checkLog, log, checkScenarios, ScenarioConfig.check, name,
    ScenarioConfig.checkSource, DataSource.path?, Option.bind_some, source, Option.map_some,
    Option.getD_some, List.forIn_cons, List.forIn_nil]
  rfl

theorem Trimmed.asWritten {short : String → Prop} {text : String} (trimmed : Trimmed short text)
    (bare : Text.trim text = text) : AsWritten short text :=
  ⟨trimmed.1, bare ▸ trimmed.2⟩

/-- In a valid configuration identifiers are short words, and names and paths are not blank and
short enough without the blanks around them; with these they are exactly if the blanks fit, and so
if there are none. -/
theorem limits_hold_iff_padding_fits (valid : c.check = .ok ()) :
    c.Limited (Trimmed ShortName) ShortWord (Trimmed ShortPath) ∧
      (c.Limited (AsWritten ShortName) ShortWord (AsWritten ShortPath) ↔
        c.Limited PaddedNameFits ShortWord PaddedPathFits) ∧
      (c.Limited (fun name => Text.trim name = name) (fun _ => True)
          (fun path => Text.trim path = path) →
        c.Limited (AsWritten ShortName) ShortWord (AsWritten ShortPath)) := by
  have trimmed := limited_trimmed valid
  refine ⟨trimmed, ⟨fun written => ?_, fun padded => ?_⟩, fun bare =>
    trimmed.combine bare (fun _ => Trimmed.asWritten) fun _ => Trimmed.asWritten⟩
  · refine written.combine written (fun name short _ => ?_) fun path short _ => short.2.padded
    exact (Text.bytes_trim_add_padding name).trans_le short.2
  · refine trimmed.combine padded (fun name trimmed fits => ?_) fun path trimmed fits => ?_
    · exact ⟨trimmed.1, (Text.bytes_trim_add_padding name).symm.trans_le fits⟩
    · exact ⟨trimmed.1, shortPath_of_padded trimmed.2 fits⟩

theorem limits_hold_iff_padding_fits_spaced :
    (padded 3).check = .ok () ∧
      (padded 3).Limited (AsWritten ShortName) ShortWord (AsWritten ShortPath) := by
  obtain ⟨trimmed, fits, -⟩ := limits_hold_iff_padding_fits (check_padded 3)
  obtain ⟨catalog, made, words⟩ := trimmed.listed
  have names : ∀ s ∈ scenariosFrom 0 (padded 3).scenarios, PaddedNameFits s.name := by
    decide +kernel
  rw [← scenarios_of_catalog made] at names
  refine ⟨check_padded 3, fits.mpr ⟨by decide +kernel, ⟨catalog, made, fun s member => ?_⟩,
    by decide +kernel, by decide +kernel⟩⟩
  exact ⟨names s member, (words s member).2⟩

/-- Every limit but that of identifiers is exceeded by blanks. -/
theorem padded_not_limited :
    (padded 4096).check = .ok () ∧
      ¬ (padded 4096).Limited (AsWritten ShortName) ShortWord (AsWritten ShortPath) ∧
      ¬ (padded 4096).Limited ShortName (fun _ => True) (fun _ => True) ∧
      ¬ (padded 4096).Limited (fun _ => True) (fun _ => True)
        (fun path => path.utf8ByteSize ≤ maxPathBytes) ∧
      ¬ (padded 4096).Limited (fun _ => True) (fun _ => True)
        (fun path => ∀ c ∈ Path.components path, c.utf8ByteSize ≤ maxComponentBytes) := by
  have name : ¬ ShortName ("login" ++ String.ofList (List.replicate 4096 ' ')) := by
    rw [ShortName, String.utf8ByteSize_append, bytes_blanks]
    decide
  have noSlash : '/' ∉ ("run.log" ++ String.ofList (List.replicate 4096 ' ')).toList := by
    rw [String.toList_append, List.mem_append, String.toList_ofList (l := List.replicate _ _),
      List.mem_replicate]
    decide
  refine ⟨check_padded 4096, fun limited => name (limited.planned _ (.head _)).2,
    fun limited => name (limited.planned _ (.head _)), fun limited => ?_, fun limited => ?_⟩
  · have short : _ ≤ maxPathBytes := limited.log _ rfl
    rw [String.utf8ByteSize_append, bytes_blanks] at short
    exact absurd short (by decide)
  · have short := limited.log _ rfl
    rw [Path.components_within (by decide), Path.pieces_of_solid noSlash,
      List.forall_mem_singleton, String.utf8ByteSize_append, bytes_blanks] at short
    exact absurd short (by decide)

end Config

end Muster
