import Muster.Files

/-!
Appending to a file. An append succeeds where the path leads to a file or to a free name in a
directory; the file then holds what it held before and the new content after it. Directories stay
what they are, so the path goes on to lead to that file.
-/

namespace Muster.Files

variable {files files' : Files} {path : String} {content added : ByteArray}

/-! ### Paths -/

theorem withoutFinalSlashes_eq (plain : path.toList.getLast? ≠ some '/') :
    Path.withoutFinalSlashes path = path := by
  have kept : path.toList.reverse.dropWhile (· = '/') = path.toList.reverse := by
    cases backwards : path.toList.reverse with
    | nil => rfl
    | cons last rest =>
      have apart : last ≠ '/' := by
        rintro rfl
        rw [← List.head?_reverse, backwards] at plain
        exact plain rfl
      rw [List.dropWhile_cons_of_neg (by simpa using apart)]
  rw [Path.withoutFinalSlashes, kept, List.reverse_reverse, String.ofList_toList, ite_self]

/-- Every directory of the one tree is a directory of the other. -/
def Keeps (files files' : Files) : Prop :=
  ∀ location, files.node? location = some .directory → files'.node? location = some .directory

theorem enter_of_keeps (keeps : files.Keeps files') {place next : Place} {piece : String}
    (entered : files.enter place piece = .ok next) : files'.enter place piece = .ok next := by
  unfold enter at entered ⊢
  split at entered
  · rwa [if_pos ‹_›]
  · rw [if_neg ‹_›]
    cases place with
    | outside => exact entered
    | inside location =>
      dsimp only at entered ⊢
      split at entered
      · rwa [if_pos ‹_›]
      · rw [if_neg ‹_›]
        split at entered
        · rename_i directory
          rw [keeps _ directory]
          exact entered
        · cases entered
        · cases entered

theorem bind_eq_ok {α β : Type} {result : Except FileError α} {next : α → Except FileError β}
    {last : β} :
    result >>= next = .ok last ↔ ∃ first, result = .ok first ∧ next first = .ok last := by
  cases result with
  | error fault => exact ⟨nofun, nofun⟩
  | ok first => exact ⟨fun same => ⟨first, rfl, same⟩, fun ⟨_, rfl, same⟩ => same⟩

theorem foldlM_enter_of_keeps (keeps : files.Keeps files') {place last : Place}
    {pieces : List String} (entered : pieces.foldlM files.enter place = .ok last) :
    pieces.foldlM files'.enter place = .ok last := by
  induction pieces generalizing place with
  | nil => exact entered
  | cons piece rest ih =>
    rw [List.foldlM_cons] at entered ⊢
    obtain ⟨next, first, entered⟩ := bind_eq_ok.mp entered
    exact bind_eq_ok.mpr ⟨next, enter_of_keeps keeps first, ih entered⟩

/-- A path that leads somewhere leads to the same place while the directories stay. -/
theorem resolve_of_keeps (keeps : files.Keeps files') {target : Place × Option String}
    (resolved : files.resolve path = .ok target) : files'.resolve path = .ok target := by
  unfold resolve at resolved ⊢
  split at resolved
  · cases resolved
  split at resolved
  · cases resolved
  rw [if_neg ‹_›, if_neg ‹_›]
  obtain ⟨place, entered, resolved⟩ := bind_eq_ok.mp resolved
  refine bind_eq_ok.mpr ⟨place, foldlM_enter_of_keeps keeps entered, ?_⟩
  split at resolved
  · split at resolved
    · rw [if_pos ‹_›]
      obtain ⟨last, entered, resolved⟩ := bind_eq_ok.mp resolved
      exact bind_eq_ok.mpr ⟨last, enter_of_keeps keeps entered, resolved⟩
    · rw [if_neg ‹_›]
      exact resolved
  · exact resolved

theorem node?_set_self (files : Files) {location : List String} (below : location ≠ [])
    (node : FileNode) : (files.set location node).node? location = some node := by
  rw [node?, if_neg (by simpa using below), set, List.find?_cons_of_pos (by simp)]
  rfl

theorem node?_set_of_ne (files : Files) {location other : List String} (apart : other ≠ location)
    (node : FileNode) : (files.set location node).node? other = files.node? other := by
  rw [node?, node?, set, List.find?_cons_of_neg (by simpa using apart.symm)]

theorem keeps_set {location : List String} (apart : files.node? location ≠ some .directory)
    (node : FileNode) : files.Keeps (files.set location node) := by
  intro other directory
  rw [node?_set_of_ne files (by rintro rfl; exact apart directory)]
  exact directory

/-! ### Open files -/

/-- The path leads to a file of this content, and more can be appended to it. -/
structure Open (files : Files) (path : String) (content : ByteArray) : Prop where
  plain : path.toList.getLast? ≠ some '/'
  held : ∃ location name, files.resolve path = .ok (.inside location, some name) ∧
    files.node? (location ++ [name]) = some (.file content)

/-- What a path holds: nothing before there is a file. -/
def contentAt (files : Files) (path : String) : ByteArray := (files.read path).toOption.getD .empty

theorem Open.read (opened : files.Open path content) : files.read path = .ok content := by
  obtain ⟨location, name, resolved, node⟩ := opened.held
  simp only [Files.read, resolved, bind, Except.bind, node]
  rfl

/-- A file is written to its path, whatever else the tree holds. -/
theorem open_set {location : List String} {name : String} (plain : path.toList.getLast? ≠ some '/')
    (resolved : files.resolve path = .ok (.inside location, some name))
    (apart : files.node? (location ++ [name]) ≠ some .directory) :
    (files.set (location ++ [name]) (.file content)).Open path content :=
  ⟨plain, location, name, resolve_of_keeps (keeps_set apart _) resolved,
    node?_set_self files (by simp) _⟩

theorem Open.append (opened : files.Open path content) (added : ByteArray) :
    ∃ files', files.append path added = .ok files' ∧ files'.Open path (content ++ added) := by
  obtain ⟨location, name, resolved, node⟩ := opened.held
  refine ⟨files.set (location ++ [name]) (.file (content ++ added)), ?_,
    open_set opened.plain resolved (by rw [node]; exact nofun)⟩
  simp only [Files.append, withoutFinalSlashes_eq opened.plain, resolved, bind, Except.bind,
    if_neg opened.plain, node]
  rfl

/-- A successful append leaves a file that holds what was there and the new content. -/
theorem open_of_append (appended : files.append path added = .ok files') :
    files'.Open path (files.contentAt path ++ added) := by
  obtain ⟨target, resolved, appended⟩ := bind_eq_ok.mp appended
  dsimp only at appended
  split at appended
  · cases appended
  rename_i plain
  rw [withoutFinalSlashes_eq plain] at resolved
  split at appended
  · cases appended
  · cases appended
  rename_i location name
  split at appended <;> cases appended
  · rename_i old node
    have held : files.contentAt path = old := by
      have opened : files.Open path old := ⟨plain, location, name, resolved, node⟩
      rw [contentAt, opened.read]
      rfl
    rw [held]
    exact open_set plain resolved (by rw [node]; exact nofun)
  · rename_i node
    have held : files.contentAt path = .empty := by
      simp only [contentAt, Files.read, resolved, bind, Except.bind, node]
      rfl
    rw [held, ByteArray.empty_append]
    exact open_set plain resolved (by rw [node]; exact nofun)

end Muster.Files
