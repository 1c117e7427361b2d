import Muster.Text.Lines

/-!
The lines of a text told by the pieces between its line feeds: every piece without one carriage
return at its end, but the last as it stands, and only if there is anything in it.
-/

namespace Muster.Text

def withoutCarriage (cs : List Char) : List Char :=
  if cs.getLast? = some '\r' then cs.dropLast else cs

/-- The lines of a text with these pieces between its line feeds. -/
def linesOfPieces : List (List Char) → List (List Char)
  | [] => []
  | [last] => if last = [] then [] else [last]
  | piece :: more => withoutCarriage piece :: linesOfPieces more

/-- A text has no line feed, or a first one and a text after it. -/
theorem lines_induction {motive : List Char → Prop} (last : ∀ cs, '\n' ∉ cs → motive cs)
    (line : ∀ cs rest, '\n' ∉ cs → motive rest → motive (cs ++ '\n' :: rest)) (cs : List Char) :
    motive cs := by
  induction size : cs.length using Nat.strongRecOn generalizing cs with
  | ind n ih =>
    by_cases feed : '\n' ∈ cs
    · obtain ⟨first, rest, rfl, inLine⟩ := List.eq_append_cons_of_mem feed
      refine line first rest inLine (ih rest.length ?_ rest rfl)
      rw [← size, List.length_append, List.length_cons]
      omega
    · exact last cs feed

/-- A character in a line goes to the end of the last piece. -/
theorem splitOn_concat (cs : List Char) {c : Char} (inLine : c ≠ '\n') :
    ∃ pieces last, cs.splitOn '\n' = pieces ++ [last] ∧
      (cs ++ [c]).splitOn '\n' = pieces ++ [last ++ [c]] := by
  induction cs using lines_induction with
  | last cs feed =>
    have longer : '\n' ∉ cs ++ [c] := by simpa [feed] using Ne.symm inLine
    exact ⟨[], cs, List.splitOn_eq_singleton feed, List.splitOn_eq_singleton longer⟩
  | line cs rest feed ih =>
    obtain ⟨pieces, last, before, after⟩ := ih
    refine ⟨cs :: pieces, last, ?_, ?_⟩
    · rw [List.splitOn_append_cons_self_of_not_mem feed, before]
      rfl
    · rw [List.append_assoc, List.cons_append, List.splitOn_append_cons_self_of_not_mem feed, after]
      rfl

theorem mem_of_mem_splitOn {cs piece : List Char} {c : Char} (member : piece ∈ cs.splitOn '\n')
    (inside : c ∈ piece) : c ∈ cs := by
  induction cs using lines_induction with
  | last cs feed =>
    rw [List.splitOn_eq_singleton feed] at member
    exact List.mem_singleton.mp member ▸ inside
  | line cs rest feed ih =>
    rw [List.splitOn_append_cons_self_of_not_mem feed] at member
    rcases List.mem_cons.mp member with rfl | later
    · exact List.mem_append_left _ inside
    · exact List.mem_append_right _ (List.mem_cons_of_mem _ (ih later))

theorem withoutCarriage_concat (cs : List Char) (c : Char) :
    withoutCarriage (cs ++ [c]) = if c = '\r' then cs else cs ++ [c] := by
  simp only [withoutCarriage, List.getLast?_concat, Option.some_inj, List.dropLast_concat]

theorem linesOfPieces_cons (piece : List Char) {more : List (List Char)} (filled : more ≠ []) :
    linesOfPieces (piece :: more) = withoutCarriage piece :: linesOfPieces more := by
  cases more with
  | nil => exact absurd rfl filled
  | cons next rest => rfl

/-- Lines that all end in a line feed, none of them in a carriage return before it. -/
theorem linesOfPieces_concat_nil {pieces : List (List Char)}
    (plain : ∀ piece ∈ pieces, piece.getLast? ≠ some '\r') :
    linesOfPieces (pieces ++ [[]]) = pieces := by
  induction pieces with
  | nil => rfl
  | cons piece more ih =>
    rw [List.cons_append, linesOfPieces_cons piece (by simp),
      ih fun other member => plain other (List.mem_cons_of_mem _ member), withoutCarriage,
      if_neg (plain piece List.mem_cons_self)]

namespace LineReader

/-- So much of the current line is read. -/
structure Reads (r : LineReader) (finished : List String) (cs : List Char) : Prop where
  finished : r.finished = finished
  line : r.line = String.ofList cs
  current : r.current = String.ofList (withoutCarriage cs)

theorem reads_fresh (finished : List String) : Reads { finished } finished [] :=
  ⟨rfl, rfl, rfl⟩

theorem push_ofList (cs : List Char) (c : Char) :
    (String.ofList cs).push c = String.ofList (cs ++ [c]) := by
  rw [← String.toList_inj, String.toList_push, String.toList_ofList, String.toList_ofList]

theorem Reads.step {r : LineReader} {finished : List String} {cs : List Char} {c : Char}
    (reads : r.Reads finished cs) (inLine : c ≠ '\n') : (r.step c).Reads finished (cs ++ [c]) := by
  have pushed := reads.line ▸ push_ofList cs c
  by_cases carriage : c = '\r'
  · subst carriage
    refine ⟨reads.finished, pushed, ?_⟩
    rw [withoutCarriage_concat, if_pos rfl]
    exact reads.line
  · have next : r.step c = { r with current := r.line.push c, held := false } := by
      rw [LineReader.step, if_neg inLine, if_neg carriage]
    rw [next]
    refine ⟨reads.finished, pushed, ?_⟩
    rw [withoutCarriage_concat, if_neg carriage]
    exact pushed

theorem Reads.foldl {r : LineReader} {finished : List String} {before cs : List Char}
    (reads : r.Reads finished before) (inLine : '\n' ∉ cs) :
    (cs.foldl LineReader.step r).Reads finished (before ++ cs) := by
  induction cs generalizing r before with
  | nil => rwa [List.append_nil]
  | cons c rest ih =>
    obtain ⟨first, rest⟩ := not_or.mp (mt List.mem_cons.mpr inLine)
    have next := ih (reads.step (Ne.symm first)) rest
    rwa [List.append_assoc] at next

theorem Reads.finish {r : LineReader} {finished : List String} {cs : List Char}
    (reads : r.Reads finished cs) :
    r.finish = finished.reverse ++ (linesOfPieces [cs]).map String.ofList := by
  rw [LineReader.finish, reads.line, reads.finished, linesOfPieces]
  cases cs with
  | nil => exact (List.append_nil _).symm
  | cons c rest =>
    have filled : (String.ofList (c :: rest)).isEmpty = false := by
      simp [← String.toList_inj]
    rw [filled, if_neg Bool.false_ne_true, if_neg nofun]
    exact List.reverse_cons

theorem finish_foldl (cs : List Char) (finished : List String) :
    (cs.foldl LineReader.step { finished }).finish =
      finished.reverse ++ (linesOfPieces (cs.splitOn '\n')).map String.ofList := by
  induction cs using lines_induction generalizing finished with
  | last cs feed =>
    rw [List.splitOn_eq_singleton feed]
    exact ((reads_fresh finished).foldl feed).finish
  | line cs rest feed ih =>
    -- the line feed ends a line, and the reader starts afresh after it
    have reads := (reads_fresh finished).foldl feed
    have ended : (cs.foldl LineReader.step { finished }).step '\n' =
        { finished := String.ofList (withoutCarriage cs) :: finished } := by
      rw [LineReader.step, if_pos rfl, reads.finished, reads.current, List.nil_append]
    rw [List.foldl_append, List.foldl_cons, ended, ih,
      List.splitOn_append_cons_self_of_not_mem feed,
      linesOfPieces_cons cs (List.splitOn_ne_nil '\n' rest)]
    simp only [List.reverse_cons, List.append_assoc, List.singleton_append, List.map_cons]

end LineReader

theorem lines_eq (text : String) :
    lines text = (linesOfPieces (text.toList.splitOn '\n')).map String.ofList := by
  rw [lines, String.foldl_eq_foldl_toList]
  exact LineReader.finish_foldl text.toList []

example : lines "a\r\n\r\r\n\nb\r" = ["a", "\r", "", "b\r"] := by
  rw [lines, String.foldl_eq_foldl_toList]
  decide +kernel

end Muster.Text
