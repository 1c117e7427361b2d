import Mathlib.Data.List.Forall2
import Muster.Json.Reader
import Muster.Json.Writer

/-!
How the reader takes JSON text in. Spaces behind a value change nothing, and text that was written
reads as what it was written from: strings whatever is in them, and objects by their fields. No
control character is ever written as it is.
-/

namespace Muster.Json

namespace Reader

variable {r s : Reader} {c : Char} {frames : List Frame}

/-! ### Spaces at the end -/

/-- No space is due inside a word. -/
def Worded : Reader → Prop
  | .word _ due _ => ∀ c ∈ due, isSpace c = false
  | _ => True

theorem worded_emit (value : Json) (frames : List Frame) : (emit value frames).Worded := by
  unfold emit
  split <;> trivial

theorem worded_startValue (started : startValue frames c = some s) : s.Worded := by
  have words : ∀ due ∈ [['r', 'u', 'e'], ['a', 'l', 's', 'e'], ['u', 'l', 'l']], ∀ c ∈ due,
      isSpace c = false := by simp [isSpace]
  grind [startValue, open?, Worded]

theorem worded_between {goal : Goal} (read : between frames goal c = some s) : s.Worded := by
  unfold between at read
  split at read
  · cases read
    trivial
  · unfold structural at read
    repeat' split at read
    all_goals
      first
        | exact worded_startValue read
        | (cases read <;> first | exact worded_emit .. | trivial)

theorem worded_quotedStep {isKey : Bool} {read : List Char} {quote : Quote}
    (stepped : quotedStep frames isKey read quote c = some s) : s.Worded := by
  cases quote with
  | plain =>
    rw [quotedStep] at stepped
    unfold closeText at stepped
    dsimp only at stepped
    repeat' split at stepped
    all_goals cases stepped <;> first | exact worded_emit .. | trivial
  | escaped =>
    rw [quotedStep] at stepped
    split at stepped
    · cases stepped
      trivial
    · obtain ⟨d, -, rfl⟩ := Option.map_eq_some_iff.mp stepped
      trivial
  | hex due value high =>
    rw [quotedStep] at stepped
    obtain ⟨digit, -, stepped⟩ := Option.bind_eq_some_iff.mp stepped
    unfold closeHex at stepped
    dsimp only at stepped
    repeat' split at stepped
    all_goals cases stepped <;> trivial
  | pairSlash high | pairMark high =>
    rw [quotedStep] at stepped
    split at stepped <;> cases stepped
    trivial

theorem worded_step (worded : r.Worded) (stepped : r.step c = some s) : s.Worded := by
  cases r with
  | seek frames goal => exact worded_between stepped
  | quoted frames isKey read quote => exact worded_quotedStep stepped
  | number frames read => grind [step, Worded, worded_between]
  | word frames due value =>
    match due with
    | [] => cases stepped
    | [last] =>
      rw [step] at stepped
      split at stepped <;> cases stepped
      exact worded_emit ..
    | d :: next :: rest =>
      rw [step] at stepped
      · split at stepped <;> cases stepped
        exact fun c member => worded c (List.mem_cons_of_mem _ member)
      · exact nofun
  | done value =>
    rw [step] at stepped
    split at stepped <;> cases stepped
    trivial

theorem eq_of_isSpace (space : isSpace c = true) : c = ' ' ∨ c = '\n' ∨ c = '\t' ∨ c = '\r' := by
  simpa [isSpace, or_assoc] using space

theorem finish_emit_cons (value : Json) (frame : Frame) (frames : List Frame) :
    ∃ frames' goal, emit value (frame :: frames) = .seek frames' goal := by
  unfold emit
  split
  · contradiction
  all_goals exact ⟨_, _, rfl⟩

/-- A text may end with a space where it may end without it. -/
theorem finish_step_space (worded : r.Worded) (space : isSpace c = true) :
    (r.step c).bind finish = r.finish := by
  cases r with
  | seek frames goal =>
    rw [step, between, if_pos space]
    rfl
  | quoted frames isKey read quote =>
    -- a string does not end with a space, whatever is due in it
    rcases eq_of_isSpace space with rfl | rfl | rfl | rfl <;> cases quote <;> rfl
  | number frames read =>
    have apart : isNumberChar c = false := by
      rcases eq_of_isSpace space with rfl | rfl | rfl | rfl <;> rfl
    rw [step, if_neg (Bool.eq_false_iff.mp apart), closeNumber]
    cases frames with
    | nil =>
      rw [finish]
      cases numberOfChars? read.reverse with
      | none => rfl
      | some value =>
        simp only [Option.map_some, emit, if_pos space, Option.bind_some, finish]
    | cons frame frames =>
      cases numberOfChars? read.reverse with
      | none => rfl
      | some value =>
        obtain ⟨rest, goal, emitted⟩ := finish_emit_cons value frame frames
        simp only [Option.map_some, emitted, between, if_pos space]
        rfl
  | word frames due value =>
    match due with
    | [] => rfl
    | [last] =>
      have apart : c ≠ last := by
        rintro rfl
        exact Bool.false_ne_true ((worded c List.mem_cons_self).symm.trans space)
      rw [step, if_neg apart]
      rfl
    | d :: next :: rest =>
      rw [step, Option.bind_eq_none_iff.mpr]
      · rfl
      · intro s stepped
        split at stepped <;> cases stepped
        rfl
      · exact nofun
  | done value =>
    rw [step, if_pos space]
    rfl

theorem worded_foldl {cs : List Char} (worded : r.Worded)
    (read : cs.foldl advance (some r) = some s) : s.Worded := by
  induction cs generalizing r with
  | nil => exact Option.some.inj read ▸ worded
  | cons c rest ih =>
    rw [List.foldl_cons] at read
    cases stepped : r.step c with
    | none =>
      have failed : ∀ cs : List Char, cs.foldl advance none = none := by
        intro cs
        induction cs with
        | nil => rfl
        | cons _ _ ih => exact ih
      rw [advance, Option.bind_some, stepped, failed] at read
      cases read
    | some next =>
      rw [advance, Option.bind_some, stepped] at read
      exact ih (worded_step worded stepped) read

end Reader

theorem parse?_concat_space (cs : List Char) {c : Char} (space : Reader.isSpace c = true) :
    parse? (cs ++ [c]) = parse? cs := by
  rw [parse?, parse?, List.foldl_append, List.foldl_cons, List.foldl_nil]
  cases read : cs.foldl Reader.advance (some Reader.start) with
  | none => rfl
  | some r =>
    exact Reader.finish_step_space (Reader.worded_foldl (r := Reader.start) trivial read) space

/-! ### Strings -/

namespace Reader

variable {r s t : Reader} {c : Char} {cs ds : List Char} {frames : List Frame}

/-- The text takes the reader from one state to the other. -/
def Takes (r : Reader) (cs : List Char) (s : Reader) : Prop := cs.foldl advance (some r) = some s

theorem takes_nil (r : Reader) : r.Takes [] r := rfl

theorem takes_cons (stepped : r.step c = some s) (rest : s.Takes cs t) : r.Takes (c :: cs) t := by
  rw [Takes, List.foldl_cons, advance, Option.bind_some, stepped]
  exact rest

theorem Takes.append (first : r.Takes cs s) (second : s.Takes ds t) : r.Takes (cs ++ ds) t := by
  rw [Takes, List.foldl_append, first]
  exact second

theorem hexValue?_hexDigit : ∀ n < 16, hexValue? (hexDigit n) = some n := by decide

/-- An escape of four digits for a character below the space. -/
theorem takes_unit (frames : List Frame) (isKey : Bool) (read : List Char) {n : Nat}
    (low : n < 0x20) :
    Takes (.quoted frames isKey read .plain)
      ['\\', 'u', '0', '0', hexDigit (n / 16), hexDigit (n % 16)]
      (.quoted frames isKey (Char.ofNat n :: read) .plain) := by
  have high := hexValue?_hexDigit (n / 16) (by omega)
  have unit := hexValue?_hexDigit (n % 16) (by omega)
  have whole : (0 * 16 + n / 16) * 16 + n % 16 = n := by omega
  have noLow : isLow n = false := by simp [isLow]; omega
  have noHigh : isHigh n = false := by simp [isHigh]; omega
  have closed : closeHex frames isKey read n none =
      some (.quoted frames isKey (Char.ofNat n :: read) .plain) := by
    rw [closeHex, noLow, noHigh]
    rfl
  have opened : Takes (.quoted frames isKey read .plain) ['\\', 'u', '0', '0']
      (.quoted frames isKey read (.hex 2 0 none)) := rfl
  refine opened.append (takes_cons (s := .quoted frames isKey read (.hex 1 (0 * 16 + n / 16) none))
    ?_ (takes_cons ?_ (takes_nil _)))
  · rw [step, quotedStep, high]
    rfl
  · have last : step (.quoted frames isKey read (.hex 1 (0 * 16 + n / 16) none))
        (hexDigit (n % 16)) =
          closeHex frames isKey read ((0 * 16 + n / 16) * 16 + n % 16) none := by
      rw [step, quotedStep, unit]
      rfl
    rw [last, whole, closed]

theorem takes_escapeChar (isKey : Bool) (read : List Char) (c : Char) :
    Takes (.quoted frames isKey read .plain) (escapeChar c)
      (.quoted frames isKey (c :: read) .plain) := by
  by_cases short : c = '"' ∨ c = '\\' ∨ c = '\x08' ∨ c = '\x0c' ∨ c = '\n' ∨ c = '\r' ∨ c = '\t'
  · rcases short with rfl | rfl | rfl | rfl | rfl | rfl | rfl <;> rfl
  · simp only [not_or] at short
    obtain ⟨quote, slash, b, f, n, r, t⟩ := short
    rw [escapeChar, if_neg quote, if_neg slash, if_neg b, if_neg f, if_neg n, if_neg r, if_neg t]
    split
    · rename_i low
      have unit := takes_unit frames isKey read low
      rwa [Char.ofNat_toNat] at unit
    · rename_i printed
      refine takes_cons ?_ (takes_nil _)
      rw [step, quotedStep, if_neg quote, if_neg slash, if_neg printed]

theorem takes_escaped (frames : List Frame) (isKey : Bool) (read cs : List Char) :
    Takes (.quoted frames isKey read .plain) (cs.flatMap escapeChar)
      (.quoted frames isKey (cs.reverse ++ read) .plain) := by
  induction cs generalizing read with
  | nil => exact takes_nil _
  | cons c rest ih =>
    rw [List.flatMap_cons, List.reverse_cons, List.append_assoc]
    exact (takes_escapeChar isKey read c).append (ih (c :: read))

/-- A string up to its closing quote. -/
theorem takes_quoted {isKey : Bool} {text : String}
    (closed : closeText frames isKey text.toList.reverse = some s) :
    Takes (.quoted frames isKey [] .plain) (text.toList.flatMap escapeChar ++ ['"']) s := by
  have inside := takes_escaped frames isKey [] text.toList
  rw [List.append_nil] at inside
  exact inside.append (takes_cons closed (takes_nil s))

theorem step_value (closable : Bool) (printed : isSpace c = false) (opens : c ≠ ']') :
    step (.seek frames (.value closable)) c = startValue frames c := by
  rw [step, between, printed, if_neg Bool.false_ne_true, structural]
  rintro items rest rfl rfl
  exact absurd rfl opens

theorem takes_text (text : String) :
    Takes (.seek frames (.value false)) (quote text) (emit (.string text) frames) := by
  refine takes_cons (s := .quoted frames false [] .plain) ?_ (takes_quoted ?_)
  · rw [step_value false (by decide) (by decide)]
    rfl
  · have closed : closeText frames false text.toList.reverse =
        some (emit (.string (String.ofList text.toList.reverse.reverse)) frames) := rfl
    rw [closed, List.reverse_reverse, String.ofList_toList]

theorem takes_key (fields : List (String × Json)) (due : Option String) (closable : Bool)
    (key : String) :
    Takes (.seek (.object fields due :: frames) (.key closable)) (quote key)
      (.seek (.object fields (some key) :: frames) .colon) := by
  refine takes_cons (s := .quoted (.object fields due :: frames) true [] .plain) rfl
    (takes_quoted ?_)
  rw [closeText, List.reverse_reverse, String.ofList_toList]
  rfl

theorem step_digit (digit : c.isDigit = true) :
    step (.seek frames (.value false)) c = some (.number frames [c]) := by
  have apart : ∀ other : Char, other.isDigit = false → c ≠ other := by
    rintro _ other rfl
    exact Bool.false_ne_true (other.symm.trans digit)
  have printed : isSpace c = false := by simp [isSpace, apart]
  rw [step_value false printed (apart _ rfl)]
  simp [startValue, apart, digit]

theorem takes_digits (frames : List Frame) (read : List Char) {cs : List Char}
    (digits : ∀ c ∈ cs, c.isDigit = true) :
    Takes (.number frames read) cs (.number frames (cs.reverse ++ read)) := by
  induction cs generalizing read with
  | nil => exact takes_nil _
  | cons c rest ih =>
    have next : step (.number frames read) c = some (.number frames (c :: read)) := by
      rw [step, isNumberChar, digits c List.mem_cons_self]
      rfl
    rw [List.reverse_cons, List.append_assoc]
    exact takes_cons next (ih _ fun d member => digits d (List.mem_cons_of_mem _ member))

end Reader

/-! ### Values and objects -/

section Values

open Reader

/-- Wherever this value stands in an array or an object, it is read as that one. A number is read
only when the character behind it is known, so this one belongs to it. -/
def ReadsAs (value parsed : Json) : Prop :=
  ∀ ⦃frames : List Frame⦄ ⦃c : Char⦄ ⦃s : Reader⦄, frames ≠ [] → isNumberChar c = false →
    (emit parsed frames).step c = some s →
      Takes (.seek frames (.value false)) (render value ++ [c]) s

theorem readsAs_string (text : String) : ReadsAs (.string text) (.string text) := by
  intro frames c s _ _ next
  rw [render]
  exact (takes_text text).append (takes_cons next (takes_nil s))

theorem toList_toString_natCast (n : Nat) : (toString (n : Int)).toList = Nat.toDigits 10 n :=
  Nat.toList_repr

theorem readsAs_nat {n : Nat} {parsed : Json}
    (number : numberOfChars? (Nat.toDigits 10 n) = some parsed) : ReadsAs (.int n) parsed := by
  intro frames c s inside apart next
  have digits : ∀ c ∈ Nat.toDigits 10 n, c.isDigit = true := fun c member =>
    Nat.isDigit_of_mem_toDigits (by decide) (by decide) member
  rw [render, toList_toString_natCast]
  cases shown : Nat.toDigits 10 n with
  | nil => exact absurd shown Nat.toDigits_ne_nil
  | cons first rest =>
    rw [shown] at digits number
    have read := takes_digits frames [first] fun d member =>
      digits d (List.mem_cons_of_mem _ member)
    refine takes_cons (step_digit (digits first List.mem_cons_self))
      (read.append (takes_cons ?_ (takes_nil s)))
    obtain ⟨frame, frames, rfl⟩ := List.exists_cons_of_ne_nil inside
    obtain ⟨left, goal, emitted⟩ := finish_emit_cons parsed frame frames
    have closed : closeNumber (frame :: frames) (rest.reverse ++ [first]) =
        some (.seek left goal) := by
      rw [closeNumber, ← List.reverse_cons, List.reverse_reverse, number, Option.map_some, emitted]
    rw [emitted] at next
    rw [step, if_neg (Bool.eq_false_iff.mp apart), closed]
    exact next

/-- The fields are written with keys and values that are read as these. -/
def FieldsReadAs (fields parsed : List (String × Json)) : Prop :=
  List.Forall₂ (fun field read => field.1 = read.1 ∧ ReadsAs field.2 read.2) fields parsed

theorem takes_fields {frames : List Frame} {fields parsed sorted : List (String × Json)}
    {due : Option String} {closable : Bool} (reads : FieldsReadAs fields parsed)
    (filled : fields ≠ []) :
    Takes (.seek (.object sorted due :: frames) (.key closable)) (renderFields fields ++ ['}'])
      (emit (.object (parsed.foldl (fun sorted field => putField field.1 field.2 sorted) sorted))
        frames) := by
  induction reads generalizing sorted due closable with
  | nil => contradiction
  | @cons field read fields parsed same reads ih =>
    obtain ⟨key, value⟩ := field
    obtain ⟨_, result⟩ := read
    obtain ⟨rfl, value⟩ := same
    have named : Takes (.seek (.object sorted due :: frames) (.key closable)) (quote key ++ [':'])
        (.seek (.object sorted (some key) :: frames) (.value false)) :=
      (takes_key sorted due closable key).append (takes_cons rfl (takes_nil _))
    cases fields with
    | nil =>
      cases reads
      have read := named.append (value (by simp) (c := '}') (by decide) rfl)
      simpa [renderFields] using read
    | cons next rest =>
      have read := (named.append (value (by simp) (c := ',') (by decide) rfl)).append
        (ih (by simp))
      simpa [renderFields] using read

/-- An object is read with its fields in key order, the later of two with one key. -/
theorem parse?_object {fields parsed : List (String × Json)} (reads : FieldsReadAs fields parsed) :
    parse? (render (.object fields)) = some (ofFields parsed) := by
  have taken : Takes start (render (.object fields)) (.done (ofFields parsed)) := by
    rw [render]
    refine takes_cons (s := .seek [.object [] none] (.key true)) rfl ?_
    cases fields with
    | nil =>
      cases reads
      exact takes_cons rfl (takes_nil _)
    | cons field rest => exact takes_fields reads (by simp)
  rw [parse?, taken]
  rfl

end Values

/-! ### Control characters -/

/-- No character of the text is a control character below the space. -/
def Printed (cs : List Char) : Prop := ∀ c ∈ cs, 0x20 ≤ c.toNat

theorem printed_append {cs ds : List Char} : Printed (cs ++ ds) ↔ Printed cs ∧ Printed ds :=
  List.forall_mem_append

theorem printed_cons {c : Char} {cs : List Char} :
    Printed (c :: cs) ↔ 0x20 ≤ c.toNat ∧ Printed cs :=
  List.forall_mem_cons

theorem Printed.lineFeed {cs : List Char} (printed : Printed cs) : '\n' ∉ cs :=
  fun member => absurd (printed _ member) (by decide)

theorem printed_escapeChar (c : Char) : Printed (escapeChar c) := by
  have hex : ∀ n < 16, 0x20 ≤ (hexDigit n).toNat := by decide
  unfold escapeChar
  iterate 7
    split
    · simp [Printed]
  split
  · rename_i low
    have high := hex (c.toNat / 16) (by omega)
    have unit := hex (c.toNat % 16) (by omega)
    simp [Printed, high, unit]
  · rename_i printed
    simpa [Printed] using printed

theorem printed_quote (text : String) : Printed (quote text) := by
  refine printed_cons.mpr ⟨by decide, printed_append.mpr ⟨fun d member => ?_, by simp [Printed]⟩⟩
  obtain ⟨c, -, inside⟩ := List.mem_flatMap.mp member
  exact printed_escapeChar c d inside

theorem printed_string (text : String) : Printed (render (.string text)) := by
  rw [render]
  exact printed_quote text

theorem printed_nat (n : Nat) : Printed (render (.int n)) := by
  rw [render, toList_toString_natCast]
  intro c member
  have digit := Nat.isDigit_of_mem_toDigits (by decide) (by decide) member
  have bounds := Char.isDigit_iff_toNat.mp digit
  exact Nat.le_trans (by decide) bounds.1

theorem printed_renderFields {fields : List (String × Json)}
    (printed : ∀ field ∈ fields, Printed (render field.2)) : Printed (renderFields fields) := by
  induction fields with
  | nil => exact nofun
  | cons field rest ih =>
    obtain ⟨key, value⟩ := field
    obtain ⟨first, later⟩ := List.forall_mem_cons.mp printed
    have head : Printed (quote key ++ ':' :: render value) :=
      printed_append.mpr ⟨printed_quote key, printed_cons.mpr ⟨by decide, first⟩⟩
    cases rest with
    | nil => exact head
    | cons next rest =>
      have whole :
          Printed (quote key ++ ':' :: render value ++ ',' :: renderFields (next :: rest)) :=
        printed_append.mpr ⟨head, printed_cons.mpr ⟨by decide, ih later⟩⟩
      simpa [renderFields] using whole

end Muster.Json
