import Mathlib.Data.Option.Basic
import Muster.Json.Decode
import Muster.Json.Number

/-!
JSON values that are written and read back. The fields of an object are those that it was made of,
in key order; a plain value is kept as it is; and a natural number of 64 bits that is written in
digits reads as that number.
-/

namespace Muster.Json

/-! ### Fields -/

theorem putField_perm {key : String} {value : Json} {fields : List (String × Json)}
    (fresh : key ∉ fields.map Prod.fst) :
    (putField key value fields).Perm ((key, value) :: fields) := by
  induction fields with
  | nil => exact .refl _
  | cons head rest ih =>
    obtain ⟨other, previous⟩ := head
    rw [List.map_cons, List.mem_cons, not_or] at fresh
    unfold putField
    split
    · exact .refl _
    · rename_i same
      exact absurd (Std.LawfulEqCmp.eq_of_compare same) fresh.1
    · exact ((ih fresh.2).cons _).trans (.swap ..)

theorem foldl_putField_perm (fields start : List (String × Json))
    (distinct : ((fields ++ start).map Prod.fst).Nodup) :
    (fields.foldl (fun sorted field => putField field.1 field.2 sorted) start).Perm
      (fields ++ start) := by
  induction fields generalizing start with
  | nil => exact .refl start
  | cons field rest ih =>
    obtain ⟨fresh, -⟩ := List.nodup_cons.mp distinct
    have put : (putField field.1 field.2 start).Perm (field :: start) := by
      refine putField_perm fun member => fresh ?_
      exact List.map_append ▸ List.mem_append_right _ member
    -- the field is now behind those that are still to come
    have moved : (rest ++ putField field.1 field.2 start).Perm (field :: rest ++ start) :=
      (put.append_left rest).trans List.perm_middle
    exact (ih _ ((moved.map Prod.fst).nodup_iff.mpr distinct)).trans moved

/-- An object that is made of fields with distinct keys holds just these fields. -/
theorem ofFields_perm {fields : List (String × Json)} (distinct : (fields.map Prod.fst).Nodup) :
    ∃ sorted, ofFields fields = .object sorted ∧ sorted.Perm fields := by
  refine ⟨_, rfl, ?_⟩
  simpa using foldl_putField_perm fields [] (by simpa using distinct)

theorem field?_eq_some_iff {key : String} {value : Json} {fields : List (String × Json)}
    (distinct : (fields.map Prod.fst).Nodup) :
    field? key fields = some value ↔ (key, value) ∈ fields := by
  induction fields with
  | nil => exact ⟨nofun, nofun⟩
  | cons head rest ih =>
    obtain ⟨other, held⟩ := head
    obtain ⟨fresh, distinct⟩ := List.nodup_cons.mp distinct
    unfold field? at ih ⊢
    by_cases same : other = key
    · subst same
      rw [List.find?_cons_of_pos (by simp), Option.map_some, Option.some_inj, List.mem_cons]
      constructor
      · rintro rfl
        exact .inl rfl
      · rintro (here | later)
        · exact (Prod.mk.inj here).2.symm
        · exact absurd (List.mem_map_of_mem (f := Prod.fst) later) fresh
    · rw [List.find?_cons_of_neg (by simpa using same), ih distinct, List.mem_cons]
      exact ⟨.inr, fun member => member.resolve_left fun here => same (Prod.mk.inj here).1.symm⟩

/-- The order of fields with distinct keys does not matter. -/
theorem field?_perm {fields sorted : List (String × Json)} (distinct : (fields.map Prod.fst).Nodup)
    (perm : sorted.Perm fields) (key : String) : field? key sorted = field? key fields := by
  refine Option.ext fun value => ?_
  rw [field?_eq_some_iff distinct, ← perm.mem_iff]
  exact field?_eq_some_iff ((perm.map Prod.fst).nodup_iff.mpr distinct)

/-- A record that is written as an object has the fields that it was written with. -/
theorem Parts.ofJson?_ofFields (fields : List (String × Json))
    (distinct : (fields.map Prod.fst).Nodup) :
    ∃ sorted, Parts.ofJson? (ofFields fields) = some (.named sorted) ∧
      ∀ name position, (Parts.named sorted).get? name position = field? name fields := by
  obtain ⟨sorted, written, perm⟩ := ofFields_perm distinct
  exact ⟨sorted, by rw [written]; rfl, fun name _ => field?_perm distinct perm name⟩

/-- A choice that is written as an object has its tag, and the other fields are its content. -/
theorem tagged?_ofFields (tag kind : String) (fields : List (String × Json))
    (distinct : (((tag, Json.string kind) :: fields).map Prod.fst).Nodup) :
    ∃ content, tagged? tag (ofFields ((tag, .string kind) :: fields)) =
        some (kind, .named content) ∧
      ∀ name position, (Parts.named content).get? name position = field? name fields := by
  obtain ⟨sorted, written, perm⟩ := ofFields_perm distinct
  have found : field? tag sorted = some (.string kind) := by
    rw [field?_perm distinct perm, field?, List.find?_cons_of_pos (by simp)]
    rfl
  obtain ⟨untagged, distinct⟩ := List.nodup_cons.mp distinct
  have others : fields.filter (fun field => field.1 != tag) = fields := by
    have named : tag ∉ fields.map Prod.fst := untagged
    refine List.filter_eq_self.mpr fun field member => bne_iff_ne.mpr fun same => named ?_
    exact same ▸ List.mem_map_of_mem (f := Prod.fst) member
  have content : (sorted.filter fun field => field.1 != tag).Perm fields := by
    have kept := perm.filter fun field => field.1 != tag
    rwa [List.filter_cons_of_neg (by simp), others] at kept
  refine ⟨_, ?_, fun name _ => field?_perm distinct content name⟩
  rw [written, tagged?, found]
  rfl

/-! ### Plain values -/

/-- Every integer in it is in range and every double is finite. -/
inductive Plain : Json → Prop
  | null : Plain .null
  | bool (value : Bool) : Plain (.bool value)
  | int {n : Int} (small : inRange n = true) : Plain (.int n)
  | float {x : Float} (finite : x.isFinite = true) : Plain (.float x)
  | string (value : String) : Plain (.string value)
  | array {items : List Json} (plain : ∀ item ∈ items, Plain item) : Plain (.array items)
  | object {fields : List (String × Json)} (plain : ∀ field ∈ fields, Plain field.2) :
    Plain (.object fields)

theorem storableItems?_eq_some {items : List Json}
    (kept : ∀ item ∈ items, storable? item = some item) : storableItems? items = some items := by
  induction items with
  | nil => rfl
  | cons item rest ih =>
    rw [storableItems?, kept item List.mem_cons_self,
      ih fun other member => kept other (List.mem_cons_of_mem _ member)]
    rfl

theorem storableFields?_eq_some {fields : List (String × Json)}
    (kept : ∀ field ∈ fields, storable? field.2 = some field.2) :
    storableFields? fields = some fields := by
  induction fields with
  | nil => rfl
  | cons field rest ih =>
    rw [storableFields?, kept field List.mem_cons_self,
      ih fun other member => kept other (List.mem_cons_of_mem _ member)]
    rfl

/-- Nothing in a plain value is replaced when it is stored. -/
theorem Plain.storable?_eq {j : Json} (plain : j.Plain) : j.storable? = some j := by
  induction plain with
  | null | bool | string => rfl
  | int small => rw [storable?, if_pos small]
  | float finite => rw [storable?, if_pos finite]
  | array _ ih => rw [storable?, storableItems?_eq_some ih]; rfl
  | object _ ih => rw [storable?, storableFields?_eq_some ih]; rfl

theorem plain_ofFields {fields : List (String × Json)} (distinct : (fields.map Prod.fst).Nodup)
    (plain : ∀ field ∈ fields, field.2.Plain) : (ofFields fields).Plain := by
  obtain ⟨sorted, written, perm⟩ := ofFields_perm distinct
  rw [written]
  exact .object fun field member => plain field (perm.subset member)

/-! ### Natural numbers in digits -/

theorem natOfDigits_toDigits (n : Nat) : natOfDigits (Nat.toDigits 10 n) = n := by
  have same : natOfDigits (Nat.toDigits 10 n) = Nat.ofDigitChars 10 (Nat.toDigits 10 n) 0 := by
    simp only [natOfDigits, digitValue, Nat.ofDigitChars_eq_foldl, Nat.mul_comm]
  rw [same, Nat.ofDigitChars_ten_toDigits]

/-- Only zero itself begins with the digit zero. -/
theorem head?_toDigits {n : Nat} (positive : 0 < n) :
    (Nat.toDigits 10 n).head? ≠ some '0' := by
  induction n using Nat.strongRecOn with
  | ind n ih =>
    rw [Nat.toDigits_eq_if (by decide)]
    split
    · rename_i small
      have leading : ∀ n < 10, 0 < n → n.digitChar ≠ '0' := by decide
      exact fun same => leading n small positive (Option.some.inj same)
    · rename_i large
      -- all digits but the last are those of a smaller number
      have filled : Nat.toDigits 10 (n / 10) ≠ [] := Nat.toDigits_ne_nil
      rw [List.head?_append, List.head?_eq_some_head filled, Option.some_or,
        ← List.head?_eq_some_head filled]
      exact ih (n / 10) (Nat.div_lt_self positive (by decide)) (by omega)

/-- Digits without a leading zero are a number without sign, fraction and exponent. -/
theorem Numeral.ofChars?_of_digits {cs : List Char} (filled : cs ≠ [])
    (digits : ∀ c ∈ cs, c.isDigit = true) (leading : cs.head? ≠ some '0' ∨ cs.length = 1) :
    Numeral.ofChars? cs = some ⟨false, cs, none, none⟩ := by
  have unsigned : ∀ rest, cs ≠ '-' :: rest := by
    rintro rest rfl
    exact absurd (digits '-' List.mem_cons_self) (by decide)
  have read : digits1? cs = some (cs, []) := by
    have taken : cs.takeWhile Char.isDigit = cs := by
      rw [← List.append_nil cs, List.takeWhile_append_of_pos (by simpa using digits)]
      rfl
    have dropped : cs.dropWhile Char.isDigit = [] := by
      rw [← List.append_nil cs, List.dropWhile_append_of_pos (by simpa using digits)]
      rfl
    rw [digits1?, taken, dropped, if_neg (by simpa using filled)]
  unfold Numeral.ofChars?
  split
  rename_i negative unread sign
  split at sign
  · rename_i rest
    exact absurd rfl (unsigned rest)
  · obtain ⟨rfl, rfl⟩ := Prod.mk.inj sign
    simp [read, leading, exponent?, guard]

theorem numberOfChars?_toDigits {n : Nat} (small : (n : Int) ≤ maxInt) :
    numberOfChars? (Nat.toDigits 10 n) = some (.int n) := by
  have leading : (Nat.toDigits 10 n).head? ≠ some '0' ∨ (Nat.toDigits 10 n).length = 1 := by
    rcases Nat.eq_zero_or_pos n with rfl | positive
    · exact .inr rfl
    · exact .inl (head?_toDigits positive)
  have parsed := Numeral.ofChars?_of_digits Nat.toDigits_ne_nil
    (fun c member => Nat.isDigit_of_mem_toDigits (by decide) (by decide) member) leading
  have fits : inRange n = true := by
    have above : minInt ≤ (n : Int) := Int.le_trans (by decide) (Int.natCast_nonneg n)
    simp [inRange, above, small]
  rw [numberOfChars?, parsed]
  simp [Numeral.toJson?, natOfDigits_toDigits, fits]

end Muster.Json
