import Muster.Proofs.Json
import Muster.Record.Exchange
import Muster.Record.Source
import Muster.Token.Delivery

/-!
Payloads read back. A payload decodes to the value it was made of as long as its id fits a word;
one whose id does not fit decodes to nothing. Messages and sources of records are read back too.
-/

namespace Muster

/-- The largest id that a payload can carry. -/
def maxId : Nat := 18446744073709551615

theorem Json.asNat?_int (n : Nat) :
    Json.asNat? (.int n) = if n ≤ maxId then some n else none := by
  have bounds : (0 ≤ (n : Int) ∧ (n : Int) ≤ maxInt) ↔ n ≤ maxId := by
    unfold maxInt maxId; omega
  simp only [asNat?, bounds, Int.toNat_natCast]

theorem Json.asWord?_toNat (word : UInt64) : Json.asWord? (.int word.toNat) = some word := by
  have small : word.toNat ≤ maxId := by
    have := word.toNat_lt
    unfold maxId; omega
  simp [asWord?, asNat?_int, small]

theorem Message.ofJson?_toJson (m : Message) : Message.ofJson? m.toJson = some m := by
  obtain ⟨fields, written, found⟩ := Json.Parts.ofJson?_ofFields
    [("name", .string m.name), ("sender", .string m.sender), ("payload", m.payload)] (by simp)
  rw [ofJson?, toJson, written]
  simp [Json.Parts.fits, Json.Parts.field, found, Json.field?, Json.asString?, guard]

/-! ### Test data -/

/-- Its records are values that JSON text can hold. -/
def DataSource.Plain : DataSource → Prop
  | .inline records => ∀ record ∈ records, record.Plain
  | .jsonFile _ | .jsonLines _ => True

theorem DataSource.plain_toJson {s : DataSource} (plain : s.Plain) : s.toJson.Plain := by
  cases s with
  | inline records =>
    refine Json.plain_ofFields (by simp) ?_
    rintro field (_ | ⟨_, _ | ⟨_, ⟨⟩⟩⟩)
    · exact .string _
    · exact .array plain
  | jsonFile path | jsonLines path =>
    refine Json.plain_ofFields (by simp) ?_
    rintro field (_ | ⟨_, _ | ⟨_, ⟨⟩⟩⟩) <;> exact .string _

theorem DataSource.ofJson?_toJson {s : DataSource} (plain : s.Plain) :
    DataSource.ofJson? s.toJson = some s := by
  rw [ofJson?, (plain_toJson plain).storable?_eq]
  cases s with
  | inline records =>
    obtain ⟨content, read, found⟩ := Json.tagged?_ofFields "type" "inline"
      [("records", .array records)] (by simp)
    simp [toJson, read, Json.Parts.fits, Json.Parts.field, found, Json.field?, Json.asArray?, guard]
  | jsonFile path =>
    obtain ⟨content, read, found⟩ := Json.tagged?_ofFields "type" "json_file"
      [("path", .string path)] (by simp)
    simp [toJson, read, Json.Parts.fits, Json.Parts.field, found, Json.field?, Json.asString?,
      guard]
  | jsonLines path =>
    obtain ⟨content, read, found⟩ := Json.tagged?_ofFields "type" "json_lines_file"
      [("path", .string path)] (by simp)
    simp [toJson, read, Json.Parts.fits, Json.Parts.field, found, Json.field?, Json.asString?,
      guard]

theorem DataRequest.ofJson?_toJson (r : DataRequest) :
    DataRequest.ofJson? r.toJson = if r.id ≤ maxId then some r else none := by
  obtain ⟨fields, written, found⟩ := Json.Parts.ofJson?_ofFields
    [("correlation_id", .int r.id), ("scenario", .string r.scenario),
      ("worker", .string r.worker)] (by simp)
  rw [ofJson?, toJson, written]
  by_cases fits : r.id ≤ maxId <;>
    simp [Json.Parts.fits, Json.Parts.field, found, Json.field?, Json.asString?, Json.asNat?_int,
      fits, guard]

/-- Whatever the record holds: its own fields are not those of the reply. -/
theorem DataReply.ofJson?_toJson (r : DataReply) : DataReply.ofJson? r.toJson = some r := by
  cases r with
  | record record =>
    obtain ⟨content, read, found⟩ := Json.tagged?_ofFields "kind" "record"
      [("record", record)] (by simp)
    simp [ofJson?, toJson, read, Json.Parts.fits, Json.Parts.field, found, Json.field?, guard]
  | exhausted => rfl
  | failed reason =>
    obtain ⟨content, read, found⟩ := Json.tagged?_ofFields "kind" "failed"
      [("reason", .string reason)] (by simp)
    simp [ofJson?, toJson, read, Json.Parts.fits, Json.Parts.field, found, Json.field?,
      Json.asString?, guard]

theorem DataResponse.ofJson?_toJson (r : DataResponse) :
    DataResponse.ofJson? r.toJson = if r.id ≤ maxId then some r else none := by
  obtain ⟨fields, written, found⟩ := Json.Parts.ofJson?_ofFields
    [("correlation_id", .int r.id), ("scenario", .string r.scenario),
      ("reply", r.reply.toJson)] (by simp)
  rw [ofJson?, toJson, written]
  by_cases fits : r.id ≤ maxId <;>
    simp [Json.Parts.fits, Json.Parts.field, found, Json.field?, Json.asString?, Json.asNat?_int,
      DataReply.ofJson?_toJson, fits, guard]

/-- A payload made of a response decodes to that response or to nothing. -/
theorem DataResponse.eq_of_ofJson? {r decoded : DataResponse}
    (read : DataResponse.ofJson? r.toJson = some decoded) : decoded = r := by
  rw [ofJson?_toJson] at read
  split at read
  · exact (Option.some.inj read).symm
  · cases read

/-! ### Tokens -/

theorem TokenRequest.ofJson?_toJson (r : TokenRequest) :
    TokenRequest.ofJson? r.toJson = if r.id ≤ maxId then some r else none := by
  obtain ⟨fields, written, found⟩ := Json.Parts.ofJson?_ofFields
    [("correlation_id", .int r.id), ("identity", .string r.identity)] (by simp)
  rw [ofJson?, toJson, written]
  by_cases fits : r.id ≤ maxId <;>
    simp [Json.Parts.fits, Json.Parts.field, found, Json.field?, Json.asString?, Json.asNat?_int,
      fits, guard]

theorem TokenRequest.eq_of_ofJson? {r decoded : TokenRequest}
    (read : TokenRequest.ofJson? r.toJson = some decoded) : decoded = r := by
  rw [ofJson?_toJson] at read
  split at read
  · exact (Option.some.inj read).symm
  · cases read

theorem AccessToken.ofJson?_toJson (t : AccessToken) : AccessToken.ofJson? t.toJson = some t := by
  obtain ⟨fields, written, found⟩ := Json.Parts.ofJson?_ofFields
    [("value", .string t.value), ("expires_at_ms", .int t.expiresAt.toNat)] (by simp)
  rw [ofJson?, toJson, written]
  simp [Json.Parts.fits, Json.Parts.field, found, Json.field?, Json.asString?, Json.asWord?_toNat,
    guard]

theorem TokenOutcome.ofJson?_toJson (o : TokenOutcome) :
    TokenOutcome.ofJson? o.toJson = some o := by
  cases o with
  | issued token =>
    obtain ⟨content, read, found⟩ := Json.tagged?_ofFields "kind" "issued"
      [("token", token.toJson)] (by simp)
    simp [ofJson?, toJson, read, Json.Parts.fits, Json.Parts.field, found, Json.field?,
      AccessToken.ofJson?_toJson, guard]
  | failed reason =>
    obtain ⟨content, read, found⟩ := Json.tagged?_ofFields "kind" "failed"
      [("reason", .string reason)] (by simp)
    simp [ofJson?, toJson, read, Json.Parts.fits, Json.Parts.field, found, Json.field?,
      Json.asString?, guard]

theorem TokenDelivery.ofJson?_toJson (d : TokenDelivery) :
    TokenDelivery.ofJson? d.toJson = if d.id ≤ maxId then some d else none := by
  obtain ⟨fields, written, found⟩ := Json.Parts.ofJson?_ofFields
    [("correlation_id", .int d.id), ("identity", .string d.identity),
      ("outcome", d.outcome.toJson)] (by simp)
  rw [ofJson?, toJson, written]
  by_cases fits : d.id ≤ maxId <;>
    simp [Json.Parts.fits, Json.Parts.field, found, Json.field?, Json.asString?, Json.asNat?_int,
      TokenOutcome.ofJson?_toJson, fits, guard]

theorem TokenDelivery.eq_of_ofJson? {d decoded : TokenDelivery}
    (read : TokenDelivery.ofJson? d.toJson = some decoded) : decoded = d := by
  rw [ofJson?_toJson] at read
  split at read
  · exact (Option.some.inj read).symm
  · cases read

end Muster
