import Muster.Proofs.Record.OncePerCall
import Muster.Proofs.Token.Resolution

/-!
Nodes that are started again. A new incarnation of a node counts its ids from the start, while
replies for the one before may still be on their way. Such a reply resolves a call of the new
incarnation exactly if that call waits under the same id when it comes. Unless one does, every call
gets what it asked for: a record of its own scenario, a token of its own identity.
-/

namespace Muster

/-- Replies for an earlier incarnation resolve no call of a later one exactly in quiet runs, and
then records are those of the scenario, and tokens those of the identity, that was asked for. -/
theorem resolved_by_own_iff_quiet (records : List Supply.Action) (tokens : List Issuance.Action) :
    (((¬∃ stamp ∈ (Supply.run {} records).view.stamps,
        (Supply.run {} records).view.Strays stamp) ↔ Supply.Quiet {} records) ∧
      (Supply.Quiet {} records → (Supply.run {} records).view.OwnReplies ∧
        ∀ number record, (number, .ok (.record record)) ∈ (Supply.run {} records).returned →
          ∃ call k pool position, (Supply.run {} records).calls[number]? = some call ∧
            (Supply.run {} records).poolOf k call.scenario = some pool ∧
            pool.records[position]? = some record ∧
            (Supply.run {} records).Gets number k call.scenario position)) ∧
    ((¬∃ stamp ∈ (Issuance.run {} tokens).view.stamps,
        (Issuance.run {} tokens).view.Strays stamp) ↔ Issuance.Quiet {} tokens) ∧
    (Issuance.Quiet {} tokens → (Issuance.run {} tokens).view.OwnReplies ∧
      ∀ number token, (number, .ok token) ∈ (Issuance.run {} tokens).returned →
        ∃ call, (Issuance.run {} tokens).calls[number]? = some call ∧
          (Issuance.run {} tokens).Issued call.identity token) ∧
    ∀ identity token, (identity, token) ∈ (Issuance.run {} tokens).served →
      (Issuance.run {} tokens).Issued identity token := by
  constructor
  · have answered := Supply.answered_run Supply.answered_empty records
    rw [← Correspondence.ownReplies_iff answered.sound]
    refine ⟨Supply.ownReplies_run_iff records, fun quiet => ?_⟩
    have own := (Supply.ownReplies_run_iff records).mpr quiet
    exact ⟨own, fun number record returned => Supply.record_of_returned answered own returned⟩
  · have answered := Issuance.answered_run Issuance.answered_empty tokens
    rw [← Correspondence.ownReplies_iff answered.sound]
    refine ⟨Issuance.ownReplies_run_iff tokens, fun quiet => ?_, fun identity token given => ?_⟩
    · have own := (Issuance.ownReplies_run_iff tokens).mpr quiet
      exact ⟨own, fun number token returned => Issuance.issued_of_returned answered own returned⟩
    · exact answered.tracked.sourced.served given

/-- A worker asks one producer for a login, is started again with another producer, and asks that
for orders; then the first producer replies. -/
def lateRecord : List Supply.Action :=
  [.openStation {} .still [{ scenario := "login", sources := [.inline [.string "alice"]] }],
    .openStation {} .still [{ scenario := "orders", sources := [.inline [.int 7]] }],
    .start "w1" (some 0) 1000, .request 0 "login", .submit 0 none, .wait 0 0, .cancelAll 0,
    .returns 0 0, .close "w1", .start "w1" (some 1) 1000, .request 1 "orders", .submit 1 none,
    .wait 1 0, .work 0 (.release 1), .look 0 0, .serve 0 0, .send 0 false, .deliver 0,
    .returns 1 0]

/-- A worker asks for a token of one identity, is started again, and asks for one of another; then
the token source answers for the first. -/
def lateToken : List Issuance.Action :=
  [.start "master" none (some {}), .start "w1" (some ({}, 1000)) none, .call 0 "alice" 0,
    .ask 0 none, .wait 0 0, .handle 0 0, .cancelAll 0, .returns 0 0 0, .close "w1",
    .start "w1" (some ({}, 1000)) none, .call 1 "bob" 0, .ask 1 none, .wait 1 0, .handle 0 0,
    .issue 0 (.answer 0 (.ok ⟨"token-of-alice", none⟩) 0), .issue 0 (.settle 0),
    .issue 0 (.report 0), .issue 0 (.publish 0), .finish 0, .send 0 false, .deliver 0,
    .returns 1 0 0]

/-- A call for orders returns with a login, and a call for a token of bob with one of alice. -/
theorem late_replies_resolve_later_calls :
    ((Supply.run {} lateRecord).calls[1]? = some ⟨1, 1, "orders"⟩ ∧
      ((Supply.run {} lateRecord).poolOf 1 "orders").map (·.records) = some [.int 7] ∧
      (Supply.run {} lateRecord).returned =
        [(0, .error .cancelled), (1, .ok (.record (.string "alice")))] ∧
      ∃ stamp ∈ (Supply.run {} lateRecord).view.stamps,
        (Supply.run {} lateRecord).view.Strays stamp) ∧
    (Issuance.run {} lateToken).calls[1]? = some ⟨1, 1, "bob"⟩ ∧
    (Issuance.run {} lateToken).returned =
      [(0, .error .cancelled), (1, .ok ⟨"token-of-alice", 300000⟩)] ∧
    ¬(Issuance.run {} lateToken).Issued "bob" ⟨"token-of-alice", 300000⟩ ∧
    ∃ stamp ∈ (Issuance.run {} lateToken).view.stamps,
      (Issuance.run {} lateToken).view.Strays stamp := by
  have answered : (Issuance.run {} lateToken).answers.map (·.identity) = ["alice"] := by decide
  have unissued : ¬(Issuance.run {} lateToken).Issued "bob" ⟨"token-of-alice", 300000⟩ := by
    rintro ⟨note, said, same, -⟩
    have listed := List.mem_map_of_mem (f := (·.identity)) said
    rw [answered, same] at listed
    exact absurd listed (by decide)
  refine ⟨⟨by decide, by decide, by decide, ?_⟩, by decide, by decide, unissued, ?_⟩
  · exact ⟨⟨0, 1, 1, .record (.string "alice"), true⟩, by decide, rfl, ⟨0, 1⟩, by decide, by decide⟩
  · exact ⟨⟨0, 1, 1, ⟨1, "alice", .issued ⟨"token-of-alice", 300000⟩⟩, true⟩, by decide, rfl,
      ⟨0, 1⟩, by decide, by decide⟩

end Muster
