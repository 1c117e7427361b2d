import Muster.Proofs.Payload
import Muster.Proofs.Run.Teardown
import Muster.Proofs.Stats.Encoding

/-!
What is written can be read. Every value that is encoded is decoded to the same value, and so the
handlers of the protocol never take a payload for malformed that a process of the run sent by their
name.
-/

namespace Muster

theorem HandlerError.reply_ne_malformed (cause : TransportError) (name reason : String) :
    (reply cause).message ≠ (malformedPayload name reason).message := by
  intro same
  -- the texts differ in their first character already
  have heads : ("handler reply failed: " ++ cause.message).toList.head? =
      ("malformed " ++ name ++ " payload: " ++ reason).toList.head? :=
    congrArg (fun text : String => text.toList.head?) same
  rw [String.toList_append, String.toList_append, String.toList_append, String.toList_append,
    List.append_assoc, List.append_assoc] at heads
  cases heads

theorem Hub.handlerFailedEvent_message (target : NodeId) (name : MessageName)
    (error : HandlerError) : (handlerFailedEvent target name error).message =
      name ++ " handler failed: " ++ error.message := rfl

theorem Hub.reply_ne_malformed (target : NodeId) (name : MessageName) (cause : TransportError)
    (reason : String) : handlerFailedEvent target name (.reply cause) ≠
      handlerFailedEvent target name (.malformedPayload name reason) := by
  intro same
  have messages := congrArg Event.message same
  rw [handlerFailedEvent_message, handlerFailedEvent_message, String.append_right_inj] at messages
  exact HandlerError.reply_ne_malformed cause name reason messages

namespace Run

variable {r s : Run}

/-! ### Handlers -/

/-- The log goes on, and no payload of this name is reported as malformed. -/
def LogsWell (r s : Run) (target : NodeId) (name : MessageName) : Prop :=
  ∃ events, s.log = r.log ++ events ∧ ∀ event ∈ events, ∀ reason,
    event ≠ Hub.handlerFailedEvent target name (.malformedPayload name reason)

/-- In whatever state it gets the payload, the handler does not report that it is malformed. -/
def Reads (handler : Handler) (name : MessageName) (payload : Json) : Prop :=
  ∀ (r : Run) (target sender : NodeId),
    LogsWell r (r.invoke ⟨handler, target, ⟨name, sender, payload⟩⟩) target name

variable {target : NodeId} {name : MessageName}

theorem logsWell_of_log (same : s.log = r.log) : LogsWell r s target name :=
  ⟨[], by rw [same, List.append_nil], nofun⟩

theorem logsWell_record {site : Site} {events : List Event}
    (others : ∀ event ∈ events, event.name ≠ "handler_failed") :
    LogsWell r (r.record site events) target name := by
  unfold record
  split
  · refine ⟨events, rfl, fun event member reason same => others event member ?_⟩
    rw [same]
    rfl
  · exact logsWell_of_log rfl

theorem reads_response {payload : Json} {response : DataResponse}
    (read : DataResponse.ofJson? payload = some response) (id : SiteId) (name : MessageName) :
    Reads (.consumeTestdata id) name payload := by
  intro r target sender
  simp only [invoke, read]
  cases done : r.deliverData id response with
  | none => exact logsWell_of_log rfl
  | some result =>
    obtain ⟨site, -, done⟩ := Option.bind_eq_some_iff.mp done
    obtain ⟨requester, -, done⟩ := Option.bind_eq_some_iff.mp done
    obtain rfl := Option.some.inj done
    have others : ∀ event ∈ (requester.deliver response).2.2, event.name ≠ "handler_failed" := by
      intro event member
      rw [requester.name_of_deliver response event member]
      decide
    exact logsWell_record others

theorem reads_delivery {payload : Json} {delivery : TokenDelivery}
    (read : TokenDelivery.ofJson? payload = some delivery) (id : SiteId) (name : MessageName) :
    Reads (.consumeToken id) name payload := by
  intro r target sender
  simp only [invoke, read]
  cases done : r.deliverToken id delivery with
  | none => exact logsWell_of_log rfl
  | some result =>
    obtain ⟨site, -, done⟩ := Option.bind_eq_some_iff.mp done
    obtain ⟨client, -, done⟩ := Option.bind_eq_some_iff.mp done
    obtain rfl := Option.some.inj done
    have others : ∀ event ∈ (client.deliver delivery).2.2, event.name ≠ "handler_failed" := by
      intro event member
      rw [client.name_of_deliver delivery event member]
      decide
    exact logsWell_record others

/-! ### Sending -/

/-- Nothing is sent and nothing is reported. -/
def Quiet (r s : Run) : Prop := s.hub = r.hub ∧ s.log = r.log

theorem quiet_takeOff (r : Run) (id : SiteId) (flight : Nat) (identity : Identity) :
    Quiet r (r.takeOff id flight identity) := by
  unfold takeOff
  split
  · exact ⟨rfl, rfl⟩
  · dsimp only
    split <;> exact ⟨rfl, rfl⟩

theorem quiet_enterIssuer {id : SiteId} {identity : Identity} {entry : Entry}
    (entered : r.enterIssuer id identity = some (entry, s)) : Quiet r s := by
  unfold enterIssuer at entered
  obtain ⟨site, -, entered⟩ := Option.bind_eq_some_iff.mp entered
  obtain ⟨issuer, -, entered⟩ := Option.bind_eq_some_iff.mp entered
  dsimp only at entered
  have after := (Prod.mk.inj (Option.some.inj entered)).2
  rw [← after]
  split
  · exact quiet_takeOff ..
  · exact ⟨rfl, rfl⟩

theorem hub_record (r : Run) (site : Site) (events : List Event) :
    (r.record site events).hub = r.hub := by
  unfold record
  split <;> rfl

/-- At most one message is sent, by this name and with a payload of this kind. -/
def Posts (r s : Run) (name : MessageName) (kind : Json → Prop) : Prop :=
  s.hub.inbox = r.hub.inbox ∨ ∃ handler target sender payload,
    s.hub.inbox = r.hub.inbox ++ [⟨handler, target, ⟨name, sender, payload⟩⟩] ∧ kind payload

/-- The result of a token request is sent, or reported if it cannot be sent. -/
theorem deliverTo_cases (r : Run) (id : SiteId) (target worker : NodeId) (request : TokenRequest)
    (result : TokenResult) :
    Quiet r (r.deliverTo id target worker request result) ∨
    ((r.deliverTo id target worker request result).log = r.log ∧ ∃ handler node sender,
      (r.deliverTo id target worker request result).hub.inbox = r.hub.inbox ++
        [⟨handler, node, ⟨consumeToken, sender,
          TokenDelivery.toJson ⟨request.id, request.identity, .ofResult result⟩⟩⟩]) ∨
    (r.deliverTo id target worker request result).hub = r.hub ∧ ∃ error,
      (r.deliverTo id target worker request result).log =
        r.log ++ [Hub.handlerFailedEvent target produceToken (.reply error)] := by
  unfold deliverTo
  dsimp only
  split
  · exact .inl ⟨rfl, rfl⟩
  · rename_i site _
    split
    · rename_i sent
      obtain ⟨handler, -, rfl⟩ := send_cases sent
      exact .inr (.inl ⟨rfl, handler, _, site.node, rfl⟩)
    · exact .inr (.inr ⟨rfl, _, rfl⟩)

theorem reads_request {payload : Json} {request : TokenRequest}
    (read : TokenRequest.ofJson? payload = some request) (id : SiteId) :
    Reads (.produceToken id) produceToken payload := by
  intro r target sender
  simp only [invoke, read]
  split
  · exact logsWell_of_log rfl
  · rename_i token s entered
    have quiet := (quiet_enterIssuer entered).2
    rcases s.deliverTo_cases id target sender request (.ok token) with
      ⟨-, logged⟩ | ⟨logged, -⟩ | ⟨-, error, logged⟩
    · exact logsWell_of_log (logged.trans quiet)
    · exact logsWell_of_log (logged.trans quiet)
    · rw [quiet] at logged
      refine ⟨_, logged, fun event member reason => ?_⟩
      rw [List.mem_singleton.mp member]
      exact Hub.reply_ne_malformed target produceToken error reason
  · rename_i flight s entered
    exact logsWell_of_log (quiet_enterIssuer entered).2

/-! ### Payloads under way -/

/-- The payload of some value. If the id of the value is a word, the payload decodes to that value,
and the handlers for it read it. -/
def Carries {α : Type} (encode : α → Json) (decode : Json → Option α) (id : α → Nat)
    (handler : SiteId → Handler) (name : MessageName) (payload : Json) : Prop :=
  ∃ value, payload = encode value ∧ (id value ≤ maxId →
    decode payload = some value ∧ ∀ site, Reads (handler site) name payload)

def CarriesResponse : Json → Prop :=
  Carries DataResponse.toJson DataResponse.ofJson? DataResponse.id .consumeTestdata consumeTestdata

def CarriesRequest : Json → Prop :=
  Carries TokenRequest.toJson TokenRequest.ofJson? TokenRequest.id .produceToken produceToken

def CarriesDelivery : Json → Prop :=
  Carries TokenDelivery.toJson TokenDelivery.ofJson? TokenDelivery.id .consumeToken consumeToken

theorem carriesResponse_toJson (response : DataResponse) : CarriesResponse response.toJson := by
  refine ⟨response, rfl, fun word => ?_⟩
  have read := response.ofJson?_toJson
  rw [if_pos word] at read
  exact ⟨read, fun id => reads_response read id _⟩

theorem carriesRequest_toJson (request : TokenRequest) : CarriesRequest request.toJson := by
  refine ⟨request, rfl, fun word => ?_⟩
  have read := request.ofJson?_toJson
  rw [if_pos word] at read
  exact ⟨read, fun id => reads_request read id⟩

theorem carriesDelivery_toJson (delivery : TokenDelivery) : CarriesDelivery delivery.toJson := by
  refine ⟨delivery, rfl, fun word => ?_⟩
  have read := delivery.ofJson?_toJson
  rw [if_pos word] at read
  exact ⟨read, fun id => reads_delivery read id _⟩

theorem posts_serve {id : SiteId} {number : Nat} (served : r.serve id number = some s) :
    Posts r s consumeTestdata CarriesResponse := by
  unfold serve at served
  obtain ⟨site, -, served⟩ := Option.bind_eq_some_iff.mp served
  obtain ⟨dispenser, -, served⟩ := Option.bind_eq_some_iff.mp served
  obtain ⟨⟨answer, next⟩, -, served⟩ := Option.bind_eq_some_iff.mp served
  dsimp only at served
  split at served
  · rename_i sent
    obtain rfl := Option.some.inj served
    obtain ⟨handler, -, rfl⟩ := send_cases sent
    rw [hub_record]
    exact .inr ⟨handler, _, _, _, rfl, carriesResponse_toJson _⟩
  · obtain rfl := Option.some.inj served
    rw [Posts, hub_record, hub_record]
    exact .inl rfl

theorem hub_withClient (r : Run) (id : SiteId) (f : TokenClient → TokenClient) :
    (r.withClient id f).hub = r.hub := by
  unfold withClient
  split <;> rfl

theorem posts_requestToken {id : SiteId} {identity : Identity} {number : Nat}
    (done : r.requestToken id identity = some (number, s)) :
    Posts r s produceToken CarriesRequest := by
  unfold requestToken at done
  obtain ⟨site, -, done⟩ := Option.bind_eq_some_iff.mp done
  obtain ⟨client, -, done⟩ := Option.bind_eq_some_iff.mp done
  dsimp only at done
  split at done
  · obtain ⟨-, rfl⟩ := Prod.mk.inj (Option.some.inj done)
    exact .inl rfl
  · split at done
    · obtain ⟨-, rfl⟩ := Prod.mk.inj (Option.some.inj done)
      refine .inl ?_
      show ((withClient _ _ _).withClient _ _).hub.inbox = _
      rw [hub_withClient, hub_withClient]
      rfl
    · rename_i sent
      obtain ⟨-, rfl⟩ := Prod.mk.inj (Option.some.inj done)
      obtain ⟨handler, -, rfl⟩ := send_cases sent
      refine .inr ⟨handler, r.hub.addressee .master, site.node,
        (client.register identity).1.toJson, ?_, carriesRequest_toJson _⟩
      show (withClient _ _ _).hub.inbox = _
      rw [hub_withClient, hub_withClient]
      rfl

theorem posts_deliverTo (r : Run) (id : SiteId) (target worker : NodeId) (request : TokenRequest)
    (result : TokenResult) :
    Posts r (r.deliverTo id target worker request result) consumeToken CarriesDelivery := by
  rcases r.deliverTo_cases id target worker request result with
    ⟨still, -⟩ | ⟨-, handler, node, sender, queued⟩ | ⟨still, -⟩
  · exact .inl (congrArg Hub.inbox still)
  · exact .inr ⟨handler, node, sender, _, queued, carriesDelivery_toJson _⟩
  · exact .inl (congrArg Hub.inbox still)

theorem posts_invoke (r : Run) (id : SiteId) (target : NodeId) (message : Message) :
    Posts r (r.invoke ⟨.produceToken id, target, message⟩) consumeToken CarriesDelivery := by
  unfold invoke
  dsimp only
  split
  · exact .inl rfl
  · rename_i request _
    split
    · exact .inl rfl
    · rename_i token s entered
      have posted := s.posts_deliverTo id target message.sender request (.ok token)
      rw [Posts, (quiet_enterIssuer entered).1] at posted
      exact posted
    · rename_i entered
      exact .inl (congrArg Hub.inbox (quiet_enterIssuer entered).1)

theorem posts_reply {index : Nat} (replied : r.reply index = some s) :
    Posts r s consumeToken CarriesDelivery := by
  unfold reply at replied
  obtain ⟨waiting, -, replied⟩ := Option.bind_eq_some_iff.mp replied
  obtain ⟨result, -, replied⟩ := Option.bind_eq_some_iff.mp replied
  obtain rfl := Option.some.inj replied
  exact posts_deliverTo { r with replies := r.replies.eraseIdx index } ..

/-- Every value that goes over the wire or into a file is decoded from what it is encoded to. What a
dispenser answers, what a client asks for and what an issuer delivers reaches the inbox as a payload
that its handler reads, in whatever state it does. -/
theorem payloads_read_back :
    (∀ m : Message, Message.ofJson? m.toJson = some m) ∧
    (∀ r : DataRequest, r.id ≤ maxId → DataRequest.ofJson? r.toJson = some r) ∧
    (∀ r : DataResponse, r.id ≤ maxId → DataResponse.ofJson? r.toJson = some r) ∧
    (∀ r : TokenRequest, r.id ≤ maxId → TokenRequest.ofJson? r.toJson = some r) ∧
    (∀ d : TokenDelivery, d.id ≤ maxId → TokenDelivery.ofJson? d.toJson = some d) ∧
    (∀ s : DataSource, s.Plain → DataSource.ofJson? s.toJson = some s) ∧
    (∀ s : RequestStats, s.Bounded → RequestStats.ofJson? s.toJson = some s) ∧
    (∀ book : StatsBook, book.Bounded → StatsBook.ofJson? book.toJson = some book) ∧
    (∀ (r s : Run) (id : SiteId) (number : Nat), r.serve id number = some s →
      Posts r s consumeTestdata CarriesResponse) ∧
    (∀ (r s : Run) (id : SiteId) (identity : Identity) (number : Nat),
      r.requestToken id identity = some (number, s) → Posts r s produceToken CarriesRequest) ∧
    (∀ (r : Run) (id : SiteId) (target : NodeId) (message : Message),
      Posts r (r.invoke ⟨.produceToken id, target, message⟩) consumeToken CarriesDelivery) ∧
    ∀ (r s : Run) (index : Nat), r.reply index = some s →
      Posts r s consumeToken CarriesDelivery := by
  refine ⟨Message.ofJson?_toJson, fun r word => ?_, fun r word => ?_, fun r word => ?_,
    fun d word => ?_, fun s => DataSource.ofJson?_toJson, fun s => RequestStats.ofJson?_toJson,
    fun book => StatsBook.ofJson?_toJson, fun r s id number => posts_serve,
    fun r s id identity number => posts_requestToken, posts_invoke, fun r s index => posts_reply⟩
  · rw [DataRequest.ofJson?_toJson, if_pos word]
  · rw [DataResponse.ofJson?_toJson, if_pos word]
  · rw [TokenRequest.ofJson?_toJson, if_pos word]
  · rw [TokenDelivery.ofJson?_toJson, if_pos word]

/-- A record that looks like a reply itself. -/
def echoed : DataResponse :=
  ⟨7, "login", .record (.object [("kind", .string "exhausted"), ("record", .null)])⟩

/-- As keys the buckets are in the other order. -/
def nineAndTen : RequestStats :=
  { requests := 3, failures := 1, totalTime := 29, minTime := some 9, maxTime := 10
    histogram := Table.ofList [(9, 1), (10, 2)] }

theorem payloads_read_back_echoed :
    (echoed.id ≤ maxId ∧ DataResponse.ofJson? echoed.toJson = some echoed) ∧
    (nineAndTen.Bounded ∧ RequestStats.ofJson? nineAndTen.toJson = some nineAndTen) ∧
    ∃ s, openShop.requestToken 0 "alice" = some (1, s) ∧
      Posts openShop s produceToken CarriesRequest ∧
      s.hub.inbox.map (fun sent => TokenRequest.ofJson? sent.message.payload) =
        [some ⟨1, "alice"⟩] := by
  obtain ⟨-, -, responses, -, -, -, stats, -, -, requests, -⟩ := payloads_read_back
  have word : echoed.id ≤ maxId := by decide
  have bounded : nineAndTen.Bounded := ⟨by decide, by decide, by decide⟩
  have asked : (openShop.requestToken 0 "alice").map (fun asked => (asked.1,
      asked.2.hub.inbox.map fun sent => TokenRequest.ofJson? sent.message.payload)) =
        some (1, [some ⟨1, "alice"⟩]) := by decide +kernel
  obtain ⟨⟨number, s⟩, done, same⟩ := Option.map_eq_some_iff.mp asked
  obtain ⟨rfl, read⟩ := Prod.mk.inj same
  exact ⟨⟨word, responses echoed word⟩, ⟨bounded, stats nineAndTen bounded⟩, s, done,
    requests openShop s 0 "alice" 1 done, read⟩

end Run

end Muster
