import Muster.Event
import Muster.Handlers

/-!
The hub that joins the nodes of a run. Sending looks the handler up at once, and the handler runs
later as a task of its own; what happens to the tables in between does not matter to it.
-/

namespace Muster

/-- A handler that is bound to a message and has not run yet. -/
structure Invocation (η : Type) where
  handler : η
  target : NodeId
  message : Message
deriving DecidableEq

/-- The handler table of every attached node, the published producers, and the tasks to run. -/
structure Hub (η ℓ : Type) where
  master : NodeId := "master"
  tables : Table NodeId (HandlerTable η) := ∅
  producers : Table String ℓ := ∅
  inbox : List (Invocation η) := []
deriving DecidableEq

namespace Hub

variable {η ℓ : Type}

/-- Installs a table for a node, in place of the one it had. -/
def attach (h : Hub η ℓ) (node : NodeId) (table : HandlerTable η) : Hub η ℓ :=
  { h with tables := h.tables.insert node table }

/-- Removes the table of a node; true if there was one. -/
def detach (h : Hub η ℓ) (node : NodeId) : Bool × Hub η ℓ :=
  (h.tables.contains node, { h with tables := h.tables.erase node })

def publish (h : Hub η ℓ) (address : String) (link : ℓ) : Hub η ℓ :=
  { h with producers := h.producers.insert address link }

/-- The producer published under an address. -/
def connect (h : Hub η ℓ) (address : String) : Except TransportError ℓ :=
  match h.producers.find? address with
  | some link => .ok link
  | none => .error (.unknownNode address)

def addressee (h : Hub η ℓ) : Destination → NodeId
  | .master => h.master
  | .worker node => node

/-- The handler that a message of this name reaches at a node now. -/
def bound (h : Hub η ℓ) (target : NodeId) (name : MessageName) : Except TransportError η :=
  match h.tables.find? target with
  | none => .error (.unknownNode target)
  | some table =>
    match table.find? name with
    | none => .error (.unknownMessage target name)
    | some entry => .ok entry.handler

/-- Sends a message; its handler is bound now and runs later. -/
def send (h : Hub η ℓ) (sender : NodeId) (destination : Destination) (name : MessageName)
    (payload : Json) : Except TransportError (Hub η ℓ) :=
  let target := h.addressee destination
  (h.bound target name).map fun handler =>
    { h with inbox := h.inbox ++ [⟨handler, target, ⟨name, sender, payload⟩⟩] }

/-- Takes a task out to run it. -/
def take (h : Hub η ℓ) (index : Nat) : Option (Invocation η × Hub η ℓ) :=
  h.inbox[index]?.map fun invocation => (invocation, { h with inbox := h.inbox.eraseIdx index })

/-- The event that reports a failed handler. -/
def handlerFailedEvent (target : NodeId) (name : MessageName) (error : HandlerError) : Event :=
  { name := "handler_failed", level := .warn
    message := name ++ " handler failed: " ++ error.message
    node := some target }

end Hub

end Muster
