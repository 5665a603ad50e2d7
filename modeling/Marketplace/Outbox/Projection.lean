import Marketplace.Notifications.Handlers
import Marketplace.Outbox.Relay
import Marketplace.ReadCommitted.Inbox

/-! `NotificationProjectionConsumer`, behind the two relays. -/
namespace Marketplace.Outbox
open ReadCommitted ReadCommitted.Tx
open Notifications (NotificationType NotificationData)

structure NotificationCreatedPayload where
  id : Id
  userId : Id
  type : NotificationType
  title : Option String
  content : Option String
  data : Option NotificationData
  isRead : Bool
  createdAt : Time
deriving DecidableEq

/-- A row of `notification_read`. -/
structure Notification where
  user : Id
  type : NotificationType
  title : Option String
  content : Option String
  data : Option NotificationData
  isRead : Bool
  createdAt : Time
deriving DecidableEq

inductive Key where
  | processedEvent (eventId : Id)
  | notificationRead (id : Id)
deriving DecidableEq

@[reducible] def Row : Key → Type
  | .processedEvent _ => Unit
  | .notificationRead _ => Notification

inductive Mark where
  | processedEvent (eventId : Id)
  | projected (eventId : Id) (payload : NotificationCreatedPayload)
deriving DecidableEq

def Mark.eventId : Mark → Id
  | .processedEvent id => id
  | .projected id _ => id

inductive Err where
  | uniqueViolation
  | transient
deriving DecidableEq

/-- How a delivery ends: acknowledged, or back into the queue. -/
inductive Settlement where
  | invalid
  | duplicate
  | projected
  | dropped
  | requeued
deriving DecidableEq

abbrev Action := Tx (Table Row) Mark Err
abbrev Request := Req (Table Row) Mark Err Settlement
abbrev Delivery := Message NotificationCreatedPayload

def processedEvents : Inbox Row Mark Id where
  key := .processedEvent
  row _ := ()
  claim := .processedEvent
  key_injective _ _ same := Key.processedEvent.inj same
  claim_injective _ _ same := Mark.processedEvent.inj same

/-- `orIgnore`: a row that stands is kept as it is. -/
def upsertProjection (eventId : Id) (payload : NotificationCreatedPayload) : Action Unit := do
  let found ← selectForUpdate (.notificationRead payload.id)
  given found.isNone (modify (.notificationRead payload.id) fun _ => some
    { user := payload.userId
      type := payload.type
      title := payload.title
      content := payload.content
      data := payload.data
      isRead := payload.isRead
      createdAt := payload.createdAt })
  note (.projected eventId payload)

def project (envelope : OutboxEnvelope NotificationCreatedPayload) : Action Unit :=
  processedEvents.once envelope.eventId .uniqueViolation (upsertProjection envelope.eventId envelope.payload)

/-- One more attempt after a failure, and no dead-letter queue. -/
def settleError (msg : Delivery) : Err → Settlement
  | .uniqueViolation => .duplicate
  | .transient => if msg.redelivered then .dropped else .requeued

def handleMessage (msg : Delivery) : Request :=
  match msg.envelope with
  | none => .done .invalid
  | some envelope =>
    let failed := fun e => .done (settleError msg e)
    .tx (select fun d => (d (.processedEvent envelope.eventId)).isSome)
      (fun already => if already then .done .duplicate else .tx (project envelope) (fun _ => .done .projected) failed)
      failed

/-- The two outboxes, and the deliveries of the second one's queue. Delivery `i` runs in thread `i`. -/
structure Pipeline (Payload : Type) where
  outbox : Relay Payload
  notificationOutbox : Relay NotificationCreatedPayload
  conf : Conf (Table Row) Mark Err Settlement
  /-- The deliveries not acknowledged yet. -/
  inFlight : List Nat
  delivered : Nat
  acked : List (Nat × Settlement)

inductive Move (Payload : Type) where
  | backend (m : RelayMove Payload)
  | notifications (m : RelayMove NotificationCreatedPayload)
  | deliver
  | advance (i : Nat)
  | abort (i : Nat)
  | crash (i : Nat)
  | settle (i : Nat)
  /-- The channel is lost, with the acknowledgement if there was one. -/
  | giveBack (i : Nat)

/-- How the delivery is settled, once its handler has come to an end. -/
def settlement (c : Conf (Table Row) Mark Err Settlement) (i : Nat) : Option Settlement :=
  match c.thread i with
  | .idle (.done settled) => some settled
  | _ => none

section
variable {Payload : Type} (deliveries : Nat → Delivery)

def Pipeline.start : Pipeline Payload where
  outbox := .start
  notificationOutbox := .start
  conf := .start ⟨fun _ => none, []⟩ fun i => handleMessage (deliveries i)
  inFlight := []
  delivered := 0
  acked := []

def Pipeline.setQueue (s : Pipeline Payload) (queue : List Delivery) : Pipeline Payload :=
  { s with notificationOutbox := { s.notificationOutbox with queue } }

/-- The broker flags what it delivers once more. -/
def Pipeline.requeue (s : Pipeline Payload) (i : Nat) : Pipeline Payload :=
  if i ∈ s.inFlight then
    { s.setQueue (s.notificationOutbox.queue ++ [{ deliveries i with redelivered := true }]) with
      inFlight := s.inFlight.erase i }
  else s

def Pipeline.settle (s : Pipeline Payload) (i : Nat) : Settlement → Pipeline Payload
  | .requeued => s.requeue deliveries i
  | settled => { s with inFlight := s.inFlight.erase i, acked := s.acked ++ [(i, settled)] }

variable [DecidableEq Payload] (isEnabled : Bool)

def Pipeline.act (s : Pipeline Payload) : Move Payload → Option (Pipeline Payload)
  | .backend m => (s.outbox.act (outboxRelay isEnabled) m).map fun outbox => { s with outbox }
  | .notifications m =>
    (s.notificationOutbox.act notificationOutboxRelay m).map fun notificationOutbox => { s with notificationOutbox }
  | .deliver =>
    if deliveries s.delivered ∈ s.notificationOutbox.queue then some
      { s.setQueue (s.notificationOutbox.queue.erase (deliveries s.delivered)) with
        inFlight := s.inFlight ++ [s.delivered]
        delivered := s.delivered + 1 }
    else none
  | .advance i =>
    if i < s.delivered then (s.conf.advance i).map fun conf => { s with conf } else none
  | .abort i =>
    match s.conf.thread i with
    | .active _ _ err _ _ => some { s with conf := (s.conf.release i).become i (.idle (err .transient)) }
    | _ => none
  | .crash i =>
    if i < s.delivered then some (Pipeline.requeue deliveries { s with conf := (s.conf.release i).become i .down } i)
    else none
  | .settle i => if i ∈ s.inFlight then (settlement s.conf i).map (s.settle deliveries i) else none
  | .giveBack i => some (s.requeue deliveries i)

/-- The states of all runs. -/
inductive Reached : Pipeline Payload → Prop
  | start : Reached (.start deliveries)
  | step {s t : Pipeline Payload} {m : Move Payload} (run : Reached s) (next : s.act deliveries isEnabled m = some t) :
      Reached t

def Pipeline.play (s : Pipeline Payload) : List (Move Payload) → Option (Pipeline Payload)
  | [] => some s
  | m :: rest =>
    match s.act deliveries isEnabled m with
    | some t => t.play rest
    | none => none

variable {deliveries isEnabled}

theorem Reached.play {s t : Pipeline Payload} {moves : List (Move Payload)} (run : Reached deliveries isEnabled s)
    (played : s.play deliveries isEnabled moves = some t) : Reached deliveries isEnabled t := by
  induction moves generalizing s with
  | nil =>
    cases played
    exact run
  | cons m rest ih =>
    unfold Pipeline.play at played
    split at played
    · next u next => exact ih (.step run next) played
    · cases played

end
end Marketplace.Outbox
