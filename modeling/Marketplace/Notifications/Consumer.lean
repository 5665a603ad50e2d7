import Marketplace.Notifications.Handlers
import Marketplace.ReadCommitted.Inbox
import Mathlib.Algebra.GroupWithZero.Nat

/-! `RabbitMqService`: the consumer of the notification service with its queues. -/
namespace Marketplace.Notifications
open ReadCommitted ReadCommitted.Tx

def MAX_RETRY : Nat := 5

inductive Key where
  | processedEvent (eventId : Id)
deriving DecidableEq

@[reducible] def Row : Key → Type
  | .processedEvent _ => Unit

/-- What is written under the id of an event. The other tables draw their ids and are only added to. -/
inductive Mark where
  | processedEvent (eventId : Id)
  | written (eventId : Id) (w : Written)
deriving DecidableEq

def Mark.eventId : Mark → Id
  | .processedEvent id => id
  | .written id _ => id

inductive Err where
  | uniqueViolation
  | handler (e : HandlerError)
  | transient
deriving DecidableEq

abbrev Db := Rows (Table Row)
abbrev Action := Tx (Table Row) Mark Err

structure OutboxEnvelope where
  eventId : Id
  event : Event
deriving DecidableEq

/-- The counts of the `x-death` entries. -/
structure Headers where
  xDeath : Option (List (Option Nat))
deriving DecidableEq

/-- A body that is no envelope has no content. `origin` records the publication a message goes back to. -/
structure Message where
  origin : Nat
  content : Option OutboxEnvelope
  headers : Headers
deriving DecidableEq

def getRetryCount (headers : Headers) : Nat :=
  match headers.xDeath with
  | none => 0
  | some entries => (entries.map fun entry => entry.getD 0).sum

inductive RoutingKey where
  | retry | dlq
deriving DecidableEq

/-- Why a delivery is acknowledged. -/
inductive Settlement where
  | duplicate
  | processed
  | copied (key : RoutingKey)
deriving DecidableEq

abbrev Request := Req (Table Row) Mark Err Settlement

def processedEvents : Inbox Row Mark Id where
  key := .processedEvent
  row _ := ()
  claim := .processedEvent
  key_injective _ _ same := Key.processedEvent.inj same
  claim_injective _ _ same := Mark.processedEvent.inj same

def retryOrPark (msg : Message) : Settlement := .copied (if getRetryCount msg.headers ≥ MAX_RETRY then .dlq else .retry)

def handleProcessingError (msg : Message) : Err → Settlement
  | .uniqueViolation => .duplicate
  | .handler .poisonPayload => .copied .dlq
  | .handler .typeError => retryOrPark msg
  | .transient => retryOrPark msg

section
variable (toLocaleString : Money → String)

def runDispatch (envelope : OutboxEnvelope) : Action Unit :=
  match dispatch toLocaleString envelope.event with
  | .ok written => forM written fun w => note (.written envelope.eventId w)
  | .error e => raise (.handler e)

def processEvent (envelope : OutboxEnvelope) : Action Unit :=
  processedEvents.once envelope.eventId .uniqueViolation (runDispatch toLocaleString envelope)

def processMessage (msg : Message) : Request :=
  match msg.content with
  | none => .done (.copied .dlq)
  | some envelope =>
    let failed := fun e => .done (handleProcessingError msg e)
    -- what is left of the `try` after the commit is the last transaction: it may fail too
    .tx (select fun d => (d (.processedEvent envelope.eventId)).isSome)
      (fun alreadyProcessed =>
        if alreadyProcessed then .done .duplicate
        else .tx (processEvent toLocaleString envelope)
          (fun _ => .tx (pure ()) (fun _ => .done .processed) failed) failed)
      failed

end

/-- The database with the deliveries that are being processed, and the queues. Delivery `i` runs in thread `i`. -/
structure Service where
  conf : Conf (Table Row) Mark Err Settlement
  notifications : List Message
  retry : List Message
  dlq : List Message
  /-- The deliveries not acknowledged yet. -/
  inFlight : List Nat
  delivered : Nat
  published : Nat
  /-- Records of the copies published, what was acknowledged, which origins were given back, and what was handed to the
  mailer. -/
  copies : List (Nat × RoutingKey)
  acked : List (Nat × Settlement)
  returned : List Nat
  mailed : List (Nat × Id × Mail)

inductive Move where
  | publish (content : Option OutboxEnvelope)
  | deliver
  | advance (i : Nat)
  | abort (i : Nat)
  | crash (i : Nat)
  /-- A copy where there is one, and the acknowledgement. -/
  | settle (i : Nat)
  /-- As `settle`, but the acknowledgement is lost. -/
  | unheard (i : Nat)
  /-- The channel is lost, or the message is delivered once more. -/
  | giveBack (i : Nat)
  /-- A message leaves the retry queue. -/
  | expire (m : Message)

/-- The mail that thread `i` hands to the mailer next. -/
def handing (c : Conf (Table Row) Mark Err Settlement) (i : Nat) : Option (Nat × Id × Mail) :=
  match c.thread i with
  | .active (.emit (.written id (.mail m)) _) _ _ _ _ => some (i, id, m)
  | _ => none

/-- How the delivery is settled, once its processing has come to an end. -/
def settlement (c : Conf (Table Row) Mark Err Settlement) (i : Nat) : Option Settlement :=
  match c.thread i with
  | .idle (.done settled) => some settled
  | _ => none

section
variable (deliveries : Nat → Message) (deadLetter : Headers → Headers)

def Service.start (toLocaleString : Money → String) : Service where
  conf := .start ⟨fun _ => none, []⟩ fun i => processMessage toLocaleString (deliveries i)
  notifications := []
  retry := []
  dlq := []
  inFlight := []
  delivered := 0
  published := 0
  copies := []
  acked := []
  returned := []
  mailed := []

def Service.copy (s : Service) (i : Nat) : Settlement → Service
  | .copied .retry => { s with retry := s.retry ++ [deliveries i], copies := s.copies ++ [(i, .retry)] }
  | .copied .dlq => { s with dlq := s.dlq ++ [deliveries i], copies := s.copies ++ [(i, .dlq)] }
  | _ => s

def Service.ack (s : Service) (i : Nat) (settled : Settlement) : Service :=
  { s with inFlight := s.inFlight.erase i, acked := s.acked ++ [(i, settled)] }

def Service.requeue (s : Service) (i : Nat) : Service :=
  if i ∈ s.inFlight then
    { s with
      inFlight := s.inFlight.erase i
      notifications := s.notifications ++ [deliveries i]
      returned := s.returned ++ [(deliveries i).origin] }
  else s

def Service.act (s : Service) : Move → Option Service
  | .publish content => some
      { s with
        notifications := s.notifications ++ [⟨s.published, content, ⟨none⟩⟩]
        published := s.published + 1 }
  | .deliver =>
    if deliveries s.delivered ∈ s.notifications then some
      { s with
        notifications := s.notifications.erase (deliveries s.delivered)
        inFlight := s.inFlight ++ [s.delivered]
        delivered := s.delivered + 1 }
    else none
  | .advance i =>
    if i < s.delivered then
      (s.conf.advance i).map fun c => { s with conf := c, mailed := s.mailed ++ (handing s.conf i).toList }
    else none
  | .abort i =>
    match s.conf.thread i with
    | .active _ _ err _ _ => some { s with conf := (s.conf.release i).become i (.idle (err .transient)) }
    | _ => none
  | .crash i =>
    if i < s.delivered then some (Service.requeue deliveries { s with conf := (s.conf.release i).become i .down } i)
    else none
  | .settle i =>
    if i ∈ s.inFlight then (settlement s.conf i).map fun settled => (s.copy deliveries i settled).ack i settled else none
  | .unheard i =>
    if i ∈ s.inFlight then (settlement s.conf i).map fun settled => (s.copy deliveries i settled).requeue deliveries i
    else none
  | .giveBack i => some (s.requeue deliveries i)
  | .expire m =>
    if m ∈ s.retry then some
      { s with
        retry := s.retry.erase m
        notifications := s.notifications ++ [{ m with headers := deadLetter m.headers }] }
    else none

/-- The states of the runs whose moves meet `guard`. -/
inductive Reached (toLocaleString : Money → String) (guard : Service → Move → Prop) : Service → Prop
  | start : Reached toLocaleString guard (.start deliveries toLocaleString)
  | step {s t : Service} {m : Move} (run : Reached toLocaleString guard s) (met : guard s m)
      (next : s.act deliveries deadLetter m = some t) : Reached toLocaleString guard t

/-- The moves one after the other. -/
def Service.play (s : Service) : List Move → Option Service
  | [] => some s
  | m :: rest =>
    match s.act deliveries deadLetter m with
    | some t => t.play rest
    | none => none

def Service.Obeys (guard : Service → Move → Prop) (s : Service) : List Move → Prop
  | [] => True
  | m :: rest => guard s m ∧ ∀ t ∈ s.act deliveries deadLetter m, t.Obeys guard rest

variable {deliveries deadLetter}

theorem Service.obeys_any (s : Service) (moves : List Move) :
    s.Obeys deliveries deadLetter (fun _ _ => True) moves := by
  induction moves generalizing s with
  | nil => trivial
  | cons m rest ih => exact ⟨trivial, fun t _ => ih t⟩

theorem Reached.play {toLocaleString : Money → String} {guard : Service → Move → Prop} {s t : Service} {moves : List Move}
    (run : Reached deliveries deadLetter toLocaleString guard s) (obeys : s.Obeys deliveries deadLetter guard moves)
    (played : s.play deliveries deadLetter moves = some t) : Reached deliveries deadLetter toLocaleString guard t := by
  induction moves generalizing s with
  | nil =>
    cases played
    exact run
  | cons m rest ih =>
    unfold Service.play at played
    split at played
    · next u next => exact ih (.step run obeys.1 next) (obeys.2 u next) played
    · cases played

end
end Marketplace.Notifications
