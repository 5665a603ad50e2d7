import Marketplace.Schema
import Mathlib.Data.List.Sort

/-! `OutboxRelay` and `NotificationOutboxRelay`: committed events on their way to the broker. -/
namespace Marketplace.Outbox

inductive EventType where
  | orderCreated | orderCancelled | orderStatusUpdated | reviewCreated | reviewReplied | payoutCreated
  | payoutStatusChanged | shopRegistered | returnRequested | returnStatusChanged | productModerated | productCreated
  | productUpdated | productDeleted | notificationCreated
deriving DecidableEq

/-- `OutboxEvent` and `NotificationOutbox`. -/
structure OutboxEvent (Payload : Type) where
  id : Id
  eventType : EventType
  payload : Payload
  createdAt : Time
  publishedAt : Option Time
  publishAttempts : Nat

structure OutboxEnvelope (Payload : Type) where
  eventId : Id
  eventType : EventType
  occurredAt : Time
  payload : Payload
deriving DecidableEq

/-- A body that is no envelope has none. -/
structure Message (Payload : Type) where
  envelope : Option (OutboxEnvelope Payload)
  redelivered : Bool
deriving DecidableEq

inductive PublishResult where
  | ok | failed | unroutable
deriving DecidableEq

/-- What the two relays differ in. -/
structure Settings where
  isEnabled : Bool
  handled : EventType → Bool
  batchSize : Nat

def HANDLED_EVENT_TYPES : List EventType :=
  [.orderCreated, .orderCancelled, .orderStatusUpdated, .reviewCreated, .reviewReplied, .payoutCreated,
    .payoutStatusChanged, .shopRegistered, .returnRequested, .returnStatusChanged, .productModerated, .productCreated,
    .productUpdated, .productDeleted]

/-- `NOTIFICATION_RELAY_ENABLED` is off by default. -/
def outboxRelay (isEnabled : Bool) : Settings := ⟨isEnabled, fun type => type ∈ HANDLED_EVENT_TYPES, 10⟩

def notificationOutboxRelay : Settings := ⟨true, fun _ => true, 20⟩

variable {Payload : Type}

def OutboxEvent.envelope (event : OutboxEvent Payload) : OutboxEnvelope Payload :=
  ⟨event.id, event.eventType, event.createdAt, event.payload⟩

/-- Where `relayOutbox` stands with its batch. -/
inductive Worker (Payload : Type) where
  | idle
  /-- `publishOne` comes next. -/
  | publishing (event : OutboxEvent Payload) (rest : List (OutboxEvent Payload))
  /-- Until the confirm callback. -/
  | sent (event : OutboxEvent Payload) (messageId : Nat) (rest : List (OutboxEvent Payload))
  /-- Until the `setImmediate` of the callback. -/
  | confirmed (event : OutboxEvent Payload) (messageId : Nat) (rest : List (OutboxEvent Payload))
  /-- The update of `published_at` comes next. -/
  | marking (event : OutboxEvent Payload) (rest : List (OutboxEvent Payload))

def Worker.next : List (OutboxEvent Payload) → Worker Payload
  | [] => .idle
  | event :: rest => .publishing event rest

/-- An event that could not be routed is marked too, so that it leaves the queue. -/
def finishPublish (event : OutboxEvent Payload) (rest : List (OutboxEvent Payload)) : PublishResult → Worker Payload
  | .failed => .next rest
  | .ok => .marking event rest
  | .unroutable => .marking event rest

/-- Rows another transaction has locked are skipped. -/
def claimBatch (settings : Settings) (locked : List Id) (events : List (OutboxEvent Payload)) : List (OutboxEvent Payload) :=
  let found := events.filter fun e => e.publishedAt.isNone ∧ settings.handled e.eventType ∧ e.id ∉ locked
  (found.insertionSort fun a b => a.createdAt ≤ b.createdAt).take settings.batchSize

def markPublished (event : OutboxEvent Payload) (now : Time) (row : OutboxEvent Payload) : OutboxEvent Payload :=
  if row.id = event.id ∧ row.publishedAt.isNone then
    { row with publishedAt := some now, publishAttempts := row.publishAttempts + 1 }
  else row

/-- An outbox with the instances of its relay, and the exchange they publish to. -/
structure Relay (Payload : Type) where
  events : List (OutboxEvent Payload)
  worker : Nat → Worker Payload
  returnedMessageIds : Nat → List Nat
  messageIds : Nat
  /-- Sent, and not at the broker yet. -/
  onTheWay : List (Nat × OutboxEnvelope Payload)
  queue : List (Message Payload)
  /-- Records of the messages the broker has confirmed, and of those it has returned before. -/
  confirmed : List (Nat × Id)
  returned : List (Nat × Id)

def Relay.start : Relay Payload := ⟨[], fun _ => .idle, fun _ => [], 0, [], [], [], []⟩

def Relay.hold (s : Relay Payload) (r : Nat) (w : Worker Payload) : Relay Payload :=
  { s with worker := Function.update s.worker r w }

def Relay.setReturned (s : Relay Payload) (r : Nat) (ids : List Nat) : Relay Payload :=
  { s with returnedMessageIds := Function.update s.returnedMessageIds r ids }

inductive RelayMove (Payload : Type) where
  /-- A transaction that has inserted an event commits. -/
  | insert (id : Id) (eventType : EventType) (payload : Payload) (createdAt : Time)
  | claim (r : Nat) (locked : List Id)
  /-- There is no channel, or it refuses. -/
  | unsent (r : Nat)
  | send (r : Nat)
  /-- The broker takes a message: into the queue, or back where no binding matches. -/
  | arrive (messageId : Nat) (envelope : OutboxEnvelope Payload) (bound : Bool)
  | lose (messageId : Nat) (envelope : OutboxEnvelope Payload)
  | confirm (r : Nat)
  | nack (r : Nat)
  | close (r : Nat)
  | immediate (r : Nat)
  | mark (r : Nat) (now : Time)
  | markFails (r : Nat)
  | crash (r : Nat)

section
variable [DecidableEq Payload] (settings : Settings)

def Relay.act (s : Relay Payload) : RelayMove Payload → Option (Relay Payload)
  | .insert id eventType payload createdAt =>
    if id ∈ s.events.map OutboxEvent.id then none
    else some { s with events := s.events ++ [⟨id, eventType, payload, createdAt, none, 0⟩] }
  | .claim r locked =>
    match s.worker r with
    | .idle => if settings.isEnabled then some (s.hold r (.next (claimBatch settings locked s.events))) else none
    | _ => none
  | .unsent r =>
    match s.worker r with
    | .publishing event rest => some (s.hold r (finishPublish event rest .failed))
    | _ => none
  | .send r =>
    match s.worker r with
    | .publishing event rest =>
      let sent := { s with
        onTheWay := s.onTheWay ++ [(s.messageIds, event.envelope)]
        messageIds := s.messageIds + 1 }
      some (sent.hold r (.sent event s.messageIds rest))
    | _ => none
  | .arrive messageId envelope bound =>
    if (messageId, envelope) ∈ s.onTheWay then
      let taken := { s with
        onTheWay := s.onTheWay.erase (messageId, envelope)
        confirmed := s.confirmed ++ [(messageId, envelope.eventId)] }
      if bound then some { taken with queue := s.queue ++ [⟨some envelope, false⟩] }
      else some { taken with returned := s.returned ++ [(messageId, envelope.eventId)] }
    else none
  | .lose messageId envelope => some { s with onTheWay := s.onTheWay.erase (messageId, envelope) }
  | .confirm r =>
    match s.worker r with
    | .sent event messageId rest =>
      if (messageId, event.id) ∈ s.confirmed then
        -- a return reaches the channel before the confirmation
        let returned := if (messageId, event.id) ∈ s.returned then [messageId] else []
        some ((s.setReturned r (s.returnedMessageIds r ++ returned)).hold r (.confirmed event messageId rest))
      else none
    | _ => none
  | .nack r =>
    match s.worker r with
    | .sent event _ rest => some (s.hold r (finishPublish event rest .failed))
    | _ => none
  | .close r =>
    match s.worker r with
    | .sent event _ rest => some ((s.setReturned r []).hold r (finishPublish event rest .failed))
    | _ => some (s.setReturned r [])
  | .immediate r =>
    match s.worker r with
    | .confirmed event messageId rest =>
      let wasReturned := messageId ∈ s.returnedMessageIds r
      let result : PublishResult := if wasReturned then .unroutable else .ok
      some ((s.setReturned r ((s.returnedMessageIds r).erase messageId)).hold r (finishPublish event rest result))
    | _ => none
  | .mark r now =>
    match s.worker r with
    | .marking event rest => some ({ s with events := s.events.map (markPublished event now) }.hold r (.next rest))
    | _ => none
  | .markFails r =>
    match s.worker r with
    | .marking _ rest => some (s.hold r (.next rest))
    | _ => none
  | .crash r => some ((s.setReturned r []).hold r .idle)

end

/-! Nothing is marked before its confirmation. -/

def Worker.events : Worker Payload → List (OutboxEvent Payload)
  | .idle => []
  | .publishing event rest => event :: rest
  | .sent event _ rest => event :: rest
  | .confirmed event _ rest => event :: rest
  | .marking event rest => event :: rest

/-- The envelope is of a committed event. -/
def Issued (events : List (OutboxEvent Payload)) (envelope : OutboxEnvelope Payload) : Prop :=
  ∃ row ∈ events, row.envelope = envelope

def Confirmed (s : Relay Payload) (id : Id) : Prop := ∃ messageId, (messageId, id) ∈ s.confirmed

def Returned (s : Relay Payload) (id : Id) : Prop := ∃ messageId, (messageId, id) ∈ s.returned

def Worker.Ready (s : Relay Payload) : Worker Payload → Prop
  | .confirmed event _ _ => Confirmed s event.id
  | .marking event _ => Confirmed s event.id
  | _ => True

structure Relay.Sound (s : Relay Payload) : Prop where
  unique : (s.events.map OutboxEvent.id).Nodup
  published : ∀ row ∈ s.events, row.publishedAt ≠ none → Confirmed s row.id
  held : ∀ r, ∀ e ∈ (s.worker r).events, Issued s.events e.envelope
  ready : ∀ r, (s.worker r).Ready s
  sent : ∀ x ∈ s.onTheWay, Issued s.events x.2

theorem next_events (rest : List (OutboxEvent Payload)) : (Worker.next rest).events = rest := by
  cases rest with
  | nil => rfl
  | cons event rest => rfl

theorem next_ready (s : Relay Payload) (rest : List (OutboxEvent Payload)) : (Worker.next rest).Ready s := by
  cases rest with
  | nil => trivial
  | cons event rest => trivial

theorem finishPublish_events (event : OutboxEvent Payload) (rest : List (OutboxEvent Payload)) (result : PublishResult) :
    (finishPublish event rest result).events ⊆ event :: rest := by
  cases result with
  | ok => exact List.Subset.refl _
  | unroutable => exact List.Subset.refl _
  | failed =>
    show (Worker.next rest).events ⊆ event :: rest
    rw [next_events]
    exact List.subset_cons_self event rest

theorem finishPublish_ready {s : Relay Payload} {event : OutboxEvent Payload} (rest : List (OutboxEvent Payload))
    (confirmed : Confirmed s event.id) (result : PublishResult) : (finishPublish event rest result).Ready s := by
  cases result with
  | ok => exact confirmed
  | unroutable => exact confirmed
  | failed => exact next_ready s rest

theorem claimBatch_subset (settings : Settings) (locked : List Id) (events : List (OutboxEvent Payload)) :
    claimBatch settings locked events ⊆ events := by
  intro e member
  have sorted := List.mem_of_mem_take member
  exact List.mem_of_mem_filter ((List.mem_insertionSort _).mp sorted)

@[simp] theorem markPublished_id (event : OutboxEvent Payload) (now : Time) (row : OutboxEvent Payload) :
    (markPublished event now row).id = row.id := by
  unfold markPublished
  split
  · rfl
  · rfl

@[simp] theorem markPublished_envelope (event : OutboxEvent Payload) (now : Time) (row : OutboxEvent Payload) :
    (markPublished event now row).envelope = row.envelope := by
  unfold markPublished
  split
  · rfl
  · rfl

theorem Issued.mark {events : List (OutboxEvent Payload)} {envelope : OutboxEnvelope Payload} (issued : Issued events envelope)
    (event : OutboxEvent Payload) (now : Time) : Issued (events.map (markPublished event now)) envelope := by
  obtain ⟨row, member, same⟩ := issued
  exact ⟨_, List.mem_map_of_mem member, (markPublished_envelope event now row).trans same⟩

theorem Worker.Ready.mono {s t : Relay Payload} {w : Worker Payload} (ready : w.Ready s)
    (confirmed : ∀ id, Confirmed s id → Confirmed t id) : w.Ready t := by
  cases w with
  | confirmed event messageId rest => exact confirmed _ ready
  | marking event rest => exact confirmed _ ready
  | _ => trivial

namespace Relay.Sound
variable {s : Relay Payload} (sound : s.Sound)
include sound

theorem hold {r : Nat} {w : Worker Payload} (held : ∀ e ∈ w.events, Issued s.events e.envelope) (ready : w.Ready s) :
    (s.hold r w).Sound where
  unique := sound.unique
  published := sound.published
  held q := by
    show ∀ e ∈ ((Function.update s.worker r w) q).events, _
    by_cases same : q = r
    · subst same
      rw [Function.update_self]
      exact held
    · rw [Function.update_of_ne same]
      exact sound.held q
  ready q := by
    show ((Function.update s.worker r w) q).Ready s
    by_cases same : q = r
    · subst same
      rw [Function.update_self]
      exact ready
    · rw [Function.update_of_ne same]
      exact sound.ready q
  sent := sound.sent

theorem setReturned (r : Nat) (ids : List Nat) : (s.setReturned r ids).Sound :=
  ⟨sound.unique, sound.published, sound.held, sound.ready, sound.sent⟩

/-- The instance goes on with events it holds. -/
theorem goes {r : Nat} {w : Worker Payload} {event : OutboxEvent Payload} {rest : List (OutboxEvent Payload)}
    (holds : (s.worker r).events = event :: rest) (kept : w.events ⊆ event :: rest) (ready : w.Ready s) :
    (s.hold r w).Sound := by
  refine sound.hold (fun e member => ?_) ready
  apply sound.held r
  rw [holds]
  exact kept member

theorem fails {r : Nat} {event : OutboxEvent Payload} {rest : List (OutboxEvent Payload)}
    (holds : (s.worker r).events = event :: rest) : (s.hold r (.next rest)).Sound := by
  refine sound.goes holds ?_ (next_ready s rest)
  rw [next_events]
  exact List.subset_cons_self event rest

theorem insert {id : Id} {eventType : EventType} {payload : Payload} {createdAt : Time}
    (fresh : id ∉ s.events.map OutboxEvent.id) :
    ({ s with events := s.events ++ [⟨id, eventType, payload, createdAt, none, 0⟩] } : Relay Payload).Sound where
  unique := by
    rw [List.map_append, List.nodup_append]
    refine ⟨sound.unique, List.nodup_singleton _, fun a old b new same => ?_⟩
    obtain rfl := List.mem_singleton.mp new
    exact fresh (same ▸ old)
  published row member marked := by
    rcases List.mem_append.mp member with old | new
    · exact sound.published row old marked
    · obtain rfl := List.mem_singleton.mp new
      exact absurd rfl marked
  held r e member := by
    obtain ⟨row, old, same⟩ := sound.held r e member
    exact ⟨row, List.mem_append_left _ old, same⟩
  ready := sound.ready
  sent x member := by
    obtain ⟨row, old, same⟩ := sound.sent x member
    exact ⟨row, List.mem_append_left _ old, same⟩

theorem mark {event : OutboxEvent Payload} (confirmed : Confirmed s event.id) (now : Time) :
    ({ s with events := s.events.map (markPublished event now) } : Relay Payload).Sound where
  unique := by
    have same : OutboxEvent.id ∘ markPublished event now = OutboxEvent.id := funext (markPublished_id event now)
    rw [List.map_map, same]
    exact sound.unique
  published row member marked := by
    obtain ⟨before, old, rfl⟩ := List.mem_map.mp member
    rw [markPublished_id]
    unfold markPublished at marked
    split at marked
    · next now_ =>
      rw [now_.1]
      exact confirmed
    · exact sound.published before old marked
  held r e member := (sound.held r e member).mark event now
  ready := sound.ready
  sent x member := (sound.sent x member).mark event now

theorem send {event : OutboxEvent Payload} (issued : Issued s.events event.envelope) :
    ({ s with
      onTheWay := s.onTheWay ++ [(s.messageIds, event.envelope)]
      messageIds := s.messageIds + 1 } : Relay Payload).Sound where
  unique := sound.unique
  published := sound.published
  held := sound.held
  ready := sound.ready
  sent x member := by
    rcases List.mem_append.mp member with old | new
    · exact sound.sent x old
    · obtain rfl := List.mem_singleton.mp new
      exact issued

theorem arrive [DecidableEq Payload] (messageId : Nat) (envelope : OutboxEnvelope Payload) (queue : List (Message Payload))
    (returned : List (Nat × Id)) :
    ({ s with
      onTheWay := s.onTheWay.erase (messageId, envelope)
      confirmed := s.confirmed ++ [(messageId, envelope.eventId)]
      queue
      returned } : Relay Payload).Sound := by
  have more : ∀ id, Confirmed s id → ∃ m, (m, id) ∈ s.confirmed ++ [(messageId, envelope.eventId)] := by
    intro id confirmed
    obtain ⟨m, member⟩ := confirmed
    exact ⟨m, List.mem_append_left _ member⟩
  refine ⟨sound.unique, fun row member marked => more _ (sound.published row member marked), sound.held, fun r => ?_,
    fun x member => sound.sent x (List.mem_of_mem_erase member)⟩
  exact (sound.ready r).mono more

theorem act [DecidableEq Payload] {settings : Settings} {t : Relay Payload} {m : RelayMove Payload}
    (next : s.act settings m = some t) : t.Sound := by
  cases m with
  | insert id eventType payload createdAt =>
    simp only [Relay.act] at next
    split at next
    · cases next
    · next fresh =>
      cases next
      exact sound.insert fresh
  | claim r locked =>
    simp only [Relay.act] at next
    split at next
    · split at next
      · cases next
        refine sound.hold (fun e member => ?_) (next_ready s _)
        rw [next_events] at member
        exact ⟨e, claimBatch_subset settings locked s.events member, rfl⟩
      · cases next
    · cases next
  | unsent r =>
    simp only [Relay.act] at next
    split at next
    · next event rest found =>
      cases next
      exact sound.fails (by rw [found]; rfl)
    · cases next
  | send r =>
    simp only [Relay.act] at next
    split at next
    · next event rest found =>
      cases next
      have holds : (s.worker r).events = event :: rest := by rw [found]; rfl
      have issued : Issued s.events event.envelope := sound.held r event (holds ▸ List.mem_cons_self)
      exact (sound.send issued).goes holds (List.Subset.refl _) trivial
    · cases next
  | arrive messageId envelope bound =>
    simp only [Relay.act] at next
    split at next
    · split at next
      · cases next
        exact sound.arrive messageId envelope _ _
      · cases next
        exact sound.arrive messageId envelope _ _
    · cases next
  | lose messageId envelope =>
    cases next
    exact ⟨sound.unique, sound.published, sound.held, sound.ready, fun x member => sound.sent x (List.mem_of_mem_erase member)⟩
  | confirm r =>
    simp only [Relay.act] at next
    split at next
    · next event messageId rest found =>
      split at next
      · next confirmed =>
        cases next
        exact (sound.setReturned r _).goes (by show (s.worker r).events = _; rw [found]; rfl) (List.Subset.refl _)
          ⟨messageId, confirmed⟩
      · cases next
    · cases next
  | nack r =>
    simp only [Relay.act] at next
    split at next
    · next event messageId rest found =>
      cases next
      exact sound.fails (by rw [found]; rfl)
    · cases next
  | close r =>
    simp only [Relay.act] at next
    split at next
    · next event messageId rest found =>
      cases next
      exact (sound.setReturned r []).fails (by show (s.worker r).events = _; rw [found]; rfl)
    · cases next
      exact sound.setReturned r []
  | immediate r =>
    simp only [Relay.act] at next
    split at next
    · next event messageId rest found =>
      cases next
      have confirmed := sound.ready r
      rw [found] at confirmed
      exact (sound.setReturned r _).goes (by show (s.worker r).events = _; rw [found]; rfl) (finishPublish_events _ _ _)
        (finishPublish_ready rest confirmed _)
    · cases next
  | mark r now =>
    simp only [Relay.act] at next
    split at next
    · next event rest found =>
      cases next
      have confirmed := sound.ready r
      rw [found] at confirmed
      exact (sound.mark confirmed now).fails (by show (s.worker r).events = _; rw [found]; rfl)
    · cases next
  | markFails r =>
    simp only [Relay.act] at next
    split at next
    · next event rest found =>
      cases next
      exact sound.fails (by rw [found]; rfl)
    · cases next
  | crash r =>
    cases next
    exact (sound.setReturned r []).hold (fun e no => absurd no List.not_mem_nil) trivial

end Relay.Sound

theorem sound_start : (Relay.start : Relay Payload).Sound :=
  ⟨List.nodup_nil, fun _ no => absurd no List.not_mem_nil, fun _ _ no => absurd no List.not_mem_nil, fun _ => trivial,
    fun _ no => absurd no List.not_mem_nil⟩

/-- What a move does to the messages the broker has. -/
structure Brought (s t : Relay Payload) : Prop where
  issued : ∀ envelope, Issued s.events envelope → Issued t.events envelope
  queue : s.queue ⊆ t.queue
  returned : s.returned ⊆ t.returned
  /-- What is new in the queue is of a committed event. -/
  fresh : ∀ m ∈ t.queue, m ∈ s.queue ∨ ∃ envelope, m.envelope = some envelope ∧ Issued t.events envelope
  /-- What is confirmed is in the queue or was returned. -/
  confirmed : ∀ x ∈ t.confirmed, x ∈ s.confirmed ∨ x ∈ t.returned ∨
    ∃ m ∈ t.queue, ∃ envelope, m.envelope = some envelope ∧ envelope.eventId = x.2 ∧ Issued t.events envelope

theorem Brought.still {s t : Relay Payload} (issued : ∀ envelope, Issued s.events envelope → Issued t.events envelope)
    (queue : t.queue = s.queue) (returned : t.returned = s.returned) (confirmed : t.confirmed = s.confirmed) : Brought s t where
  issued := issued
  queue := queue ▸ List.Subset.refl _
  returned := returned ▸ List.Subset.refl _
  fresh _ member := Or.inl (queue ▸ member)
  confirmed _ member := Or.inl (confirmed ▸ member)

theorem Relay.Sound.brought [DecidableEq Payload] {settings : Settings} {s t : Relay Payload} {m : RelayMove Payload}
    (sound : s.Sound) (next : s.act settings m = some t) : Brought s t := by
  cases m with
  | insert id eventType payload createdAt =>
    simp only [Relay.act] at next
    split at next
    · cases next
    · cases next
      refine .still (fun envelope issued => ?_) rfl rfl rfl
      obtain ⟨row, old, same⟩ := issued
      exact ⟨row, List.mem_append_left _ old, same⟩
  | arrive messageId envelope bound =>
    simp only [Relay.act] at next
    split at next
    · next present =>
      have issued : Issued s.events envelope := sound.sent _ present
      split at next
      · cases next
        refine ⟨fun _ issued => issued, List.subset_append_left _ _, List.Subset.refl _, fun m member => ?_, fun x member => ?_⟩
        · rcases List.mem_append.mp member with old | new
          · exact Or.inl old
          · obtain rfl := List.mem_singleton.mp new
            exact Or.inr ⟨envelope, rfl, issued⟩
        · rcases List.mem_append.mp member with old | new
          · exact Or.inl old
          · obtain rfl := List.mem_singleton.mp new
            exact Or.inr (Or.inr ⟨_, List.mem_append_right _ (List.mem_singleton.mpr rfl), envelope, rfl, rfl, issued⟩)
      · cases next
        refine ⟨fun _ issued => issued, List.Subset.refl _, List.subset_append_left _ _, fun m member => Or.inl member, fun x member => ?_⟩
        rcases List.mem_append.mp member with old | new
        · exact Or.inl old
        · obtain rfl := List.mem_singleton.mp new
          exact Or.inr (Or.inl (List.mem_append_right _ (List.mem_singleton.mpr rfl)))
    · cases next
  | mark r now =>
    simp only [Relay.act] at next
    split at next
    · next event rest found =>
      cases next
      exact .still (fun envelope issued => issued.mark event now) rfl rfl rfl
    · cases next
  | claim r locked =>
    simp only [Relay.act] at next
    split at next
    · split at next
      · cases next
        exact .still (fun _ issued => issued) rfl rfl rfl
      · cases next
    · cases next
  | confirm r =>
    simp only [Relay.act] at next
    split at next
    · split at next
      · cases next
        exact .still (fun _ issued => issued) rfl rfl rfl
      · cases next
    · cases next
  | lose messageId envelope =>
    cases next
    exact .still (fun _ issued => issued) rfl rfl rfl
  | crash r =>
    cases next
    exact .still (fun _ issued => issued) rfl rfl rfl
  | _ r =>
    simp only [Relay.act] at next
    split at next
    all_goals
      cases next
    all_goals
      exact .still (fun _ issued => issued) rfl rfl rfl

end Marketplace.Outbox
