import Marketplace.Search.Deliveries

/-! The consumer of the search service with its queues, and the retention job beside it. -/
namespace Marketplace.Search

def maxRetries : Nat := 3
def retryTTL : Time := 10 * 1000
def MainQueueTTL : Time := 30 * 24 * 60 * 60 * 1000
def DlqTTL : Time := 30 * 24 * 60 * 60 * 1000

def retentionSafetyMargin : Time := 24 * 60 * 60 * 1000
def retentionDeleteLimit : Nat := 10000

def retentionWindow (mainQueueTTLms dlqTTLms : Time) : Time := mainQueueTTLms + dlqTTLms + retentionSafetyMargin

def retention : Time := retentionWindow MainQueueTTL DlqTTL

structure Message where
  event : ProductEvent
  retryCount : Nat
  /-- When it came into the queue it is in. A message that is requeued keeps it. -/
  queuedAt : Time
deriving DecidableEq

/-- Nothing reads the dead-letter queue: a message that goes there leaves the service. -/
structure Service where
  db : Db
  main : List Message
  retry : List Message
  now : Time
  /-- The transactions that ran to their end, as a record. -/
  handled : List (ProductEvent × Time)
  /-- The rows that retention has deleted, as a record. -/
  collected : List (Key × Time)

def Service.start : Service := ⟨emptyIndex, [], [], 0, [], []⟩

/-- How the handling of a message goes. -/
structure Handling where
  committed : Bool
  /-- The store reports a failure, which a lost answer to a commit also is. -/
  failed : Bool
  /-- The broker takes the copy for the retry queue or the dead-letter queue. -/
  published : Bool
  /-- The acknowledgement arrives. -/
  acked : Bool
deriving DecidableEq

def Service.write (s : Service) (e : ProductEvent) : Service :=
  { s with db := deliver s.db e s.now, handled := s.handled ++ [(e, s.now)] }

def Service.ack (s : Service) (m : Message) (h : Handling) : Service :=
  if h.acked then { s with main := s.main.erase m } else s

def processResult (s : Service) (m : Message) (h : Handling) : Service :=
  if h.failed then
    if m.retryCount ≥ maxRetries then
      if h.published then s.ack m h else s
    else if h.published then
      Service.ack { s with retry := s.retry ++ [⟨m.event, m.retryCount + 1, s.now⟩] } m h
    else s
  else s.ack m h

def handleMessage (s : Service) (m : Message) (h : Handling) : Service :=
  processResult (if h.committed then s.write m.event else s) m h

/-- Up to `limit` rows older than `before`, the oldest first. -/
structure Oldest (rows : String → Option Time) (before : Time) (limit : Nat) (chosen : List String) : Prop where
  bounded : chosen.length ≤ limit
  expired : ∀ k ∈ chosen, ∃ t ∈ rows k, t < before
  rest : ∀ k ∉ chosen, ∀ t ∈ rows k, t < before → chosen.length = limit ∧ ∀ c ∈ chosen, ∀ u ∈ rows c, u ≤ t

def Service.tombstones (s : Service) (p : String) : Option Time := s.db (.tombstone p)

def Service.processedEvents (s : Service) (id : String) : Option Time := s.db (.processedEvent id)

def Service.deleteTombstones (s : Service) (chosen : List String) : Service :=
  { s with
    db := fun k => match k with
      | .tombstone p => if p ∈ chosen then none else s.db (.tombstone p)
      | k => s.db k
    collected := s.collected ++ chosen.filterMap fun p => (s.tombstones p).map (Key.tombstone p, ·) }

def Service.deleteProcessedEvents (s : Service) (chosen : List String) : Service :=
  { s with
    db := fun k => match k with
      | .processedEvent id => if id ∈ chosen then none else s.db (.processedEvent id)
      | k => s.db k
    collected := s.collected ++ chosen.filterMap fun id => (s.processedEvents id).map (Key.processedEvent id, ·) }

inductive Move where
  | wait (later : Time)
  /-- The relay of the outbox publishes, whenever it comes to it and as often. -/
  | publish (e : ProductEvent)
  | handle (m : Message) (h : Handling)
  | expire (m : Message)
  | retried (m : Message)
  | deleteExpiredTombstones (chosen : List String)
  | deleteExpiredProcessedEvents (chosen : List String)

inductive Step (s : Service) : Move → Service → Prop
  | wait {later : Time} (forward : s.now ≤ later) : Step s (.wait later) { s with now := later }
  | publish (e : ProductEvent) : Step s (.publish e) { s with main := s.main ++ [⟨e, 0, s.now⟩] }
  | handle {m : Message} {h : Handling} (queued : m ∈ s.main) (answered : h.failed = false → h.committed = true) :
    Step s (.handle m h) (handleMessage s m h)
  | expire {m : Message} (queued : m ∈ s.main) (old : m.queuedAt + MainQueueTTL ≤ s.now) :
    Step s (.expire m) { s with main := s.main.erase m }
  | retried {m : Message} (queued : m ∈ s.retry) (old : m.queuedAt + retryTTL ≤ s.now) :
    Step s (.retried m) { s with retry := s.retry.erase m, main := s.main ++ [⟨m.event, m.retryCount, s.now⟩] }
  | deleteExpiredTombstones {chosen : List String}
    (oldest : Oldest s.tombstones (s.now - retention) retentionDeleteLimit chosen) :
    Step s (.deleteExpiredTombstones chosen) (s.deleteTombstones chosen)
  | deleteExpiredProcessedEvents {chosen : List String}
    (oldest : Oldest s.processedEvents (s.now - retention) retentionDeleteLimit chosen) :
    Step s (.deleteExpiredProcessedEvents chosen) (s.deleteProcessedEvents chosen)

/-- The states of the runs whose steps meet `guard`. -/
inductive Reached (guard : Service → Move → Prop) : Service → Prop
  | start : Reached guard .start
  | step {s s' : Service} {m : Move} (run : Reached guard s) (met : guard s m) (step : Step s m s') : Reached guard s'

end Marketplace.Search
