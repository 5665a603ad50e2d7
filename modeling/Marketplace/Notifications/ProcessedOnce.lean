import Marketplace.Notifications.Consumer
import Marketplace.ReadCommitted.Ledger
import Mathlib.Algebra.BigOperators.Group.List.Basic

/-! Every event is processed once, and acknowledged only when it is taken care of. -/
namespace Marketplace.Notifications
open ReadCommitted ReadCommitted.Tx

/-- What a dispatch of the message writes. -/
def Dispatched (toLocaleString : Money → String) (msg : Message) (log : List Mark) : Prop :=
  ∃ envelope written, msg.content = some envelope ∧ dispatch toLocaleString envelope.event = .ok written ∧
    log = .processedEvent envelope.eventId :: written.map (.written envelope.eventId)

/-- What stands under the id of an event. -/
def under (s : Store (Table Row) Mark) (id : Id) : List Mark := s.journal.filter (·.eventId = id)

/-- The event of a message has been processed. -/
def Done (s : Store (Table Row) Mark) (msg : Message) : Prop :=
  ∃ envelope, msg.content = some envelope ∧ processedEvents.Claimed s envelope.eventId

/-- What a settlement stands for. -/
def Settlement.Justified (s : Store (Table Row) Mark) (msg : Message) : Settlement → Prop
  | .copied .dlq => True
  | .copied .retry => getRetryCount msg.headers < MAX_RETRY
  | _ => Done s msg

theorem Done.stays {s t : Store (Table Row) Mark} {msg : Message} (done : Done s msg)
    (stays : processedEvents.Stays s t) : Done t msg := by
  obtain ⟨envelope, content, claimed⟩ := done
  exact ⟨envelope, content, stays _ claimed⟩

theorem Settlement.Justified.stays {s t : Store (Table Row) Mark} {msg : Message} {settled : Settlement}
    (justified : settled.Justified s msg) (stays : processedEvents.Stays s t) : settled.Justified t msg := by
  cases settled with
  | duplicate => exact Done.stays justified stays
  | processed => exact Done.stays justified stays
  | copied key =>
    cases key with
    | retry => exact justified
    | dlq => trivial

theorem retryOrPark_justified {s : Store (Table Row) Mark} {msg : Message} : (retryOrPark msg).Justified s msg := by
  unfold retryOrPark
  split
  · trivial
  · next few => exact Nat.lt_of_not_le few

theorem handleProcessingError_justified {s : Store (Table Row) Mark} {msg : Message} {e : Err}
    (taken : e = .uniqueViolation → Done s msg) : (handleProcessingError msg e).Justified s msg := by
  cases e with
  | uniqueViolation => exact taken rfl
  | handler e =>
    cases e with
    | poisonPayload => trivial
    | typeError => exact retryOrPark_justified
  | transient => exact retryOrPark_justified

section
variable {toLocaleString : Money → String} {envelope : OutboxEnvelope} {I : Isolation (Table Row) Mark}
  {v : View (Table Row) Mark}

theorem within_runDispatch :
    (runDispatch toLocaleString envelope).Within processedEvents.Apart processedEvents.Quiet := by
  unfold runDispatch
  split
  · exact within_forM _ fun w _ => (within_note _).mpr fun id => nofun
  · exact within_raise _

theorem runDispatch_fails : (runDispatch toLocaleString envelope).wp I (fun _ _ => True)
    (fun e => e ≠ .uniqueViolation) v := by
  unfold runDispatch
  split
  · refine wp_mono _ (wp_forM (fun _ _ => True) _ (fun _ _ w _ => ?_) _ trivial) (fun _ _ _ => trivial) fun _ e => e
    rw [wp_note]
    trivial
  · rintro ⟨⟩

end

section
variable {toLocaleString : Money → String} {msg : Message} {s t : Store (Table Row) Mark}

/-- Where the processing of a message stands. -/
inductive Stage (toLocaleString : Money → String) (msg : Message) (s : Store (Table Row) Mark) : Request → Prop
  | start : Stage toLocaleString msg s (processMessage toLocaleString msg)
  | process {envelope : OutboxEnvelope} (content : msg.content = some envelope) :
      Stage toLocaleString msg s (.tx (processEvent toLocaleString envelope)
        (fun _ => .tx (pure ()) (fun _ => .done .processed) fun e => .done (handleProcessingError msg e))
        fun e => .done (handleProcessingError msg e))
  | rest (done : Done s msg) :
      Stage toLocaleString msg s (.tx (pure ()) (fun _ => .done .processed) fun e => .done (handleProcessingError msg e))
  | settled {settled : Settlement} (justified : settled.Justified s msg) : Stage toLocaleString msg s (.done settled)

theorem Stage.stays {r : Request} (stage : Stage toLocaleString msg s r) (stays : processedEvents.Stays s t) :
    Stage toLocaleString msg t r := by
  cases stage with
  | start => exact .start
  | process content => exact .process content
  | rest done => exact .rest (done.stays stays)
  | settled justified => exact .settled (justified.stays stays)

theorem Stage.failed {e : Err} (taken : e = .uniqueViolation → Done s msg) :
    Stage toLocaleString msg s (.done (handleProcessingError msg e)) :=
  .settled (handleProcessingError_justified taken)

/-- Events are claimed once, and a delivery is settled with a reason. -/
def processing (toLocaleString : Money → String) (deliveries : Nat → Message) :
    Invariant (Table Row) Mark Err Settlement (fun _ _ => True) .transient where
  Inv := processedEvents.Sound
  Le := processedEvents.Stays
  Ready i s r := Stage toLocaleString (deliveries i) s r
  le_refl := processedEvents.stays_refl
  le_trans first second := first.trans _ second
  ready_le stays stage := stage.stays stays
  aborted := by
    intro i s α body ok err stage
    generalize made : (Req.tx body ok err : Request) = r at stage
    cases stage with
    | start =>
      unfold processMessage at made
      split at made
      · cases made
      · cases made
        exact .failed nofun
    | process content =>
      cases made
      exact .failed nofun
    | rest done =>
      cases made
      exact .failed nofun
    | settled => cases made
  commits := by
    intro i α body ok err h m sound ordered small stage
    have now := sound h.now (Nat.le_refl _)
    have unchanged : ∀ w : View (Table Row) Mark, w.rows = h.current.rows → w.log = [] →
        processedEvents.Sound (h.commit w) ∧ processedEvents.Stays h.current (h.commit w) := by
      intro w rows log
      have grown : (h.commit w).journal = h.current.journal ++ [] := congrArg (h.current.journal ++ ·) log
      have same : ∀ id, (h.commit w).rows (processedEvents.key id) = h.current.rows (processedEvents.key id) := fun id =>
        congrFun rows _
      refine ⟨now.aside same grown fun e no => absurd no List.not_mem_nil, fun id claimed => ?_⟩
      show (h.commit w).rows _ ≠ none
      rw [same]
      exact claimed
    generalize made : (Req.tx body ok err : Request) = r at stage
    cases stage with
    | start =>
      unfold processMessage at made
      split at made
      · cases made
      · next envelope content =>
        cases made
        rw [wp_select]
        intro d j sees _ _
        obtain ⟨sound', stays⟩ := unchanged ((View.start h.current.rows m).looking j) rfl rfl
        refine ⟨sound', stays, ?_⟩
        obtain ⟨_, earlier, rfl⟩ := sees
        show Stage toLocaleString (deliveries i) _
          (if ((h.past j).rows (.processedEvent envelope.eventId)).isSome then .done .duplicate else _)
        by_cases found : ((h.past j).rows (.processedEvent envelope.eventId)).isSome
        · -- the row that was read is still there
          rw [if_pos found]
          have stood : processedEvents.Claimed (h.past j) envelope.eventId := Option.isSome_iff_ne_none.mp found
          have since := ordered j h.now earlier (Nat.le_refl _)
          have done : Done (h.commit _) (deliveries i) := ⟨envelope, content, stays _ (since _ stood)⟩
          exact .settled done
        · rw [if_neg found]
          exact .process content
    | @process envelope content =>
      cases made
      have failed : ∀ e : Err, e ≠ .uniqueViolation →
          Stage toLocaleString (deliveries i) h.current (.done (handleProcessingError (deliveries i) e)) :=
        fun e other => .failed fun same => absurd same other
      refine wp_mono _ (Inbox.wp_once_sound within_runDispatch (fun w => ?_) fun stands => ?_) (fun _ w claims _ _ => ?_)
        fun _ e => e
      · exact wp_mono _ runDispatch_fails (fun _ _ _ => trivial) failed
      · exact .failed fun _ => ⟨envelope, content, stands⟩
      · obtain ⟨sound', stays, claimed⟩ := claims now
        exact ⟨sound', stays, .rest ⟨envelope, content, claimed⟩⟩
    | rest done =>
      cases made
      intro _ _
      obtain ⟨sound', stays⟩ := unchanged (View.start h.current.rows m) rfl rfl
      have since := ordered m h.now small (Nat.le_refl _)
      exact ⟨sound', stays, .settled ((done.stays since).stays stays)⟩
    | settled => cases made

theorem ends_processEvent {envelope : OutboxEnvelope} (content : msg.content = some envelope) :
    (processEvent toLocaleString envelope).Ends (fun _ log => Dispatched toLocaleString msg log) [] := by
  unfold processEvent Inbox.once Tx.insert
  rw [ends_bind, ends_bind, ends_selectForUpdate]
  intro d
  rw [ends_bind]
  refine ends_require fun _ => ?_
  rw [ends_modify, ends_bind, ends_note]
  unfold runDispatch
  split
  · next written dispatched => exact ends_notes _ _ ⟨envelope, written, content, dispatched, rfl⟩
  · trivial

theorem once_processMessage (toLocaleString : Money → String) (msg : Message) :
    (processMessage toLocaleString msg).Once (Dispatched toLocaleString msg) := by
  unfold processMessage
  split
  · trivial
  · next envelope content =>
    refine ⟨fun d => Or.inl ⟨rfl, ?_⟩, fun e => trivial⟩
    show Req.Once (if (d (.processedEvent envelope.eventId)).isSome then _ else _) _
    split
    · trivial
    · refine ⟨(ends_processEvent content).mono fun _ log made => Or.inr ⟨made, ?_⟩, fun e => trivial⟩
      exact ⟨Or.inl ⟨rfl, trivial⟩, fun e => trivial⟩

end

section
variable {toLocaleString : Money → String} {deliveries : Nat → Message} {deadLetter : Headers → Headers}
  {guard : Service → Move → Prop} {s t : Service}

theorem requeue_conf (s : Service) (i : Nat) : (s.requeue deliveries i).conf = s.conf := by
  unfold Service.requeue
  split
  · rfl
  · rfl

theorem requeue_delivered (s : Service) (i : Nat) : (s.requeue deliveries i).delivered = s.delivered := by
  unfold Service.requeue
  split
  · rfl
  · rfl

theorem copy_conf (s : Service) (i : Nat) (settled : Settlement) : (s.copy deliveries i settled).conf = s.conf := by
  unfold Service.copy
  split
  · rfl
  · rfl
  · rfl

theorem copy_delivered (s : Service) (i : Nat) (settled : Settlement) :
    (s.copy deliveries i settled).delivered = s.delivered := by
  unfold Service.copy
  split
  · rfl
  · rfl
  · rfl

/-- What a move does to the database and the deliveries that run over it. -/
inductive Ran (s t : Service) : Prop
  | idle (conf : t.conf = s.conf) (delivered : s.delivered ≤ t.delivered)
  | advanced (i : Nat) (small : i < s.delivered) (next : s.conf.advance i = some t.conf)
      (delivered : t.delivered = s.delivered)
  | aborted (i : Nat) {α : Type} {body : Action α} {ok : α → Request} {err : Err → Request} {mine : Db} {log : List Mark}
      (running : s.conf.thread i = .active body ok err mine log)
      (conf : t.conf = (s.conf.release i).become i (.idle (err .transient))) (delivered : t.delivered = s.delivered)
  | crashed (i : Nat) (conf : t.conf = (s.conf.release i).become i .down) (delivered : t.delivered = s.delivered)

theorem act_ran {m : Move} (next : s.act deliveries deadLetter m = some t) : Ran s t := by
  cases m with
  | publish content =>
    cases next
    exact .idle rfl (Nat.le_refl _)
  | deliver =>
    simp only [Service.act] at next
    split at next
    · cases next
      exact .idle rfl (Nat.le_succ _)
    · cases next
  | advance i =>
    simp only [Service.act] at next
    split at next
    · next small =>
      obtain ⟨c, stepped, rfl⟩ := Option.map_eq_some_iff.mp next
      exact .advanced i small stepped rfl
    · cases next
  | abort i =>
    simp only [Service.act] at next
    split at next
    · next running =>
      cases next
      exact .aborted i running rfl rfl
    · cases next
  | crash i =>
    simp only [Service.act] at next
    split at next
    · cases next
      exact .crashed i (requeue_conf _ i) (requeue_delivered _ i)
    · cases next
  | settle i =>
    simp only [Service.act] at next
    split at next
    · obtain ⟨settled, _, rfl⟩ := Option.map_eq_some_iff.mp next
      exact .idle (copy_conf s i settled) (Nat.le_of_eq (copy_delivered s i settled).symm)
    · cases next
  | unheard i =>
    simp only [Service.act] at next
    split at next
    · obtain ⟨settled, _, rfl⟩ := Option.map_eq_some_iff.mp next
      exact .idle ((requeue_conf _ i).trans (copy_conf s i settled))
        (Nat.le_of_eq ((requeue_delivered _ i).trans (copy_delivered s i settled)).symm)
    · cases next
  | giveBack i =>
    cases next
    exact .idle (requeue_conf s i) (Nat.le_of_eq (requeue_delivered s i).symm)
  | expire m =>
    simp only [Service.act] at next
    split at next
    · cases next
      exact .idle rfl (Nat.le_refl _)
    · cases next

theorem Ran.moves (ran : Ran s t)
    {c : Conf (Table Row) Mark Err Settlement} (run : Moves (fun _ _ => True) .transient c s.conf) :
    Moves (fun _ _ => True) .transient c t.conf := by
  cases ran with
  | idle conf _ =>
    rw [conf]
    exact run
  | advanced i _ next _ => exact .tail run (.step i next fun _ _ => trivial)
  | aborted i running conf _ =>
    rw [conf]
    exact .tail run (.abort i running)
  | crashed i conf _ =>
    rw [conf]
    exact .tail run (.crash i)

theorem Reached.moves (run : Reached deliveries deadLetter toLocaleString guard s) :
    Moves (fun _ _ => True) .transient (Service.start deliveries toLocaleString).conf s.conf := by
  induction run with
  | start => exact .refl _
  | step _ _ next ih => exact (act_ran next).moves ih

theorem sound_start : processedEvents.Sound (⟨fun _ => none, []⟩ : Store (Table Row) Mark) where
  free _ _ := List.not_mem_nil
  once _ claimed := absurd rfl claimed

theorem Reached.processing (run : Reached deliveries deadLetter toLocaleString guard s) :
    processedEvents.Sound s.conf.store ∧
      ∀ i r, s.conf.thread i = .idle r → Stage toLocaleString (deliveries i) s.conf.store r :=
  (Notifications.processing toLocaleString deliveries).run_safe sound_start (fun _ => .start) run.moves

theorem Reached.stays (run : Reached deliveries deadLetter toLocaleString guard s) (ran : Ran s t) :
    processedEvents.Stays s.conf.store t.conf.store :=
  (Notifications.processing toLocaleString deliveries).run_le sound_start (fun _ => .start) run.moves (ran.moves (.refl _))

theorem Stage.justified {msg : Message} {u : Store (Table Row) Mark} {settled : Settlement}
    (stage : Stage toLocaleString msg u (.done settled)) : settled.Justified u msg := by
  generalize ended : (Req.done settled : Request) = r at stage
  cases stage with
  | start =>
    unfold processMessage at ended
    split at ended
    · cases ended
      trivial
    · cases ended
  | process => cases ended
  | rest => cases ended
  | settled justified =>
    cases ended
    exact justified

theorem Reached.justified (run : Reached deliveries deadLetter toLocaleString guard s) {i : Nat} {settled : Settlement}
    (ended : settlement s.conf i = some settled) : settled.Justified s.conf.store (deliveries i) := by
  unfold settlement at ended
  split at ended
  · next found =>
    cases ended
    exact (run.processing.2 i _ found).justified
  · cases ended

/-- Every commit that wrote anything is of a delivery, and wrote what a dispatch of it writes. -/
def Booked (toLocaleString : Money → String) (deliveries : Nat → Message) (s : Service) (entries : List (Nat × List Mark)) :
    Prop :=
  Ledger ⟨fun _ => none, []⟩ (fun i log => Dispatched toLocaleString (deliveries i) log) s.conf entries ∧
    ∀ x ∈ entries, x.1 < s.delivered

theorem Reached.booked (run : Reached deliveries deadLetter toLocaleString guard s) :
    ∃ entries, Booked toLocaleString deliveries s entries := by
  induction run with
  | start =>
    refine ⟨[], ⟨fun i => ?_, List.nodup_nil, rfl, fun x no => absurd no List.not_mem_nil⟩, fun x no => absurd no List.not_mem_nil⟩
    exact (once_processMessage toLocaleString (deliveries i)).mono fun log made => ⟨List.not_mem_nil, made⟩
  | @step s t m _ _ next ih =>
    obtain ⟨entries, ledger, small⟩ := ih
    cases act_ran next with
    | idle conf delivered =>
      refine ⟨entries, ?_, fun x member => Nat.lt_of_lt_of_le (small x member) delivered⟩
      rw [conf]
      exact ledger
    | advanced i early next delivered =>
      obtain ⟨entries', ledger', more⟩ := ledger.advance next
      refine ⟨entries', ledger', fun x member => ?_⟩
      rw [delivered]
      rcases more x member with old | rfl
      · exact small x old
      · exact early
    | aborted i running conf delivered =>
      have once := ledger.threads i
      rw [running] at once
      refine ⟨entries, ?_, delivered ▸ small⟩
      rw [conf]
      exact ledger.become (i := i) rfl rfl (once.2 _)
    | crashed i conf delivered =>
      refine ⟨entries, ?_, delivered ▸ small⟩
      rw [conf]
      exact ledger.become (i := i) rfl rfl trivial

/-- Nothing under the id, or what one dispatch of a delivery writes. -/
def OneDispatch (toLocaleString : Money → String) (deliveries : Nat → Message) (s : Service) (id : Id) : Prop :=
  (s.conf.store.rows (.processedEvent id) = none ∧ under s.conf.store id = []) ∨
    (s.conf.store.rows (.processedEvent id) ≠ none ∧ ∃ i < s.delivered, ∃ envelope written,
      (deliveries i).content = some envelope ∧ envelope.eventId = id ∧
      dispatch toLocaleString envelope.event = .ok written ∧
      under s.conf.store id = .processedEvent id :: written.map (.written id))

theorem Dispatched.wrote {msg : Message} {log : List Mark} (made : Dispatched toLocaleString msg log) :
    ∃ id, processedEvents.Wrote Mark.eventId id log := by
  obtain ⟨envelope, written, _, _, rfl⟩ := made
  refine ⟨envelope.eventId, _, rfl, fun e member => ?_⟩
  rcases List.mem_cons.mp member with rfl | later
  · rfl
  · obtain ⟨w, _, rfl⟩ := List.mem_map.mp later
    rfl

theorem Reached.oneDispatch (run : Reached deliveries deadLetter toLocaleString guard s) (id : Id) :
    OneDispatch toLocaleString deliveries s id := by
  obtain ⟨entries, ledger, small⟩ := run.booked
  have sound := run.processing.1
  have journal : s.conf.store.journal = entries.flatMap Prod.snd := ledger.journal
  have wrote : ∀ x ∈ entries, ∃ id, processedEvents.Wrote Mark.eventId id x.2 := fun x member => (ledger.made x member).wrote
  by_cases claimed : processedEvents.Claimed s.conf.store id
  · have once : (entries.flatMap Prod.snd).count (processedEvents.claim id) = 1 := journal ▸ sound.once id claimed
    obtain ⟨x, member, ⟨rest, log, _⟩, found⟩ := Inbox.exists_entry wrote (fun _ => rfl) once
    obtain ⟨envelope, written, content, dispatched, made⟩ := ledger.made x member
    obtain rfl : envelope.eventId = id := Mark.processedEvent.inj (List.cons.inj (made.symm.trans log)).1
    refine Or.inr ⟨claimed, x.1, small x member, envelope, written, content, rfl, dispatched, ?_⟩
    rw [under, journal, found, made]
  · have absent : processedEvents.claim id ∉ entries.flatMap Prod.snd := journal ▸ sound.free id claimed
    refine Or.inl ⟨by_contra claimed, ?_⟩
    rw [under, journal]
    exact Inbox.filter_unclaimed wrote absent

/-- How often deliveries of an origin have begun. -/
def begun (deliveries : Nat → Message) (s : Service) (origin : Nat) : Nat :=
  (List.range s.delivered).countP fun i => (deliveries i).origin = origin

/-- How often a message may still be delivered. -/
def passesLeft (origin : Nat) (m : Message) : Nat := if m.origin = origin then MAX_RETRY + 1 - getRetryCount m.headers else 0

def died (deadLetter : Headers → Headers) (m : Message) : Message := { m with headers := deadLetter m.headers }

/-- The deliveries of an origin that the messages on their way still allow. -/
def pending (deliveries : Nat → Message) (deadLetter : Headers → Headers) (s : Service) (origin : Nat) : Nat :=
  (s.notifications.map (passesLeft origin)).sum + (s.retry.map fun m => passesLeft origin (died deadLetter m)).sum +
    (s.inFlight.map fun i => passesLeft origin (died deadLetter (deliveries i))).sum

/-- What the number of deliveries of an origin is bounded by. -/
structure Bounded (deliveries : Nat → Message) (deadLetter : Headers → Headers) (s : Service) : Prop where
  queued : ∀ m ∈ s.notifications, getRetryCount m.headers ≤ MAX_RETRY
  retrying : ∀ m ∈ s.retry, getRetryCount m.headers < MAX_RETRY
  flying : ∀ i ∈ s.inFlight, getRetryCount (deliveries i).headers ≤ MAX_RETRY
  starts : ∀ origin, begun deliveries s origin + pending deliveries deadLetter s origin ≤
    (MAX_RETRY + 1) * ((List.range s.published).count origin + s.returned.count origin)

theorem passesLeft_died (passes : ∀ h, getRetryCount (deadLetter h) = getRetryCount h + 1)
    {m : Message} (few : getRetryCount m.headers ≤ MAX_RETRY) (origin : Nat) :
    passesLeft origin m = passesLeft origin (died deadLetter m) + if m.origin = origin then 1 else 0 := by
  have more : getRetryCount (died deadLetter m).headers = getRetryCount m.headers + 1 := passes m.headers
  unfold passesLeft
  rw [more, show (died deadLetter m).origin = m.origin from rfl]
  split
  · omega
  · rfl

theorem passesLeft_le (origin : Nat) (m : Message) :
    passesLeft origin m ≤ if m.origin = origin then MAX_RETRY + 1 else 0 := by
  unfold passesLeft
  split
  · exact Nat.sub_le _ _
  · exact Nat.le_refl 0

section
variable (bounded : Bounded deliveries deadLetter s)
include bounded

theorem Bounded.publish (content : Option OutboxEnvelope) (next : s.act deliveries deadLetter (.publish content) = some t) :
    Bounded deliveries deadLetter t := by
  cases next
  refine ⟨fun m member => ?_, bounded.retrying, bounded.flying, fun origin => ?_⟩
  · rcases List.mem_append.mp member with early | last
    · exact bounded.queued m early
    · obtain rfl := List.mem_singleton.mp last
      exact Nat.zero_le _
  · have before := bounded.starts origin
    have fresh : passesLeft origin ⟨s.published, content, ⟨none⟩⟩ = if s.published = origin then 6 else 0 := rfl
    simp only [pending, begun, MAX_RETRY, List.map_append, List.sum_append, List.map_singleton, List.sum_singleton] at before ⊢
    rw [fresh]
    simp only [List.range_succ, List.count_append, List.count_singleton, beq_iff_eq]
    split
    · omega
    · omega

theorem Bounded.deliver (passes : ∀ h, getRetryCount (deadLetter h) = getRetryCount h + 1)
    (next : s.act deliveries deadLetter .deliver = some t) : Bounded deliveries deadLetter t := by
  simp only [Service.act] at next
  split at next
  · next queued =>
    cases next
    have few := bounded.queued _ queued
    refine ⟨fun m member => bounded.queued m (List.mem_of_mem_erase member), bounded.retrying, fun i member => ?_,
      fun origin => ?_⟩
    · rcases List.mem_append.mp member with early | last
      · exact bounded.flying i early
      · obtain rfl := List.mem_singleton.mp last
        exact few
    · have before := bounded.starts origin
      have left := List.sum_map_erase (passesLeft origin) queued
      have one := passesLeft_died passes few origin
      simp only [pending, begun, MAX_RETRY, List.map_append, List.sum_append, List.map_singleton, List.sum_singleton,
        List.range_succ, List.countP_append, List.countP_singleton, decide_eq_true_eq] at before ⊢
      omega
  · cases next

theorem Bounded.expire (passes : ∀ h, getRetryCount (deadLetter h) = getRetryCount h + 1) (m : Message)
    (next : s.act deliveries deadLetter (.expire m) = some t) : Bounded deliveries deadLetter t := by
  simp only [Service.act] at next
  split at next
  · next waiting =>
    cases next
    have few := bounded.retrying m waiting
    refine ⟨fun n member => ?_, fun n member => bounded.retrying n (List.mem_of_mem_erase member), bounded.flying,
      fun origin => ?_⟩
    · rcases List.mem_append.mp member with early | last
      · exact bounded.queued n early
      · obtain rfl := List.mem_singleton.mp last
        show getRetryCount (deadLetter m.headers) ≤ MAX_RETRY
        rw [passes]
        exact few
    · have before := bounded.starts origin
      have left := List.sum_map_erase (fun m => passesLeft origin (died deadLetter m)) waiting
      simp only [pending, begun, MAX_RETRY, List.map_append, List.sum_append, List.map_singleton, List.sum_singleton] at before ⊢
      have same : passesLeft origin { m with headers := deadLetter m.headers } = passesLeft origin (died deadLetter m) := rfl
      omega
  · cases next

/-- A delivery comes to its end. -/
theorem Bounded.ack (i : Nat) (settled : Settlement) : Bounded deliveries deadLetter (s.ack i settled) := by
  refine ⟨bounded.queued, bounded.retrying, fun j member => bounded.flying j (List.mem_of_mem_erase member), fun origin => ?_⟩
  have before := bounded.starts origin
  have less : ((s.inFlight.erase i).map fun i => passesLeft origin (died deadLetter (deliveries i))).sum ≤
      (s.inFlight.map fun i => passesLeft origin (died deadLetter (deliveries i))).sum := by
    by_cases member : i ∈ s.inFlight
    · exact Nat.le_of_add_left_le (Nat.le_of_eq (List.sum_map_erase _ member))
    · exact Nat.le_of_eq (by rw [List.erase_of_not_mem member])
  simp only [pending, begun, MAX_RETRY, Service.ack] at before ⊢
  omega

theorem Bounded.requeue (passes : ∀ h, getRetryCount (deadLetter h) = getRetryCount h + 1) (i : Nat) :
    Bounded deliveries deadLetter (s.requeue deliveries i) := by
  unfold Service.requeue
  split
  · next flying =>
    have few := bounded.flying i flying
    refine ⟨fun m member => ?_, bounded.retrying, fun j member => bounded.flying j (List.mem_of_mem_erase member),
      fun origin => ?_⟩
    · rcases List.mem_append.mp member with early | last
      · exact bounded.queued m early
      · obtain rfl := List.mem_singleton.mp last
        exact few
    · have before := bounded.starts origin
      have left := List.sum_map_erase (fun i => passesLeft origin (died deadLetter (deliveries i))) flying
      have one := passesLeft_died passes few origin
      simp only [pending, begun, MAX_RETRY, List.map_append, List.sum_append, List.map_singleton, List.sum_singleton,
        List.count_append, List.count_singleton, beq_iff_eq] at before ⊢
      split at one
      · next same =>
        rw [if_pos same]
        omega
      · next other =>
        rw [if_neg other]
        omega
  · exact bounded

/-- The copy takes over the passes of the delivery. -/
theorem Bounded.settle {i : Nat} (flying : i ∈ s.inFlight) {settled : Settlement}
    (justified : settled.Justified s.conf.store (deliveries i)) :
    Bounded deliveries deadLetter ((s.copy deliveries i settled).ack i settled) := by
  cases settled with
  | duplicate => exact bounded.ack i _
  | processed => exact bounded.ack i _
  | copied key =>
    cases key with
    | dlq =>
      have same : Bounded deliveries deadLetter (s.copy deliveries i (.copied .dlq)) :=
        ⟨bounded.queued, bounded.retrying, bounded.flying, bounded.starts⟩
      exact same.ack i _
    | retry =>
      refine ⟨bounded.queued, fun m member => ?_, fun j member => bounded.flying j (List.mem_of_mem_erase member),
        fun origin => ?_⟩
      · rcases List.mem_append.mp member with early | last
        · exact bounded.retrying m early
        · obtain rfl := List.mem_singleton.mp last
          exact justified
      · have before := bounded.starts origin
        have left := List.sum_map_erase (fun i => passesLeft origin (died deadLetter (deliveries i))) flying
        simp only [pending, begun, MAX_RETRY, Service.copy, Service.ack, List.map_append, List.sum_append,
          List.map_singleton, List.sum_singleton] at before ⊢
        omega

/-- Both the copy and the message given back may be delivered on. -/
theorem Bounded.unheard (passes : ∀ h, getRetryCount (deadLetter h) = getRetryCount h + 1) {i : Nat}
    (flying : i ∈ s.inFlight) {settled : Settlement} (justified : settled.Justified s.conf.store (deliveries i)) :
    Bounded deliveries deadLetter ((s.copy deliveries i settled).requeue deliveries i) := by
  cases settled with
  | duplicate => exact bounded.requeue passes i
  | processed => exact bounded.requeue passes i
  | copied key =>
    cases key with
    | dlq =>
      have same : Bounded deliveries deadLetter (s.copy deliveries i (.copied .dlq)) :=
        ⟨bounded.queued, bounded.retrying, bounded.flying, bounded.starts⟩
      exact same.requeue passes i
    | retry =>
      have few := bounded.flying i flying
      unfold Service.requeue
      rw [if_pos (show i ∈ (s.copy deliveries i (.copied .retry)).inFlight from flying)]
      refine ⟨fun m member => ?_, fun m member => ?_, fun j member => bounded.flying j (List.mem_of_mem_erase member),
        fun origin => ?_⟩
      · rcases List.mem_append.mp member with early | last
        · exact bounded.queued m early
        · obtain rfl := List.mem_singleton.mp last
          exact few
      · rcases List.mem_append.mp member with early | last
        · exact bounded.retrying m early
        · obtain rfl := List.mem_singleton.mp last
          exact justified
      · have before := bounded.starts origin
        have left := List.sum_map_erase (fun i => passesLeft origin (died deadLetter (deliveries i))) flying
        have one := passesLeft_died passes few origin
        have most := passesLeft_le origin (deliveries i)
        simp only [pending, begun, MAX_RETRY, Service.copy, List.map_append, List.sum_append, List.map_singleton,
          List.sum_singleton, List.count_append, List.count_singleton, beq_iff_eq] at before most ⊢
        by_cases same : (deliveries i).origin = origin
        · rw [if_pos same] at one most ⊢
          omega
        · rw [if_neg same] at one most ⊢
          omega

end

theorem Reached.bounded (passes : ∀ h, getRetryCount (deadLetter h) = getRetryCount h + 1)
    (run : Reached deliveries deadLetter toLocaleString guard s) : Bounded deliveries deadLetter s := by
  induction run with
  | start =>
    exact ⟨fun m no => absurd no List.not_mem_nil, fun m no => absurd no List.not_mem_nil,
      fun i no => absurd no List.not_mem_nil, fun origin => Nat.zero_le _⟩
  | @step s t m run _ next ih =>
    cases m with
    | publish content => exact ih.publish content next
    | deliver => exact ih.deliver passes next
    | advance i =>
      simp only [Service.act] at next
      split at next
      · obtain ⟨c, _, rfl⟩ := Option.map_eq_some_iff.mp next
        exact ⟨ih.queued, ih.retrying, ih.flying, ih.starts⟩
      · cases next
    | abort i =>
      simp only [Service.act] at next
      split at next
      · cases next
        exact ⟨ih.queued, ih.retrying, ih.flying, ih.starts⟩
      · cases next
    | crash i =>
      simp only [Service.act] at next
      split at next
      · cases next
        have same : Bounded deliveries deadLetter { s with conf := (s.conf.release i).become i .down } :=
          ⟨ih.queued, ih.retrying, ih.flying, ih.starts⟩
        exact same.requeue passes i
      · cases next
    | settle i =>
      simp only [Service.act] at next
      split at next
      · next flying =>
        obtain ⟨settled, ended, rfl⟩ := Option.map_eq_some_iff.mp next
        exact ih.settle flying (run.justified ended)
      · cases next
    | unheard i =>
      simp only [Service.act] at next
      split at next
      · next flying =>
        obtain ⟨settled, ended, rfl⟩ := Option.map_eq_some_iff.mp next
        exact ih.unheard passes flying (run.justified ended)
      · cases next
    | giveBack i =>
      cases next
      exact ih.requeue passes i
    | expire m => exact ih.expire passes m next

/-- The event of an acknowledged delivery has been processed, or a copy of it was published. -/
def Honest (deliveries : Nat → Message) (s : Service) (x : Nat × Settlement) : Prop :=
  match x.2 with
  | .copied key => (x.1, key) ∈ s.copies
  | _ => Done s.conf.store (deliveries x.1)

theorem Honest.stays {x : Nat × Settlement} (honest : Honest deliveries s x)
    (stays : processedEvents.Stays s.conf.store t.conf.store) (copies : s.copies ⊆ t.copies) : Honest deliveries t x := by
  obtain ⟨i, settled⟩ := x
  cases settled with
  | duplicate => exact Done.stays honest stays
  | processed => exact Done.stays honest stays
  | copied key => exact copies honest

theorem copies_requeue (s : Service) (i : Nat) : (s.requeue deliveries i).copies = s.copies := by
  unfold Service.requeue
  split
  · rfl
  · rfl

theorem acked_requeue (s : Service) (i : Nat) : (s.requeue deliveries i).acked = s.acked := by
  unfold Service.requeue
  split
  · rfl
  · rfl

theorem copies_copy (s : Service) (i : Nat) (settled : Settlement) : s.copies ⊆ (s.copy deliveries i settled).copies := by
  unfold Service.copy
  split
  · exact List.subset_append_left _ _
  · exact List.subset_append_left _ _
  · exact List.Subset.refl _

theorem acked_copy (s : Service) (i : Nat) (settled : Settlement) : (s.copy deliveries i settled).acked = s.acked := by
  unfold Service.copy
  split
  · rfl
  · rfl
  · rfl

/-- A delivery is acknowledged after its copy. -/
theorem honest_settle {i : Nat} {settled : Settlement} (justified : settled.Justified s.conf.store (deliveries i)) :
    Honest deliveries ((s.copy deliveries i settled).ack i settled) (i, settled) := by
  cases settled with
  | duplicate => exact justified
  | processed => exact justified
  | copied key =>
    cases key with
    | retry => exact List.mem_append_right _ (List.mem_singleton.mpr rfl)
    | dlq => exact List.mem_append_right _ (List.mem_singleton.mpr rfl)

theorem Reached.honest (run : Reached deliveries deadLetter toLocaleString guard s) : ∀ x ∈ s.acked, Honest deliveries s x := by
  induction run with
  | start => exact fun x no => absurd no List.not_mem_nil
  | @step s t m run _ next ih =>
    have stays := run.stays (act_ran next)
    have kept : t.acked = s.acked → s.copies ⊆ t.copies → ∀ x ∈ t.acked, Honest deliveries t x := by
      intro acked copies x member
      rw [acked] at member
      exact (ih x member).stays stays copies
    cases m with
    | publish content =>
      cases next
      exact kept rfl (List.Subset.refl _)
    | deliver =>
      simp only [Service.act] at next
      split at next
      · cases next
        exact kept rfl (List.Subset.refl _)
      · cases next
    | advance i =>
      simp only [Service.act] at next
      split at next
      · obtain ⟨c, _, rfl⟩ := Option.map_eq_some_iff.mp next
        exact kept rfl (List.Subset.refl _)
      · cases next
    | abort i =>
      simp only [Service.act] at next
      split at next
      · cases next
        exact kept rfl (List.Subset.refl _)
      · cases next
    | crash i =>
      simp only [Service.act] at next
      split at next
      · cases next
        refine kept (acked_requeue _ i) ?_
        rw [copies_requeue]
        exact List.Subset.refl _
      · cases next
    | settle i =>
      simp only [Service.act] at next
      split at next
      · obtain ⟨settled, ended, rfl⟩ := Option.map_eq_some_iff.mp next
        intro x member
        have grown : ((s.copy deliveries i settled).ack i settled).acked = s.acked ++ [(i, settled)] :=
          congrArg (· ++ [(i, settled)]) (acked_copy s i settled)
        rw [grown] at member
        rcases List.mem_append.mp member with early | last
        · exact (ih x early).stays stays (copies_copy s i settled)
        · obtain rfl := List.mem_singleton.mp last
          exact honest_settle (run.justified ended)
      · cases next
    | unheard i =>
      simp only [Service.act] at next
      split at next
      · obtain ⟨settled, _, rfl⟩ := Option.map_eq_some_iff.mp next
        refine kept ((acked_requeue _ i).trans (acked_copy s i settled)) ?_
        rw [copies_requeue]
        exact copies_copy s i settled
      · cases next
    | giveBack i =>
      cases next
      refine kept (acked_requeue s i) ?_
      rw [copies_requeue]
      exact List.Subset.refl _
    | expire m =>
      simp only [Service.act] at next
      split at next
      · cases next
        exact kept rfl (List.Subset.refl _)
      · cases next

/-- Every event is written by one dispatch or not at all, a delivery is acknowledged only when it is taken care of,
and a message is delivered `MAX_RETRY + 1` times for each time it is given to the consumer anew. -/
theorem events_processed_once (passes : ∀ h, getRetryCount (deadLetter h) = getRetryCount h + 1)
    (run : Reached deliveries deadLetter toLocaleString (fun _ _ => True) s) :
    (∀ id, OneDispatch toLocaleString deliveries s id) ∧ (∀ x ∈ s.acked, Honest deliveries s x) ∧
      ∀ origin, begun deliveries s origin ≤ (MAX_RETRY + 1) * (1 + s.returned.count origin) := by
  refine ⟨run.oneDispatch, run.honest, fun origin => ?_⟩
  have bound := (run.bounded passes).starts origin
  have once : (List.range s.published).count origin ≤ 1 := List.nodup_iff_count.mp List.nodup_range origin
  calc begun deliveries s origin ≤ (MAX_RETRY + 1) * ((List.range s.published).count origin + s.returned.count origin) :=
        Nat.le_of_add_right_le bound
    _ ≤ (MAX_RETRY + 1) * (1 + s.returned.count origin) := Nat.mul_le_mul_left _ (Nat.add_le_add_right once _)

end
/-- What a broker adds to the headers of a message that dies in the retry queue. -/
def countDeath (headers : Headers) : Headers :=
  match headers.xDeath with
  | none => ⟨some [some 1]⟩
  | some [] => ⟨some [some 1]⟩
  | some (count :: entries) => ⟨some (some (count.getD 0 + 1) :: entries)⟩

theorem countDeath_passes (headers : Headers) : getRetryCount (countDeath headers) = getRetryCount headers + 1 := by
  obtain ⟨xDeath⟩ := headers
  match xDeath with
  | none => rfl
  | some [] => rfl
  | some (count :: entries) =>
    simp only [countDeath, getRetryCount, List.map_cons, List.sum_cons, Option.getD_some]
    omega

def takenDown : OutboxEnvelope :=
  ⟨7, .productModerated ⟨some 1, some "Teapot", some 2, some 3, some "shop@example.com", some "shop", some .takenDown, none⟩⟩

/-- The event as it was published, and after a pass through the retry queue. -/
def takenDownAgain : Nat → Message
  | 0 => ⟨0, some takenDown, ⟨none⟩⟩
  | _ => ⟨0, some takenDown, ⟨some [some 1]⟩⟩

/-- The transaction is rolled back after its first row, and the retry goes through. -/
def retried : List Move :=
  [.publish (some takenDown), .deliver] ++ List.replicate 8 (.advance 0) ++ [.abort 0, .settle 0] ++
    [.expire (takenDownAgain 0), .deliver] ++ List.replicate 14 (.advance 1) ++ [.settle 1]

set_option maxRecDepth 4000 in
/-- The event is written once, by the second delivery. -/
theorem retried_once :
    ∃ s : Service, s.acked = [(0, .copied .retry), (1, .processed)] ∧ begun takenDownAgain s 0 = 2 ∧
      s.conf.store.rows (.processedEvent 7) ≠ none ∧
      (∀ id, OneDispatch (fun _ => "") takenDownAgain s id) ∧ (∀ x ∈ s.acked, Honest takenDownAgain s x) ∧
      ∀ origin, begun takenDownAgain s origin ≤ (MAX_RETRY + 1) * (1 + s.returned.count origin) := by
  let start : Service := .start takenDownAgain fun _ => ""
  have found : ∃ s ∈ start.play takenDownAgain countDeath retried, s.acked = [(0, .copied .retry), (1, .processed)] ∧
      begun takenDownAgain s 0 = 2 ∧ s.conf.store.rows (.processedEvent 7) ≠ none := by
    decide +kernel
  obtain ⟨s, played, acked, twice, stands⟩ := found
  have run := Reached.play .start (start.obeys_any retried) played
  exact ⟨s, acked, twice, stands, events_processed_once countDeath_passes run⟩

end Marketplace.Notifications
