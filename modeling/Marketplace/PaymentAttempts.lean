import Marketplace.Orders.Cancel
import Marketplace.ReadCommitted.Serial

/-! A payment and its attempts as one state machine. -/
namespace Marketplace
open ReadCommitted ReadCommitted.Tx

def createVnpayPaymentUrl (enabled : Bool) (order user : Id) (now timestamp : Time) : Request :=
  .tx (paymentUrlOrderNumber enabled order user)
    (fun orderNumber => single (addAttempt order orderNumber now timestamp) fun a => .paymentUrl a.1 a.2.1 a.2.2)
    fun e => .done (.failed e)

def vnpayIpn (verifySignature : VnpayQuery → Bool) (query : VnpayQuery) (anyRef : String) (now : Time) : Request :=
  single (handleVnpayIpn verifySignature query anyRef now) .ipn

inductive VnpayCall : Request → Prop
  | createUrl (enabled : Bool) (order user : Id) (now timestamp : Time) :
      VnpayCall (createVnpayPaymentUrl enabled order user now timestamp)
  | ipn (verifySignature : VnpayQuery → Bool) (query : VnpayQuery) (anyRef : String) (now : Time) :
      VnpayCall (vnpayIpn verifySignature query anyRef now)

/-- The attempts of an order's payment, oldest first. -/
def attemptRefs (d : Db) (o : Id) : List String := listed (d (.attemptsOf o))

def newestAttempt (d : Db) (o : Id) : Option String := (attemptRefs d o).getLast?

def attemptStatus (d : Db) (ref : String) : Option PaymentStatus := (d (.attempt ref)).map (·.status)

/-- What the payment says of its attempts in one state. -/
structure Follows (o : Id) (d : Db) : Prop where
  paid : isPaid (d (.payment o)) ↔ ∃ ref ∈ attemptRefs d o, attemptStatus d ref = some .completed
  named : ∀ p, d (.payment o) = some p → p.status = .completed →
    ∃ ref ∈ attemptRefs d o, p.vnpTxnRef = some ref ∧ attemptStatus d ref = some .completed
  newest : ∀ p ref, d (.payment o) = some p → newestAttempt d o = some ref →
    p.status = .pending ∨ p.status = .failed → attemptStatus d ref = some p.status

/-- From one state to a later one. -/
structure Settles (o : Id) (s t : Db) : Prop where
  paid : isPaid (s (.payment o)) → isPaid (t (.payment o))
  attempts : ∀ ref status, attemptStatus s ref = some status → status ≠ .pending → attemptStatus t ref = some status

/-- No callback of a failure for an older attempt changes the payment. -/
def IgnoresLateFailures (o : Id) (s : Store (Table Row) Mark) : Prop :=
  ∀ verifySignature query anyRef now t, ipnTxnRef query anyRef ∈ attemptRefs s.rows o →
    newestAttempt s.rows o ≠ some (ipnTxnRef query anyRef) →
    query.lookup "vnp_ResponseCode" ≠ some "00" →
    (vnpayIpn verifySignature query anyRef now).Leads (fun _ _ => True) s t →
    t.rows (.payment o) = s.rows (.payment o)

structure Tracked (o : Id) (d : Db) : Prop where
  present : (d (.payment o)).isSome
  rows : ∀ ref, ref ∈ attemptRefs d o ↔ ∃ a, d (.attempt ref) = some a ∧ a.payment = o
  paid : ∀ ref ∈ attemptRefs d o, attemptStatus d ref = some .completed → isPaid (d (.payment o))
  named : ∀ p, d (.payment o) = some p → p.status = .completed →
    ∃ ref ∈ attemptRefs d o, p.vnpTxnRef = some ref ∧ attemptStatus d ref = some .completed
  pending : ∀ p ref, d (.payment o) = some p → newestAttempt d o = some ref → p.status = .pending →
    p.vnpTxnRef = some ref ∧ attemptStatus d ref = some .pending
  failed : ∀ p ref, d (.payment o) = some p → newestAttempt d o = some ref → p.status = .failed →
    attemptStatus d ref = some .failed

theorem Tracked.follows {o : Id} {d : Db} (tracked : Tracked o d) : Follows o d := by
  refine ⟨⟨fun paid => ?_, fun ⟨ref, member, completed⟩ => tracked.paid ref member completed⟩, tracked.named,
    fun p ref found newest status => ?_⟩
  · obtain ⟨p, found, completed⟩ := isPaid_some paid
    obtain ⟨ref, member, _, settled⟩ := tracked.named p found completed
    exact ⟨ref, member, settled⟩
  · rcases status with pending | failed
    · rw [pending]
      exact (tracked.pending p ref found newest pending).2
    · rw [failed]
      exact tracked.failed p ref found newest failed

theorem Settles.refl (o : Id) (d : Db) : Settles o d d := ⟨fun paid => paid, fun _ _ found _ => found⟩

theorem Settles.trans {o : Id} {d e f : Db} (first : Settles o d e) (second : Settles o e f) : Settles o d f :=
  ⟨fun paid => second.paid (first.paid paid),
    fun ref status found left => second.attempts ref status (first.attempts ref status found left) left⟩

theorem newestAttempt_mem {d : Db} {o : Id} {ref : String} (newest : newestAttempt d o = some ref) :
    ref ∈ attemptRefs d o := List.mem_of_getLast? newest

theorem newestAttempt_exists {d : Db} {o : Id} {ref : String} (member : ref ∈ attemptRefs d o) :
    ∃ newest, newestAttempt d o = some newest := by
  cases last : newestAttempt d o with
  | none =>
    rw [newestAttempt, List.getLast?_eq_none_iff] at last
    rw [last] at member
    cases member
  | some newest => exact ⟨newest, rfl⟩

section
variable {o : Id} {d e : Db}

/-- Rows of other orders' payments. -/
theorem Tracked.same (tracked : Tracked o d) (payment : e (.payment o) = d (.payment o))
    (refs : e (.attemptsOf o) = d (.attemptsOf o))
    (rows : ∀ ref, (∃ a, e (.attempt ref) = some a ∧ a.payment = o) ↔ ∃ a, d (.attempt ref) = some a ∧ a.payment = o)
    (status : ∀ ref ∈ attemptRefs d o, attemptStatus e ref = attemptStatus d ref) : Tracked o e := by
  have listed : attemptRefs e o = attemptRefs d o := by rw [attemptRefs, refs, attemptRefs]
  have last : newestAttempt e o = newestAttempt d o := by rw [newestAttempt, listed, newestAttempt]
  refine ⟨payment ▸ tracked.present, fun ref => ?_, fun ref member completed => ?_, fun p found completed => ?_,
    fun p ref found newest pending => ?_, fun p ref found newest failed => ?_⟩
  · rw [listed, rows]
    exact tracked.rows ref
  · rw [listed] at member
    rw [status ref member] at completed
    rw [payment]
    exact tracked.paid ref member completed
  · rw [payment] at found
    obtain ⟨ref, member, named, settled⟩ := tracked.named p found completed
    exact ⟨ref, by rwa [listed], named, by rwa [status ref member]⟩
  · rw [payment] at found
    rw [last] at newest
    rw [status ref (newestAttempt_mem newest)]
    exact tracked.pending p ref found newest pending
  · rw [payment] at found
    rw [last] at newest
    rw [status ref (newestAttempt_mem newest)]
    exact tracked.failed p ref found newest failed

/-- A callback settles a pending attempt of the payment, and brings the payment in step. -/
structure CalledBack (o : Id) (d : Db) (ref : String) (attempt : PaymentAttempt) (now : Time) (p : Payment) (e : Db) :
    Prop where
  pending : attemptStatus d ref = some .pending
  own : attempt.payment = o
  outcome : attempt.status = .completed ∨ attempt.status = .failed
  recorded : e (.attempt ref) = some attempt
  standing : d (.payment o) = some p
  payment : e (.payment o) = some (syncedPayment ref attempt now p)
  others : ∀ k, k ≠ .attempt ref → k ≠ .payment o → e k = d k

section
variable {ref : String} {attempt : PaymentAttempt} {now : Time} {p : Payment}
variable (back : CalledBack o d ref attempt now p e)
include back

theorem CalledBack.refs : attemptRefs e o = attemptRefs d o := by
  rw [attemptRefs, back.others _ (by simp) (by simp), attemptRefs]

theorem CalledBack.newest : newestAttempt e o = newestAttempt d o := by rw [newestAttempt, back.refs, newestAttempt]

theorem CalledBack.settled : attemptStatus e ref = some attempt.status := by
  rw [attemptStatus, back.recorded, Option.map_some]

theorem CalledBack.other {r : String} (different : r ≠ ref) : attemptStatus e r = attemptStatus d r := by
  rw [attemptStatus, back.others _ (by simpa using different) (by simp), attemptStatus]

theorem CalledBack.elsewhere {r : String} {status : PaymentStatus} (found : attemptStatus d r = some status)
    (left : status ≠ .pending) : attemptStatus e r = some status := by
  refine (back.other ?_).trans found
  rintro rfl
  rw [back.pending] at found
  exact left (Option.some.inj found).symm

theorem CalledBack.loaded {q : Payment} (loaded : e (.payment o) = some q) : syncedPayment ref attempt now p = q :=
  Option.some.inj (back.payment.symm.trans loaded)

/-- The payment after the callback of one of its pending attempts. -/
theorem Tracked.synced (tracked : Tracked o d) (member : ref ∈ attemptRefs d o) : Tracked o e := by
  have cases_ := syncedPayment_cases ref attempt now p
  constructor
  case present =>
    rw [back.payment]
    rfl
  case rows =>
    intro r
    rw [back.refs]
    by_cases eq : r = ref
    · subst eq
      exact ⟨fun _ => ⟨attempt, back.recorded, back.own⟩, fun _ => member⟩
    · rw [back.others _ (by simpa using eq) (by simp)]
      exact tracked.rows r
  case paid =>
    intro r inside completed
    rw [back.payment]
    rw [back.refs] at inside
    have won (different : r ≠ ref) : p.status = .completed := by
      rw [back.other different] at completed
      have complete := tracked.paid r inside completed
      rw [back.standing] at complete
      simpa [isPaid] using complete
    have own (same : r = ref) : attempt.status = .completed := by
      rw [same, back.settled] at completed
      exact Option.some.inj completed
    rcases cases_ with ⟨_, done, _⟩ | ⟨failure, _, pending, _⟩ | ⟨unchanged, success, _⟩
    · exact isPaid_of_status done
    · by_cases eq : r = ref
      · exact absurd (own eq) failure
      · rw [won eq] at pending
        cases pending
    · rw [unchanged]
      by_cases eq : r = ref
      · exact isPaid_of_status (success (own eq))
      · exact isPaid_of_status (won eq)
  case named =>
    intro q loaded completed
    obtain rfl := back.loaded loaded
    rw [back.refs]
    rcases cases_ with ⟨success, _, named⟩ | ⟨_, _, _, failed⟩ | ⟨unchanged, _, _⟩
    · exact ⟨ref, member, named, back.settled.trans (congrArg some success)⟩
    · rw [failed] at completed
      cases completed
    · rw [unchanged] at completed ⊢
      obtain ⟨r, inside, named, done⟩ := tracked.named p back.standing completed
      exact ⟨r, inside, named, back.elsewhere done (by simp)⟩
  case pending =>
    intro q r loaded newest pending
    obtain rfl := back.loaded loaded
    rw [back.newest] at newest
    rcases cases_ with ⟨_, done, _⟩ | ⟨_, _, _, failed⟩ | ⟨unchanged, success, failure⟩
    · rw [done] at pending
      cases pending
    · rw [failed] at pending
      cases pending
    · rw [unchanged] at pending ⊢
      obtain ⟨named, waiting⟩ := tracked.pending p r back.standing newest pending
      have lost : attempt.status ≠ .completed := fun won => by
        rw [success won] at pending
        cases pending
      refine ⟨named, (back.other ?_).trans waiting⟩
      rintro rfl
      exact failure lost ⟨named, pending⟩
  case failed =>
    intro q r loaded newest failed
    obtain rfl := back.loaded loaded
    rw [back.newest] at newest
    rcases cases_ with ⟨_, done, _⟩ | ⟨lost, named, pending, _⟩ | ⟨unchanged, _, _⟩
    · rw [done] at failed
      cases failed
    · have same := (tracked.pending p r back.standing newest pending).1
      rw [named] at same
      obtain rfl := Option.some.inj same
      exact back.settled.trans (congrArg some (back.outcome.resolve_left lost))
    · rw [unchanged] at failed
      exact back.elsewhere (tracked.failed p r back.standing newest failed) (by simp)

end

theorem Tracked.attempted {ref : String} {fresh : PaymentAttempt} {locked mem : Payment} (tracked : Tracked o d)
    (standing : d (.payment o) = some locked) (unpaid : locked.status ≠ .completed) (free : d (.attempt ref) = none)
    (inserted : e (.attempt ref) = some fresh) (own : fresh.payment = o) (open_ : fresh.status = .pending)
    (appended : e (.attemptsOf o) = some (attemptRefs d o ++ [ref])) (saved : e (.payment o) = some mem)
    (pending : mem.status = .pending) (named : mem.vnpTxnRef = some ref)
    (others : ∀ r, r ≠ ref → e (.attempt r) = d (.attempt r)) : Tracked o e := by
  have listed : attemptRefs e o = attemptRefs d o ++ [ref] := by rw [attemptRefs, appended]; rfl
  have last : newestAttempt e o = some ref := by rw [newestAttempt, listed, List.getLast?_concat]
  have waiting : attemptStatus e ref = some .pending := by rw [attemptStatus, inserted, Option.map_some, open_]
  refine ⟨by rw [saved]; rfl, fun r => ?_, fun r inside completed => ?_, fun p loaded completed => ?_,
    fun p r loaded newest _ => ?_, fun p r loaded newest failed => ?_⟩
  · rw [listed, List.mem_append, List.mem_singleton]
    by_cases eq : r = ref
    · subst eq
      exact ⟨fun _ => ⟨fresh, inserted, own⟩, fun _ => Or.inr rfl⟩
    · rw [others r eq, ← tracked.rows r]
      exact ⟨fun inside => inside.resolve_right eq, Or.inl⟩
  · -- a payment that takes a new attempt has no completed one
    have paid : isPaid (d (.payment o)) := by
      by_cases eq : r = ref
      · subst eq
        rw [waiting] at completed
        cases completed
      · rw [listed, List.mem_append, List.mem_singleton] at inside
        refine tracked.paid r (inside.resolve_right eq) ?_
        rwa [attemptStatus, others r eq] at completed
    rw [standing] at paid
    exact absurd (by simpa [isPaid] using paid) unpaid
  · rw [saved] at loaded
    obtain rfl := Option.some.inj loaded
    rw [pending] at completed
    cases completed
  · rw [saved] at loaded
    obtain rfl := Option.some.inj loaded
    rw [last] at newest
    obtain rfl := Option.some.inj newest
    exact ⟨named, waiting⟩
  · rw [saved] at loaded
    obtain rfl := Option.some.inj loaded
    rw [pending] at failed
    cases failed

/-- Attempts only change while they are pending. -/
theorem settles_attempts (ref : String) (open_ : ∀ status, attemptStatus d ref = some status → status = .pending)
    (others : ∀ r, r ≠ ref → e (.attempt r) = d (.attempt r)) (r : String) (status : PaymentStatus)
    (found : attemptStatus d r = some status) (left : status ≠ .pending) : attemptStatus e r = some status := by
  have different : r ≠ ref := by
    rintro rfl
    exact left (open_ status found)
  rw [attemptStatus, others r different]
  exact found

theorem recordedAttempt_outcome (query : VnpayQuery) (found : PaymentAttempt) (now : Time) :
    (recordedAttempt query found now).status = .completed ∨ (recordedAttempt query found now).status = .failed := by
  by_cases success : query.lookup "vnp_ResponseCode" = some "00" <;> simp [recordedAttempt, success]

theorem Tracked.callback {ref : String} {found : PaymentAttempt} {query : VnpayQuery} {now : Time}
    (tracked : Tracked o d) (stands : d (.attempt ref) = some found) (open_ : found.status = .pending)
    (recorded : e (.attempt ref) = some (recordedAttempt query found now))
    (payment : e (.payment found.payment) =
      (d (.payment found.payment)).map (syncedPayment ref (recordedAttempt query found now) now))
    (others : ∀ k, k ≠ .attempt ref → k ≠ .payment found.payment → e k = d k) : Tracked o e ∧ Settles o d e := by
  have attempts : ∀ r, r ≠ ref → e (.attempt r) = d (.attempt r) := fun r different =>
    others _ (by simpa using different) (by simp)
  have settled := settles_attempts (d := d) (e := e) ref (fun status found => by
    rw [attemptStatus, stands, Option.map_some, open_] at found
    exact (Option.some.inj found).symm) attempts
  have refs : e (.attemptsOf o) = d (.attemptsOf o) := others _ (by simp) (by simp)
  by_cases own : found.payment = o
  · rw [own] at payment others
    have mine : (recordedAttempt query found now).payment = o := own
    have waiting : attemptStatus d ref = some .pending := by rw [attemptStatus, stands, Option.map_some, open_]
    obtain ⟨p, standing⟩ := Option.isSome_iff_exists.mp tracked.present
    rw [standing, Option.map_some] at payment
    have back : CalledBack o d ref (recordedAttempt query found now) now p e :=
      ⟨waiting, mine, recordedAttempt_outcome query found now, recorded, standing, payment, others⟩
    have after := Tracked.synced back tracked ((tracked.rows ref).mpr ⟨found, stands, own⟩)
    refine ⟨after, fun paid => ?_, settled⟩
    obtain ⟨r, inside, done⟩ := tracked.follows.paid.mp paid
    refine after.paid r ?_ (settled r _ done (by simp))
    rw [attemptRefs, refs]
    exact inside
  · have payments : e (.payment o) = d (.payment o) := others _ (by simp) (by simpa using Ne.symm own)
    have foreign : ∀ r ∈ attemptRefs d o, r ≠ ref := by
      rintro r inside rfl
      obtain ⟨a, row, mine⟩ := (tracked.rows r).mp inside
      rw [stands] at row
      exact own (Option.some.inj row ▸ mine)
    refine ⟨tracked.same payments refs (fun r => ?_) fun r inside => ?_, fun paid => payments ▸ paid, settled⟩
    · by_cases eq : r = ref
      · subst eq
        rw [recorded, stands]
        simp [recordedAttempt]
      · rw [attempts r eq]
    · rw [attemptStatus, attempts r (foreign r inside), attemptStatus]

theorem Tracked.newAttempt {order : Id} {ref : String} {fresh : PaymentAttempt} {locked mem : Payment}
    (tracked : Tracked o d) (standing : d (.payment order) = some locked) (unpaid : locked.status ≠ .completed)
    (free : d (.attempt ref) = none) (inserted : e (.attempt ref) = some fresh) (own : fresh.payment = order)
    (open_ : fresh.status = .pending) (appended : e (.attemptsOf order) = some (attemptRefs d order ++ [ref]))
    (saved : e (.payment order) = some mem) (pending : mem.status = .pending) (named : mem.vnpTxnRef = some ref)
    (others : ∀ k, ¬ AttemptKey order ref k → e k = d k) : Tracked o e ∧ Settles o d e := by
  have attempts : ∀ r, r ≠ ref → e (.attempt r) = d (.attempt r) := fun r different =>
    others _ (by simpa [AttemptKey] using different)
  have settled := settles_attempts (d := d) (e := e) ref (fun status found => by
    rw [attemptStatus, free] at found
    cases found) attempts
  by_cases same : order = o
  · subst same
    refine ⟨tracked.attempted standing unpaid free inserted own open_ appended saved pending named attempts,
      fun paid => ?_, settled⟩
    rw [standing] at paid
    exact absurd (by simpa [isPaid] using paid) unpaid
  · have payments : e (.payment o) = d (.payment o) := others _ (by simpa [AttemptKey] using Ne.symm same)
    have known : ∀ r ∈ attemptRefs d o, r ≠ ref := by
      rintro r inside rfl
      obtain ⟨a, row, _⟩ := (tracked.rows r).mp inside
      rw [free] at row
      cases row
    refine ⟨tracked.same payments (others _ (by simpa [AttemptKey] using Ne.symm same)) (fun r => ?_)
      fun r inside => ?_, fun paid => payments ▸ paid, settled⟩
    · by_cases eq : r = ref
      · subst eq
        rw [inserted, free]
        simp [own, same]
      · rw [attempts r eq]
    · rw [attemptStatus, attempts r (known r inside), attemptStatus]

end

def TrackedIn (o : Id) (s : Store (Table Row) Mark) : Prop := Tracked o s.rows

def SettlesIn (o : Id) (s t : Store (Table Row) Mark) : Prop := Settles o s.rows t.rows

abbrev Anyhow : Store (Table Row) Mark → List Mark → Prop := fun _ _ => True

section
variable {o : Id} {s : Store (Table Row) Mark}

theorem tracks_idle (tracked : TrackedIn o s) {w : View (Table Row) Mark} {L : Mark → Prop}
    (more : View.Continues (fun _ => False) L (View.start s.rows 0) w) :
    TrackedIn o (s.commit w) ∧ SettlesIn o s (s.commit w) := by
  have same : (s.commit w).rows = s.rows := more.rows_same
  rw [TrackedIn, SettlesIn, same]
  exact ⟨tracked, .refl o s.rows⟩

theorem handleVnpayIpn_tracks (o : Id) (verifySignature : VnpayQuery → Bool) (query : VnpayQuery) (anyRef : String)
    (now : Time) : (handleVnpayIpn verifySignature query anyRef now).KeepsAlone Anyhow (TrackedIn o) (SettlesIn o) := by
  intro s tracked
  unfold handleVnpayIpn
  rw [wp_ite]
  refine ⟨fun _ => ?_, fun _ _ => tracks_idle tracked (.refl (L := NoMark) _)⟩
  refine wp_recordIpn (fun _ w more _ => tracks_idle tracked more)
    fun _ w ref found _ stands open_ more recorded payment _ => ?_
  exact tracked.callback (e := w.rows) stands open_ recorded payment fun k first second =>
    more.rows k fun kind => kind.elim first second

theorem addAttempt_tracks (o order : Id) (orderNumber : String) (now timestamp : Time) :
    (addAttempt order orderNumber now timestamp).KeepsAlone Anyhow (TrackedIn o) (SettlesIn o) := by
  intro s tracked
  refine wp_addAttempt (fun _ => trivial) fun _ w locked ref mem standing unpaid _ free more inserted appended
    saved stored _ => ?_
  exact tracked.newAttempt (e := w.rows) standing unpaid free inserted rfl rfl appended stored (by rw [saved]) (by rw [saved])
    more.rows

theorem paymentUrlOrderNumber_tracks (o : Id) (enabled : Bool) (order user : Id) :
    (paymentUrlOrderNumber enabled order user).KeepsAlone Anyhow (TrackedIn o) (SettlesIn o) := by
  intro s tracked
  have within : (paymentUrlOrderNumber enabled order user).Within (fun _ => False) NoMark := by
    unfold paymentUrlOrderNumber
    refine within_bind (within_require _ _) fun _ => within_bind (within_select _) fun _ =>
      within_bind (within_orFail _ _) fun pair => ?_
    exact within_bind (within_require _ _) fun _ => within_bind (within_require _ _) fun _ =>
      within_bind (within_require _ _) fun _ => within_pure _
  exact wp_of_within within (fun _ w more _ => tracks_idle tracked more) fun _ => trivial

theorem vnpayCall_tracks (o : Id) {r : Request} (call : VnpayCall r) :
    r.All fun _ body => body.KeepsAlone Anyhow (TrackedIn o) (SettlesIn o) := by
  cases call with
  | createUrl enabled order user now timestamp =>
    exact .tx (paymentUrlOrderNumber_tracks o enabled order user)
      (fun number => .tx (addAttempt_tracks o order number now timestamp) (fun _ => .done _) fun _ => .done _)
      fun _ => .done _
  | ipn verify query anyRef now =>
    exact .tx (handleVnpayIpn_tracks o verify query anyRef now) (fun _ => .done _) fun _ => .done _

theorem Tracked.ignoresLateFailures (tracked : Tracked o s.rows) : IgnoresLateFailures o s := by
  intro verifySignature query anyRef now t inside older failure leads
  have spec : (handleVnpayIpn verifySignature query anyRef now).wp .serial
      (fun _ w => w.rows (.payment o) = s.rows (.payment o)) (fun _ => True) (View.start s.rows 0) := by
    unfold handleVnpayIpn
    rw [wp_ite]
    refine ⟨fun _ => ?_, fun _ => rfl⟩
    refine wp_recordIpn (fun _ w more => more.rows _ fun no => no) fun _ w ref found same stands _ _ _ payment => ?_
    rw [← same] at inside older
    obtain ⟨a, row, own⟩ := (tracked.rows ref).mp inside
    obtain rfl : a = found := Option.some.inj (row.symm.trans stands)
    obtain ⟨p, standing⟩ := Option.isSome_iff_exists.mp tracked.present
    obtain ⟨newest, last⟩ := newestAttempt_exists inside
    have lost : (recordedAttempt query a now).status ≠ .completed := by simp [recordedAttempt, failure]
    have kept : syncedPayment ref (recordedAttempt query a now) now p = p := by
      unfold syncedPayment
      rw [if_pos lost, if_neg]
      rintro ⟨named, pending⟩
      have current := (tracked.pending p newest standing last pending).1
      rw [named] at current
      exact older (last.trans current.symm)
    rw [own, View.start_rows, standing, Option.map_some, kept] at payment
    rw [payment, standing]
  rcases single_leads spec leads with rfl | ⟨_, w, kept, rfl⟩
  · rfl
  · exact kept

end

/-- Every state of every sequence of calls, from a payment that is not completed and has no attempt. -/
theorem payment_follows_attempts {o : Id} {d₀ : Db} (unpaid : (d₀ (.payment o)).any (·.status ≠ .completed))
    (unlisted : attemptRefs d₀ o = []) (untried : ∀ ref a, d₀ (.attempt ref) = some a → a.payment ≠ o)
    {s t : Store (Table Row) Mark} (run : Serial VnpayCall Anyhow ⟨d₀, []⟩ s) (later : Serial VnpayCall Anyhow s t) :
    Follows o s.rows ∧ Settles o s.rows t.rows ∧ IgnoresLateFailures o s := by
  have start : TrackedIn o ⟨d₀, []⟩ := by
    have noRef : ∀ ref, ref ∉ attemptRefs d₀ o := fun ref => by rw [unlisted]; exact List.not_mem_nil
    have noNewest : ∀ ref, newestAttempt d₀ o ≠ some ref := fun ref last => noRef ref (newestAttempt_mem last)
    refine ⟨?_, fun ref => ⟨fun inside => absurd inside (noRef ref), fun ⟨a, row, own⟩ => absurd own (untried ref a row)⟩,
      fun ref inside => absurd inside (noRef ref), fun p found completed => ?_,
      fun _ ref _ newest => absurd newest (noNewest ref), fun _ ref _ newest => absurd newest (noNewest ref)⟩
    · change (d₀ (.payment o)).isSome
      cases found : d₀ (.payment o) with
      | none => simp [found] at unpaid
      | some p => rfl
    · change d₀ (.payment o) = some p at found
      simp [found, completed] at unpaid
  have keeps : ∀ r, VnpayCall r → r.All fun _ body => body.KeepsAlone Anyhow (TrackedIn o) (SettlesIn o) :=
    fun r call => vnpayCall_tracks o call
  have refl : ∀ s, SettlesIn o s s := fun s => .refl o s.rows
  have trans : ∀ {s t u}, SettlesIn o s t → SettlesIn o t u → SettlesIn o s u := fun first second => first.trans second
  have before := alone_safe refl trans keeps run start
  have after := alone_safe refl trans keeps later before.1
  exact ⟨Tracked.follows before.1, after.2, Tracked.ignoresLateFailures before.1⟩

/-- A fresh VNPay order of customer 3. -/
def payableOrder : Db
  | .payment 1 => some ⟨.vnpay, .pending, 1000, none, none, none, none, none⟩
  | .order 1 => some
    { customer := some 3, globalCoupon := none, totalAmount := 1000, globalDiscountAmount := some 0,
      globalCouponCode := none, shippingAddress := ⟨"", "", "", none, none⟩, status := .pending,
      idempotencyKey := none, orderNumber := "ORD-1", createdAt := 0 }
  | _ => none

def callbackOf (ref responseCode : String) : VnpayQuery :=
  [("vnp_TxnRef", ref), ("vnp_Amount", "1000"), ("vnp_ResponseCode", responseCode), ("vnp_TransactionNo", "14")]

/-- Two attempts; the older one fails late, the newer one succeeds. -/
def twoAttempts : List Request :=
  [createVnpayPaymentUrl true 1 3 1000 1000, createVnpayPaymentUrl true 1 3 2000 2000,
    vnpayIpn (fun _ => true) (callbackOf "ORD-1-1000" "24") "" 3000,
    vnpayIpn (fun _ => true) (callbackOf "ORD-1-2000" "00") "" 4000]

theorem twoAttempts_calls : ∀ r ∈ twoAttempts, VnpayCall r := by
  intro r member
  simp only [twoAttempts, List.mem_cons, List.not_mem_nil, or_false] at member
  rcases member with rfl | rfl | rfl | rfl
  · exact .createUrl ..
  · exact .createUrl ..
  · exact .ipn ..
  · exact .ipn ..

set_option maxRecDepth 4000 in
theorem twoAttempts_follow :
    let s := runAll ⟨payableOrder, []⟩ twoAttempts
    isPaid (s.rows (.payment 1)) ∧ newestAttempt s.rows 1 = some "ORD-1-2000" ∧ Follows 1 s.rows ∧
      IgnoresLateFailures 1 s := by
  have untried : ∀ ref a, payableOrder (.attempt ref) = some a → a.payment ≠ 1 := fun _ _ none => by cases none
  have obeys : ObeysAll Anyhow ⟨payableOrder, []⟩ twoAttempts := by decide +kernel
  have run := runAll_serial twoAttempts_calls obeys
  obtain ⟨follows, _, ignores⟩ := payment_follows_attempts (o := 1) (by decide) rfl untried run (.refl _)
  exact ⟨by decide +kernel, by decide +kernel, follows, ignores⟩

end Marketplace
