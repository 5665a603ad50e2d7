import Marketplace.Orders.CheckoutFrame
import Marketplace.ReadCommitted.Invariant

/-! One order for each idempotency key, and whose order a response describes. -/
namespace Marketplace
open ReadCommitted ReadCommitted.Tx

inductive KeyCall where
  | checkout (call : CheckoutCall)
  | cleanup (keys : List String) (now : Time)

def keyCalls (distance : Distance) (calls : Nat → Option KeyCall) (i : Nat) : Request :=
  match calls i with
  | some (.checkout call) => checkout distance call
  | some (.cleanup keys now) => handleCleanup keys now
  | none => .done .done

/-- The response a request has ended with. -/
def responseOf : Thread (Table Row) Mark Err Answer → Option CheckoutResponse
  | .idle (.done (.response r)) => some r
  | _ => none

theorem responseOf_some {t : Thread (Table Row) Mark Err Answer} {r : CheckoutResponse}
    (found : responseOf t = some r) : t = .idle (.done (.response r)) := by
  unfold responseOf at found
  split at found
  · obtain rfl := Option.some.inj found
    rfl
  · cases found

/-- The response describes an order of the user. -/
def DescribesOrderOf (d : Db) (user : Id) (r : CheckoutResponse) : Prop :=
  ∃ order, d (.order r.orderId) = some order ∧ order.customer = some user

def OneOrderPerKey (d : Db) : Prop :=
  ∀ o p a b k, d (.order o) = some a → d (.order p) = some b → a.idempotencyKey = some k →
    b.idempotencyKey = some k → o = p

/-- A recovery finds the order of another user, or a response goes to the row of another user. -/
def Mark.foreign (s : Store (Table Row) Mark) : Mark → Bool
  | .recovering user k => (s.rows (.orderByKey k)).any fun o => (s.rows (.order o)).any (·.customer ≠ some user)
  | .caching user k => (s.rows (.idempotency k)).any (·.userId ≠ user)
  | _ => false

def Owned (s : Store (Table Row) Mark) (log : List Mark) : Prop := ∀ e ∈ log, e.foreign s = false

instance (s : Store (Table Row) Mark) (log : List Mark) : Decidable (Owned s log) :=
  inferInstanceAs (Decidable (∀ e ∈ log, e.foreign s = false))

/-- The unique index on the key goes with the orders, and a recorded response describes an order of
the user its row is of. -/
structure Keyed (d : Db) : Prop where
  indexed : ∀ o a k, d (.order o) = some a → a.idempotencyKey = some k → d (.orderByKey k) = some o
  recorded : ∀ k row r, d (.idempotency k) = some row → row.responseBody = some r → DescribesOrderOf d row.userId r

theorem Keyed.oneOrderPerKey {d : Db} (keyed : Keyed d) : OneOrderPerKey d := by
  intro o p a b k first second mine same
  have left := keyed.indexed o a k first mine
  rw [keyed.indexed p b k second same] at left
  exact (Option.some.inj left).symm

/-- Orders and their keys are never changed or deleted. -/
structure OrdersStay (d e : Db) : Prop where
  orders : ∀ o a, d (.order o) = some a → e (.order o) = some a
  keys : ∀ k o, d (.orderByKey k) = some o → e (.orderByKey k) = some o

theorem OrdersStay.refl (d : Db) : OrdersStay d d := ⟨fun _ _ found => found, fun _ _ found => found⟩

theorem OrdersStay.trans {d e f : Db} (first : OrdersStay d e) (second : OrdersStay e f) : OrdersStay d f :=
  ⟨fun o a found => second.orders o a (first.orders o a found), fun k o found => second.keys k o (first.keys k o found)⟩

theorem DescribesOrderOf.stays {d e : Db} {user : Id} {r : CheckoutResponse} (stays : OrdersStay d e)
    (owned : DescribesOrderOf d user r) : DescribesOrderOf e user r := by
  obtain ⟨order, found, mine⟩ := owned
  exact ⟨order, stays.orders _ _ found, mine⟩

/-- What a checkout of `call` may still run. -/
inductive Phase (distance : Distance) (call : CheckoutCall) (d : Db) (r : Request) : Prop
  | claiming (same : r = checkout distance call)
  | addressing (same : r = businessPhase distance call)
  | buying (address : Address)
      (same : r = .tx (runCheckoutTransaction distance call address) (cacheResponse call) fun e =>
        if e = .uniqueViolation UQ_ORDER_IDEMPOTENCY_KEY then recoverOrder call else failCheckout call e)
  | recovering (same : r = recoverOrder call)
  | replaying (same : r = single (replayClaim call) .response)
  | caching (response : CheckoutResponse) (owned : DescribesOrderOf d call.userId response)
      (same : r = cacheResponse call response)
  | failing (e : Err) (same : r = failCheckout call e)
  | answered (response : CheckoutResponse) (owned : DescribesOrderOf d call.userId response)
      (same : r = .done (.response response))
  | failed (e : Err) (same : r = .done (.failed e))

theorem Phase.stays {distance : Distance} {call : CheckoutCall} {d e : Db} {r : Request} (stays : OrdersStay d e)
    (phase : Phase distance call d r) : Phase distance call e r := by
  cases phase with
  | claiming same => exact .claiming same
  | addressing same => exact .addressing same
  | buying address same => exact .buying address same
  | recovering same => exact .recovering same
  | replaying same => exact .replaying same
  | caching response owned same => exact .caching response (owned.stays stays) same
  | failing e same => exact .failing e same
  | answered response owned same => exact .answered response (owned.stays stays) same
  | failed e same => exact .failed e same

section
variable {distance : Distance} {call : CheckoutCall} {d : Db}

theorem Phase.afterClaim (e : Err) : Phase distance call d
    (if isPgUniqueViolation e then single (replayClaim call) .response
      else .done (.failed (.internal "Không thể khởi tạo Idempotency-Key"))) := by
  split
  · exact .replaying rfl
  · exact .failed _ rfl

theorem Phase.afterBuying (e : Err) : Phase distance call d
    (if e = .uniqueViolation UQ_ORDER_IDEMPOTENCY_KEY then recoverOrder call else failCheckout call e) := by
  split
  · exact .recovering rfl
  · exact .failing _ rfl

theorem Phase.aborted {fault : Err} {α : Type} {body : Action α} {ok : α → Request} {err : Err → Request}
    (phase : Phase distance call d (.tx body ok err)) : Phase distance call d (err fault) := by
  cases phase with
  | claiming same => cases same; exact .afterClaim fault
  | addressing same => cases same; exact .failing fault rfl
  | buying address same => cases same; exact .afterBuying fault
  | recovering same => cases same; exact .failing fault rfl
  | replaying same => cases same; exact .failed fault rfl
  | caching response owned same => cases same; exact .answered response owned rfl
  | failing e same => cases same; exact .failed _ rfl
  | answered _ _ same => cases same
  | failed _ same => cases same

theorem Keyed.advance {e : Db} (keyed : Keyed d) (orders : ∀ o, e (.order o) = d (.order o))
    (keys : ∀ k, e (.orderByKey k) = d (.orderByKey k))
    (rows : ∀ k row, e (.idempotency k) = some row → ∀ r, row.responseBody = some r →
      d (.idempotency k) = some row ∨ DescribesOrderOf d row.userId r) : Keyed e ∧ OrdersStay d e := by
  have stays : OrdersStay d e := ⟨fun o a found => (orders o).trans found, fun k o found => (keys k).trans found⟩
  refine ⟨⟨fun o a k found mine => ?_, fun k row r found body => ?_⟩, stays⟩
  · rw [orders] at found
    rw [keys]
    exact keyed.indexed o a k found mine
  · rcases rows k row found r body with same | owned
    · exact (keyed.recorded k row r same body).stays stays
    · exact owned.stays stays

/-- Changes off the orders and the keys. -/
theorem Keyed.aside {v w : View (Table Row) Mark} {K : Key → Prop} {L : Mark → Prop} (keyed : Keyed v.rows)
    (more : v.Continues K L w) (orders : ∀ o, ¬ K (.order o)) (keys : ∀ k, ¬ K (.orderByKey k))
    (rows : ∀ k, ¬ K (.idempotency k)) : Keyed w.rows ∧ OrdersStay v.rows w.rows :=
  keyed.advance (fun o => more.rows _ (orders o)) (fun k => more.rows _ (keys k)) fun k _ found _ _ =>
    Or.inl ((more.rows _ (rows k)).symm.trans found)

/-- A new order under a free id and a free key. -/
theorem Keyed.ordered {v w : View (Table Row) Mark} {order : Order} (keyed : Keyed v.rows)
    (more : v.Continues (OrderKey call) NoMark w) (freeId : v.rows (.order call.orderId) = none)
    (freeKey : v.rows (.orderByKey call.idempotencyKey) = none) (inserted : w.rows (.order call.orderId) = some order)
    (keyedNow : w.rows (.orderByKey call.idempotencyKey) = some call.orderId)
    (own : order.idempotencyKey = some call.idempotencyKey) : Keyed w.rows ∧ OrdersStay v.rows w.rows := by
  have orders : ∀ o, o ≠ call.orderId → w.rows (.order o) = v.rows (.order o) := fun o other =>
    more.rows _ (by simpa [OrderKey] using other)
  have keys : ∀ k, k ≠ call.idempotencyKey → w.rows (.orderByKey k) = v.rows (.orderByKey k) := fun k other =>
    more.rows _ (by simpa [OrderKey] using other)
  have stays : OrdersStay v.rows w.rows := by
    refine ⟨fun o a found => ?_, fun k o found => ?_⟩
    · rw [orders o ?_]
      · exact found
      · rintro rfl
        rw [freeId] at found
        cases found
    · rw [keys k ?_]
      · exact found
      · rintro rfl
        rw [freeKey] at found
        cases found
  refine ⟨⟨fun o a k found mine => ?_, fun k row r found body => ?_⟩, stays⟩
  · by_cases same : o = call.orderId
    · subst same
      rw [inserted] at found
      obtain rfl := Option.some.inj found
      rw [own] at mine
      obtain rfl := Option.some.inj mine
      exact keyedNow
    · rw [orders o same] at found
      exact stays.keys k o (keyed.indexed o a k found mine)
  · rw [more.rows _ (by simp [OrderKey])] at found
    exact (keyed.recorded k row r found body).stays stays

variable {h : History (Table Row) Mark} {m : Nat}

/-- What each transaction of a checkout has to show. -/
def KeepsPhase (distance : Distance) (call : CheckoutCall) (h : History (Table Row) Mark) (m : Nat) {α : Type}
    (body : Action α) (ok : α → Request) (err : Err → Request) : Prop :=
  body.wp h.isolation
    (fun a w => (∀ k, w.held k = false → w.rows k = h.current.rows k) → Owned h.current w.log →
      Keyed (h.commit w).rows ∧ OrdersStay h.current.rows (h.commit w).rows ∧ Phase distance call (h.commit w).rows (ok a))
    (fun e => Phase distance call h.current.rows (err e)) (View.start h.current.rows m)

theorem claim_keeps (keyed : Keyed h.current.rows) :
    KeepsPhase distance call h m (insertClaim call) (fun _ => businessPhase distance call) fun e =>
      if isPgUniqueViolation e then single (replayClaim call) .response
      else .done (.failed (.internal "Không thể khởi tạo Idempotency-Key")) := by
  refine wp_insert (fun _ => .afterClaim _) fun w more _ _ stored _ _ => ?_
  obtain ⟨kept, stays⟩ := keyed.advance (e := w.rows) (fun o => more.rows _ (by simp)) (fun k => more.rows _ (by simp))
    fun k row found r body => by
      by_cases same : k = call.idempotencyKey
      · subst same
        rw [stored] at found
        obtain rfl := Option.some.inj found
        cases body
      · exact Or.inl ((more.rows _ (by simpa using same)).symm.trans found)
  exact ⟨kept, stays, .addressing rfl⟩

theorem address_keeps (keyed : Keyed h.current.rows) :
    KeepsPhase distance call h m (findOwnedAddressOrFail call.userId call.dto.addressId)
      (fun address => .tx (runCheckoutTransaction distance call address) (cacheResponse call) fun e =>
        if e = .uniqueViolation UQ_ORDER_IDEMPOTENCY_KEY then recoverOrder call else failCheckout call e)
      (failCheckout call) := by
  have within : (findOwnedAddressOrFail call.userId call.dto.addressId).Within (fun _ => False) NoMark :=
    within_bind (within_select _) fun _ => within_orFail _ _
  unfold KeepsPhase
  refine wp_mono _ (wp_of_within (E := fun _ => True) within (fun address w more => more) fun _ => trivial)
    (fun address w more _ _ => ?_) fun e _ => .failing e rfl
  obtain ⟨kept, stays⟩ := keyed.aside (v := View.start h.current.rows m) more (fun _ no => no) (fun _ no => no) fun _ no => no
  exact ⟨kept, stays, .buying address rfl⟩

theorem buy_keeps (keyed : Keyed h.current.rows) (address : Address) :
    KeepsPhase distance call h m (runCheckoutTransaction distance call address) (cacheResponse call) fun e =>
      if e = .uniqueViolation UQ_ORDER_IDEMPOTENCY_KEY then recoverOrder call else failCheckout call e := by
  unfold KeepsPhase runCheckoutTransaction
  simp only [wp_bind]
  refine wp_of_within (within_prepareOrder distance call address) (fun quote w₁ first => ?_) fun e => .afterBuying e
  obtain ⟨before, stays₁⟩ := keyed.aside (v := View.start h.current.rows m) first (fun _ no => no) (fun _ no => no) fun _ no => no
  refine wp_createOrderWithRetry rfl (fun _ => .afterBuying _) (fun _ _ => .afterBuying _) (fun _ => .afterBuying _)
    fun w₂ second freeId freeKey inserted keyedNow => ?_
  obtain ⟨ordered, stays₂⟩ := before.ordered second freeId freeKey inserted keyedNow rfl
  refine wp_of_within (within_placeOrder call quote) (fun _ w₃ third => ?_) fun e => .afterBuying e
  obtain ⟨placed, stays₃⟩ := ordered.aside third (fun _ no => no) (fun _ no => no) fun _ no => no
  intro _ _
  refine ⟨placed, (stays₁.trans stays₂).trans stays₃, .caching _ ⟨newOrder call address quote, ?_, rfl⟩ rfl⟩
  exact stays₃.orders _ _ inserted

theorem recover_keeps (keyed : Keyed h.current.rows)
    (inv : ∀ j ≤ h.now, OrdersStay (h.past j).rows h.current.rows) :
    KeepsPhase distance call h m (recoverResponseFromExistingOrder call.userId call.idempotencyKey) (cacheResponse call)
      (failCheckout call) := by
  unfold KeepsPhase recoverResponseFromExistingOrder
  rw [wp_bind, wp_note, wp_bind, wp_select]
  intro d m' sees
  rw [wp_orFail]
  refine ⟨fun response found _ owned => ?_, fun _ => .failing _ rfl⟩
  have kept := keyed.aside (v := View.start h.current.rows m)
    ((View.Continues.mark (K := fun _ => False) (L := fun _ => True) (e := .recovering call.userId call.idempotencyKey)
      trivial).trans (.looking (h.isolation.forward sees))) (fun _ no => no) (fun _ no => no) fun _ no => no
  refine ⟨kept.1, kept.2, .caching response ?_ rfl⟩
  obtain ⟨o, byKey, found⟩ := Option.bind_eq_some_iff.mp found
  obtain ⟨order, row, built⟩ := Option.bind_eq_some_iff.mp found
  obtain rfl : buildCheckoutResponseFromOrder d o order = response := Option.some.inj built
  -- the snapshot's order and key are the committed ones
  have byKeyNow : h.current.rows (.orderByKey call.idempotencyKey) = some o := by
    rcases Isolation.row sees (.orderByKey call.idempotencyKey) with own | ⟨j, small, old⟩
    · exact own.symm.trans byKey
    · exact (inv j small).keys _ _ (old.symm.trans byKey)
  have rowNow : h.current.rows (.order o) = some order := by
    rcases Isolation.row sees (.order o) with own | ⟨j, small, old⟩
    · exact own.symm.trans row
    · exact (inv j small).orders _ _ (old.symm.trans row)
  have mine := owned (.recovering call.userId call.idempotencyKey) (by simp)
  refine ⟨order, rowNow, ?_⟩
  simpa [Mark.foreign, byKeyNow, rowNow] using mine

theorem replay_keeps (keyed : Keyed h.current.rows) (inv : ∀ j ≤ h.now, Keyed (h.past j).rows)
    (ordered : ∀ j ≤ h.now, OrdersStay (h.past j).rows h.current.rows) :
    KeepsPhase distance call h m (replayClaim call) (fun r => .done (.response r)) fun e => .done (.failed e) := by
  unfold KeepsPhase replayClaim
  rw [wp_bind, wp_select]
  intro d m' sees
  rw [wp_bind, wp_orFail]
  refine ⟨fun row found => ?_, fun _ => .failed _ rfl⟩
  rw [wp_bind, wp_require]
  refine ⟨fun mine => ?_, fun _ => .failed _ rfl⟩
  rw [wp_bind, wp_require]
  refine ⟨fun _ => ?_, fun _ => .failed _ rfl⟩
  rw [wp_orFail]
  refine ⟨fun response body _ _ => ?_, fun _ => .failed _ rfl⟩
  have idle : View.Continues (fun _ => False) NoMark (View.start h.current.rows m) ((View.start h.current.rows m).looking m') :=
    .looking (h.isolation.forward sees)
  obtain ⟨kept, stays⟩ := keyed.aside idle (fun _ no => no) (fun _ no => no) fun _ no => no
  refine ⟨kept, stays, .answered response ?_ rfl⟩
  change DescribesOrderOf h.current.rows call.userId response
  rw [← mine]
  rcases Isolation.row sees (.idempotency call.idempotencyKey) with own | ⟨j, small, old⟩
  · exact keyed.recorded _ row response (own.symm.trans found) body
  · exact ((inv j small).recorded _ row response (old.symm.trans found) body).stays (ordered j small)

theorem cache_keeps (keyed : Keyed h.current.rows) {response : CheckoutResponse}
    (described : DescribesOrderOf h.current.rows call.userId response) :
    KeepsPhase distance call h m (markKeyCompleted call response) (fun _ => .done (.response response))
      fun _ => .done (.response response) := by
  unfold KeepsPhase
  refine wp_markKeyCompleted (fun w more _ _ => ?_) fun w more noted stored _ owned => ?_
  · obtain ⟨kept, stays⟩ := keyed.aside more (fun _ no => no) (fun _ no => no) fun _ no => no
    exact ⟨kept, stays, .answered response (described.stays stays) rfl⟩
  · have mine := owned _ noted
    obtain ⟨kept, stays⟩ := keyed.advance (e := w.rows) (fun o => more.rows _ (by simp))
      (fun k => more.rows _ (by simp)) fun k after found r body => by
        by_cases same : k = call.idempotencyKey
        · subst same
          rw [stored] at found
          obtain ⟨before, stands, rfl⟩ := Option.map_eq_some_iff.mp found
          obtain rfl : response = r := Option.some.inj body
          have user : before.userId = call.userId := by
            have stands' : h.current.rows (.idempotency call.idempotencyKey) = some before := stands
            simpa [Mark.foreign, stands'] using mine
          exact Or.inr (show DescribesOrderOf _ before.userId response from user ▸ described)
        · exact Or.inl ((more.rows _ (by simpa using same)).symm.trans found)
    exact ⟨kept, stays, .answered response (described.stays stays) rfl⟩

theorem Keyed.deleted {e : Db} (keyed : Keyed d) (others : ∀ k, (∀ s, k ≠ .idempotency s) → e k = d k)
    (rows : ∀ k row, e (.idempotency k) = some row → d (.idempotency k) = some row) : Keyed e ∧ OrdersStay d e :=
  keyed.advance (fun o => others _ (by simp)) (fun k => others _ (by simp)) fun k row found _ _ => Or.inl (rows k row found)

theorem fail_keeps (keyed : Keyed h.current.rows) (e : Err) :
    KeepsPhase distance call h m (deletePendingKeyForRetry call.idempotencyKey)
      (fun _ => .done (.failed (normalizeError e))) fun _ => .done (.failed (normalizeError e)) := by
  unfold KeepsPhase deletePendingKeyForRetry
  refine wp_mono _ (wp_deleteWhere (E := fun _ => True) (Q := fun _ w => Keyed w.rows ∧ OrdersStay h.current.rows w.rows)
    fun w more row => ?_) (fun _ w kept _ _ => ⟨kept.1, kept.2, .failed _ rfl⟩) fun _ _ => .failed _ rfl
  refine keyed.deleted (fun k other => more.rows _ (other _)) fun k after found => ?_
  by_cases same : k = call.idempotencyKey
  · subst same
    rcases row with stands | filtered
    · exact stands.symm.trans found
    · rw [filtered] at found
      exact (Option.filter_eq_some_iff.mp found).1
  · exact (more.rows _ (by simpa using same)).symm.trans found

theorem cleanup_keeps (keyed : Keyed h.current.rows) (keys : List String) (now : Time) {ok : Unit → Request}
    {err : Err → Request} (i : Nat) (Ready : Nat → Request → Prop) (done : ∀ a, Ready i (ok a)) :
    (forM keys fun key => deleteWhere (.idempotency key) (isStale now) : Action Unit).wp h.isolation
      (fun a w => (∀ k, w.held k = false → w.rows k = h.current.rows k) → Owned h.current w.log →
        Keyed (h.commit w).rows ∧ OrdersStay h.current.rows (h.commit w).rows ∧ Ready i (ok a))
      (fun e => Ready i (err e)) (View.start h.current.rows m) := by
  have loop := wp_forM (I := h.isolation) (E := fun e => Ready i (err e)) (v := View.start h.current.rows m)
    (fun _ w => (∀ k, (∀ s, k ≠ .idempotency s) → w.rows k = h.current.rows k) ∧
      ∀ k row, w.rows (.idempotency k) = some row → h.current.rows (.idempotency k) = some row)
    (fun key => (deleteWhere (.idempotency key) (isStale now) : Action Unit))
    (fun key _ w kept => by
      refine wp_deleteWhere fun u more row => ⟨fun k other => (more.rows k (other key)).trans (kept.1 k other), fun k after found => ?_⟩
      refine kept.2 k after ?_
      by_cases same : k = key
      · subst same
        rcases row with stands | filtered
        · exact stands.symm.trans found
        · rw [filtered] at found
          exact (Option.filter_eq_some_iff.mp found).1
      · exact (more.rows _ (by simpa using same)).symm.trans found)
    keys ⟨fun _ _ => rfl, fun _ _ found => found⟩
  refine wp_mono _ loop (fun a w kept _ _ => ?_) fun _ e => e
  obtain ⟨after, stays⟩ := keyed.deleted (e := w.rows) kept.1 kept.2
  exact ⟨after, stays, done a⟩

end

/-- What a thread may still run. -/
def KeyReady (distance : Distance) (calls : Nat → Option KeyCall) (i : Nat) (s : Store (Table Row) Mark)
    (r : Request) : Prop :=
  match calls i with
  | some (.checkout call) => Phase distance call s.rows r
  | some (.cleanup keys now) => r = handleCleanup keys now ∨ ∃ out, r = .done out
  | none => ∃ out, r = .done out

theorem keyReady_commits {distance : Distance} {calls : Nat → Option KeyCall} {i : Nat} {α : Type} {body : Action α}
    {ok : α → Request} {err : Err → Request} {h : History (Table Row) Mark} {m : Nat}
    (inv : ∀ j ≤ h.now, Keyed (h.past j).rows)
    (ordered : ∀ j k, j ≤ k → k ≤ h.now → OrdersStay (h.past j).rows (h.past k).rows) (small : m ≤ h.now)
    (ready : KeyReady distance calls i (h.past m) (.tx body ok err)) :
    body.wp h.isolation
      (fun a w => (∀ k, w.held k = false → w.rows k = h.current.rows k) → Owned h.current w.log →
        Keyed (h.commit w).rows ∧ OrdersStay h.current.rows (h.commit w).rows ∧
          KeyReady distance calls i (h.commit w) (ok a))
      (fun e => KeyReady distance calls i h.current (err e)) (View.start h.current.rows m) := by
  have keyed : Keyed h.current.rows := inv h.now (Nat.le_refl _)
  have stays : ∀ j ≤ h.now, OrdersStay (h.past j).rows h.current.rows := fun j le => ordered j h.now le (Nat.le_refl _)
  unfold KeyReady at ready ⊢
  cases called : calls i with
  | none =>
    rw [called] at ready
    obtain ⟨_, same⟩ := ready
    cases same
  | some call =>
    cases call with
    | cleanup keys now =>
      rw [called] at ready
      rcases ready with same | ⟨_, same⟩
      · cases same
        exact cleanup_keeps keyed keys now i (fun _ r => r = handleCleanup keys now ∨ ∃ out, r = .done out)
          fun _ => Or.inr ⟨_, rfl⟩
      · cases same
    | checkout call =>
      rw [called] at ready
      cases ready with
      | claiming same => cases same; exact claim_keeps keyed
      | addressing same => cases same; exact address_keeps keyed
      | buying address same => cases same; exact buy_keeps keyed address
      | recovering same => cases same; exact recover_keeps keyed stays
      | replaying same => cases same; exact replay_keeps keyed inv stays
      | caching response owned same => cases same; exact cache_keeps keyed (owned.stays (stays m small))
      | failing e same => cases same; exact fail_keeps keyed e
      | answered _ _ same => cases same
      | failed _ same => cases same

/-- In every run in which no recovery and no recording crosses users. -/
theorem responses_owned {distance : Distance} {calls : Nat → Option KeyCall} {fault : Err} {d₀ : Db} (keyed : Keyed d₀)
    {c : Conf (Table Row) Mark Err Answer}
    (run : Moves Owned fault (Conf.start ⟨d₀, []⟩ (keyCalls distance calls)) c) :
    OneOrderPerKey c.store.rows ∧
      ∀ i call r, calls i = some (.checkout call) → responseOf (c.thread i) = some r →
        DescribesOrderOf c.store.rows call.userId r := by
  let P : Invariant (Table Row) Mark Err Answer Owned fault :=
    { Inv := fun s => Keyed s.rows
      Le := fun s t => OrdersStay s.rows t.rows
      Ready := KeyReady distance calls
      le_refl := fun s => .refl s.rows
      le_trans := fun first second => first.trans second
      ready_le := by
        intro i s t r stays ready
        unfold KeyReady at ready ⊢
        split at ready
        · exact ready.stays stays
        · exact ready
        · exact ready
      aborted := by
        intro i s α body ok err ready
        unfold KeyReady at ready ⊢
        split at ready
        · exact ready.aborted
        · rcases ready with same | ⟨_, same⟩
          · cases same
            exact Or.inr ⟨_, rfl⟩
          · cases same
        · obtain ⟨_, same⟩ := ready
          cases same
      commits := keyReady_commits }
  have ready : ∀ i, P.Ready i ⟨d₀, []⟩ (keyCalls distance calls i) := by
    intro i
    change KeyReady distance calls i _ _
    unfold KeyReady keyCalls
    cases calls i with
    | none => exact ⟨_, rfl⟩
    | some call =>
      cases call with
      | checkout call => exact .claiming rfl
      | cleanup keys now => exact Or.inl rfl
  obtain ⟨kept, threads⟩ := P.run_safe (s := ⟨d₀, []⟩) keyed ready run
  refine ⟨Keyed.oneOrderPerKey kept, fun i call r called answered => ?_⟩
  have phase := threads i _ (responseOf_some answered)
  change KeyReady distance calls i _ _ at phase
  unfold KeyReady at phase
  rw [called] at phase
  cases phase with
  | answered response owned same => cases same; exact owned
  | claiming same => cases same
  | addressing same => cases same
  | buying _ same => cases same
  | recovering same => cases same
  | replaying same => cases same
  | caching _ _ same => cases same
  | failing _ same => cases same
  | failed _ same => cases same

/-- Customers 3 and 4 with an address and one of product 5 in the cart each. -/
def market : Db
  | .shop 7 => some ⟨70, "", none, none, false, .active, none⟩
  | .product 5 => some ⟨7, "", 1000, none, 10, false, false, .active⟩
  | .address 30 => some ⟨3, "", none, none, "", ""⟩
  | .address 40 => some ⟨4, "", none, none, "", ""⟩
  | .cartOf 3 => some [300]
  | .cartOf 4 => some [400]
  | .cartItem 300 => some ⟨3, none, 5, 1, 0⟩
  | .cartItem 400 => some ⟨4, none, 5, 1, 0⟩
  | _ => none

theorem market_keyed : Keyed market := by
  refine ⟨fun _ _ _ found => ?_, fun _ _ _ found => ?_⟩
  · cases found
  · cases found

def sharedKey : String := "7b0e4a52-51c5-4a53-9a0e-2f6f8f1d9c11"

def orderBy (user address order : Id) (now : Time) : CheckoutCall where
  userId := user
  dto := ⟨address, .cod, none, []⟩
  idempotencyKey := sharedKey
  now := now
  orderId := order
  orderNumber := "ORD-" ++ toString order
  subOrderId n := 10 * order + n
  orderItemId n m := 100 * order + 10 * n + m

/-- A checkout and its retry. -/
def retried : Nat → Option KeyCall
  | 0 => some (.checkout (orderBy 3 30 1 1000))
  | 1 => some (.checkout (orderBy 3 30 2 2000))
  | _ => none

/-- A checkout, the cleanup a day later, and a checkout of another customer with the same key. -/
def reused : Nat → Option KeyCall
  | 0 => some (.checkout (orderBy 3 30 1 1000))
  | 1 => some (.cleanup [sharedKey] 90000000)
  | 2 => some (.checkout (orderBy 4 40 2 90001000))
  | _ => none

def flat : Distance := fun _ _ => 1

set_option maxRecDepth 4000 in
/-- The retry is answered with the order of the first call. -/
theorem retried_owned :
    ∃ c : Conf (Table Row) Mark Err Answer, (responseOf (c.thread 1)).map (·.orderId) = some 1 ∧ OneOrderPerKey c.store.rows ∧
      ∀ i call r, retried i = some (.checkout call) → responseOf (c.thread i) = some r →
        DescribesOrderOf c.store.rows call.userId r := by
  have obeys : (Conf.start ⟨market, []⟩ (keyCalls flat retried)).Obeys Owned
      (List.replicate 50 0 ++ List.replicate 7 1) := by decide +kernel
  have found : ∃ c ∈ (Conf.start ⟨market, []⟩ (keyCalls flat retried)).play
      (List.replicate 50 0 ++ List.replicate 7 1), (responseOf (c.thread 1)).map (·.orderId) = some 1 := by
    decide +kernel
  obtain ⟨c, run, first⟩ := Conf.exists_moves Err.database obeys found
  obtain ⟨single, owned⟩ := responses_owned market_keyed run
  exact ⟨c, first, single, owned⟩

set_option maxRecDepth 4000 in
/-- Customer 4 is answered with the order of customer 3. -/
theorem responses_not_owned :
    ¬ ∀ (distance : Distance) (calls : Nat → Option KeyCall) (d₀ : Db) (c : Conf (Table Row) Mark Err Answer),
      Keyed d₀ → Moves (fun _ _ => True) .database (Conf.start ⟨d₀, []⟩ (keyCalls distance calls)) c →
      OneOrderPerKey c.store.rows ∧
        ∀ i call r, calls i = some (.checkout call) → responseOf (c.thread i) = some r →
          DescribesOrderOf c.store.rows call.userId r := by
  intro claimed
  have found : ∃ c ∈ (Conf.start ⟨market, []⟩ (keyCalls flat reused)).play
      (List.replicate 50 0 ++ List.replicate 4 1 ++ List.replicate 33 2),
      (responseOf (c.thread 2)).map (·.orderId) = some 1 ∧
        (c.store.rows (.order 1)).map (·.customer) = some (some 3) := by
    decide +kernel
  obtain ⟨c, run, answered, placed⟩ := Conf.exists_moves _ (Conf.obeys_any _ _) found
  obtain ⟨r, response, id⟩ := Option.map_eq_some_iff.mp answered
  obtain ⟨order, row, mine⟩ := (claimed flat reused market c market_keyed run).2 2 _ r rfl response
  rw [id] at row
  rw [row, Option.map_some, mine] at placed
  cases placed

end Marketplace
