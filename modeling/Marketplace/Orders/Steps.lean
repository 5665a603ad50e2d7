import Marketplace.Orders.Journal
import Marketplace.ReadCommitted.Invariant
import Mathlib.Logic.Relation

/-! A cancellation, transition or expiry as a chain of steps, whatever commits beside it. -/
namespace Marketplace
open ReadCommitted ReadCommitted.Tx

def isCancelled (row : Option SubOrder) : Bool := row.any fun s => s.status = .cancelled

/-- A sub-order was loaded open and is cancelled by now. -/
def Mark.raced (s : Store (Table Row) Mark) : Mark → Bool
  | .subOrderLoaded sub status => status ≠ .cancelled && isCancelled (s.rows (.subOrder sub))
  | _ => false

/-- No sub-order that the transaction loaded open has been cancelled since. -/
def Unraced (s : Store (Table Row) Mark) (log : List Mark) : Prop := ∀ e ∈ log, e.raced s = false

instance (s : Store (Table Row) Mark) (log : List Mark) : Decidable (Unraced s log) :=
  inferInstanceAs (Decidable (∀ e ∈ log, e.raced s = false))

/-- An order lists a sub-order once. -/
def ListsOnce (d : Db) : Prop := ∀ o, (listed (d (.subOrdersOf o))).Nodup

/-- The rows of wallets and payments. -/
def Beside (k : Key) : Prop := WalletKey k ∨ PaymentKey k

/-- A mark that moves no stock and no coupon. -/
def Mark.Reports : Mark → Prop
  | .outbox _ => True
  | .subOrderLoaded _ _ => True
  | .paymentSaved _ _ _ => True
  | .unpaidLoaded _ _ => True
  | .expired _ => True
  | _ => False

theorem Mark.Reports.quiet {e : Mark} (reports : e.Reports) : e.Quiet := by
  cases e <;> first | exact reports.elim | trivial

/-- Each row of the snapshot had been committed. -/
def Committed (h : History (Table Row) Mark) (d : Db) : Prop := ∀ k, ∃ j ≤ h.now, d k = (h.past j).rows k

/-- What a save leaves of a sub-order. -/
def savedOver (mem : SubOrder) (reread current : Option SubOrder) : Option SubOrder :=
  match reread with
  | none => some mem
  | some row => current.map (subOrderColumns.write mem row)

inductive SubOrderStep (h : History (Table Row) Mark) : View (Table Row) Mark → View (Table Row) Mark → Prop
  | beside {v w : View (Table Row) Mark} (more : v.Continues Beside Mark.Reports w) : SubOrderStep h v w
  | cancel {v w : View (Table Row) Mark} (loaded : LoadedSubOrder) (d : Db) (reread : Option SubOrder)
      (committed : Committed h d) (read : loadSubOrder d loaded.id = some loaded)
      (opened : loaded.row.status ≠ .cancelled)
      (seen : ∃ j ≤ h.now, (h.past j).rows (.subOrder loaded.id) = reread)
      (own : v.rows (.subOrder loaded.id) = h.current.rows (.subOrder loaded.id))
      (active : ¬ isCancelled (v.rows (.subOrder loaded.id)))
      (rows : ∀ k, ¬ WalletKey k → w.rows k = Function.update (refunded loaded v.rows) (.subOrder loaded.id)
        (savedOver { loaded.row with status := .cancelled } reread (v.rows (.subOrder loaded.id))) k)
      (log : w.log = v.log ++ refundMarks loaded) : SubOrderStep h v w
  | advance {v w : View (Table Row) Mark} (x : Id) (row mem : SubOrder) (stands : v.rows (.subOrder x) = some row)
      (placed : mem.placed = row.placed) (allowed : mem.status ∈ SUB_ORDER_STATE_MACHINE row.status)
      (stays : mem.status ≠ .cancelled) (saved : w.rows (.subOrder x) = some mem)
      (more : v.Continues (· = .subOrder x) NoMark w) : SubOrderStep h v w
  | recompute {v w : View (Table Row) Mark} (o : Id) (order : Order) (d₁ d₂ : Db) (marks : List Mark)
      (stands : v.rows (.order o) = some order) (seen₁ : Glimpse h.isolation v d₁) (seen₂ : Glimpse h.isolation v d₂)
      (rows : ∀ k, ¬ WalletKey k → k ≠ .payment o →
        w.rows k = recomputed o order (couponOf d₁ order.globalCoupon) (loadSiblings d₂ o) v.rows k)
      (log : w.log = v.log ++ masterMarks o (couponOf d₁ order.globalCoupon) (loadSiblings d₂ o) ++ marks)
      (marked : ∀ e ∈ marks, PaymentMark o e) : SubOrderStep h v w

abbrev SubOrderSteps (h : History (Table Row) Mark) : View (Table Row) Mark → View (Table Row) Mark → Prop :=
  Relation.ReflTransGen (SubOrderStep h)

theorem not_cancelled_of_step {source target : OrderStatus} (step : target ∈ SUB_ORDER_STATE_MACHINE source) :
    source ≠ .cancelled := by
  rintro rfl
  simp [SUB_ORDER_STATE_MACHINE] at step

theorem pendingSubOrders_nodup {d : Db} {o : Id} (once : (listed (d (.subOrdersOf o))).Nodup) :
    ((pendingSubOrders d o).map (·.id)).Nodup := by
  have inside : ((pendingSubOrders d o).map (·.id)).Sublist (listed (d (.subOrdersOf o))) := by
    unfold pendingSubOrders
    induction listed (d (.subOrdersOf o)) with
    | nil => exact .slnil
    | cons sub rest ih =>
      rw [List.filterMap_cons]
      split
      · exact ih.cons sub
      · rename_i loaded found
        have same := (loadSubOrder_some (Option.filter_eq_some_iff.mp found).1).1
        rw [List.map_cons, same]
        exact ih.cons_cons sub
  exact inside.nodup once

section
variable {h : History (Table Row) Mark} {u v w : View (Table Row) Mark}

theorem committed_of_sees {d : Db} {m : Nat} (sees : h.isolation.Sees v d m) (unwritten : v.rows = h.current.rows) :
    Committed h d := by
  intro k
  rcases Isolation.row sees k with own | old
  · exact ⟨h.now, Nat.le_refl _, own.trans (congrFun unwritten k)⟩
  · exact old

/-- The refund and the save that cancels. -/
theorem wp_refundAndSave {loaded : LoadedSubOrder} {d : Db} {Q : Unit → View (Table Row) Mark → Prop} {E : Err → Prop}
    (noErr : ∀ e, E e) (committed : Committed h d) (read : loadSubOrder d loaded.id = some loaded)
    (opened : loaded.row.status ≠ .cancelled)
    (own : v.rows (.subOrder loaded.id) = h.current.rows (.subOrder loaded.id))
    (active : ¬ isCancelled (v.rows (.subOrder loaded.id)))
    (next : ∀ w, v.Continues (fun k => RefundKey k ∨ k = .subOrder loaded.id) (· ∈ refundMarks loaded) w →
      SubOrderStep h v w → Q () w) :
    (restockAndRefundSubOrder loaded).wp h.isolation
      (fun _ => (save (k := Key.subOrder loaded.id) subOrderColumns { loaded.row with status := .cancelled } :
        Action Unit).wp h.isolation Q E) E v := by
  refine wp_restockAndRefundSubOrder noErr fun w first rows log => ?_
  refine wp_save _ _ fun d' m sees => ?_
  have stood : w.rows (.subOrder loaded.id) = v.rows (.subOrder loaded.id) :=
    first.rows _ (by simp [RefundKey, StockKey, CouponKey, WalletKey])
  have seen : ∃ j ≤ h.now, (h.past j).rows (.subOrder loaded.id) = d' (.subOrder loaded.id) := by
    rcases Isolation.row sees (.subOrder loaded.id) with mine | ⟨j, small, old⟩
    · exact ⟨h.now, Nat.le_refl _, (mine.trans (stood.trans own)).symm⟩
    · exact ⟨j, small, old.symm⟩
  have looked : v.Continues (fun k => RefundKey k ∨ k = .subOrder loaded.id) (· ∈ refundMarks loaded) (w.looking m) :=
    (first.mono (fun _ kind => Or.inl kind) fun _ mark => mark).trans (.looking (h.isolation.forward sees))
  -- whatever was re-read, the row is what `savedOver` says
  have ends : ∀ x : View (Table Row) Mark, x.log = w.log → (∀ k, k ≠ .subOrder loaded.id → x.rows k = w.rows k) →
      x.rows (.subOrder loaded.id) = savedOver { loaded.row with status := .cancelled } (d' (.subOrder loaded.id))
        (v.rows (.subOrder loaded.id)) → SubOrderStep h v x := by
    intro x same rest written
    refine .cancel loaded d _ committed read opened seen own active (fun k notWallet => ?_) (same.trans log)
    by_cases mine : k = .subOrder loaded.id
    · subst mine
      rw [Function.update_self, written]
    · rw [Function.update_of_ne mine, rest k mine]
      exact rows k notWallet
  cases found : d' (.subOrder loaded.id) with
  | none =>
    refine next _ (looked.trans (.put (Or.inr rfl))) (ends _ rfl (fun k other => View.put_rows_other _ _ other) ?_)
    rw [View.put_rows_self, found]
    rfl
  | some row =>
    rw [found] at ends
    refine ⟨fun same => next _ looked (ends _ rfl (fun _ _ => rfl) ?_), fun _ =>
      next _ (looked.trans (.put (Or.inr rfl))) (ends _ rfl (fun k other => View.put_rows_other _ _ other) ?_)⟩
    · subst same
      rw [View.looking_rows, stood]
      cases v.rows (.subOrder loaded.id) with
      | none => rfl
      | some current => exact congrArg some (subOrderColumns.same _ _).symm
    · rw [View.put_rows_self, View.looking_rows, stood]
      rfl

theorem wp_settleMaster {o : Id} {now : Time} {Q : OrderStatus × Money → View (Table Row) Mark → Prop} {E : Err → Prop}
    (noErr : ∀ e, E e) (next : ∀ a w, SubOrderStep h v w → Q a w) :
    (recomputeMasterAfterSubOrderChange o now).wp h.isolation Q E v := by
  refine wp_recomputeMaster noErr fun order d₁ d₂ a w marks stands seen₁ seen₂ _ rows log quiet => ?_
  exact next a w (.recompute o order d₁ d₂ marks stands seen₁ seen₂ rows log quiet)

theorem cancelSubOrder_steps (userId subOrderId : Id) (now : Time) {m : Nat} :
    (cancelSubOrder userId subOrderId now).wp h.isolation
      (fun _ w => SubOrderSteps h (View.start h.current.rows m) w) (fun _ => True) (View.start h.current.rows m) := by
  unfold cancelSubOrder
  simp only [wp_bind]
  refine wp_selectForUpdate fun w₁ first held => ?_
  rw [wp_orFail]
  refine ⟨fun _ _ => ?_, fun _ => trivial⟩
  rw [wp_select]
  intro d m₁ sees
  rw [wp_orFail]
  refine ⟨fun loaded read => ?_, fun _ => trivial⟩
  obtain ⟨rfl, found, _⟩ := loadSubOrder_some read
  have stands : w₁.rows (.subOrder loaded.id) = some loaded.row := (h.isolation.held sees held).symm.trans found
  rw [wp_orFail]
  refine ⟨fun order _ => ?_, fun _ => trivial⟩
  rw [wp_require]
  refine ⟨fun _ => ?_, fun _ => trivial⟩
  rw [wp_note, wp_require]
  refine ⟨fun pending => ?_, fun _ => trivial⟩
  have opened : loaded.row.status ≠ .cancelled := by simp [pending]
  have noted : SubOrderStep h w₁ ((w₁.looking m₁).mark (.subOrderLoaded loaded.id loaded.row.status)) :=
    .beside ((View.Continues.looking (h.isolation.forward sees)).trans (.mark trivial))
  have begun : SubOrderSteps h (View.start h.current.rows m) _ :=
    (Relation.ReflTransGen.single (.beside first.idle)).tail noted
  refine wp_refundAndSave (fun _ => trivial) (committed_of_sees sees first.rows_same) read opened
    (congrFun first.rows_same _) (by simp [stands, isCancelled, opened]) fun w₂ _ cancelled => ?_
  refine wp_settleMaster (fun _ => trivial) fun a w₃ settled => ?_
  rw [sellerOfShop, wp_select]
  intro d₃ m₃ sees₃
  rw [wp_note, wp_pure]
  refine ((begun.tail cancelled).tail settled).tail (.beside ?_)
  exact (View.Continues.looking (h.isolation.forward sees₃)).trans (.mark trivial)

theorem reportStatus_steps {loaded : LoadedSubOrder} {order : Order} {newStatus : OrderStatus} {now : Time}
    (steps : SubOrderSteps h u v) :
    (reportStatus loaded order newStatus now).wp h.isolation (fun _ w => SubOrderSteps h u w) (fun _ => True) v := by
  unfold reportStatus
  simp only [wp_bind]
  refine wp_settleMaster (fun _ => trivial) fun a w settled => ?_
  rw [wp_orFail]
  refine ⟨fun customer _ => ?_, fun _ => trivial⟩
  rw [wp_note, wp_pure]
  exact (steps.tail settled).tail (.beside (.mark trivial))

theorem updateSubOrderStatus_steps (sellerId subOrderId : Id) (newStatus : OrderStatus) (now : Time) {m : Nat} :
    (updateSubOrderStatus sellerId subOrderId newStatus now).wp h.isolation
      (fun _ w => SubOrderSteps h (View.start h.current.rows m) w) (fun _ => True) (View.start h.current.rows m) := by
  unfold updateSubOrderStatus
  simp only [wp_bind]
  refine wp_selectForUpdate fun w₁ first held => ?_
  rw [wp_orFail]
  refine ⟨fun _ _ => ?_, fun _ => trivial⟩
  rw [wp_select]
  intro d m₁ sees
  rw [wp_orFail]
  refine ⟨fun pair both => ?_, fun _ => trivial⟩
  obtain ⟨loaded, read, rfl⟩ := Option.map_eq_some_iff.mp both
  obtain ⟨rfl, found, _⟩ := loadSubOrder_some read
  have stands : w₁.rows (.subOrder loaded.id) = some loaded.row := (h.isolation.held sees held).symm.trans found
  rw [wp_orFail]
  refine ⟨fun order _ => ?_, fun _ => trivial⟩
  rw [wp_require]
  refine ⟨fun _ => ?_, fun _ => trivial⟩
  rw [wp_require]
  refine ⟨fun _ => ?_, fun _ => trivial⟩
  rw [wp_note]
  have noted : w₁.Continues Beside Mark.Reports ((w₁.looking m₁).mark (.subOrderLoaded loaded.id loaded.row.status)) :=
    (View.Continues.looking (h.isolation.forward sees)).trans (.mark trivial)
  have begun : SubOrderSteps h (View.start h.current.rows m) _ :=
    (Relation.ReflTransGen.single (.beside first.idle)).tail (.beside noted)
  rw [wp_ite]
  refine ⟨fun _ => ?_, fun _ => ?_⟩
  · rw [wp_bind, wp_select]
    intro d₂ m₂ sees₂
    rw [wp_pure]
    exact begun.tail (.beside (.looking (h.isolation.forward sees₂)))
  simp only [wp_bind]
  rw [wp_require]
  refine ⟨fun allowed => ?_, fun _ => trivial⟩
  have opened : loaded.row.status ≠ .cancelled := not_cancelled_of_step allowed
  rw [wp_given]
  refine ⟨fun cancels => ?_, fun other => ?_⟩
  · subst cancels
    exact wp_refundAndSave (fun _ => trivial) (committed_of_sees sees first.rows_same) read opened
      (congrFun first.rows_same _) (by simp [stands, isCancelled, opened]) fun w₂ _ cancelled =>
        reportStatus_steps (begun.tail cancelled)
  · refine wp_save_held (k := Key.subOrder loaded.id) (noted.held _ held) stands fun w₂ more _ saved => ?_
    have advanced : SubOrderStep h ((w₁.looking m₁).mark (.subOrderLoaded loaded.id loaded.row.status)) w₂ := .advance loaded.id loaded.row { loaded.row with
      status := newStatus
      deliveredAt := if newStatus = .delivered then some now else loaded.row.deliveredAt } stands rfl allowed other saved more
    exact reportStatus_steps (begun.tail advanced)

/-- The sub-orders an expiry has still to cancel. -/
structure Waiting (h : History (Table Row) Mark) (rest : List LoadedSubOrder) (v : View (Table Row) Mark) : Prop where
  own : ∀ s ∈ rest, v.rows (.subOrder s.id) = h.current.rows (.subOrder s.id)
  distinct : (rest.map (·.id)).Nodup
  active : ∀ s ∈ rest, ¬ isCancelled (h.current.rows (.subOrder s.id))

theorem expireSubOrder_steps {d : Db} {s : LoadedSubOrder} {rest : List LoadedSubOrder} (committed : Committed h d)
    (read : loadSubOrder d s.id = some s) (opened : s.row.status ≠ .cancelled) (steps : SubOrderSteps h u v)
    (waiting : Waiting h (s :: rest) v) :
    (expireSubOrder s).wp h.isolation (fun _ w => SubOrderSteps h u w ∧ Waiting h rest w) (fun _ => True) v := by
  have own := waiting.own s List.mem_cons_self
  have active := waiting.active s List.mem_cons_self
  unfold expireSubOrder
  rw [wp_bind]
  refine wp_refundAndSave (fun _ => trivial) committed read opened own (own ▸ active) fun w more cancelled => ?_
  obtain ⟨fresh, distinct⟩ := List.nodup_cons.mp waiting.distinct
  refine ⟨steps.tail cancelled, fun t later => ?_, distinct, fun t later => waiting.active t (List.mem_cons_of_mem s later)⟩
  have other : t.id ≠ s.id := fun same => fresh (List.mem_map.mpr ⟨t, later, same⟩)
  rw [more.rows _ (by simp [RefundKey, StockKey, CouponKey, WalletKey, other])]
  exact waiting.own t (List.mem_cons_of_mem s later)

/-- An expiry that is not raced. -/
theorem expireUnpaidVnpayOrder_steps (once : ∀ j ≤ h.now, ListsOnce (h.past j).rows) (orderId : Id) (now : Time) {m : Nat} :
    (expireUnpaidVnpayOrder orderId now).wp h.isolation
      (fun _ w => Unraced h.current w.log → SubOrderSteps h (View.start h.current.rows m) w) (fun _ => True)
      (View.start h.current.rows m) := by
  unfold expireUnpaidVnpayOrder
  rw [wp_bind]
  refine wp_of_within (K := fun _ => False) (L := Mark.Reports) ?_ (fun info w₁ first => ?_) fun _ => trivial
  · refine within_bind (within_select _) fun found => ?_
    cases found with
    | none => exact within_pure _
    | some pair => exact within_bind ((within_note _).mpr trivial) fun _ => within_pure _
  have begun : SubOrderSteps h (View.start h.current.rows m) w₁ :=
    .single (.beside (first.mono (fun _ no => no.elim) fun _ reports => reports))
  cases info with
  | none => exact fun _ => begun
  | some info =>
    rw [wp_bind, wp_select]
    intro d₁ m₁ sees₁
    have looked := begun.tail (.beside (.looking (h.isolation.forward sees₁)))
    rw [wp_ite]
    refine ⟨fun _ _ => looked, fun _ => ?_⟩
    rw [wp_ite]
    refine ⟨fun _ _ => looked, fun _ => ?_⟩
    rw [expirePending, wp_bind, wp_select]
    intro d₂ m₂ sees₂
    have committed : Committed h d₂ := committed_of_sees sees₂ first.rows_same
    have loaded := looked.tail (.beside (.looking (h.isolation.forward sees₂)))
    rw [wp_bind, ← List.forM_map (g := fun s : LoadedSubOrder => Mark.subOrderLoaded s.id s.row.status)]
    refine wp_forM_note _ ?_
    have known : ∀ s ∈ pendingSubOrders d₂ orderId, loadSubOrder d₂ s.id = some s ∧ s.row.status = .pending :=
      fun s member => pendingSubOrders_mem member
    by_cases raced : ∃ s ∈ pendingSubOrders d₂ orderId, isCancelled (h.current.rows (.subOrder s.id))
    · -- a sub-order read as pending is cancelled by now: this run is not admitted
      obtain ⟨s, member, cancelled⟩ := raced
      refine wp_of_within (within_any _) (fun _ w more admitted => ?_) fun _ => trivial
      obtain ⟨marks, log, _⟩ := more.log
      have noted : Mark.subOrderLoaded s.id s.row.status ∈ w.log := by
        rw [log]
        refine List.mem_append_left _ (List.mem_append_right _ ?_)
        exact List.mem_map.mpr ⟨s, member, rfl⟩
      have closed := admitted _ noted
      simp [Mark.raced, (known s member).2, cancelled] at closed
    · obtain ⟨j, small, same⟩ := committed (.subOrdersOf orderId)
      have listed : (listed (d₂ (.subOrdersOf orderId))).Nodup := same ▸ once j small orderId
      have reports : ∀ e ∈ (pendingSubOrders d₂ orderId).map fun s => Mark.subOrderLoaded s.id s.row.status,
          e.Reports := by
        intro e member
        obtain ⟨s, _, rfl⟩ := List.mem_map.mp member
        trivial
      rw [wp_bind]
      refine wp_mono _ (wp_forM (fun rest w => rest ⊆ pendingSubOrders d₂ orderId ∧
          SubOrderSteps h (View.start h.current.rows m) w ∧ Waiting h rest w) expireSubOrder
        (fun s rest w kept => ?_) (pendingSubOrders d₂ orderId) ⟨List.Subset.refl _, ?_, ?_⟩)
        (fun _ w₂ done => ?_) fun _ e => e
      · obtain ⟨inside, steps, waiting⟩ := kept
        obtain ⟨read, pending⟩ := known s (inside List.mem_cons_self)
        refine wp_mono _ (expireSubOrder_steps committed read (by simp [pending]) steps waiting) (fun _ _ next =>
          ⟨fun t later => inside (List.mem_cons_of_mem _ later), next⟩) fun _ e => e
      · exact loaded.tail (.beside ⟨fun _ held => held, Nat.le_refl _, fun _ _ => rfl, _, rfl, reports⟩)
      · refine ⟨fun s _ => congrFun first.rows_same (.subOrder s.id), pendingSubOrders_nodup listed, fun s member done => ?_⟩
        exact raced ⟨s, member, done⟩
      · simp only [wp_bind]
        refine wp_settleMaster (fun _ => trivial) fun _ w₃ settled => ?_
        refine wp_of_within (within_markVnpayExpired orderId) (fun _ w₄ saved => ?_) fun _ => trivial
        rw [wp_note, wp_pure]
        refine fun _ => (done.2.1.tail settled).tail (.beside ((saved.mono ?_ ?_).trans (.mark trivial)))
        · rintro k rfl
          exact Or.inr trivial
        · rintro e ⟨_, _, rfl⟩
          trivial

end
end Marketplace
