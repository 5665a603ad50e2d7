import Marketplace.Orders.Effects
import Marketplace.ReadCommitted.Invariant

/-! A completed payment stays completed, and its order is not expired as unpaid. -/
namespace Marketplace
open ReadCommitted ReadCommitted.Tx

inductive PaymentCall where
  | cancellation (call : Cancellation)
  | ipn (verifySignature : VnpayQuery → Bool) (query : VnpayQuery) (anyRef : String) (now : Time)

def PaymentCall.request : PaymentCall → Request
  | .cancellation call => call.request
  | .ipn verifySignature query anyRef now => single (handleVnpayIpn verifySignature query anyRef now) .ipn

def paymentCalls (calls : Nat → Option PaymentCall) (i : Nat) : Request :=
  match calls i with
  | some call => call.request
  | none => .done .done

/-- A payment that is completed by now was loaded in another status, and re-read in a third one or
as completed. -/
def Mark.stale (s : Store (Table Row) Mark) : Mark → Bool
  | .paymentSaved o loaded reread =>
    isPaid (s.rows (.payment o)) && loaded ≠ .completed && loaded ≠ reread
  | _ => false

/-- An order was loaded as unpaid and expired, and its payment is completed by now. -/
def Mark.late (s : Store (Table Row) Mark) (log : List Mark) : Mark → Bool
  | .unpaidLoaded o _ => isPaid (s.rows (.payment o)) && decide (.expired o ∈ log)
  | _ => false

def Timely (s : Store (Table Row) Mark) (log : List Mark) : Prop :=
  ∀ e ∈ log, e.stale s = false ∧ e.late s log = false

instance (s : Store (Table Row) Mark) (log : List Mark) : Decidable (Timely s log) :=
  inferInstanceAs (Decidable (∀ e ∈ log, e.stale s = false ∧ e.late s log = false))

/-- From one committed state to a later one. -/
def PaidStays (s t : Store (Table Row) Mark) : Prop :=
  ∃ more, t.journal = s.journal ++ more ∧
    ∀ o, isPaid (s.rows (.payment o)) → isPaid (t.rows (.payment o)) ∧ .expired o ∉ more

theorem PaidStays.refl (s : Store (Table Row) Mark) : PaidStays s s :=
  ⟨[], (List.append_nil _).symm, fun _ paid => ⟨paid, List.not_mem_nil⟩⟩

theorem PaidStays.trans {s t u : Store (Table Row) Mark} (first : PaidStays s t) (second : PaidStays t u) :
    PaidStays s u := by
  obtain ⟨marks, journal, kept⟩ := first
  obtain ⟨more, later, still⟩ := second
  refine ⟨marks ++ more, by rw [later, journal, List.append_assoc], fun o paid => ?_⟩
  obtain ⟨between, early⟩ := kept o paid
  obtain ⟨after, late⟩ := still o between
  exact ⟨after, fun member => (List.mem_append.mp member).elim early late⟩

/-- No payment is inserted or deleted. -/
def SamePayments (d₀ : Db) (s : Store (Table Row) Mark) : Prop :=
  ∀ o, (s.rows (.payment o)).isSome = (d₀ (.payment o)).isSome

/-- So far a transaction has kept every completed payment, or has left a stale mark. -/
structure Charged (d₀ : Db) (s : Store (Table Row) Mark) (v : View (Table Row) Mark) : Prop where
  present : ∀ o, (v.rows (.payment o)).isSome = (d₀ (.payment o)).isSome
  paid : ∀ o, isPaid (s.rows (.payment o)) → isPaid (v.rows (.payment o)) ∨ ∃ e ∈ v.log, e.stale s
  unexpired : ∀ o, .expired o ∉ v.log

/-- What leaves the payments alone and expires nothing. -/
abbrev Aside (v w : View (Table Row) Mark) : Prop :=
  v.Continues (fun k => ¬ PaymentKey k) (fun e => ∀ o, e ≠ .expired o) w

section
variable {d₀ : Db} {s : Store (Table Row) Mark} {v w : View (Table Row) Mark}

theorem Charged.along (charged : Charged d₀ s v) (more : Aside v w) : Charged d₀ s w := by
  obtain ⟨marks, log, silent⟩ := more.log
  have same : ∀ o, w.rows (.payment o) = v.rows (.payment o) := fun o =>
    more.rows _ fun other => other trivial
  refine ⟨fun o => by rw [same, charged.present], fun o paid => ?_, fun o member => ?_⟩
  · rw [same, log]
    rcases charged.paid o paid with kept | ⟨e, member, stale⟩
    · exact Or.inl kept
    · exact Or.inr ⟨e, List.mem_append_left _ member, stale⟩
  · rw [log] at member
    rcases List.mem_append.mp member with early | late
    · exact charged.unexpired o early
    · exact silent _ late o rfl

theorem Charged.idle (charged : Charged d₀ s v) (more : v.Continues (fun _ => False) NoMark w) : Charged d₀ s w :=
  charged.along more.idle

theorem Aside.of {K : Key → Prop} {L : Mark → Prop} (more : v.Continues K L w)
    (keys : ∀ o, ¬ K (.payment o)) (marks : ∀ o, ¬ L (.expired o)) : Aside v w := by
  refine more.mono (fun k kind payment => ?_) fun e kind o same => marks o (same ▸ kind)
  cases k with
  | payment o => exact keys o kind
  | _ => exact payment

end

section
variable {d₀ : Db} {h : History (Table Row) Mark} {v : View (Table Row) Mark}

theorem Charged.sees_present (inv : ∀ j ≤ h.now, SamePayments d₀ (h.past j)) (charged : Charged d₀ h.current v)
    {d : Db} {m : Nat} (sees : h.isolation.Sees v d m) (o : Id) :
    (d (.payment o)).isSome = (d₀ (.payment o)).isSome := by
  rcases Isolation.row sees (.payment o) with own | ⟨j, small, old⟩
  · rw [own, charged.present]
  · rw [old, inv j small]

/-- A save of a payment that keeps the status it was loaded with, or completes it, or is not paid. -/
theorem Charged.wp_savePayment (inv : ∀ j ≤ h.now, SamePayments d₀ (h.past j)) (charged : Charged d₀ h.current v)
    {o : Id} {loaded mem : Payment} {Q : Unit → View (Table Row) Mark → Prop}
    (exists_ : (d₀ (.payment o)).isSome)
    (status : isPaid (h.current.rows (.payment o)) → mem.status = loaded.status ∨ mem.status = .completed)
    (next : ∀ w, Charged d₀ h.current w → Q () w) :
    (savePayment o loaded mem).wp h.isolation Q (fun _ => True) v := by
  unfold savePayment
  refine wp_saveMarked _ _ _ fun d m sees => ?_
  have seen := charged.sees_present inv sees o
  cases found : d (.payment o) with
  | none => rw [found, exists_] at seen; cases seen
  | some reread =>
    have marked : v.Continues (fun _ => False) (fun e => ∀ p, e ≠ .expired p)
        { v.looking m with log := v.log ++ [.paymentSaved o loaded.status reread.status] } :=
      (View.Continues.looking (h.isolation.forward sees)).trans (.mark fun _ no => by cases no)
    have noted := charged.along (marked.mono (fun _ no => no.elim) fun _ silent => silent)
    refine ⟨fun _ => next _ noted, fun _ => next _ ⟨fun p => ?_, fun p paid => ?_, noted.unexpired⟩⟩
    · by_cases same : p = o
      · subst same
        rw [View.put_rows_self, Option.isSome_map]
        exact noted.present p
      · rw [View.put_rows_other _ _ (by simpa using same)]
        exact noted.present p
    · by_cases same : p = o
      · subst same
        rw [View.put_rows_self, View.put_log]
        rcases noted.paid p paid with kept | stale
        · obtain ⟨current, stands, complete⟩ := isPaid_some kept
          rw [stands]
          by_cases old : mem.status = reread.status
          · -- the status column is not written: what stands is completed
            exact Or.inl (isPaid_of_status ((if_pos old).trans complete))
          · rcases status paid with copied | completed
            · by_cases loadedPaid : loaded.status = .completed
              · exact Or.inl (isPaid_of_status ((column_diff old).trans (copied.trans loadedPaid)))
              · refine Or.inr ⟨_, List.mem_append_right _ List.mem_cons_self, ?_⟩
                have other : loaded.status ≠ reread.status := fun eq => old (copied.trans eq)
                simp [Mark.stale, paid, loadedPaid, other]
            · exact Or.inl (isPaid_of_status ((column_diff old).trans completed))
        · exact Or.inr stale
      · rw [View.put_rows_other _ _ (by simpa using same), View.put_log]
        exact noted.paid p paid

theorem Charged.wp_updateAmountForOrder (inv : ∀ j ≤ h.now, SamePayments d₀ (h.past j))
    (charged : Charged d₀ h.current v) {o : Id} {amount : Money} {Q : Unit → View (Table Row) Mark → Prop}
    (next : ∀ w, Charged d₀ h.current w → Q () w) :
    (updateAmountForOrder o amount).wp h.isolation Q (fun _ => True) v := by
  unfold updateAmountForOrder
  rw [wp_bind, wp_select]
  intro d m sees
  have looked := charged.idle (.looking (h.isolation.forward sees))
  have seen := charged.sees_present inv sees o
  cases found : d (.payment o) with
  | none => exact next _ looked
  | some loaded =>
    rw [found] at seen
    exact looked.wp_savePayment inv seen.symm (fun _ => Or.inl rfl) next

theorem Charged.wp_markCodCompleted (inv : ∀ j ≤ h.now, SamePayments d₀ (h.past j))
    (charged : Charged d₀ h.current v) {o : Id} {paidAt : Time} {Q : Unit → View (Table Row) Mark → Prop}
    (next : ∀ w, Charged d₀ h.current w → Q () w) :
    (markCodCompleted o paidAt).wp h.isolation Q (fun _ => True) v := by
  unfold markCodCompleted
  rw [wp_bind, wp_select]
  intro d m sees
  have looked := charged.idle (.looking (h.isolation.forward sees))
  have seen := charged.sees_present inv sees o
  cases found : d (.payment o) with
  | none => exact next _ looked
  | some loaded =>
    rw [found] at seen
    rw [wp_ite]
    exact ⟨fun _ => next _ looked, fun _ => looked.wp_savePayment inv seen.symm (fun _ => Or.inr rfl) next⟩

theorem Charged.wp_recomputeMaster (inv : ∀ j ≤ h.now, SamePayments d₀ (h.past j))
    (charged : Charged d₀ h.current v) {o : Id} {now : Time} {Q : OrderStatus × Money → View (Table Row) Mark → Prop}
    (next : ∀ a w, Charged d₀ h.current w → Q a w) :
    (recomputeMasterAfterSubOrderChange o now).wp h.isolation Q (fun _ => True) v := by
  unfold recomputeMasterAfterSubOrderChange
  rw [wp_bind]
  refine wp_recomputeOrder (fun _ => trivial) fun order d₁ d₂ w _ _ _ more _ _ _ => ?_
  have aside : Aside v w := .of more (fun p => by simp [MasterKey, CouponKey, WalletKey]) fun p member => by
    obtain ⟨_, _, same⟩ := masterMarks_released member
    cases same
  dsimp only
  rw [wp_bind]
  refine (charged.along aside).wp_updateAmountForOrder inv fun w₂ updated => ?_
  rw [wp_bind, wp_given]
  refine ⟨fun _ => updated.wp_markCodCompleted inv fun w₃ completed => next _ _ completed, fun _ => next _ _ updated⟩

theorem refundMarks_unexpired {s : LoadedSubOrder} {o : Id} : .expired o ∉ refundMarks s := by
  unfold refundMarks
  cases s.shopCoupon <;> simp

theorem Charged.wp_refund (charged : Charged d₀ h.current v) {s : LoadedSubOrder}
    {Q : Unit → View (Table Row) Mark → Prop} (next : ∀ w, Charged d₀ h.current w → Q () w) :
    (restockAndRefundSubOrder s).wp h.isolation Q (fun _ => True) v := by
  refine wp_restockAndRefundSubOrder (fun _ => trivial) fun w more _ _ => next w (charged.along ?_)
  exact .of more (fun p => by simp [RefundKey, StockKey, CouponKey, WalletKey]) fun p => refundMarks_unexpired

theorem Charged.wp_save_aside {k : Key} [DecidableEq (Row k)] {cols : Columns (Row k)} {mem : Row k}
    {Q : Unit → View (Table Row) Mark → Prop} (charged : Charged d₀ h.current v) (other : ∀ o, k ≠ .payment o)
    (next : ∀ w, Charged d₀ h.current w → Q () w) :
    (save cols mem : Action Unit).wp h.isolation Q (fun _ => True) v := by
  have within : (save cols mem : Action Unit).Within (· = k) NoMark := within_save _ _ rfl
  refine wp_of_within within (fun _ w more => next w (charged.along ?_)) fun _ => trivial
  exact .of more (fun p same => other p same.symm) fun p no => no

theorem Charged.start {m : Nat} (inv : SamePayments d₀ h.current) :
    Charged d₀ h.current (View.start h.current.rows m) :=
  ⟨inv, fun _ paid => Or.inl paid, fun _ => List.not_mem_nil⟩

theorem Charged.commit (charged : Charged d₀ h.current v) (timely : Timely h.current v.log) :
    SamePayments d₀ (h.commit v) ∧ PaidStays h.current (h.commit v) := by
  refine ⟨charged.present, v.log, rfl, fun o paid => ⟨?_, charged.unexpired o⟩⟩
  rcases charged.paid o paid with kept | ⟨e, member, stale⟩
  · exact kept
  · rw [(timely e member).1] at stale
    cases stale

theorem cancelSubOrder_charges (userId subOrderId : Id) (now : Time) :
    (cancelSubOrder userId subOrderId now).Keeps Timely (SamePayments d₀) PaidStays := by
  intro h m inv _ _
  have charged := Charged.start (m := m) (inv h.now (Nat.le_refl _))
  unfold cancelSubOrder
  simp only [wp_bind]
  refine wp_selectForUpdate fun w₁ first _ => ?_
  rw [wp_orFail]
  refine ⟨fun _ _ => ?_, fun _ => trivial⟩
  rw [wp_select]
  intro d m₁ sees
  rw [wp_orFail]
  refine ⟨fun loaded _ => ?_, fun _ => trivial⟩
  rw [wp_orFail]
  refine ⟨fun order _ => ?_, fun _ => trivial⟩
  rw [wp_require]
  refine ⟨fun _ => ?_, fun _ => trivial⟩
  rw [wp_note, wp_require]
  refine ⟨fun _ => ?_, fun _ => trivial⟩
  have looked := (charged.idle first).idle (.looking (h.isolation.forward sees))
  refine (looked.along (.mark fun _ no => by cases no)).wp_refund fun w₂ refunded => ?_
  refine refunded.wp_save_aside (fun _ same => by cases same) fun w₃ saved => ?_
  refine saved.wp_recomputeMaster inv fun a w₄ settled => ?_
  rw [sellerOfShop, wp_select]
  intro d₂ m₂ sees₂
  rw [wp_note, wp_pure]
  intro _ timely
  have last := settled.idle (.looking (h.isolation.forward sees₂))
  exact Charged.commit (last.along (.mark fun _ no => by cases no)) timely

theorem Charged.wp_reportStatus (inv : ∀ j ≤ h.now, SamePayments d₀ (h.past j)) (charged : Charged d₀ h.current v)
    {loaded : LoadedSubOrder} {order : Order} {newStatus : OrderStatus} {now : Time} :
    (reportStatus loaded order newStatus now).wp h.isolation
      (fun _ w => (∀ k, w.held k = false → w.rows k = h.current.rows k) → Timely h.current w.log →
        SamePayments d₀ (h.commit w) ∧ PaidStays h.current (h.commit w)) (fun _ => True) v := by
  unfold reportStatus
  simp only [wp_bind]
  refine charged.wp_recomputeMaster inv fun a w settled => ?_
  rw [wp_orFail]
  refine ⟨fun customer _ => ?_, fun _ => trivial⟩
  rw [wp_note, wp_pure]
  intro _ timely
  exact Charged.commit (settled.along (.mark fun _ no => by cases no)) timely

theorem updateSubOrderStatus_charges (sellerId subOrderId : Id) (newStatus : OrderStatus) (now : Time) :
    (updateSubOrderStatus sellerId subOrderId newStatus now).Keeps Timely (SamePayments d₀) PaidStays := by
  intro h m inv _ _
  have charged := Charged.start (m := m) (inv h.now (Nat.le_refl _))
  unfold updateSubOrderStatus
  simp only [wp_bind]
  refine wp_selectForUpdate fun w₁ first _ => ?_
  rw [wp_orFail]
  refine ⟨fun _ _ => ?_, fun _ => trivial⟩
  rw [wp_select]
  intro d m₁ sees
  rw [wp_orFail]
  refine ⟨fun pair _ => ?_, fun _ => trivial⟩
  rw [wp_orFail]
  refine ⟨fun order _ => ?_, fun _ => trivial⟩
  rw [wp_require]
  refine ⟨fun _ => ?_, fun _ => trivial⟩
  rw [wp_require]
  refine ⟨fun _ => ?_, fun _ => trivial⟩
  rw [wp_note]
  have looked := (charged.idle first).idle (.looking (h.isolation.forward sees))
  have noted := looked.along (.mark (e := .subOrderLoaded subOrderId pair.1.row.status) fun _ no => by cases no)
  rw [wp_ite]
  refine ⟨fun _ => ?_, fun _ => ?_⟩
  · rw [wp_bind, wp_select]
    intro d₂ m₂ sees₂
    rw [wp_pure]
    intro _ timely
    exact (noted.idle (.looking (h.isolation.forward sees₂))).commit timely
  simp only [wp_bind]
  rw [wp_require]
  refine ⟨fun _ => ?_, fun _ => trivial⟩
  rw [wp_given]
  refine ⟨fun _ => ?_, fun _ => ?_⟩
  · exact noted.wp_refund fun w₂ refunded => refunded.wp_save_aside (fun _ same => by cases same) fun w₃ saved => saved.wp_reportStatus inv
  · exact noted.wp_save_aside (fun _ same => by cases same) fun w₃ saved => saved.wp_reportStatus inv

theorem Charged.wp_expireSubOrder (charged : Charged d₀ h.current v) (loaded : LoadedSubOrder) :
    (expireSubOrder loaded).wp h.isolation (fun _ => Charged d₀ h.current) (fun _ => True) v := by
  unfold expireSubOrder
  rw [wp_bind]
  exact charged.wp_refund fun w refunded => refunded.wp_save_aside (fun _ same => by cases same) fun u saved => saved

/-- An order whose payment is completed by now leaves the mark of its expiry. -/
theorem expirePending_marks (orderId : Id) (now : Time) {Q : Bool → View (Table Row) Mark → Prop}
    (next : ∀ a w, (∃ marks, w.log = v.log ++ marks) → .expired orderId ∈ w.log → Q a w) :
    (expirePending orderId now).wp h.isolation Q (fun _ => True) v := by
  unfold expirePending
  simp only [wp_bind]
  rw [wp_select]
  intro d m _
  refine wp_of_within (within_any _) (fun _ w₁ first => ?_) fun _ => trivial
  refine wp_of_within (within_any _) (fun _ w₂ second => ?_) fun _ => trivial
  refine wp_of_within (within_any _) (fun _ w₃ third => ?_) fun _ => trivial
  refine wp_of_within (within_any _) (fun _ w₄ fourth => ?_) fun _ => trivial
  rw [wp_note, wp_pure]
  obtain ⟨marks, log, _⟩ := ((first.trans second).trans third).trans fourth |>.log
  exact next _ _ ⟨marks ++ [.expired orderId], by rw [View.mark_log, log, View.looking_log, List.append_assoc]⟩
    (List.mem_append_right _ List.mem_cons_self)

/-- The expiry of an order that is not paid by now. -/
theorem Charged.wp_expirePending (inv : ∀ j ≤ h.now, SamePayments d₀ (h.past j)) (charged : Charged d₀ h.current v)
    {orderId : Id} {now : Time} (unpaid : ¬ isPaid (h.current.rows (.payment orderId))) :
    (expirePending orderId now).wp h.isolation
      (fun _ w => (∀ k, w.held k = false → w.rows k = h.current.rows k) → Timely h.current w.log →
        SamePayments d₀ (h.commit w) ∧ PaidStays h.current (h.commit w)) (fun _ => True) v := by
  unfold expirePending
  simp only [wp_bind]
  rw [wp_select]
  intro d m sees
  refine wp_of_within (K := fun _ => False) (L := fun e => ∀ o, e ≠ .expired o) ?_ (fun _ w₁ noted => ?_) fun _ => trivial
  · exact within_forM _ fun s _ => (within_note _).mpr fun _ no => by cases no
  have begun := (charged.idle (.looking (h.isolation.forward sees))).along (noted.mono (fun _ no => no.elim) fun _ silent => silent)
  refine wp_mono _ (wp_forM (fun _ => Charged d₀ h.current) expireSubOrder
    (fun s _ _ kept => kept.wp_expireSubOrder s) _ begun) (fun _ w₂ cancelled => ?_) fun _ e => e
  refine cancelled.wp_recomputeMaster inv fun _ w₃ settled => ?_
  rw [markVnpayExpired, wp_bind, wp_select]
  intro d₂ m₂ sees₂
  have looked := settled.idle (.looking (h.isolation.forward sees₂))
  have marked : ∀ w, Charged d₀ h.current w → Timely h.current (w.log ++ [.expired orderId]) →
      SamePayments d₀ (h.commit (w.mark (.expired orderId))) ∧
        PaidStays h.current (h.commit (w.mark (.expired orderId))) := by
    intro w failed timely
    refine ⟨failed.present, w.log ++ [.expired orderId], rfl, fun o paid => ⟨?_, fun member => ?_⟩⟩
    · rcases failed.paid o paid with kept | ⟨e, member, stale⟩
      · exact kept
      · rw [(timely e (List.mem_append_left _ member)).1] at stale
        cases stale
    · rcases List.mem_append.mp member with early | last
      · exact failed.unexpired o early
      · have same : o = orderId := by simpa using last
        exact unpaid (same ▸ paid)
  have seen := settled.sees_present inv sees₂ orderId
  cases found : d₂ (.payment orderId) with
  | none =>
    rw [wp_pure, wp_note, wp_pure]
    exact fun _ timely => marked _ looked timely
  | some payment =>
    rw [found] at seen
    refine looked.wp_savePayment inv seen.symm (fun paid => absurd paid unpaid) fun w failed => ?_
    rw [wp_note, wp_pure]
    exact fun _ timely => marked _ failed timely

theorem expireUnpaidVnpayOrder_charges (orderId : Id) (now : Time) :
    (expireUnpaidVnpayOrder orderId now).Keeps Timely (SamePayments d₀) PaidStays := by
  intro h m inv _ _
  have charged := Charged.start (m := m) (inv h.now (Nat.le_refl _))
  unfold expireUnpaidVnpayOrder getVnpayExpiryInfo
  rw [wp_bind, wp_bind, wp_select]
  intro d m₁ sees
  have looked := charged.idle (.looking (h.isolation.forward sees))
  cases found : expiryInfo orderId now d with
  | none => exact fun _ timely => looked.commit timely
  | some pair =>
    dsimp only
    rw [wp_bind, wp_note, wp_pure]
    have noted := looked.along (.mark (e := .unpaidLoaded orderId pair.2) fun _ no => by cases no)
    rw [wp_bind, wp_select]
    intro d₂ m₂ sees₂
    have again := noted.idle (.looking (h.isolation.forward sees₂))
    rw [wp_ite]
    refine ⟨fun _ _ timely => again.commit timely, fun _ => ?_⟩
    rw [wp_ite]
    refine ⟨fun _ _ timely => again.commit timely, fun _ => ?_⟩
    by_cases paid : isPaid (h.current.rows (.payment orderId))
    · refine expirePending_marks orderId now fun _ w more expired _ timely => ?_
      obtain ⟨marks, log⟩ := more
      have loaded : .unpaidLoaded orderId pair.2 ∈ w.log := by simp [log]
      have late := (timely _ loaded).2
      simp [Mark.late, paid, expired] at late
    · exact again.wp_expirePending inv paid

/-- A save of a held payment that is not completed, or is completed by it. -/
theorem Charged.wp_saveHeld {o : Id} {row mem : Payment} {Q : Unit → View (Table Row) Mark → Prop}
    (charged : Charged d₀ h.current v) (held : v.held (.payment o) = true) (stands : v.rows (.payment o) = some row)
    (status : row.status = .completed → mem.status = .completed) (next : ∀ w, Charged d₀ h.current w → Q () w) :
    (save (k := Key.payment o) paymentColumns mem : Action Unit).wp h.isolation Q (fun _ => True) v := by
  refine wp_save_held (k := Key.payment o) held stands fun w more _ stored => next w ⟨fun p => ?_, fun p paid => ?_, fun p => ?_⟩
  · by_cases same : p = o
    · subst same
      rw [stored, ← charged.present, stands]
      rfl
    · rw [more.rows _ (by simpa using same)]
      exact charged.present p
  · rw [more.log_same]
    rcases charged.paid p paid with kept | stale
    · refine Or.inl ?_
      by_cases same : p = o
      · subst same
        rw [stands] at kept
        rw [stored]
        exact isPaid_of_status (status (by simpa [isPaid] using kept))
      · rw [more.rows _ (by simpa using same)]
        exact kept
    · exact Or.inr stale
  · rw [more.log_same]
    exact charged.unexpired p

theorem Charged.wp_syncPaymentFromAttempt (charged : Charged d₀ h.current v) {txnRef : String}
    {attempt : PaymentAttempt} {now : Time} {Q : Bool → View (Table Row) Mark → Prop}
    (next : ∀ a w, Charged d₀ h.current w → Q a w) :
    (syncPaymentFromAttempt txnRef attempt now).wp h.isolation Q (fun _ => True) v := by
  unfold syncPaymentFromAttempt
  rw [wp_bind]
  refine wp_selectForUpdate fun w first held => ?_
  have locked := charged.idle first
  cases found : v.rows (.payment attempt.payment) with
  | none => exact next _ _ locked
  | some payment =>
    have stands : w.rows (.payment attempt.payment) = some payment := (first.rows _ fun no => no).trans found
    dsimp only
    rw [wp_ite]
    refine ⟨fun _ => ?_, fun _ => ?_⟩
    · rw [wp_ite]
      refine ⟨fun newest => ?_, fun _ => next _ _ locked⟩
      rw [wp_bind]
      refine locked.wp_saveHeld held stands (fun completed => ?_) fun w₂ saved => next _ _ saved
      rw [newest.2] at completed
      cases completed
    · rw [wp_ite]
      refine ⟨fun _ => next _ _ locked, fun _ => ?_⟩
      rw [wp_bind]
      exact locked.wp_saveHeld held stands (fun _ => rfl) fun w₂ saved => next _ _ saved

theorem handleVnpayIpn_charges (verifySignature : VnpayQuery → Bool) (query : VnpayQuery) (anyRef : String)
    (now : Time) :
    (handleVnpayIpn verifySignature query anyRef now).Keeps Timely (SamePayments d₀) PaidStays := by
  intro h m inv _ _
  have charged := Charged.start (m := m) (inv h.now (Nat.le_refl _))
  unfold handleVnpayIpn
  rw [wp_ite]
  refine ⟨fun _ => ?_, fun _ _ timely => charged.commit timely⟩
  unfold recordIpn
  dsimp only
  rw [wp_bind]
  refine wp_selectForUpdate fun w first held => ?_
  have locked := charged.idle first
  cases (View.start h.current.rows m : View (Table Row) Mark).rows (.attempt (ipnTxnRef query anyRef)) with
  | none => exact fun _ timely => locked.commit timely
  | some attempt =>
    dsimp only
    rw [wp_ite]
    refine ⟨fun _ _ timely => locked.commit timely, fun _ => ?_⟩
    rw [wp_ite]
    refine ⟨fun _ _ timely => locked.commit timely, fun _ => ?_⟩
    rw [wp_bind]
    refine locked.wp_save_aside (fun o same => by cases same) fun w₂ recorded => ?_
    rw [wp_bind]
    exact recorded.wp_syncPaymentFromAttempt fun _ w₃ synced _ timely => synced.commit timely

end
theorem paymentCalls_keep {d₀ : Db} (calls : Nat → Option PaymentCall) (i : Nat) :
    (paymentCalls calls i).All fun _ body => body.Keeps Timely (SamePayments d₀) PaidStays := by
  unfold paymentCalls
  cases calls i with
  | none => exact .done _
  | some call =>
    cases call with
    | ipn verify query anyRef now =>
      exact .tx (handleVnpayIpn_charges verify query anyRef now) (fun _ => .done _) fun _ => .done _
    | cancellation call =>
      cases call with
      | byCustomer user sub now => exact .tx (cancelSubOrder_charges user sub now) (fun _ => .done _) fun _ => .done _
      | bySeller seller sub new now =>
        exact .tx (updateSubOrderStatus_charges seller sub new now) (fun _ => .done _) fun _ => .done _
      | byExpiry order now => exact .tx (expireUnpaidVnpayOrder_charges order now) (fun _ => .done _) fun _ => .done _

section
variable {d₀ : Db} {calls : Nat → Option PaymentCall} {fault : Err} {c d : Conf (Table Row) Mark Err Answer}

/-- Between any two states of a run whose commits are timely. -/
theorem completed_payment_stays (run : Moves Timely fault (Conf.start ⟨d₀, []⟩ (paymentCalls calls)) c)
    (later : Moves Timely fault c d) : PaidStays c.store d.store :=
  keeps_le PaidStays.refl PaidStays.trans (fun _ => rfl) (paymentCalls_keep calls) run later

end

/-- An unpaid order with one attempt. -/
def attemptedOrder : Db
  | .payment 1 => some ⟨.vnpay, .pending, 1000, some "ORD-1-7", none, none, none, none⟩
  | .attempt "ORD-1-7" => some ⟨1, 1000, .pending, none, none, none, none, 7⟩
  | .attemptsOf 1 => some ["ORD-1-7"]
  | .order 1 => some
    { customer := some 3, globalCoupon := none, totalAmount := 1000, globalDiscountAmount := some 0,
      globalCouponCode := none, shippingAddress := ⟨"", "", "", none, none⟩, status := .pending,
      idempotencyKey := none, orderNumber := "ORD-1", createdAt := 0 }
  | .subOrdersOf 1 => some [10]
  | .subOrder 10 => some
    { shop := some 7, order := 1, shopCoupon := none, subTotal := 1000, shippingFee := 0, shopDiscountAmount := 0,
      shopCouponCode := none, totalAmount := 1000, status := .pending, deliveredAt := none }
  | _ => none

def paidQuery : VnpayQuery :=
  [("vnp_TxnRef", "ORD-1-7"), ("vnp_Amount", "1000"), ("vnp_ResponseCode", "00"), ("vnp_TransactionNo", "14")]

/-- The expiry job and the callback of a late payment. -/
def expiryAndIpn : Nat → Option PaymentCall
  | 0 => some (.cancellation (.byExpiry 1 2000000))
  | 1 => some (.ipn (fun _ => true) paidQuery "" 2000000)
  | _ => none

set_option maxRecDepth 4000 in
/-- The callback first: the expiry then finds the order paid. -/
theorem paid_then_expired :
    ∃ c d, isPaid (c.store.rows (.payment 1)) ∧ isPaid (d.store.rows (.payment 1)) ∧ PaidStays c.store d.store ∧
      Moves Timely .database (Conf.start ⟨attemptedOrder, []⟩ (paymentCalls expiryAndIpn)) c ∧
      Moves Timely .database c d := by
  have obeys : (Conf.start ⟨attemptedOrder, []⟩ (paymentCalls expiryAndIpn)).Obeys Timely (List.replicate 10 1) := by
    decide +kernel
  have found : ∃ c ∈ (Conf.start ⟨attemptedOrder, []⟩ (paymentCalls expiryAndIpn)).play (List.replicate 10 1),
      isPaid (c.store.rows (.payment 1)) ∧ c.Obeys Timely (List.replicate 3 0) ∧
        ∃ d ∈ c.play (List.replicate 3 0), isPaid (d.store.rows (.payment 1)) := by
    decide +kernel
  obtain ⟨c, run, paid, obeysToo, next⟩ := Conf.exists_moves _ obeys found
  obtain ⟨d, later, still⟩ := Conf.exists_moves _ obeysToo next
  exact ⟨c, d, paid, still, completed_payment_stays run later, run, later⟩

set_option maxRecDepth 4000 in
/-- The expiry has read the order as unpaid when the callback commits. -/
theorem completed_payment_lost :
    ¬ ∀ (d₀ : Db) (calls : Nat → Option PaymentCall) (c d : Conf (Table Row) Mark Err Answer),
      Moves (fun _ _ => True) .database (Conf.start ⟨d₀, []⟩ (paymentCalls calls)) c →
      Moves (fun _ _ => True) .database c d → PaidStays c.store d.store := by
  intro claimed
  have found : ∃ c ∈ (Conf.start ⟨attemptedOrder, []⟩ (paymentCalls expiryAndIpn)).play
      (List.replicate 4 0 ++ List.replicate 10 1), isPaid (c.store.rows (.payment 1)) ∧
        ∃ d ∈ c.play (List.replicate 21 0), ¬ isPaid (d.store.rows (.payment 1)) := by
    decide +kernel
  obtain ⟨c, run, paid, next⟩ := Conf.exists_moves _ (Conf.obeys_any _ _) found
  obtain ⟨d, later, lost⟩ := Conf.exists_moves _ (Conf.obeys_any _ _) next
  obtain ⟨_, _, stays⟩ := claimed attemptedOrder expiryAndIpn c d run later
  exact lost (stays 1 paid).1

end Marketplace
