import Marketplace.Orders.Steps

/-! Every sub-order is restocked and refunded once, whatever cancels it. -/
namespace Marketplace
open ReadCommitted ReadCommitted.Tx

/-- One call for each thread that makes one. -/
def cancellations (calls : Nat → Option Cancellation) (i : Nat) : Request :=
  match calls i with
  | some call => call.request
  | none => .done .done

/-- Each sub-order's items go back at most once and each redemption is given back at most once,
and the stock and the use counts are the initial ones with exactly that added. -/
structure OnceEach (d₀ : Db) (s : Store (Table Row) Mark) : Prop where
  restocked : ∀ sub, restocks s.journal sub = [] ∨
    isCancelled (s.rows (.subOrder sub)) ∧ restocks s.journal sub = [restockTargets (loadItems d₀ sub)]
  released : ∀ source, (releasesFor s.journal source).length ≤ 1
  stock : ∀ k, StockKey k → s.rows k = addStock (returned s.journal) 1 d₀ k
  coupons : ∀ c, s.rows (.coupon c) = timesReleased (releaseCount s.journal c) (d₀ (.coupon c))

/-- Rows no cancellation writes. -/
def Constant : Key → Prop
  | .orderItem _ => True
  | .itemsOf _ => True
  | .subOrdersOf _ => True
  | _ => False

/-- What no cancellation changes in a sub-order. -/
structure Kept (before after : Option SubOrder) : Prop where
  placed : after.map SubOrder.placed = before.map SubOrder.placed
  cancelled : isCancelled before → isCancelled after

structure Accounted (d₀ d : Db) (journal : List Mark) : Prop where
  constant : ∀ k, Constant k → d k = d₀ k
  kept : ∀ sub, Kept (d₀ (.subOrder sub)) (d (.subOrder sub))
  stock : ∀ k, StockKey k → d k = addStock (returned journal) 1 d₀ k
  coupons : ∀ c, d (.coupon c) = timesReleased (releaseCount journal c) (d₀ (.coupon c))
  restocked : ∀ sub, restocks journal sub =
    if isCancelled (d (.subOrder sub)) ∧ ¬ isCancelled (d₀ (.subOrder sub)) then
      [restockTargets (loadItems d₀ sub)]
    else []
  subOrderReleases : ∀ sub, (releasesFor journal (.subOrder sub)).length ≤ (restocks journal sub).length
  orderReleases : ∀ o, (releasesFor journal (.order o)).length +
    (if (d (.order o)).any (·.globalCoupon.isSome) then 1 else 0) ≤ 1

theorem Accounted.onceEach {d₀ : Db} {s : Store (Table Row) Mark} (acc : Accounted d₀ s.rows s.journal) :
    OnceEach d₀ s := by
  refine ⟨fun sub => ?_, fun source => ?_, acc.stock, acc.coupons⟩
  · rw [acc.restocked sub]
    split
    · rename_i left; exact Or.inr ⟨left.1, rfl⟩
    · exact Or.inl rfl
  · cases source with
    | order o =>
      have bound := acc.orderReleases o
      omega
    | subOrder sub =>
      have bound := acc.subOrderReleases sub
      rw [acc.restocked sub] at bound
      split at bound
      · exact bound
      · exact Nat.le_trans bound (Nat.zero_le 1)

theorem Accounted.start (d₀ : Db) : Accounted d₀ d₀ [] where
  constant _ _ := rfl
  kept _ := ⟨rfl, fun done => done⟩
  stock k _ := by rw [show returned [] = [] from rfl, addStock_nil]
  coupons c := by simp [releaseCount]
  restocked sub := by
    rw [if_neg fun left => left.2 left.1]
    rfl
  subOrderReleases _ := Nat.le_refl _
  orderReleases o := by
    split
    · exact Nat.le_refl 1
    · exact Nat.zero_le 1

section
variable {d₀ d : Db} {journal : List Mark}

/-- A release adds one to the account of its source and takes one off the count. -/
theorem Accounted.cancel {s : LoadedSubOrder} {row : Option SubOrder} (acc : Accounted d₀ d journal)
    (items : s.items = loadItems d₀ s.id) (active : ¬ isCancelled (d (.subOrder s.id)))
    (kept : Kept (d (.subOrder s.id)) row) (cancelled : isCancelled row) :
    Accounted d₀ (Function.update (refunded s d) (.subOrder s.id) row) (journal ++ refundMarks s) := by
  have other : ∀ k, ¬ CouponKey k → k ≠ .subOrder s.id →
      Function.update (refunded s d) (.subOrder s.id) row k = addStock (restockTargets s.items) 1 d k := by
    intro k notCoupon different
    rw [Function.update_of_ne different]
    exact refunded_other notCoupon
  have own := acc.kept s.id
  have fresh : ¬ isCancelled (d₀ (.subOrder s.id)) := fun before => active (own.cancelled before)
  refine ⟨fun k same => ?_, fun sub => ?_, fun k stock => ?_, fun c => ?_, fun sub => ?_, fun sub => ?_, fun o => ?_⟩
  · rw [other k (by cases k <;> simp_all [Constant, CouponKey]) (by rintro rfl; exact same)]
    rw [← acc.constant k same]
    cases k <;> first | exact same.elim | rfl
  · by_cases same : sub = s.id
    · subst same
      simp only [Function.update_self]
      exact ⟨kept.placed.trans own.placed, fun _ => cancelled⟩
    · have different : Key.subOrder sub ≠ .subOrder s.id := by simpa using same
      rw [other (.subOrder sub) (fun no => no) different]
      exact acc.kept sub
  · rw [other k (by cases k <;> simp_all [StockKey, CouponKey]) (by rintro rfl; exact stock), returned_append,
      returned_refundMarks, addStock_append]
    have stands := acc.stock k stock
    cases k with
    | product p => simp only [addStock] at stands ⊢; rw [stands]
    | variant x => simp only [addStock] at stands ⊢; rw [stands]
    | _ => exact stock.elim
  · have different : Key.coupon c ≠ .subOrder s.id := by simp
    rw [Function.update_of_ne different, refunded_coupon, acc.coupons c, timesReleased_add, releaseCount_append]
  · rw [restocks_append, restocks_refundMarks, acc.restocked sub]
    by_cases same : s.id = sub
    · subst same
      rw [if_neg fun left => active left.1, if_pos rfl, if_pos ⟨by simpa using cancelled, fresh⟩, items]
      rfl
    · have different : Key.subOrder sub ≠ .subOrder s.id := by simpa using Ne.symm same
      have stands : Function.update (refunded s d) (.subOrder s.id) row (.subOrder sub) = d (.subOrder sub) :=
        other _ (fun no => no) different
      simp only [stands, if_neg same, List.append_nil]
  · rw [restocks_append, releasesFor_append, List.length_append, List.length_append]
    exact Nat.add_le_add (acc.subOrderReleases sub) (releasesFor_refundMarks s sub)
  · rw [releasesFor_append, releasesFor_refundMarks_order, List.append_nil,
      other (.order o) (fun no => no) (by simp)]
    exact acc.orderReleases o

/-- A recompute of the master. -/
theorem Accounted.recompute {o : Id} {order : Order} (acc : Accounted d₀ d journal)
    (coupon : Option (Id × Coupon)) (siblings : Siblings) (stands : d (.order o) = some order)
    (own : coupon.isSome → order.globalCoupon.isSome) :
    Accounted d₀ (recomputed o order coupon siblings d) (journal ++ masterMarks o coupon siblings) := by
  have other : ∀ k, ¬ CouponKey k → k ≠ .order o → recomputed o order coupon siblings d k = d k :=
    fun k notCoupon different => recomputed_other notCoupon different
  refine ⟨fun k same => ?_, fun sub => ?_, fun k stock => ?_, fun c => ?_, fun sub => ?_, fun sub => ?_, fun p => ?_⟩
  · rw [other k (by cases k <;> simp_all [Constant, CouponKey]) (by rintro rfl; exact same)]
    exact acc.constant k same
  · rw [other (.subOrder sub) (fun no => no) (by simp)]
    exact acc.kept sub
  · rw [other k (by cases k <;> simp_all [StockKey, CouponKey]) (by rintro rfl; exact stock), returned_append,
      returned_masterMarks, List.append_nil]
    exact acc.stock k stock
  · rw [recomputed_coupon, acc.coupons c, timesReleased_add, releaseCount_append]
  · rw [restocks_append, restocks_masterMarks, List.append_nil,
      other (.subOrder sub) (fun no => no) (by simp)]
    exact acc.restocked sub
  · rw [restocks_append, releasesFor_append, restocks_masterMarks, releasesFor_masterMarks_subOrder,
      List.append_nil, List.append_nil]
    exact acc.subOrderReleases sub
  · rw [releasesFor_append, List.length_append]
    have before := acc.orderReleases p
    by_cases same : o = p
    · subst same
      have moved := releasesFor_masterMarks o coupon siblings
      have after : recomputed o order coupon siblings d (.order o) = some (recomputedOrder order coupon siblings) := by
        simp [recomputed]
      simp only [stands, after, Option.any_some, recomputedOrder, Option.isSome_map] at before ⊢
      by_cases held : coupon.isSome
      · rw [if_pos held] at moved
        rw [if_pos (own held)] at before
        omega
      · rw [if_neg held] at moved
        omega
    · rw [releasesFor_masterMarks_other same, List.length_nil, Nat.add_zero,
        other (.order p) (fun no => no) (by simpa using Ne.symm same)]
      exact before

/-- A change of a sub-order that neither cancels it nor reopens it. -/
theorem Accounted.restate {sub : Id} (acc : Accounted d₀ d journal) (row : Option SubOrder)
    (kept : Kept (d (.subOrder sub)) row) (same : isCancelled row = isCancelled (d (.subOrder sub))) :
    Accounted d₀ (Function.update d (.subOrder sub) row) journal := by
  have other : ∀ k, k ≠ .subOrder sub → Function.update d (.subOrder sub) row k = d k :=
    fun k different => Function.update_of_ne different _ _
  refine ⟨fun k same => ?_, fun s => ?_, fun k stock => ?_, fun c => ?_, fun s => ?_, acc.subOrderReleases,
    fun o => ?_⟩
  · rw [other k (by rintro rfl; exact same)]
    exact acc.constant k same
  · by_cases own : s = sub
    · subst own
      rw [Function.update_self]
      have before := acc.kept s
      exact ⟨kept.placed.trans before.placed, fun done => kept.cancelled (before.cancelled done)⟩
    · rw [other _ (by simpa using own)]
      exact acc.kept s
  · rw [other k (by rintro rfl; exact stock)]
    exact acc.stock k stock
  · rw [other _ (by simp)]
    exact acc.coupons c
  · have stands : isCancelled (Function.update d (.subOrder sub) row (.subOrder s)) = isCancelled (d (.subOrder s)) := by
      by_cases own : s = sub
      · subst own
        rw [Function.update_self, same]
      · rw [other _ (by simpa using own)]
    rw [stands]
    exact acc.restocked s
  · rw [other _ (by simp)]
    exact acc.orderReleases o

/-- Changes of wallets and payments, and marks that move no stock and no coupon. -/
theorem Accounted.beside {e : Db} {marks : List Mark} (acc : Accounted d₀ d journal)
    (rows : ∀ k, ¬ Beside k → e k = d k) (quiet : ∀ e ∈ marks, e.Quiet) :
    Accounted d₀ e (journal ++ marks) := by
  have restock : ∀ sub, restocks (journal ++ marks) sub = restocks journal sub := fun sub => by
    rw [restocks_append, restocks_quiet quiet, List.append_nil]
  have release : ∀ source, releasesFor (journal ++ marks) source = releasesFor journal source :=
    fun source => by rw [releasesFor_append, releasesFor_quiet quiet, List.append_nil]
  have count : ∀ c, releaseCount (journal ++ marks) c = releaseCount journal c := fun c => by
    rw [releaseCount_append, releaseCount_quiet quiet, Nat.add_zero]
  have total : returned (journal ++ marks) = returned journal := by
    rw [returned_append, returned_quiet quiet, List.append_nil]
  have shown : ∀ k, Constant k ∨ StockKey k ∨ CouponKey k → e k = d k := fun k kind => by
    refine rows k ?_
    cases k <;> simp_all [Constant, StockKey, CouponKey, Beside, WalletKey, PaymentKey]
  have subOrders : ∀ sub, e (.subOrder sub) = d (.subOrder sub) := fun sub =>
    rows _ (by simp [Beside, WalletKey, PaymentKey])
  have orders : ∀ o, e (.order o) = d (.order o) := fun o =>
    rows _ (by simp [Beside, WalletKey, PaymentKey])
  refine ⟨fun k same => ?_, fun sub => ?_, fun k stock => ?_, fun c => ?_, fun sub => ?_, fun sub => ?_, fun o => ?_⟩
  · rw [shown k (Or.inl same)]
    exact acc.constant k same
  · rw [subOrders]
    exact acc.kept sub
  · rw [shown k (Or.inr (Or.inl stock)), total]
    exact acc.stock k stock
  · rw [shown (.coupon c) (Or.inr (Or.inr trivial)), count]
    exact acc.coupons c
  · rw [restock, subOrders]
    exact acc.restocked sub
  · rw [release, restock]
    exact acc.subOrderReleases sub
  · rw [release, orders]
    exact acc.orderReleases o

/-- What the snapshots of all statements have in common. -/
def Fixed (d₀ : Db) : ∀ k, Option (Row k) → Prop
  | .subOrder s, row => Kept (d₀ (.subOrder s)) row
  | .orderItem i, row => row = d₀ (.orderItem i)
  | .itemsOf s, row => row = d₀ (.itemsOf s)
  | .subOrdersOf o, row => row = d₀ (.subOrdersOf o)
  | .product p, row => row.isSome = (d₀ (.product p)).isSome
  | .variant x, row => row.isSome = (d₀ (.variant x)).isSome
  | _, _ => True

theorem Accounted.fixed (acc : Accounted d₀ d journal) (k : Key) : Fixed d₀ k (d k) := by
  cases k with
  | subOrder s => exact acc.kept s
  | orderItem i => exact acc.constant (.orderItem i) trivial
  | itemsOf s => exact acc.constant (.itemsOf s) trivial
  | subOrdersOf o => exact acc.constant (.subOrdersOf o) trivial
  | product p =>
    change (d (.product p)).isSome = _
    rw [acc.stock (.product p) trivial]
    simp [addStock]
  | variant x =>
    change (d (.variant x)).isSome = _
    rw [acc.stock (.variant x) trivial]
    simp [addStock]
  | _ => trivial

theorem loadItems_fixed (fixed : ∀ k, Fixed d₀ k (d k)) (sub : Id) : loadItems d sub = loadItems d₀ sub := by
  have items : d (.itemsOf sub) = d₀ (.itemsOf sub) := fixed (.itemsOf sub)
  have item : ∀ i, d (.orderItem i) = d₀ (.orderItem i) := fun i => fixed (.orderItem i)
  have product : ∀ p, (d (.product p)).isSome = (d₀ (.product p)).isSome := fun p => fixed (.product p)
  have variant : ∀ x, (d (.variant x)).isSome = (d₀ (.variant x)).isSome := fun x => fixed (.variant x)
  simp only [loadItems, items, item, product, variant]

theorem placed_write {mem reread : SubOrder} (same : mem.placed = reread.placed) (current : SubOrder) :
    (subOrderColumns.write mem reread current).placed = current.placed := by
  simp only [SubOrder.placed, SubOrder.mk.injEq] at same ⊢
  simp [subOrderColumns, same]

end

theorem isCancelled_written {mem reread current : SubOrder} (cancelled : mem.status = .cancelled)
    (other : reread.status ≠ .cancelled) : isCancelled (some (subOrderColumns.write mem reread current)) := by
  have written : (subOrderColumns.write mem reread current).status = .cancelled :=
    (column_diff (by rw [cancelled]; exact other.symm)).trans cancelled
  simp [isCancelled, written]

def AccountedIn (d₀ : Db) (s : Store (Table Row) Mark) : Prop := Accounted d₀ s.rows s.journal

/-- A cancelled sub-order stays cancelled. -/
def Stays (s t : Store (Table Row) Mark) : Prop :=
  ∀ sub, isCancelled (s.rows (.subOrder sub)) → isCancelled (t.rows (.subOrder sub))

/-- What a transaction has done so far is accounted for. -/
structure Sound (d₀ : Db) (s : Store (Table Row) Mark) (v : View (Table Row) Mark) : Prop where
  accounted : Accounted d₀ v.rows (s.journal ++ v.log)
  stays : ∀ sub, isCancelled (s.rows (.subOrder sub)) → isCancelled (v.rows (.subOrder sub))

section
variable {d₀ : Db} {h : History (Table Row) Mark} {v w : View (Table Row) Mark}

theorem Sound.start {m : Nat} (inv : AccountedIn d₀ h.current) :
    Sound d₀ h.current (View.start h.current.rows m) := by
  refine ⟨?_, fun _ done => done⟩
  rw [View.start_log, List.append_nil]
  exact inv

theorem Sound.commit (sound : Sound d₀ h.current v) :
    AccountedIn d₀ (h.commit v) ∧ Stays h.current (h.commit v) := ⟨sound.accounted, sound.stays⟩

theorem Sound.beside (sound : Sound d₀ h.current v) (more : v.Continues Beside Mark.Reports w) : Sound d₀ h.current w := by
  obtain ⟨marks, log, reports⟩ := more.log
  have same : ∀ sub, w.rows (.subOrder sub) = v.rows (.subOrder sub) := fun sub =>
    more.rows _ (by simp [Beside, WalletKey, PaymentKey])
  refine ⟨?_, fun sub done => ?_⟩
  · rw [log, ← List.append_assoc]
    exact sound.accounted.beside more.rows fun e member => (reports e member).quiet
  · rw [same]
    exact sound.stays sub done

theorem Sound.cancel {loaded : LoadedSubOrder} {d : Db} {j : Nat} (inv : ∀ j ≤ h.now, AccountedIn d₀ (h.past j))
    (ordered : ∀ j k, j ≤ k → k ≤ h.now → Stays (h.past j) (h.past k)) (sound : Sound d₀ h.current v)
    (committed : Committed h d) (read : loadSubOrder d loaded.id = some loaded) (small : j ≤ h.now)
    (own : v.rows (.subOrder loaded.id) = h.current.rows (.subOrder loaded.id))
    (active : ¬ isCancelled (v.rows (.subOrder loaded.id)))
    (rows : ∀ k, ¬ WalletKey k → w.rows k = Function.update (refunded loaded v.rows) (.subOrder loaded.id)
      (savedOver { loaded.row with status := .cancelled } ((h.past j).rows (.subOrder loaded.id))
        (v.rows (.subOrder loaded.id))) k)
    (log : w.log = v.log ++ refundMarks loaded) : Sound d₀ h.current w := by
  have fixed : ∀ k, Fixed d₀ k (d k) := by
    intro k
    obtain ⟨i, past, same⟩ := committed k
    rw [same]
    exact (inv i past).fixed k
  obtain ⟨_, found, items⟩ := loadSubOrder_some read
  have placed : (d₀ (.subOrder loaded.id)).map SubOrder.placed = some loaded.row.placed := by
    have kept : Kept (d₀ (.subOrder loaded.id)) (d (.subOrder loaded.id)) := fixed (.subOrder loaded.id)
    rw [found] at kept
    exact kept.placed.symm
  have present : ∀ {row : Option SubOrder}, Kept (d₀ (.subOrder loaded.id)) row → ∃ r, row = some r ∧ r.placed = loaded.row.placed := by
    intro row kept
    have there := kept.placed
    rw [placed] at there
    exact Option.map_eq_some_iff.mp there
  obtain ⟨current, stands, _⟩ := present (sound.accounted.kept loaded.id)
  obtain ⟨reread, seen, samePlaced⟩ := present ((inv j small).kept loaded.id)
  have open_ : reread.status ≠ .cancelled := by
    intro done
    refine active (own ▸ ordered j h.now small (Nat.le_refl _) loaded.id ?_)
    simp [seen, isCancelled, done]
  have written : isCancelled (some (subOrderColumns.write { loaded.row with status := .cancelled } reread current)) :=
    isCancelled_written rfl open_
  simp only [seen, savedOver, stands, Option.map_some] at rows
  have kept : Kept (v.rows (.subOrder loaded.id))
      (some (subOrderColumns.write { loaded.row with status := .cancelled } reread current)) := by
    refine ⟨?_, fun _ => written⟩
    have same : ({ loaded.row with status := .cancelled } : SubOrder).placed = reread.placed := samePlaced.symm
    rw [stands, Option.map_some, Option.map_some, placed_write same]
  have settled := sound.accounted.cancel (items.trans (loadItems_fixed fixed loaded.id)) active kept written
  refine ⟨?_, fun sub done => ?_⟩
  · rw [log, ← List.append_assoc, ← List.append_nil (_ ++ refundMarks loaded)]
    exact settled.beside (fun k beside => rows k fun wallet => beside (Or.inl wallet)) (by simp)
  · rw [rows (.subOrder sub) id]
    by_cases same : sub = loaded.id
    · subst same
      rwa [Function.update_self]
    · rw [Function.update_of_ne (by simpa using same), refunded_other id]
      exact sound.stays sub done

theorem Sound.advance {x : Id} {row mem : SubOrder} (sound : Sound d₀ h.current v)
    (stands : v.rows (.subOrder x) = some row) (placed : mem.placed = row.placed) (before : row.status ≠ .cancelled)
    (after : mem.status ≠ .cancelled) (saved : w.rows (.subOrder x) = some mem)
    (more : v.Continues (· = .subOrder x) NoMark w) : Sound d₀ h.current w := by
  have active : isCancelled (some mem) = isCancelled (v.rows (.subOrder x)) := by
    simp [stands, isCancelled, before, after]
  refine ⟨?_, fun other done => ?_⟩
  · have restated := sound.accounted.restate (some mem)
      ⟨by rw [stands, Option.map_some, Option.map_some, placed], fun done => by rwa [active]⟩ active
    rw [more.log_same, ← List.append_nil (_ ++ v.log)]
    refine restated.beside (fun k _ => ?_) (by simp)
    by_cases same : k = .subOrder x
    · subst same
      rw [saved, Function.update_self]
    · rw [more.rows k same, Function.update_of_ne same]
  · by_cases same : other = x
    · subst same
      rw [saved, active]
      exact sound.stays other done
    · rw [more.rows _ (by simpa using same)]
      exact sound.stays other done

theorem Sound.recompute {o : Id} {order : Order} {d₁ d₂ : Db} {marks : List Mark} (sound : Sound d₀ h.current v)
    (stands : v.rows (.order o) = some order)
    (rows : ∀ k, ¬ WalletKey k → k ≠ .payment o →
      w.rows k = recomputed o order (couponOf d₁ order.globalCoupon) (loadSiblings d₂ o) v.rows k)
    (log : w.log = v.log ++ masterMarks o (couponOf d₁ order.globalCoupon) (loadSiblings d₂ o) ++ marks)
    (marked : ∀ e ∈ marks, PaymentMark o e) : Sound d₀ h.current w := by
  have settled := sound.accounted.recompute (couponOf d₁ order.globalCoupon) (loadSiblings d₂ o) stands fun found => by
    cases ref : order.globalCoupon with
    | none => simp [couponOf, ref] at found
    | some id => rfl
  refine ⟨?_, fun sub done => ?_⟩
  · rw [log, ← List.append_assoc, ← List.append_assoc]
    refine settled.beside (fun k beside => rows k (fun wallet => beside (Or.inl wallet)) ?_) fun e member => ?_
    · rintro rfl
      exact beside (Or.inr trivial)
    · obtain ⟨loaded, reread, rfl⟩ := marked e member
      trivial
  · rw [rows (.subOrder sub) (fun no => no) (by simp), recomputed_other (k := .subOrder sub) (fun no => no) (by simp)]
    exact sound.stays sub done

theorem Sound.step (inv : ∀ j ≤ h.now, AccountedIn d₀ (h.past j))
    (ordered : ∀ j k, j ≤ k → k ≤ h.now → Stays (h.past j) (h.past k)) (sound : Sound d₀ h.current v)
    (step : SubOrderStep h v w) : Sound d₀ h.current w := by
  cases step with
  | beside more => exact sound.beside more
  | cancel loaded d reread committed read opened seen own active rows log =>
    obtain ⟨j, small, rfl⟩ := seen
    exact sound.cancel inv ordered committed read small own active rows log
  | advance x row mem stands placed allowed stays saved more =>
    exact sound.advance stands placed (not_cancelled_of_step allowed) stays saved more
  | recompute o order d₁ d₂ marks stands _ _ rows log marked => exact sound.recompute stands rows log marked

theorem Sound.steps {u : View (Table Row) Mark} (inv : ∀ j ≤ h.now, AccountedIn d₀ (h.past j))
    (ordered : ∀ j k, j ≤ k → k ≤ h.now → Stays (h.past j) (h.past k)) (sound : Sound d₀ h.current u)
    (steps : SubOrderSteps h u v) : Sound d₀ h.current v := by
  induction steps with
  | refl => exact sound
  | tail _ step ih => exact ih.step inv ordered step

end

theorem cancellation_keeps {d₀ : Db} (once : ListsOnce d₀) (call : Cancellation) :
    call.request.All fun _ body => body.Keeps Unraced (AccountedIn d₀) Stays := by
  have commits : ∀ {h : History (Table Row) Mark} {m : Nat} {w : View (Table Row) Mark},
      (∀ j ≤ h.now, AccountedIn d₀ (h.past j)) → (∀ j k, j ≤ k → k ≤ h.now → Stays (h.past j) (h.past k)) →
      SubOrderSteps h (View.start h.current.rows m) w →
      AccountedIn d₀ (h.commit w) ∧ Stays h.current (h.commit w) := fun inv ordered steps =>
    ((Sound.start (inv _ (Nat.le_refl _))).steps inv ordered steps).commit
  cases call with
  | byCustomer user sub now =>
    refine .tx (fun h m inv ordered _ => ?_) (fun _ => .done _) fun _ => .done _
    exact wp_mono _ (cancelSubOrder_steps user sub now) (fun _ w steps _ _ => commits inv ordered steps) fun _ e => e
  | bySeller seller sub new now =>
    refine .tx (fun h m inv ordered _ => ?_) (fun _ => .done _) fun _ => .done _
    exact wp_mono _ (updateSubOrderStatus_steps seller sub new now) (fun _ w steps _ _ => commits inv ordered steps)
      fun _ e => e
  | byExpiry order now =>
    refine .tx (fun h m inv ordered _ => ?_) (fun _ => .done _) fun _ => .done _
    have listed : ∀ j ≤ h.now, ListsOnce (h.past j).rows := by
      intro j small o
      have same : (h.past j).rows (.subOrdersOf o) = d₀ (.subOrdersOf o) := (inv j small).constant (.subOrdersOf o) trivial
      rw [same]
      exact once o
    exact wp_mono _ (expireUnpaidVnpayOrder_steps listed order now)
      (fun _ w steps _ admitted => commits inv ordered (steps admitted)) fun _ e => e

theorem cancellations_keep {d₀ : Db} (once : ListsOnce d₀) (calls : Nat → Option Cancellation) (i : Nat) :
    (cancellations calls i).All fun _ body => body.Keeps Unraced (AccountedIn d₀) Stays := by
  unfold cancellations
  cases calls i with
  | none => exact .done _
  | some call => exact cancellation_keeps once call

/-- In every run whose expiries are not raced, from any database. -/
theorem restocked_once {d₀ : Db} (once : ListsOnce d₀) {calls : Nat → Option Cancellation} {fault : Err}
    {c : Conf (Table Row) Mark Err Answer}
    (run : Moves Unraced fault (Conf.start ⟨d₀, []⟩ (cancellations calls)) c) : OnceEach d₀ c.store := by
  have start : AccountedIn d₀ ⟨d₀, []⟩ := Accounted.start d₀
  have settled := keeps_safe (fun _ _ done => done)
    (fun first second sub done => second sub (first sub done)) start (cancellations_keep once calls) run
  exact Accounted.onceEach settled

/-- A pending VNPay order with two of product 5, eight of which are left in stock. -/
def unpaidOrder : Db
  | .order 1 => some
    { customer := some 3, globalCoupon := none, totalAmount := 1000, globalDiscountAmount := some 0,
      globalCouponCode := none, shippingAddress := ⟨"", "", "", none, none⟩, status := .pending,
      idempotencyKey := none, orderNumber := "ORD-1", createdAt := 0 }
  | .subOrdersOf 1 => some [10]
  | .subOrder 10 => some
    { shop := some 7, order := 1, shopCoupon := none, subTotal := 1000, shippingFee := 0, shopDiscountAmount := 0,
      shopCouponCode := none, totalAmount := 1000, status := .pending, deliveredAt := none }
  | .itemsOf 10 => some [100]
  | .orderItem 100 => some
    { variant := none, subOrder := 10, product := some 5, quantity := 2, priceAtPurchase := 500,
      productName := "", variantName := none, productThumbnail := none, variantAttributes := none }
  | .product 5 => some
    { shop := 7, name := "", price := 500, thumbnailUrl := none, stockQuantity := 8, hasVariants := false,
      isHidden := false, status := .active }
  | .payment 1 => some ⟨.vnpay, .pending, 1000, none, none, none, none, none⟩
  | _ => none

theorem unpaidOrder_listsOnce : ListsOnce unpaidOrder := by
  intro o
  by_cases one : o = 1
  · subst one
    decide
  · simp [unpaidOrder, one, listed]

/-- Two runs of the expiry job for the same order. -/
def twoExpiries : Nat → Option Cancellation
  | 0 => some (.byExpiry 1 2000000)
  | 1 => some (.byExpiry 1 2000000)
  | _ => none

set_option maxRecDepth 4000 in
/-- One after the other, they put the items back once. -/
theorem expiries_in_turn :
    ∃ c, Moves Unraced .database (Conf.start ⟨unpaidOrder, []⟩ (cancellations twoExpiries)) c ∧
      restocks c.store.journal 10 = [[⟨5, none, 2⟩]] ∧ OnceEach unpaidOrder c.store := by
  have obeys : (Conf.start ⟨unpaidOrder, []⟩ (cancellations twoExpiries)).Obeys Unraced
      (List.replicate 31 0 ++ List.replicate 5 1) := by decide +kernel
  have found : ∃ c ∈ (Conf.start ⟨unpaidOrder, []⟩ (cancellations twoExpiries)).play
      (List.replicate 31 0 ++ List.replicate 5 1), restocks c.store.journal 10 = [[⟨5, none, 2⟩]] := by
    decide +kernel
  obtain ⟨c, run, once⟩ := Conf.exists_moves _ obeys found
  exact ⟨c, run, once, restocked_once unpaidOrder_listsOnce run⟩

set_option maxRecDepth 4000 in
/-- The first loads the pending sub-order, the second expires the order, then the first does. -/
theorem not_restocked_once :
    ¬ ∀ (d₀ : Db) (calls : Nat → Option Cancellation) (c : Conf (Table Row) Mark Err Answer), ListsOnce d₀ →
      Moves (fun _ _ => True) .database (Conf.start ⟨d₀, []⟩ (cancellations calls)) c → OnceEach d₀ c.store := by
  intro claimed
  have found : ∃ c ∈ (Conf.start ⟨unpaidOrder, []⟩ (cancellations twoExpiries)).play
      (List.replicate 6 0 ++ List.replicate 31 1 ++ List.replicate 21 0),
      restocks c.store.journal 10 = [[⟨5, none, 2⟩], [⟨5, none, 2⟩]] ∧
        (c.store.rows (.product 5)).map (·.stockQuantity) = some 12 := by decide +kernel
  obtain ⟨c, run, twice, _⟩ := Conf.exists_moves _ (Conf.obeys_any _ _) found
  rcases (claimed unpaidOrder twoExpiries c unpaidOrder_listsOnce run).restocked 10 with never | ⟨_, once⟩
  · rw [twice] at never
    cases never
  · rw [twice] at once
    cases once

end Marketplace
