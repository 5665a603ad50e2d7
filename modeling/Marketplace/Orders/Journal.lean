import Marketplace.Orders.Effects

/-! What the committed marks say was put back and given back. -/
namespace Marketplace
open ReadCommitted

def Mark.restockOf (sub : Id) : Mark → Option (List StockLine)
  | .restocked s lines => if s = sub then some lines else none
  | _ => none

def Mark.releaseFor (source : Redemption) : Mark → Option Id
  | .couponReleased coupon by_ => if by_ = source then some coupon else none
  | _ => none

def Mark.releases (coupon : Id) : Mark → Bool
  | .couponReleased c _ => c = coupon
  | _ => false

def Mark.lines : Mark → List StockLine
  | .restocked _ lines => lines
  | _ => []

/-- The restocks of a sub-order. -/
def restocks (journal : List Mark) (sub : Id) : List (List StockLine) := journal.filterMap (Mark.restockOf sub)

/-- The coupons given back for a redemption. -/
def releasesFor (journal : List Mark) (source : Redemption) : List Id :=
  journal.filterMap (Mark.releaseFor source)

def releaseCount (journal : List Mark) (coupon : Id) : Nat := journal.countP (Mark.releases coupon)

/-- All lines put back. -/
def returned (journal : List Mark) : List StockLine := journal.flatMap Mark.lines

/-- A mark that neither puts stock back nor gives a coupon back. -/
def Mark.Quiet : Mark → Prop
  | .restocked _ _ => False
  | .couponReleased _ _ => False
  | _ => True

section
variable {journal marks : List Mark}

theorem restocks_append (sub : Id) :
    restocks (journal ++ marks) sub = restocks journal sub ++ restocks marks sub := by
  simp [restocks]

theorem releasesFor_append (source : Redemption) :
    releasesFor (journal ++ marks) source = releasesFor journal source ++ releasesFor marks source := by
  simp [releasesFor]

theorem releaseCount_append (coupon : Id) :
    releaseCount (journal ++ marks) coupon = releaseCount journal coupon + releaseCount marks coupon := by
  simp [releaseCount]

theorem returned_append : returned (journal ++ marks) = returned journal ++ returned marks := by
  simp [returned]

theorem restocks_quiet (quiet : ∀ e ∈ marks, e.Quiet) (sub : Id) : restocks marks sub = [] := by
  refine List.filterMap_eq_nil_iff.mpr fun e member => ?_
  have silent := quiet e member
  cases e <;> first | exact silent.elim | rfl

theorem releasesFor_quiet (quiet : ∀ e ∈ marks, e.Quiet) (source : Redemption) :
    releasesFor marks source = [] := by
  refine List.filterMap_eq_nil_iff.mpr fun e member => ?_
  have silent := quiet e member
  cases e <;> first | exact silent.elim | rfl

theorem releaseCount_quiet (quiet : ∀ e ∈ marks, e.Quiet) (coupon : Id) : releaseCount marks coupon = 0 := by
  refine List.countP_eq_zero.mpr fun e member => ?_
  have silent := quiet e member
  cases e <;> first | exact silent.elim | simp [Mark.releases]

theorem returned_quiet (quiet : ∀ e ∈ marks, e.Quiet) : returned marks = [] := by
  refine List.flatMap_eq_nil_iff.mpr fun e member => ?_
  have silent := quiet e member
  cases e <;> first | exact silent.elim | rfl

theorem restocks_refundMarks (s : LoadedSubOrder) (sub : Id) :
    restocks (refundMarks s) sub = if s.id = sub then [restockTargets s.items] else [] := by
  unfold refundMarks
  cases s.shopCoupon <;> by_cases same : s.id = sub <;> simp [restocks, Mark.restockOf, same]

theorem returned_refundMarks (s : LoadedSubOrder) : returned (refundMarks s) = restockTargets s.items := by
  unfold refundMarks
  cases s.shopCoupon <;> simp [returned, Mark.lines]

theorem restocks_masterMarks (o : Id) (coupon : Option (Id × Coupon)) (siblings : Siblings) (sub : Id) :
    restocks (masterMarks o coupon siblings) sub = [] := by
  cases coupon with
  | none => rfl
  | some c => by_cases fails : globalCouponFails c.2 siblings <;> simp [masterMarks, fails, restocks, Mark.restockOf]

theorem returned_masterMarks (o : Id) (coupon : Option (Id × Coupon)) (siblings : Siblings) :
    returned (masterMarks o coupon siblings) = [] := by
  cases coupon with
  | none => rfl
  | some c => by_cases fails : globalCouponFails c.2 siblings <;> simp [masterMarks, fails, returned, Mark.lines]

theorem releasesFor_refundMarks (s : LoadedSubOrder) (sub : Id) :
    (releasesFor (refundMarks s) (.subOrder sub)).length ≤ (restocks (refundMarks s) sub).length := by
  rw [restocks_refundMarks]
  unfold refundMarks
  cases s.shopCoupon <;> by_cases same : s.id = sub <;>
    simp [releasesFor, Mark.releaseFor, same, List.filterMap_cons]

theorem releasesFor_refundMarks_order (s : LoadedSubOrder) (o : Id) :
    releasesFor (refundMarks s) (.order o) = [] := by
  unfold refundMarks
  cases s.shopCoupon <;> simp [releasesFor, Mark.releaseFor]

theorem releasesFor_masterMarks_subOrder (o : Id) (coupon : Option (Id × Coupon)) (siblings : Siblings) (sub : Id) :
    releasesFor (masterMarks o coupon siblings) (.subOrder sub) = [] := by
  cases coupon with
  | none => rfl
  | some c => by_cases fails : globalCouponFails c.2 siblings <;> simp [masterMarks, fails, releasesFor, Mark.releaseFor]

/-- A recompute gives the global coupon back exactly when the order loses it. -/
theorem releasesFor_masterMarks (o : Id) (coupon : Option (Id × Coupon)) (siblings : Siblings) :
    (releasesFor (masterMarks o coupon siblings) (.order o)).length +
      (if (keptCoupon coupon siblings).isSome then 1 else 0) = if coupon.isSome then 1 else 0 := by
  cases coupon with
  | none => rfl
  | some c =>
    by_cases fails : globalCouponFails c.2 siblings <;>
      simp [masterMarks, fails, releasesFor, Mark.releaseFor, keptCoupon]

theorem releasesFor_masterMarks_other {o other : Id} (different : o ≠ other) (coupon : Option (Id × Coupon))
    (siblings : Siblings) : releasesFor (masterMarks o coupon siblings) (.order other) = [] := by
  cases coupon with
  | none => rfl
  | some c =>
    by_cases fails : globalCouponFails c.2 siblings <;>
      simp [masterMarks, fails, releasesFor, Mark.releaseFor, different]

end

/-- A coupon given back `n` times. -/
def timesReleased (n : Nat) (row : Option Coupon) : Option Coupon :=
  row.map fun coupon => { coupon with usedCount := coupon.usedCount - n }

@[simp] theorem timesReleased_zero (row : Option Coupon) : timesReleased 0 row = row := by
  cases row <;> rfl

theorem timesReleased_add (m n : Nat) (row : Option Coupon) :
    timesReleased n (timesReleased m row) = timesReleased (m + n) row := by
  cases row <;> simp [timesReleased, Nat.sub_sub]

theorem releasedCoupon_coupon (id coupon : Id) (d : Db) :
    releasedCoupon id d (.coupon coupon) =
      timesReleased (if id = coupon then 1 else 0) (d (.coupon coupon)) := by
  by_cases same : id = coupon
  · subst same
    simp [releasedCoupon, timesReleased]
  · simp [releasedCoupon, same, Ne.symm same]

theorem refunded_coupon (s : LoadedSubOrder) (d : Db) (coupon : Id) :
    refunded s d (.coupon coupon) = timesReleased (releaseCount (refundMarks s) coupon) (d (.coupon coupon)) := by
  unfold refunded refundMarks
  cases s.shopCoupon with
  | none => simp [releaseCount, Mark.releases, addStock]
  | some c =>
    by_cases same : c.1 = coupon <;> simp [releasedCoupon_coupon, releaseCount, Mark.releases, same, addStock]

theorem refunded_other {s : LoadedSubOrder} {d : Db} {k : Key} (notCoupon : ¬ CouponKey k) :
    refunded s d k = addStock (restockTargets s.items) 1 d k := by
  unfold refunded
  cases s.shopCoupon with
  | none => rfl
  | some c =>
    have other : k ≠ .coupon c.1 := by rintro rfl; exact notCoupon trivial
    simp [releasedCoupon, other]

theorem recomputed_coupon (o : Id) (order : Order) (coupon : Option (Id × Coupon)) (siblings : Siblings) (d : Db)
    (c : Id) : recomputed o order coupon siblings d (.coupon c) =
      timesReleased (releaseCount (masterMarks o coupon siblings) c) (d (.coupon c)) := by
  cases coupon with
  | none => simp [recomputed, masterMarks, releaseCount]
  | some g =>
    by_cases fails : globalCouponFails g.2 siblings <;>
      by_cases same : g.1 = c <;>
        simp [recomputed, masterMarks, fails, releaseCount, Mark.releases, releasedCoupon_coupon, same]

theorem recomputed_other {o : Id} {order : Order} {coupon : Option (Id × Coupon)} {siblings : Siblings} {d : Db}
    {k : Key} (notCoupon : ¬ CouponKey k) (other : k ≠ .order o) :
    recomputed o order coupon siblings d k = d k := by
  cases coupon with
  | none => simp [recomputed, other]
  | some g =>
    have different : k ≠ .coupon g.1 := by rintro rfl; exact notCoupon trivial
    by_cases fails : globalCouponFails g.2 siblings <;> simp [recomputed, other, fails, releasedCoupon, different]

theorem totalQtyByProductId_append (a b : List StockLine) (p : Id) :
    totalQtyByProductId (a ++ b) p = totalQtyByProductId a p + totalQtyByProductId b p := by
  simp [totalQtyByProductId]

theorem totalQtyByVariantId_append (a b : List StockLine) (x : Id) :
    totalQtyByVariantId (a ++ b) x = totalQtyByVariantId a x + totalQtyByVariantId b x := by
  simp [totalQtyByVariantId]

theorem addStock_append (a b : List StockLine) (d : Db) :
    addStock (a ++ b) 1 d = addStock b 1 (addStock a 1 d) := by
  funext k
  cases k with
  | product p =>
    cases found : d (.product p) with
    | none => simp [addStock, found]
    | some row => simp [addStock, found, totalQtyByProductId_append]; ring
  | variant x =>
    cases found : d (.variant x) with
    | none => simp [addStock, found]
    | some row => simp [addStock, found, totalQtyByVariantId_append]; ring
  | _ => rfl

end Marketplace
