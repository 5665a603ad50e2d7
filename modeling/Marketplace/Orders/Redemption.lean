import Marketplace.Orders.Effects
import Marketplace.Orders.Placement

/-! The coupons a checkout locks and what it redeems. -/
namespace Marketplace
open ReadCommitted ReadCommitted.Tx

def Mark.redemption : Mark → Option (Id × Redemption)
  | .couponRedeemed coupon source => some (coupon, source)
  | _ => none

def Mark.release : Mark → Option (Id × Redemption)
  | .couponReleased coupon source => some (coupon, source)
  | _ => none

/-- The rows that redeem coupons, the sub-orders and orders that name them. -/
def ClaimKey : Key → Prop
  | .coupon _ => True
  | .order _ => True
  | .subOrder _ => True
  | .subOrdersOf _ => True
  | _ => False

/-- A mark that neither redeems a coupon nor gives one back. -/
def Mark.Idle (e : Mark) : Prop := e.redemption = none ∧ e.release = none

/-- A coupon that passed its checks, under its lock. -/
structure CouponLocked (v : View (Table Row) Mark) (expectedType : CouponType) (shopId : Option Id) (c : Id × Coupon) :
    Prop where
  held : v.held (.coupon c.1) = true
  stands : v.rows (.coupon c.1) = some c.2
  type : c.2.type = expectedType
  shop : expectedType = .shop → c.2.shop = shopId
  left : ∀ limit ∈ c.2.usageLimit, c.2.usedCount < limit

/-- The coupons of a quote, each of another shop. -/
structure QuoteLocked (quote : Quote) (v : View (Table Row) Mark) : Prop where
  shops : ∀ plan ∈ quote.plans, ∀ c ∈ plan.shopCoupon, CouponLocked v .shop (some plan.shopId) c
  distinct : (quote.plans.map (·.shopId)).Nodup
  global : ∀ c ∈ quote.globalCoupon, CouponLocked v .global none c

section
variable {I : Isolation (Table Row) Mark} {E : Err → Prop} {v w : View (Table Row) Mark}

theorem CouponLocked.along {expectedType : CouponType} {shopId : Option Id} {c : Id × Coupon} {K : Key → Prop}
    {L : Mark → Prop} (locked : CouponLocked v expectedType shopId c) (more : v.Continues K L w)
    (apart : ∀ i, ¬ K (.coupon i)) : CouponLocked w expectedType shopId c :=
  ⟨more.held _ locked.held, (more.rows _ (apart c.1)).trans locked.stands, locked.type, locked.shop, locked.left⟩

theorem QuoteLocked.along {quote : Quote} {K : Key → Prop} {L : Mark → Prop} (locked : QuoteLocked quote v)
    (more : v.Continues K L w) (apart : ∀ i, ¬ K (.coupon i)) : QuoteLocked quote w :=
  ⟨fun plan member c own => (locked.shops plan member c own).along more apart, locked.distinct,
    fun c own => (locked.global c own).along more apart⟩

theorem lockAndValidateCoupon_locks {code : Option String} {expectedType : CouponType} {shopId : Option Id}
    {subtotal : Money} {now : Time} (noErr : ∀ e, E e) : (lockAndValidateCoupon code expectedType shopId subtotal now).wp I
      (fun found w => (∀ c ∈ found, CouponLocked w expectedType shopId c) ∧ v.Continues (fun _ => False) NoMark w) E v := by
  apply wp_lockAndValidateCoupon
  · exact fun _ => ⟨fun c no => (Option.not_mem_none c no).elim, .refl v⟩
  · exact fun _ _ _ _ _ _ _ _ => noErr _
  · intro c d m id coupon w _ _ _ _ stands fits more held
    refine ⟨fun c' same => ?_, more⟩
    obtain rfl := Option.some.inj same
    exact ⟨held, (more.rows _ fun no => no).trans stands, fits.type, fun shop => (fits.shop shop).2, fits.left⟩

theorem nodup_shops (items : List CartLine) : ((groupItemsByShop items).map (·.shopId)).Nodup := by
  have inside : ((groupItemsByShop items).map (·.shopId)).Sublist (firstOccurrences (items.map (·.product.shop))) := by
    unfold groupItemsByShop
    induction firstOccurrences (items.map (·.product.shop)) with
    | nil => exact .slnil
    | cons s rest ih =>
      dsimp only at ih ⊢
      rw [List.filterMap_cons]
      cases found : (items.filter fun it => it.product.shop = s).head? with
      | none => exact ih.cons s
      | some first => exact ih.cons_cons s
  exact inside.nodup (nodup_firstOccurrences _)

variable {distance : Distance} {call : CheckoutCall} {address : Address}

theorem quoteOrder_locks {items : List CartLine} (noErr : ∀ e, E e) : (quoteOrder distance call address items).wp I
    (fun quote w => QuoteLocked quote w ∧ v.Continues (fun _ => False) NoMark w) E v := by
  unfold quoteOrder
  rw [wp_bind]
  have loop := wp_mapM (I := I) (E := E) (v := v)
    (fun rest plans w => v.Continues (fun _ => False) NoMark w ∧
      plans.map (·.shopId) ++ rest.map (·.shopId) = (groupItemsByShop items).map (·.shopId) ∧
      ∀ plan ∈ plans, ∀ c ∈ plan.shopCoupon, CouponLocked w .shop (some plan.shopId) c)
    (planSubOrder distance call address)
    (fun group rest plans w kept => by
      obtain ⟨upto, split, locked⟩ := kept
      unfold planSubOrder
      rw [wp_bind]
      refine wp_mono _ (lockAndValidateCoupon_locks noErr) (fun found u chosen => ?_) fun _ e => e
      obtain ⟨own, more⟩ := chosen
      rw [wp_pure]
      refine ⟨upto.trans more, by simpa using split, fun plan member c named => ?_⟩
      rcases List.mem_append.mp member with early | last
      · exact (locked plan early c named).along more fun _ => id
      · obtain rfl := List.mem_singleton.mp last
        exact own c named)
    (groupItemsByShop items) [] ⟨.refl v, rfl, fun _ no => absurd no List.not_mem_nil⟩
  refine wp_mono _ loop (fun plans w kept => ?_) fun _ e => e
  obtain ⟨upto, split, locked⟩ := kept
  rw [List.map_nil, List.append_nil, List.nil_append] at split
  rw [List.nil_append] at locked
  rw [wp_bind]
  refine wp_mono _ (lockAndValidateCoupon_locks noErr) (fun found u chosen => ?_) fun _ e => e
  obtain ⟨own, more⟩ := chosen
  rw [wp_pure]
  refine ⟨⟨fun plan member c named => (locked plan member c named).along more fun _ => id, ?_, own⟩, upto.trans more⟩
  rw [split]
  exact nodup_shops items

/-- The redemptions of a quote in their order. -/
def claimsOf (call : CheckoutCall) (quote : Quote) : List ((Id × Coupon) × Redemption) :=
  (quote.globalCoupon.toList.map fun c => (c, .order call.orderId)) ++
    quote.plans.zipIdx.flatMap fun plan =>
      plan.1.shopCoupon.toList.map fun c => (c, .subOrder (call.subOrderId plan.2))

def claimMark (p : (Id × Coupon) × Redemption) : Mark := .couponRedeemed p.1.1 p.2

/-- What has been redeemed since `u`. -/
structure Spent (done : List ((Id × Coupon) × Redemption)) (u w : View (Table Row) Mark) : Prop where
  used : ∀ p ∈ done, w.rows (.coupon p.1.1) = some { p.1.2 with usedCount := p.1.2.usedCount + 1 }
  others : ∀ c, (∀ p ∈ done, p.1.1 ≠ c) → w.rows (.coupon c) = u.rows (.coupon c)
  held : ∀ k, u.held k = true → w.held k = true
  log : w.log = u.log ++ done.map claimMark

theorem Spent.start : Spent [] v v :=
  ⟨fun _ no => absurd no List.not_mem_nil, fun _ _ => rfl, fun _ held => held, by simp⟩

theorem Spent.wp_redeem {u : View (Table Row) Mark} {done : List ((Id × Coupon) × Redemption)} {coupon : Option (Id × Coupon)}
    {source : Redemption} (noErr : ∀ e, E e) (spent : Spent done u v)
    (locked : ∀ c ∈ coupon, u.held (.coupon c.1) = true ∧ u.rows (.coupon c.1) = some c.2)
    (fresh : ∀ c ∈ coupon, ∀ p ∈ done, p.1.1 ≠ c.1) :
    (redeem call coupon source).wp I
      (fun _ w => Spent (done ++ coupon.toList.map fun c => (c, source)) u w) E v := by
  cases coupon with
  | none =>
    have same : done ++ (none : Option (Id × Coupon)).toList.map (fun c => (c, source)) = done := by simp
    rw [same]
    exact spent
  | some c =>
    obtain ⟨held, stands⟩ := locked c rfl
    have there : v.rows (.coupon c.1) = some c.2 := (spent.others c.1 (fresh c rfl)).trans stands
    unfold redeem consumeCoupon
    rw [wp_bind]
    refine wp_save_held (k := Key.coupon c.1) (spent.held _ held) there fun u₁ first _ saved => ?_
    rw [wp_bind, wp_note]
    refine wp_of_within (within_updateWhere (K := fun k => k = .userCoupon call.userId c.1) (L := NoMark) _ _ _ rfl)
      (fun _ w last => ?_) noErr
    have coupons : ∀ i, w.rows (.coupon i) = u₁.rows (.coupon i) := fun i =>
      last.rows (.coupon i) nofun
    refine ⟨fun p member => ?_, fun i apart => ?_, fun k before => last.held k (first.held k (spent.held k before)), ?_⟩
    · rw [coupons]
      rcases List.mem_append.mp member with early | now_
      · rw [first.rows (.coupon p.1.1) (by simpa using fresh c rfl p early)]
        exact spent.used p early
      · obtain rfl := List.mem_singleton.mp now_
        exact saved
    · rw [coupons, first.rows (.coupon i) ?_]
      · exact spent.others i fun p member => apart p (List.mem_append_left _ member)
      · have other := apart (c, source) (List.mem_append_right _ List.mem_cons_self)
        simpa using fun same : i = c.1 => other same.symm
    · rw [last.log_same, View.mark_log, first.log_same, spent.log, List.map_append, List.append_assoc]
      rfl

/-- The coupons of a quote differ. -/
theorem QuoteLocked.distinctCoupons {quote : Quote} (locked : QuoteLocked quote v) (call : CheckoutCall) :
    ((claimsOf call quote).map (·.1.1)).Nodup := by
  unfold claimsOf
  rw [List.map_append, List.nodup_append]
  have same : ∀ {t₁ t₂ s₁ s₂} {a b : Id × Coupon}, CouponLocked v t₁ s₁ a → CouponLocked v t₂ s₂ b → a.1 = b.1 →
      a.2 = b.2 := by
    intro t₁ t₂ s₁ s₂ a b first second equal
    have there := second.stands
    rw [← equal] at there
    exact Option.some.inj (first.stands.symm.trans there)
  refine ⟨?_, ?_, fun x global y shop equal => ?_⟩
  · cases quote.globalCoupon <;> simp
  · rw [List.map_flatMap]
    have inside : ∀ plans : List (SubOrderPlan × Nat), (∀ plan ∈ plans, plan.1 ∈ quote.plans) →
        (plans.map (·.1.shopId)).Nodup → (plans.flatMap fun plan => (plan.1.shopCoupon.toList.map fun c =>
          ((c, Redemption.subOrder (call.subOrderId plan.2)) : (Id × Coupon) × Redemption)).map (·.1.1)).Nodup := by
      intro plans
      induction plans with
      | nil => intro _ _; exact .nil
      | cons plan rest ih =>
        intro member distinct
        obtain ⟨apart, distinct⟩ := List.nodup_cons.mp distinct
        rw [List.flatMap_cons, List.nodup_append]
        refine ⟨?_, ih (fun p later => member p (List.mem_cons_of_mem _ later)) distinct, fun x own y other equal => ?_⟩
        · cases plan.1.shopCoupon <;> simp
        · subst equal
          obtain ⟨p, later, found⟩ := List.mem_flatMap.mp other
          simp only [List.map_map, List.mem_map, Option.mem_toList] at own found
          obtain ⟨a, first, rfl⟩ := own
          obtain ⟨b, second, equal⟩ := found
          have lockedA := locked.shops plan.1 (member plan List.mem_cons_self) a first
          have lockedB := locked.shops p.1 (member p (List.mem_cons_of_mem _ later)) b second
          have coupon := same lockedA lockedB equal.symm
          have shops := (lockedA.shop rfl).symm.trans ((congrArg Coupon.shop coupon).trans (lockedB.shop rfl))
          exact apart (List.mem_map.mpr ⟨p, later, (Option.some.inj shops).symm⟩)
    refine inside quote.plans.zipIdx (fun plan member => List.fst_mem_of_mem_zipIdx member) ?_
    have shops : quote.plans.zipIdx.map (·.1.shopId) = quote.plans.map (·.shopId) := by
      conv_rhs => rw [← List.zipIdx_map_fst 0 quote.plans, List.map_map]
      rfl
    rw [shops]
    exact locked.distinct
  · subst equal
    simp only [List.map_map, List.mem_map, Option.mem_toList] at global
    simp only [List.mem_map, List.mem_flatMap, Option.mem_toList] at shop
    obtain ⟨a, first, rfl⟩ := global
    obtain ⟨p, ⟨plan, member, b, second, rfl⟩, equal⟩ := shop
    have lockedA := locked.global a first
    have lockedB := locked.shops plan.1 (List.fst_mem_of_mem_zipIdx member) b second
    have coupon := same lockedA lockedB equal.symm
    have kinds := lockedA.type.symm.trans ((congrArg Coupon.type coupon).trans lockedB.type)
    cases kinds

theorem settleOrder_spends {quote : Quote} (noErr : ∀ e, E e) (locked : QuoteLocked quote v) :
    (settleOrder call quote).wp I (fun _ w => ∃ u, Spent (claimsOf call quote) v u ∧
      u.Continues (fun k => ¬ ClaimKey k) Mark.Idle w) E v := by
  unfold settleOrder
  rw [wp_bind]
  have global : ∀ c ∈ quote.globalCoupon, v.held (.coupon c.1) = true ∧ v.rows (.coupon c.1) = some c.2 := fun c named =>
    ⟨(locked.global c named).held, (locked.global c named).stands⟩
  refine wp_mono _ (Spent.start.wp_redeem noErr global (fun _ _ _ no => absurd no List.not_mem_nil)) (fun _ u redeemed => ?_) fun _ e => e
  rw [wp_bind]
  have distinct := locked.distinctCoupons call
  have loop := wp_forM (I := I) (E := E) (v := u)
    (fun rest (w : View (Table Row) Mark) => ∃ done, claimsOf call quote = done ++ (rest.flatMap fun plan =>
        plan.1.shopCoupon.toList.map fun c => (c, .subOrder (call.subOrderId plan.2))) ∧
      rest ⊆ quote.plans.zipIdx ∧ Spent done v w)
    (fun plan => redeem call plan.1.shopCoupon (.subOrder (call.subOrderId plan.2)))
    (fun plan rest w kept => by
      obtain ⟨done, split, inside, spent⟩ := kept
      have member := List.fst_mem_of_mem_zipIdx (inside List.mem_cons_self)
      rw [List.flatMap_cons, ← List.append_assoc] at split
      refine wp_mono _ (spent.wp_redeem noErr (fun c named => ?_) fun c named p early same => ?_) (fun _ w' next =>
        ⟨_, split, fun q later => inside (List.mem_cons_of_mem _ later), next⟩) fun _ e => e
      · exact ⟨(locked.shops _ member c named).held, (locked.shops _ member c named).stands⟩
      · rw [split, List.map_append, List.map_append, List.nodup_append, List.nodup_append] at distinct
        refine distinct.1.2.2 p.1.1 (List.mem_map_of_mem early) c.1 ?_ same
        rw [List.map_map]
        exact List.mem_map.mpr ⟨c, Option.mem_toList.mpr named, rfl⟩)
    quote.plans.zipIdx ⟨_, rfl, List.Subset.refl _, redeemed⟩
  refine wp_mono _ loop (fun _ w kept => ?_) fun _ e => e
  obtain ⟨done, split, _, spent⟩ := kept
  rw [List.flatMap_nil, List.append_nil] at split
  subst split
  have rest : (do
      clearActiveCart call.userId
      let shops ← select fun d => quote.plans.zipIdx.map fun plan =>
        (plan.1.shopId, (d (.shop plan.1.shopId)).map (·.seller), call.subOrderId plan.2)
      note (.outbox (.orderCreated call.orderId call.orderNumber shops call.userId quote.grandTotal)) :
        Action Unit).Within (fun k => ¬ ClaimKey k) Mark.Idle := by
    refine within_bind (within_bind (within_select _) fun ids => within_bind ?_ fun _ => ?_) fun _ => ?_
    · exact within_forM _ fun id _ => (within_modify _ _).mpr fun no => no
    · exact (within_modify _ _).mpr fun no => no
    · exact within_bind (within_select _) fun _ => (within_note _).mpr ⟨rfl, rfl⟩
  exact wp_of_within rest (fun _ u more => ⟨w, spent, more⟩) noErr

end

/-- What a checkout redeems. -/
structure Redeemed (call : CheckoutCall) (quote : Quote) (v w : View (Table Row) Mark) : Prop where
  distinct : ((claimsOf call quote).map (·.1.1)).Nodup
  used : ∀ p ∈ claimsOf call quote, v.rows (.coupon p.1.1) = some p.1.2 ∧
    (∀ limit ∈ p.1.2.usageLimit, p.1.2.usedCount < limit) ∧
    w.rows (.coupon p.1.1) = some { p.1.2 with usedCount := p.1.2.usedCount + 1 }
  others : ∀ c, (∀ p ∈ claimsOf call quote, p.1.1 ≠ c) → w.rows (.coupon c) = v.rows (.coupon c)
  log : ∃ before after, (∀ e ∈ before, e.Idle) ∧ (∀ e ∈ after, e.Idle) ∧
    w.log = v.log ++ before ++ (claimsOf call quote).map claimMark ++ after

theorem mem_claimsOf {call : CheckoutCall} {quote : Quote} {p : (Id × Coupon) × Redemption} :
    p ∈ claimsOf call quote ↔ (p.1 ∈ quote.globalCoupon ∧ p.2 = .order call.orderId) ∨
      ∃ plan ∈ quote.plans.zipIdx, p.1 ∈ plan.1.shopCoupon ∧ p.2 = .subOrder (call.subOrderId plan.2) := by
  unfold claimsOf
  rw [List.mem_append]
  apply or_congr
  · constructor
    · intro member
      obtain ⟨c, named, rfl⟩ := List.mem_map.mp member
      exact ⟨Option.mem_toList.mp named, rfl⟩
    · rintro ⟨named, source⟩
      exact List.mem_map.mpr ⟨p.1, Option.mem_toList.mpr named, Prod.ext rfl source.symm⟩
  · constructor
    · intro member
      obtain ⟨plan, inside, own⟩ := List.mem_flatMap.mp member
      obtain ⟨c, named, rfl⟩ := List.mem_map.mp own
      exact ⟨plan, inside, Option.mem_toList.mp named, rfl⟩
    · rintro ⟨plan, inside, named, source⟩
      exact List.mem_flatMap.mpr ⟨plan, inside,
        List.mem_map.mpr ⟨p.1, Option.mem_toList.mpr named, Prod.ext rfl source.symm⟩⟩

theorem QuoteLocked.left {v : View (Table Row) Mark} {call : CheckoutCall} {quote : Quote} (locked : QuoteLocked quote v)
    {p : (Id × Coupon) × Redemption} (claimed : p ∈ claimsOf call quote) :
    v.rows (.coupon p.1.1) = some p.1.2 ∧ ∀ limit ∈ p.1.2.usageLimit, p.1.2.usedCount < limit := by
  rcases mem_claimsOf.mp claimed with ⟨named, _⟩ | ⟨plan, inside, named, _⟩
  · exact ⟨(locked.global _ named).stands, (locked.global _ named).left⟩
  · have shop := locked.shops plan.1 (List.fst_mem_of_mem_zipIdx inside) _ named
    exact ⟨shop.stands, shop.left⟩

theorem runCheckoutTransaction_redeems {I : Isolation (Table Row) Mark} {v : View (Table Row) Mark}
    (distance : Distance) (call : CheckoutCall) (address : Address) :
    (runCheckoutTransaction distance call address).wp I
      (fun _ w => ∃ d m quote, I.Sees v d m ∧ Redeemed call quote v w ∧
        Placed distance call address (validItems (loadCart d call.userId)) quote v w) (fun _ => True) v := by
  apply wp_runCheckoutTransaction_with (R := fun _ quote u => QuoteLocked quote u ∧
    v.Continues (fun k => ¬ CouponKey k) Mark.Idle u) (S := fun _ quote w => Redeemed call quote v w)
  · intro items u first
    refine wp_mono _ (quoteOrder_locks fun _ => trivial) (fun quote w chosen => ⟨chosen.1, ?_⟩) fun _ e => e
    refine (first.mono (fun k stock => ?_) ?_).trans (chosen.2.mono (fun _ no => no.elim) fun _ no => no.elim)
    · cases k <;> first | exact stock.elim | exact id
    · rintro e ⟨lines, rfl⟩
      exact ⟨rfl, rfl⟩
  · intro items quote u w found filed
    refine ⟨found.1.along filed fun i => ?_, found.2.trans (filed.mono (fun k kind => ?_) ?_)⟩
    · simp [FiledKey, OrderKey, PlanKey]
    · rcases kind with (rfl | rfl | rfl) | plan | rfl
      · exact id
      · exact id
      · exact id
      · cases k <;> first | exact plan.elim | exact id
      · exact id
    · rintro e ⟨coupon, rfl⟩
      exact ⟨rfl, rfl⟩
  · intro items quote u found
    obtain ⟨locked, upto⟩ := found
    have before : ∀ c, u.rows (.coupon c) = v.rows (.coupon c) := fun c => upto.rows (.coupon c) fun no => no trivial
    refine wp_mono _ (settleOrder_spends (fun _ => trivial) locked) (fun _ w ends => ?_) fun _ e => e
    obtain ⟨t, spent, rest⟩ := ends
    have after : ∀ c, w.rows (.coupon c) = t.rows (.coupon c) := fun c => rest.rows (.coupon c) fun no => no trivial
    obtain ⟨early, log, idle⟩ := upto.log
    obtain ⟨late, log', idle'⟩ := rest.log
    refine ⟨locked.distinctCoupons call, fun p claimed => ?_, fun c apart => ?_, early, late, idle, idle', ?_⟩
    · rw [after, ← before]
      exact ⟨(locked.left claimed).1, (locked.left claimed).2, spent.used p claimed⟩
    · rw [after, spent.others c apart, before]
    · rw [log', spent.log, log]

end Marketplace
