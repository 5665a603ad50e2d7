import Marketplace.Orders.MasterTotal
import Marketplace.Orders.Redemption
import Marketplace.Orders.RestockOnce
import Marketplace.Orders.Transitions
import Mathlib.Data.Finset.Card

/-! The use count of a coupon against the redemptions that stand. -/
namespace Marketplace
open ReadCommitted ReadCommitted.Tx

def redemptions (journal : List Mark) : List (Id × Redemption) := journal.filterMap Mark.redemption

def releases (journal : List Mark) : List (Id × Redemption) := journal.filterMap Mark.release

/-- The redemptions that have committed and have not been given back. -/
def standing (journal : List Mark) : Finset (Id × Redemption) :=
  (redemptions journal).toFinset \ (releases journal).toFinset

def uses (journal : List Mark) (coupon : Id) : Nat := ((standing journal).filter (·.1 = coupon)).card

/-- The limit was set below the uses there were. -/
def LoweredBelow (d₀ : Db) (journal : List Mark) (coupon : Id) (limit : Nat) : Prop :=
  ∃ before after, journal = before ++ .usageLimitSet coupon (some limit) :: after ∧
    ∃ first ∈ d₀ (.coupon coupon), limit < first.usedCount + uses before coupon

structure UsesCounted (d₀ d : Db) (journal : List Mark) : Prop where
  counted : ∀ c, (d (.coupon c)).map (·.usedCount) = (d₀ (.coupon c)).map (·.usedCount + uses journal c)
  limited : ∀ c, ∀ row ∈ d (.coupon c), ∀ limit ∈ row.usageLimit,
    row.usedCount ≤ limit ∨ LoweredBelow d₀ journal c limit

/-- A coupon was saved with a use count that was no longer its own. -/
def Mark.rollsBack : Mark → Bool
  | .couponSaved _ loaded reread => loaded ≠ reread
  | _ => false

def CountsFresh (log : List Mark) : Prop := ∀ e ∈ log, e.rollsBack = false

instance (log : List Mark) : Decidable (CountsFresh log) :=
  inferInstanceAs (Decidable (∀ e ∈ log, e.rollsBack = false))

def UsesKept (s : Store (Table Row) Mark) (log : List Mark) : Prop := Unraced s log ∧ CountsFresh log

instance (s : Store (Table Row) Mark) (log : List Mark) : Decidable (UsesKept s log) :=
  inferInstanceAs (Decidable (_ ∧ _))

/-- A call of the orders that deletes no coupon, or any other request that writes none of these rows. -/
def CouponRequest (distance : Distance) (r : Request) : Prop :=
  (∃ call : OrderCall, (∀ id seller, call ≠ .deleteCoupon id seller) ∧ r = call.request distance) ∨
    r.All fun _ body => body.Within (fun k => ¬ ClaimKey k) Mark.Idle

/-- Nothing sold, and no coupon beyond its limit. -/
structure Unsold (d : Db) : Prop where
  orders : NoOrders d
  subOrders : ∀ x, d (.subOrder x) = none
  limits : ∀ c, ∀ row ∈ d (.coupon c), ∀ limit ∈ row.usageLimit, row.usedCount ≤ limit

section
variable {journal marks : List Mark}

theorem redemptions_append : redemptions (journal ++ marks) = redemptions journal ++ redemptions marks := by
  simp [redemptions]

theorem releases_append : releases (journal ++ marks) = releases journal ++ releases marks := by
  simp [releases]

theorem mem_standing {p : Id × Redemption} : p ∈ standing journal ↔ p ∈ redemptions journal ∧ p ∉ releases journal := by
  simp [standing]

theorem redemptions_idle (idle : ∀ e ∈ marks, e.Idle) : redemptions marks = [] :=
  List.filterMap_eq_nil_iff.mpr fun e member => (idle e member).1

theorem releases_idle (idle : ∀ e ∈ marks, e.Idle) : releases marks = [] :=
  List.filterMap_eq_nil_iff.mpr fun e member => (idle e member).2

theorem standing_idle (idle : ∀ e ∈ marks, e.Idle) : standing (journal ++ marks) = standing journal := by
  rw [standing, redemptions_append, releases_append, redemptions_idle idle, releases_idle idle, List.append_nil,
    List.append_nil, standing]

theorem standing_release (c : Id) (source : Redemption) :
    standing (journal ++ [.couponReleased c source]) = (standing journal).erase (c, source) := by
  ext p
  simp only [mem_standing, Finset.mem_erase, redemptions_append, releases_append, List.mem_append]
  simp only [redemptions, releases, List.filterMap_cons, Mark.redemption, Mark.release, List.filterMap_nil,
    List.mem_singleton, List.not_mem_nil, or_false, not_or]
  tauto

theorem standing_redeem {c : Id} {source : Redemption} (fresh : (c, source) ∉ releases journal) :
    standing (journal ++ [.couponRedeemed c source]) = insert (c, source) (standing journal) := by
  ext p
  simp only [mem_standing, Finset.mem_insert, redemptions_append, releases_append, List.mem_append]
  simp only [redemptions, releases, List.filterMap_cons, Mark.redemption, Mark.release, List.filterMap_nil,
    List.mem_singleton, List.not_mem_nil, or_false] at fresh ⊢
  constructor
  · tauto
  · rintro (rfl | both)
    · exact ⟨Or.inr rfl, fresh⟩
    · exact ⟨Or.inl both.1, both.2⟩

theorem uses_release {c : Id} {source : Redemption} (live : (c, source) ∈ standing journal) (i : Id) :
    uses (journal ++ [.couponReleased c source]) i = if i = c then uses journal i - 1 else uses journal i := by
  rw [uses, standing_release, Finset.filter_erase]
  split
  · rename_i same
    exact Finset.card_erase_of_mem (Finset.mem_filter.mpr ⟨live, same.symm⟩)
  · rename_i other
    rw [Finset.erase_eq_of_notMem fun member => other (Finset.mem_filter.mp member).2.symm, uses]

theorem uses_pos {c : Id} {source : Redemption} (live : (c, source) ∈ standing journal) : 0 < uses journal c :=
  Finset.card_pos.mpr ⟨_, Finset.mem_filter.mpr ⟨live, rfl⟩⟩

theorem uses_redeem {c : Id} {source : Redemption} (fresh : (c, source) ∉ releases journal)
    (unused : (c, source) ∉ redemptions journal) (i : Id) :
    uses (journal ++ [.couponRedeemed c source]) i = if i = c then uses journal i + 1 else uses journal i := by
  rw [uses, standing_redeem fresh, Finset.filter_insert]
  by_cases same : c = i
  · rw [if_pos same, if_pos same.symm]
    apply Finset.card_insert_of_notMem
    intro member
    exact unused (mem_standing.mp (Finset.mem_filter.mp member).1).1
  · rw [if_neg same, if_neg fun eq => same eq.symm, uses]

theorem uses_idle (idle : ∀ e ∈ marks, e.Idle) (c : Id) : uses (journal ++ marks) c = uses journal c := by
  rw [uses, standing_idle idle, uses]

theorem LoweredBelow.append {d₀ : Db} {c : Id} {limit : Nat} (lowered : LoweredBelow d₀ journal c limit) :
    LoweredBelow d₀ (journal ++ marks) c limit := by
  obtain ⟨before, after, rfl, below⟩ := lowered
  exact ⟨before, after ++ marks, by simp, below⟩

variable {d₀ d e : Db}

theorem UsesCounted.idle (counts : UsesCounted d₀ d journal) (same : ∀ c, e (.coupon c) = d (.coupon c))
    (idle : ∀ e ∈ marks, e.Idle) : UsesCounted d₀ e (journal ++ marks) := by
  refine ⟨fun c => ?_, fun c row stands limit set => ?_⟩
  · rw [same, counts.counted, uses_idle idle]
  · rw [same] at stands
    exact (counts.limited c row stands limit set).imp_right .append

theorem UsesCounted.release {c : Id} {source : Redemption} (counts : UsesCounted d₀ d journal)
    (live : (c, source) ∈ standing journal) (rows : ∀ i, e (.coupon i) = releasedCoupon c d (.coupon i)) :
    UsesCounted d₀ e (journal ++ [.couponReleased c source]) := by
  refine ⟨fun i => ?_, fun i row stands limit set => ?_⟩
  · have before := counts.counted i
    rw [rows, uses_release live]
    by_cases same : i = c
    · subst same
      have positive := uses_pos live
      simp only [releasedCoupon, Function.update_self, if_true]
      cases found : d (.coupon i) with
      | none =>
        rw [found, Option.map_none] at before
        rw [Option.map_eq_none_iff.mp before.symm]
        rfl
      | some row =>
        rw [found, Option.map_some] at before
        obtain ⟨first, there, count⟩ := Option.map_eq_some_iff.mp before.symm
        simp only [there, Option.map_some, Option.some.injEq]
        omega
    · simpa [releasedCoupon, same] using before
  · rw [rows] at stands
    by_cases same : i = c
    · subst same
      simp only [releasedCoupon, Function.update_self] at stands
      obtain ⟨row', there, rfl⟩ := Option.map_eq_some_iff.mp stands
      rcases counts.limited i row' there limit set with within | lowered
      · exact Or.inl (Nat.le_trans (Nat.sub_le _ _) within)
      · exact Or.inr lowered.append
    · rw [releasedCoupon, Function.update_of_ne (by simpa using same)] at stands
      exact (counts.limited i row stands limit set).imp_right .append

/-- A use below the limit, under the coupon's lock. -/
theorem UsesCounted.redeem {c : Id} {row : Coupon} {source : Redemption} (counts : UsesCounted d₀ d journal)
    (fresh : (c, source) ∉ releases journal) (unused : (c, source) ∉ redemptions journal)
    (stands : d (.coupon c) = some row) (left : ∀ limit ∈ row.usageLimit, row.usedCount < limit)
    (written : e (.coupon c) = some { row with usedCount := row.usedCount + 1 })
    (others : ∀ i, i ≠ c → e (.coupon i) = d (.coupon i)) :
    UsesCounted d₀ e (journal ++ [.couponRedeemed c source]) := by
  refine ⟨fun i => ?_, fun i row' stands' limit set => ?_⟩
  · have before := counts.counted i
    rw [uses_redeem fresh unused]
    by_cases same : i = c
    · subst same
      rw [stands, Option.map_some] at before
      obtain ⟨first, there, count⟩ := Option.map_eq_some_iff.mp before.symm
      simp only [written, there, Option.map_some, if_true, Option.some.injEq]
      omega
    · rw [others i same, if_neg same, before]
  · by_cases same : i = c
    · subst same
      obtain rfl := Option.some.inj (written.symm.trans stands')
      exact Or.inl (left limit set)
    · rw [others i same] at stands'
      exact (counts.limited i row' stands' limit set).imp_right .append

theorem couponMarks_idle {c : Id} {mem reread : Coupon} {e : Mark} (member : e ∈ couponMarks c mem reread) : e.Idle := by
  have saved := couponMarks_saved member
  cases e <;> first | exact saved.elim | exact ⟨rfl, rfl⟩

/-- A save of a coupon whose use count has not moved since it was loaded. -/
theorem UsesCounted.save {c : Id} {mem reread current : Coupon} (counts : UsesCounted d₀ d journal)
    (stands : d (.coupon c) = some current) (fresh : mem.usedCount = reread.usedCount)
    (written : e (.coupon c) = some (couponColumns.write mem reread current))
    (others : ∀ i, i ≠ c → e (.coupon i) = d (.coupon i)) :
    UsesCounted d₀ e (journal ++ couponMarks c mem reread) := by
  have kept : (couponColumns.write mem reread current).usedCount = current.usedCount := by
    simp [couponColumns, fresh]
  have before := counts.counted c
  rw [stands, Option.map_some] at before
  obtain ⟨first, there, count⟩ := Option.map_eq_some_iff.mp before.symm
  refine ⟨fun i => ?_, fun i row stands' limit set => ?_⟩
  · rw [uses_idle fun e member => couponMarks_idle member]
    by_cases same : i = c
    · subst same
      rw [written, Option.map_some, kept, before]
    · rw [others i same, counts.counted]
  · by_cases same : i = c
    · subst same
      obtain rfl := Option.some.inj (written.symm.trans stands')
      rw [kept]
      by_cases moved : mem.usageLimit = reread.usageLimit
      · have limitKept : (couponColumns.write mem reread current).usageLimit = current.usageLimit := by
          simp [couponColumns, moved]
        rw [limitKept] at set
        exact (counts.limited i current stands limit set).imp_right .append
      · have limitSet : (couponColumns.write mem reread current).usageLimit = mem.usageLimit := column_diff moved
        rw [limitSet] at set
        by_cases within : current.usedCount ≤ limit
        · exact Or.inl within
        · refine Or.inr ⟨journal ++ [.couponSaved i mem.usedCount reread.usedCount], [], ?_, first, there, ?_⟩
          · rw [couponMarks, if_neg moved, Option.mem_def.mp set, List.append_assoc]
            rfl
          · rw [uses_idle fun e member => by obtain rfl := List.mem_singleton.mp member; exact ⟨rfl, rfl⟩]
            omega
    · rw [others i same] at stands'
      exact (counts.limited i row stands' limit set).imp_right .append

/-- Every redemption stands with the row that names its coupon. -/
structure Tally (d₀ d : Db) (journal : List Mark) : Prop where
  counts : UsesCounted d₀ d journal
  subOrders : ∀ x, ∀ row ∈ d (.subOrder x), row.status ≠ .cancelled →
    ∀ c ∈ row.shopCoupon, (c, .subOrder x) ∈ standing journal
  orders : ∀ o, ∀ row ∈ d (.order o), ∀ c ∈ row.globalCoupon, (c, .order o) ∈ standing journal
  sold : ∀ c x, (c, .subOrder x) ∈ redemptions journal → d (.subOrder x) ≠ none
  placed : ∀ c o, (c, .order o) ∈ redemptions journal → d (.order o) ≠ none
  returned : ∀ p ∈ releases journal, p ∈ redemptions journal
  filed : ∀ o, ∀ x ∈ listed (d (.subOrdersOf o)), d (.subOrder x) ≠ none
  fresh : ∀ o, d (.order o) = none → listed (d (.subOrdersOf o)) = []
  once : ListsOnce d

theorem Unsold.tally (unsold : Unsold d₀) : Tally d₀ d₀ [] where
  counts := ⟨fun c => by cases d₀ (.coupon c) <;> rfl, fun c row stands limit set => Or.inl (unsold.limits c row stands limit set)⟩
  subOrders x row stands := by rw [unsold.subOrders] at stands; cases stands
  orders o row stands := by rw [(unsold.orders o).1] at stands; cases stands
  sold _ _ no := nomatch no
  placed _ _ no := nomatch no
  returned _ no := nomatch no
  filed o x member := by rw [(unsold.orders o).2] at member; cases member
  fresh o _ := (unsold.orders o).2
  once o := by rw [(unsold.orders o).2]; exact .nil

/-- Marks that redeem nothing leave the tally to the counts. -/
theorem Tally.recount (tally : Tally d₀ d journal) (counts : UsesCounted d₀ e (journal ++ marks))
    (same : ∀ k, ClaimKey k → ¬ CouponKey k → e k = d k) (idle : ∀ e ∈ marks, e.Idle) :
    Tally d₀ e (journal ++ marks) := by
  have claims : redemptions (journal ++ marks) = redemptions journal := by
    rw [redemptions_append, redemptions_idle idle, List.append_nil]
  have back : releases (journal ++ marks) = releases journal := by
    rw [releases_append, releases_idle idle, List.append_nil]
  have subOrders : ∀ x, e (.subOrder x) = d (.subOrder x) := fun x => same (.subOrder x) trivial id
  have orders : ∀ o, e (.order o) = d (.order o) := fun o => same (.order o) trivial id
  have lists : ∀ o, e (.subOrdersOf o) = d (.subOrdersOf o) := fun o => same (.subOrdersOf o) trivial id
  refine ⟨counts, fun x => ?_, fun o => ?_, fun c x => ?_, fun c o => ?_, ?_, fun o x => ?_, fun o => ?_, fun o => ?_⟩
  · rw [subOrders, standing_idle idle]
    exact tally.subOrders x
  · rw [orders, standing_idle idle]
    exact tally.orders o
  · rw [claims, subOrders]
    exact tally.sold c x
  · rw [claims, orders]
    exact tally.placed c o
  · rw [claims, back]
    exact tally.returned
  · rw [lists, subOrders]
    exact tally.filed o x
  · rw [orders, lists]
    exact tally.fresh o
  · rw [lists]
    exact tally.once o

theorem Tally.beside (tally : Tally d₀ d journal) (same : ∀ k, ClaimKey k → e k = d k) (idle : ∀ e ∈ marks, e.Idle) :
    Tally d₀ e (journal ++ marks) :=
  tally.recount (tally.counts.idle (fun c => same (.coupon c) trivial) idle) (fun k claim _ => same k claim) idle

/-- A sub-order restated: open only if it was, with the coupon it had. -/
theorem Tally.restate {x : Id} {before after : SubOrder} (tally : Tally d₀ d journal) (stands : d (.subOrder x) = some before)
    (open_ : after.status ≠ .cancelled → before.status ≠ .cancelled) (coupon : after.shopCoupon = before.shopCoupon) :
    Tally d₀ (Function.update d (.subOrder x) (some after)) journal := by
  have other : ∀ k, k ≠ .subOrder x → Function.update d (.subOrder x) (some after) k = d k :=
    fun k different => Function.update_of_ne different _ _
  have there : ∀ y, d (.subOrder y) ≠ none → Function.update d (.subOrder x) (some after) (.subOrder y) ≠ none := by
    intro y present
    by_cases same : y = x
    · subst same
      rw [Function.update_self]
      nofun
    · rwa [other _ (by simpa using same)]
  refine ⟨?_, fun y row found active c named => ?_, tally.orders, fun c y claimed => there y (tally.sold c y claimed),
    tally.placed, tally.returned, fun o y member => there y (tally.filed o y member), tally.fresh, tally.once⟩
  · exact ⟨tally.counts.counted, tally.counts.limited⟩
  · by_cases same : y = x
    · subst same
      rw [Function.update_self] at found
      obtain rfl := Option.some.inj found
      exact tally.subOrders y before stands (open_ active) c (coupon ▸ named)
    · rw [other _ (by simpa using same)] at found
      exact tally.subOrders y row found active c named

/-- A redemption given back by a row that names its coupon no more. -/
theorem Tally.release {c : Id} {source : Redemption} (tally : Tally d₀ d journal) (live : (c, source) ∈ standing journal)
    (subOrder : ∀ x, source = .subOrder x → ∀ row ∈ d (.subOrder x), row.status = .cancelled)
    (order : ∀ o, source = .order o → ∀ row ∈ d (.order o), row.globalCoupon = none) :
    Tally d₀ (releasedCoupon c d) (journal ++ [.couponReleased c source]) := by
  have other : ∀ k, ¬ CouponKey k → releasedCoupon c d k = d k := by
    intro k notCoupon
    apply Function.update_of_ne
    rintro rfl
    exact notCoupon trivial
  have claims : redemptions (journal ++ [.couponReleased c source]) = redemptions journal := by
    rw [redemptions_append]
    exact List.append_nil _
  refine ⟨tally.counts.release live fun _ => rfl, fun x row found active c' named => ?_, fun o row found c' named => ?_,
    fun c' x claimed => ?_, fun c' o claimed => ?_, fun p member => ?_, tally.filed, tally.fresh, tally.once⟩
  · rw [other (.subOrder x) id] at found
    rw [standing_release, Finset.mem_erase]
    refine ⟨fun same => ?_, tally.subOrders x row found active c' named⟩
    exact active (subOrder x (Prod.mk.inj same).2.symm row found)
  · rw [other (.order o) id] at found
    rw [standing_release, Finset.mem_erase]
    refine ⟨fun same => ?_, tally.orders o row found c' named⟩
    have gone := order o (Prod.mk.inj same).2.symm row found
    rw [gone] at named
    cases named
  · rw [claims] at claimed
    exact tally.sold c' x claimed
  · rw [claims] at claimed
    exact tally.placed c' o claimed
  · rw [claims]
    rw [releases_append] at member
    rcases List.mem_append.mp member with early | last
    · exact tally.returned p early
    · obtain rfl := List.mem_singleton.mp last
      exact (mem_standing.mp live).1

theorem Tally.reorder {o : Id} {before after : Order} (tally : Tally d₀ d journal) (stands : d (.order o) = some before)
    (coupon : ∀ c ∈ after.globalCoupon, c ∈ before.globalCoupon) :
    Tally d₀ (Function.update d (.order o) (some after)) journal := by
  have other : ∀ k, k ≠ .order o → Function.update d (.order o) (some after) k = d k :=
    fun k different => Function.update_of_ne different _ _
  refine ⟨⟨tally.counts.counted, tally.counts.limited⟩, tally.subOrders, fun p row found c named => ?_, tally.sold,
    fun c p claimed => ?_, tally.returned, tally.filed, fun p missing => ?_, tally.once⟩
  · by_cases same : p = o
    · subst same
      rw [Function.update_self] at found
      obtain rfl := Option.some.inj found
      exact tally.orders p before stands c (coupon c named)
    · rw [other _ (by simpa using same)] at found
      exact tally.orders p row found c named
  · by_cases same : p = o
    · subst same
      rw [Function.update_self]
      nofun
    · rw [other _ (by simpa using same)]
      exact tally.placed c p claimed
  · by_cases same : p = o
    · subst same
      rw [Function.update_self] at missing
      cases missing
    · rw [other _ (by simpa using same)] at missing
      exact tally.fresh p missing

/-- The cancellation of an open sub-order gives its redemption back. -/
theorem Tally.cancel {loaded : LoadedSubOrder} {before after : SubOrder} (tally : Tally d₀ d journal)
    (stands : d (.subOrder loaded.id) = some before) (active : before.status ≠ .cancelled)
    (coupon : ∀ c ∈ loaded.shopCoupon, c.1 ∈ before.shopCoupon) (kept : after.shopCoupon = before.shopCoupon)
    (cancelled : after.status = .cancelled)
    (rows : ∀ k, ClaimKey k → e k = Function.update (refunded loaded d) (.subOrder loaded.id) (some after) k) :
    Tally d₀ e (journal ++ refundMarks loaded) := by
  have restated := tally.restate stands (fun open_ => absurd cancelled open_) kept
  have reports : ∀ e ∈ [Mark.restocked loaded.id (restockTargets loaded.items)], e.Idle := by
    intro e member
    obtain rfl := List.mem_singleton.mp member
    exact ⟨rfl, rfl⟩
  have restocked := restated.beside (fun _ _ => rfl) reports
  cases found : loaded.shopCoupon with
  | none =>
    have marks : refundMarks loaded = [.restocked loaded.id (restockTargets loaded.items)] ++ [] := by
      simp [refundMarks, found]
    rw [marks, ← List.append_assoc]
    refine restocked.beside (fun k claim => (rows k claim).trans ?_) (by simp)
    by_cases own : k = .subOrder loaded.id
    · subst own
      rw [Function.update_self, Function.update_self]
    · rw [Function.update_of_ne own, Function.update_of_ne own]
      simp only [refunded, found]
      cases k <;> first | exact claim.elim | rfl
  | some c =>
    have live : (c.1, Redemption.subOrder loaded.id) ∈ standing journal :=
      tally.subOrders loaded.id before stands active c.1 (coupon c found)
    have marks : refundMarks loaded = [.restocked loaded.id (restockTargets loaded.items)] ++
        ([.couponReleased c.1 (.subOrder loaded.id)] ++ []) := by simp [refundMarks, found]
    rw [marks, ← List.append_assoc, ← List.append_assoc]
    rw [← standing_idle reports] at live
    have released := restocked.release live (fun x same row there => by
      obtain rfl := Redemption.subOrder.inj same
      rw [Function.update_self] at there
      obtain rfl := Option.some.inj there
      exact cancelled) (by rintro _ ⟨⟩)
    refine released.beside (fun k claim => (rows k claim).trans ?_) (by simp)
    by_cases own : k = .subOrder loaded.id
    · subst own
      rw [Function.update_self]
      simp [releasedCoupon]
    · rw [Function.update_of_ne own]
      by_cases paid : k = .coupon c.1
      · subst paid
        simp [refunded, found, releasedCoupon, addStock]
      · simp only [refunded, found, releasedCoupon, Function.update_of_ne paid, Function.update_of_ne own]
        cases k <;> first | exact claim.elim | rfl

/-- A recompute keeps the coupon of the order or gives it back. -/
theorem Tally.recompute {o : Id} {order : Order} {coupon : Option (Id × Coupon)} {siblings : Siblings}
    (tally : Tally d₀ d journal) (stands : d (.order o) = some order) (own : ∀ c ∈ coupon, c.1 ∈ order.globalCoupon)
    (rows : ∀ k, ClaimKey k → e k = recomputed o order coupon siblings d k) :
    Tally d₀ e (journal ++ masterMarks o coupon siblings) := by
  have restated : Tally d₀ (Function.update d (.order o) (some (recomputedOrder order coupon siblings))) journal := by
    refine tally.reorder stands fun c named => ?_
    have left : (keptCoupon coupon siblings).map (·.1) = some c := named
    obtain ⟨pair, kept, rfl⟩ := Option.map_eq_some_iff.mp left
    exact own pair (Option.filter_eq_some_iff.mp kept).1
  have quiet : masterMarks o coupon siblings = [] → recomputed o order coupon siblings d =
      Function.update d (.order o) (some (recomputedOrder order coupon siblings)) →
      Tally d₀ e (journal ++ masterMarks o coupon siblings) := by
    intro silent unchanged
    rw [silent]
    refine restated.beside (fun k claim => ?_) (by simp)
    rw [rows k claim, unchanged]
  cases coupon with
  | none => exact quiet rfl rfl
  | some c =>
    by_cases fails : globalCouponFails c.2 siblings
    · have live : (c.1, Redemption.order o) ∈ standing journal := tally.orders o order stands c.1 (own c rfl)
      have marks : masterMarks o (some c) siblings = [.couponReleased c.1 (.order o)] ++ [] := by
        simp [masterMarks, fails]
      rw [marks, ← List.append_assoc]
      have released := restated.release live (by rintro _ ⟨⟩) fun p same row there => by
        obtain rfl := Redemption.order.inj same
        rw [Function.update_self] at there
        obtain rfl := Option.some.inj there
        simp [recomputedOrder, keptCoupon, Option.filter, fails]
      refine released.beside (fun k claim => (rows k claim).trans ?_) (by simp)
      by_cases mine : k = .order o
      · subst mine
        simp [recomputed, releasedCoupon]
      · by_cases paid : k = .coupon c.1
        · subst paid
          simp [recomputed, fails, releasedCoupon]
        · simp [recomputed, fails, releasedCoupon, mine, paid]
    · exact quiet (by simp [masterMarks, fails]) (by simp [recomputed, fails])

end

/-- A sub-order stays, with the columns of its placement, and cancelled once it is. -/
def Onward (s t : Store (Table Row) Mark) : Prop :=
  ∀ x row, s.rows (.subOrder x) = some row → Kept (some row) (t.rows (.subOrder x))

theorem Onward.refl (s : Store (Table Row) Mark) : Onward s s := fun _ _ stands => by
  rw [stands]
  exact ⟨rfl, id⟩

theorem Kept.trans {a b c : Option SubOrder} (first : Kept a b) (second : Kept b c) : Kept a c :=
  ⟨second.placed.trans first.placed, fun done => second.cancelled (first.cancelled done)⟩

theorem Kept.some {row : SubOrder} {after : Option SubOrder} (kept : Kept (some row) after) :
    ∃ row', after = Option.some row' ∧ row'.placed = row.placed :=
  Option.map_eq_some_iff.mp kept.placed

theorem Onward.trans {s t u : Store (Table Row) Mark} (first : Onward s t) (second : Onward t u) : Onward s u := by
  intro x row stands
  have kept := first x row stands
  obtain ⟨row', there, _⟩ := kept.some
  rw [there] at kept
  exact kept.trans (second x row' there)

/-- What a transaction has done so far is tallied. -/
structure CouponTallied (d₀ : Db) (s : Store (Table Row) Mark) (v : View (Table Row) Mark) : Prop where
  tally : Tally d₀ v.rows (s.journal ++ v.log)
  onward : ∀ x row, s.rows (.subOrder x) = some row → Kept (some row) (v.rows (.subOrder x))

theorem placed_coupon {a b : SubOrder} (same : a.placed = b.placed) : a.shopCoupon = b.shopCoupon := by
  have both : a.placed.shopCoupon = b.placed.shopCoupon := by rw [same]
  exact both

def CouponTalliedIn (d₀ : Db) (s : Store (Table Row) Mark) : Prop := Tally d₀ s.rows s.journal

section
variable {d₀ : Db} {h : History (Table Row) Mark} {v w : View (Table Row) Mark}

theorem CouponTallied.start {m : Nat} (inv : CouponTalliedIn d₀ h.current) : CouponTallied d₀ h.current (View.start h.current.rows m) := by
  refine ⟨?_, Onward.refl h.current⟩
  rw [View.start_log, List.append_nil]
  exact inv

theorem CouponTallied.commit (tallied : CouponTallied d₀ h.current v) : CouponTalliedIn d₀ (h.commit v) ∧ Onward h.current (h.commit v) :=
  ⟨tallied.tally, tallied.onward⟩

theorem CouponTallied.beside {K : Key → Prop} {L : Mark → Prop} (tallied : CouponTallied d₀ h.current v) (more : v.Continues K L w)
    (apart : ∀ k, ClaimKey k → ¬ K k) (idle : ∀ e, L e → e.Idle) : CouponTallied d₀ h.current w := by
  obtain ⟨marks, log, quiet⟩ := more.log
  refine ⟨?_, fun x row stands => ?_⟩
  · rw [log, ← List.append_assoc]
    exact tallied.tally.beside (fun k claim => more.rows k (apart k claim)) fun e member => idle e (quiet e member)
  · rw [more.rows _ (apart (.subOrder x) trivial)]
    exact tallied.onward x row stands

theorem beside_claim {k : Key} (claim : ClaimKey k) : ¬ Beside k := by
  rintro (wallet | payment) <;> cases k <;> first | exact claim.elim | exact wallet.elim | exact payment.elim

theorem Mark.Reports.idle {e : Mark} (reports : e.Reports) : e.Idle := by
  cases e <;> first | exact reports.elim | exact ⟨rfl, rfl⟩

theorem CouponTallied.cancel {loaded : LoadedSubOrder} {d : Db} {j : Nat}
    (ordered : ∀ j k, j ≤ k → k ≤ h.now → Onward (h.past j) (h.past k)) (tallied : CouponTallied d₀ h.current v)
    (committed : Committed h d) (read : loadSubOrder d loaded.id = some loaded) (small : j ≤ h.now)
    (own : v.rows (.subOrder loaded.id) = h.current.rows (.subOrder loaded.id))
    (active : ¬ isCancelled (v.rows (.subOrder loaded.id)))
    (rows : ∀ k, ¬ WalletKey k → w.rows k = Function.update (refunded loaded v.rows) (.subOrder loaded.id)
      (savedOver { loaded.row with status := .cancelled } ((h.past j).rows (.subOrder loaded.id))
        (v.rows (.subOrder loaded.id))) k)
    (log : w.log = v.log ++ refundMarks loaded) : CouponTallied d₀ h.current w := by
  obtain ⟨row, found, shown⟩ := Option.map_eq_some_iff.mp read
  have sameRow : loaded.row = row := by rw [← shown]
  have coupons : loaded.shopCoupon = couponOf d loaded.row.shopCoupon := by rw [← shown]
  obtain ⟨i, past, same⟩ := committed (.subOrder loaded.id)
  obtain ⟨before, now_, placed⟩ := (ordered i h.now past (Nat.le_refl _) loaded.id loaded.row
    (by rw [← same, found, sameRow])).some
  have stands : v.rows (.subOrder loaded.id) = some before := own.trans now_
  have open_ : before.status ≠ .cancelled := by
    intro done
    simp [stands, isCancelled, done] at active
  obtain ⟨after, written, sameCoupon, cancelled⟩ : ∃ after, savedOver { loaded.row with status := .cancelled }
      ((h.past j).rows (.subOrder loaded.id)) (v.rows (.subOrder loaded.id)) = some after ∧
      after.placed = before.placed ∧ after.status = .cancelled := by
    cases reread : (h.past j).rows (.subOrder loaded.id) with
    | none => exact ⟨_, rfl, placed.symm, rfl⟩
    | some r =>
      have kept := ordered j h.now small (Nat.le_refl _) loaded.id r reread
      change Kept (some r) (h.current.rows (.subOrder loaded.id)) at kept
      rw [now_] at kept
      have other : r.status ≠ .cancelled := by
        intro done
        have gone := kept.cancelled (by simp [isCancelled, done])
        exact open_ (by simpa [isCancelled] using gone)
      have placedSame : before.placed = r.placed := Option.some.inj kept.placed
      have memSame : ({ loaded.row with status := .cancelled } : SubOrder).placed = r.placed := placed.symm.trans placedSame
      refine ⟨subOrderColumns.write { loaded.row with status := .cancelled } r before, by rw [stands]; rfl,
        placed_write memSame before, ?_⟩
      exact column_diff (by exact other.symm)
  rw [written] at rows
  refine ⟨?_, fun x row' earlier => ?_⟩
  · rw [log, ← List.append_assoc]
    refine tallied.tally.cancel stands open_ (fun c member => ?_) (placed_coupon sameCoupon) cancelled
      fun k claim => rows k (by cases k <;> first | exact claim.elim | exact id)
    rw [coupons] at member
    obtain ⟨id, attached, there⟩ := Option.bind_eq_some_iff.mp member
    obtain ⟨coupon, _, rfl⟩ := Option.map_eq_some_iff.mp there
    rw [placed_coupon placed]
    exact attached
  · rw [rows (.subOrder x) id]
    by_cases mine : x = loaded.id
    · subst mine
      have kept := tallied.onward _ row' earlier
      rw [stands] at kept
      rw [Function.update_self]
      refine kept.trans ⟨congrArg some sameCoupon, fun _ => ?_⟩
      simp [isCancelled, cancelled]
    · rw [Function.update_of_ne (by simpa using mine), refunded_other id]
      exact tallied.onward x row' earlier

theorem CouponTallied.advance {x : Id} {row mem : SubOrder} (tallied : CouponTallied d₀ h.current v)
    (stands : v.rows (.subOrder x) = some row) (placed : mem.placed = row.placed) (before : row.status ≠ .cancelled)
    (saved : w.rows (.subOrder x) = some mem) (more : v.Continues (· = .subOrder x) NoMark w) : CouponTallied d₀ h.current w := by
  have rows : w.rows = Function.update v.rows (.subOrder x) (some mem) := by
    funext k
    by_cases same : k = .subOrder x
    · subst same
      rw [saved, Function.update_self]
    · rw [more.rows k same, Function.update_of_ne same]
  refine ⟨?_, fun y row' earlier => ?_⟩
  · rw [rows, more.log_same]
    exact tallied.tally.restate stands (fun _ => before) (placed_coupon placed)
  · rw [rows]
    by_cases mine : y = x
    · subst mine
      have kept := tallied.onward y row' earlier
      rw [stands] at kept
      rw [Function.update_self]
      refine kept.trans ⟨congrArg some placed, fun done => ?_⟩
      simp [isCancelled, before] at done
    · rw [Function.update_of_ne (by simpa using mine)]
      exact tallied.onward y row' earlier

theorem CouponTallied.recompute {o : Id} {order : Order} {d₁ d₂ : Db} {marks : List Mark} (tallied : CouponTallied d₀ h.current v)
    (stands : v.rows (.order o) = some order)
    (rows : ∀ k, ¬ WalletKey k → k ≠ .payment o →
      w.rows k = recomputed o order (couponOf d₁ order.globalCoupon) (loadSiblings d₂ o) v.rows k)
    (log : w.log = v.log ++ masterMarks o (couponOf d₁ order.globalCoupon) (loadSiblings d₂ o) ++ marks)
    (marked : ∀ e ∈ marks, PaymentMark o e) : CouponTallied d₀ h.current w := by
  have own : ∀ c ∈ couponOf d₁ order.globalCoupon, c.1 ∈ order.globalCoupon := by
    intro c member
    obtain ⟨id, attached, there⟩ := Option.bind_eq_some_iff.mp member
    obtain ⟨coupon, _, rfl⟩ := Option.map_eq_some_iff.mp there
    exact attached
  have settled : Tally d₀ (recomputed o order (couponOf d₁ order.globalCoupon) (loadSiblings d₂ o) v.rows)
      (h.current.journal ++ v.log ++ masterMarks o (couponOf d₁ order.globalCoupon) (loadSiblings d₂ o)) :=
    tallied.tally.recompute stands own fun _ _ => rfl
  refine ⟨?_, fun x row earlier => ?_⟩
  · rw [log, ← List.append_assoc, ← List.append_assoc]
    refine settled.beside (fun k claim => rows k ?_ ?_) fun e member => ?_
    · cases k <;> first | exact claim.elim | exact id
    · rintro rfl
      exact claim
    · obtain ⟨loaded, reread, rfl⟩ := marked e member
      exact ⟨rfl, rfl⟩
  · rw [rows (.subOrder x) id nofun, recomputed_other (k := .subOrder x) id nofun]
    exact tallied.onward x row earlier

theorem CouponTallied.steps {u : View (Table Row) Mark} (ordered : ∀ j k, j ≤ k → k ≤ h.now → Onward (h.past j) (h.past k))
    (tallied : CouponTallied d₀ h.current u) (steps : SubOrderSteps h u v) : CouponTallied d₀ h.current v := by
  induction steps with
  | refl => exact tallied
  | tail _ step ih =>
    cases step with
    | beside more => exact ih.beside more (fun _ => beside_claim) fun _ reports => reports.idle
    | cancel loaded d reread committed read opened seen own active rows log =>
      obtain ⟨j, small, rfl⟩ := seen
      exact ih.cancel ordered committed read small own active rows log
    | advance x row mem stands placed allowed stays saved more =>
      exact ih.advance stands placed (not_cancelled_of_step allowed) saved more
    | recompute o order d₁ d₂ marks stands _ _ rows log marked => exact ih.recompute stands rows log marked

end

section
variable {d₀ d e : Db} {journal : List Mark}

/-- The redemptions of one checkout, of different coupons. -/
theorem UsesCounted.redeemAll {claims : List (Id × Redemption)} (counts : UsesCounted d₀ d journal)
    (unused : ∀ p ∈ claims, p ∉ redemptions journal) (returned : ∀ p ∈ releases journal, p ∈ redemptions journal)
    (distinct : (claims.map (·.1)).Nodup)
    (rows : ∀ p ∈ claims, ∃ row, d (.coupon p.1) = some row ∧ (∀ limit ∈ row.usageLimit, row.usedCount < limit) ∧
      e (.coupon p.1) = some { row with usedCount := row.usedCount + 1 })
    (others : ∀ c, (∀ p ∈ claims, p.1 ≠ c) → e (.coupon c) = d (.coupon c)) :
    UsesCounted d₀ e (journal ++ claims.map fun p => .couponRedeemed p.1 p.2) := by
  induction claims generalizing d journal with
  | nil => exact counts.idle (fun c => others c (by simp)) (by simp)
  | cons p rest ih =>
    obtain ⟨apart, distinct⟩ := List.nodup_cons.mp distinct
    have elsewhere : ∀ q ∈ rest, q.1 ≠ p.1 := fun q member same => apart (List.mem_map.mpr ⟨q, member, same⟩)
    obtain ⟨row, stands, left, written⟩ := rows p List.mem_cons_self
    have first := counts.redeem (e := Function.update d (.coupon p.1) (some { row with usedCount := row.usedCount + 1 }))
      (fun back => unused p List.mem_cons_self (returned p back)) (unused p List.mem_cons_self) stands left
      (Function.update_self ..) fun i other => Function.update_of_ne (by simpa using other) _ _
    have claimed : redemptions (journal ++ [.couponRedeemed p.1 p.2]) = redemptions journal ++ [p] := redemptions_append
    have back : releases (journal ++ [.couponRedeemed p.1 p.2]) = releases journal := by
      rw [releases_append]
      exact List.append_nil _
    have all := ih first (fun q member again => ?_) (fun q member => ?_) distinct (fun q member => ?_) fun c apart' => ?_
    · rwa [List.append_assoc] at all
    · rw [claimed] at again
      rcases List.mem_append.mp again with early | last
      · exact unused q (List.mem_cons_of_mem _ member) early
      · exact elsewhere q member (congrArg Prod.fst (List.mem_singleton.mp last))
    · rw [back] at member
      rw [claimed]
      exact List.mem_append_left _ (returned q member)
    · rw [Function.update_of_ne (by simpa using elsewhere q member)]
      exact rows q (List.mem_cons_of_mem _ member)
    · by_cases mine : c = p.1
      · subst mine
        rw [written, Function.update_self]
      · rw [Function.update_of_ne (by simpa using mine)]
        refine others c fun q member => ?_
        rcases List.mem_cons.mp member with rfl | later
        · exact fun same => mine same.symm
        · exact apart' q later

end

section
variable {d₀ : Db} {journal : List Mark} {v w : View (Table Row) Mark} {distance : Distance} {call : CheckoutCall}
  {address : Address} {items : List CartLine} {quote : Quote}

theorem redemptions_claims (claims : List ((Id × Coupon) × Redemption)) :
    redemptions (claims.map claimMark) = claims.map fun p => (p.1.1, p.2) := by
  unfold redemptions
  rw [List.filterMap_map]
  exact List.filterMap_eq_map_iff_forall_eq_some.mpr fun p _ => rfl

theorem releases_claims (claims : List ((Id × Coupon) × Redemption)) : releases (claims.map claimMark) = [] := by
  apply List.filterMap_eq_nil_iff.mpr
  intro e member
  obtain ⟨p, _, rfl⟩ := List.mem_map.mp member
  rfl

/-- The sources of a checkout are rows it inserts. -/
theorem Tally.unused (tally : Tally d₀ v.rows journal) (placed : Placed distance call address items quote v w)
    {p : (Id × Coupon) × Redemption} (claimed : p ∈ claimsOf call quote) : (p.1.1, p.2) ∉ redemptions journal := by
  intro early
  rcases mem_claimsOf.mp claimed with ⟨_, source⟩ | ⟨plan, inside, _, source⟩
  · rw [source] at early
    exact tally.placed _ _ early placed.free
  · rw [source] at early
    obtain ⟨u, t, before, stored, _⟩ := placed.stored
    have free := stored.fresh plan inside
    rw [before (.subOrder _) id (by simp [OrderKey])] at free
    exact tally.sold _ _ early free

theorem Redeemed.counts (redeemed : Redeemed call quote v w) (tally : Tally d₀ v.rows (journal ++ v.log))
    (placed : Placed distance call address items quote v w) : UsesCounted d₀ w.rows (journal ++ w.log) := by
  obtain ⟨before, after, idle, idle', log⟩ := redeemed.log
  have started := tally.counts.idle (fun _ => rfl) idle
  have claims : redemptions (journal ++ v.log ++ before) = redemptions (journal ++ v.log) := by
    rw [redemptions_append, redemptions_idle idle, List.append_nil]
  have spent : UsesCounted d₀ w.rows (journal ++ v.log ++ before ++
      ((claimsOf call quote).map fun p => (p.1.1, p.2)).map fun p => .couponRedeemed p.1 p.2) := by
    apply started.redeemAll
    · intro p member
      obtain ⟨q, claimed, rfl⟩ := List.mem_map.mp member
      rw [claims]
      exact tally.unused placed claimed
    · intro p member
      rw [releases_append, releases_idle idle, List.append_nil] at member
      rw [claims]
      exact tally.returned p member
    · rw [List.map_map]
      exact redeemed.distinct
    · intro p member
      obtain ⟨q, claimed, rfl⟩ := List.mem_map.mp member
      obtain ⟨stands, left, written⟩ := redeemed.used q claimed
      exact ⟨q.1.2, stands, left, written⟩
    · intro c apart
      exact redeemed.others c fun p claimed => apart _ (List.mem_map_of_mem claimed)
  have settled := spent.idle (fun _ => rfl) idle'
  rw [List.map_map] at settled
  rw [log, ← List.append_assoc, ← List.append_assoc, ← List.append_assoc]
  exact settled

theorem Redeemed.redemptions (redeemed : Redeemed call quote v w) : Marketplace.redemptions (journal ++ w.log) =
    Marketplace.redemptions (journal ++ v.log) ++ (claimsOf call quote).map fun p => (p.1.1, p.2) := by
  obtain ⟨before, after, idle, idle', log⟩ := redeemed.log
  simp only [log, redemptions_append, redemptions_idle idle, redemptions_idle idle', redemptions_claims,
    List.nil_append, List.append_nil, List.append_assoc]

theorem Redeemed.releases (redeemed : Redeemed call quote v w) :
    Marketplace.releases (journal ++ w.log) = Marketplace.releases (journal ++ v.log) := by
  obtain ⟨before, after, idle, idle', log⟩ := redeemed.log
  simp only [log, releases_append, releases_idle idle, releases_idle idle', releases_claims, List.append_nil]

/-- A redemption is an earlier one, the order's or one of its sub-orders'. -/
theorem Redeemed.claims (redeemed : Redeemed call quote v w) {p : Id × Redemption}
    (spent : p ∈ Marketplace.redemptions (journal ++ w.log)) : p ∈ Marketplace.redemptions (journal ++ v.log) ∨
      p.2 = .order call.orderId ∨ ∃ plan ∈ quote.plans.zipIdx, p.2 = .subOrder (call.subOrderId plan.2) := by
  rw [redeemed.redemptions] at spent
  rcases List.mem_append.mp spent with early | now_
  · exact Or.inl early
  · obtain ⟨q, member, rfl⟩ := List.mem_map.mp now_
    rcases mem_claimsOf.mp member with ⟨_, source⟩ | ⟨plan, inside, _, source⟩
    · exact Or.inr (Or.inl source)
    · exact Or.inr (Or.inr ⟨plan, inside, source⟩)

/-- What stood still stands, with what the checkout redeems. -/
theorem Redeemed.standing (redeemed : Redeemed call quote v w) (tally : Tally d₀ v.rows (journal ++ v.log))
    (placed : Placed distance call address items quote v w) {p : Id × Redemption}
    (live : p ∈ Marketplace.standing (journal ++ v.log) ∨ ∃ q ∈ claimsOf call quote, p = (q.1.1, q.2)) :
    p ∈ Marketplace.standing (journal ++ w.log) := by
  rw [mem_standing, redeemed.redemptions, redeemed.releases]
  rcases live with early | ⟨q, member, rfl⟩
  · exact ⟨List.mem_append_left _ (mem_standing.mp early).1, (mem_standing.mp early).2⟩
  · exact ⟨List.mem_append_right _ (List.mem_map_of_mem member), fun gone =>
      tally.unused placed member (tally.returned _ gone)⟩

theorem Placed.planned (placed : Placed distance call address items quote v w) {plan : SubOrderPlan × Nat}
    (inside : plan ∈ quote.plans.zipIdx) :
    w.rows (.subOrder (call.subOrderId plan.2)) = some (newSubOrder call.orderId plan.1) := by
  obtain ⟨u, t, same, stored, _, kept⟩ := placed.stored
  exact (kept (.subOrder _) id nofun).trans (stored.rows plan inside)

theorem Placed.unplanned (placed : Placed distance call address items quote v w) {x : Id}
    (other : ∀ plan ∈ quote.plans.zipIdx, x ≠ call.subOrderId plan.2) : w.rows (.subOrder x) = v.rows (.subOrder x) := by
  obtain ⟨u, t, same, stored, _, kept⟩ := placed.stored
  rw [kept (.subOrder x) id nofun, stored.others x other]
  exact same (.subOrder x) id (by simp [OrderKey])

theorem Placed.list_nodup (placed : Placed distance call address items quote v w)
    (fresh : listed (v.rows (.subOrdersOf call.orderId)) = []) : (listed (w.rows (.subOrdersOf call.orderId))).Nodup := by
  obtain ⟨u, t, same, stored, _, kept⟩ := placed.stored
  rw [kept (.subOrdersOf _) id nofun, stored.list, same (.subOrdersOf _) id (by simp [OrderKey]), fresh, List.nil_append]
  exact stored.distinct

theorem Placed.present (placed : Placed distance call address items quote v w) {x : Id}
    (there : v.rows (.subOrder x) ≠ none) : w.rows (.subOrder x) ≠ none := by
  obtain ⟨row, stands⟩ := Option.ne_none_iff_exists'.mp there
  rw [placed.kept stands]
  exact Option.some_ne_none row

theorem Placed.other_order (placed : Placed distance call address items quote v w) {o : Id} (other : o ≠ call.orderId) :
    w.rows (.order o) = v.rows (.order o) ∧ w.rows (.subOrdersOf o) = v.rows (.subOrdersOf o) :=
  ⟨placed.rest (k := .order o) trivial (by simpa using other) nofun nofun (fun _ => nofun) id,
    placed.rest (k := .subOrdersOf o) trivial nofun nofun (by simpa using other) (fun _ => nofun) id⟩

/-- A checkout redeems its coupons for the rows that name them. -/
theorem Tally.place (tally : Tally d₀ v.rows (journal ++ v.log)) (redeemed : Redeemed call quote v w)
    (placed : Placed distance call address items quote v w) : Tally d₀ w.rows (journal ++ w.log) := by
  have unlisted := tally.fresh _ placed.free
  refine ⟨redeemed.counts tally placed, fun x row stands active c named => ?_, fun o row stands c named => ?_,
    fun c x spent => ?_, fun c o spent => ?_, fun p member => ?_, fun o x member => ?_, fun o missing => ?_, fun o => ?_⟩
  · apply redeemed.standing tally placed
    by_cases new : ∃ plan ∈ quote.plans.zipIdx, x = call.subOrderId plan.2
    · obtain ⟨plan, inside, rfl⟩ := new
      obtain rfl := Option.some.inj ((placed.planned inside).symm.trans stands)
      obtain ⟨coupon, attached, rfl⟩ := Option.map_eq_some_iff.mp named
      exact Or.inr ⟨(coupon, .subOrder (call.subOrderId plan.2)), mem_claimsOf.mpr (Or.inr ⟨plan, inside, attached, rfl⟩), rfl⟩
    · rw [placed.unplanned fun plan inside equal => new ⟨plan, inside, equal⟩] at stands
      exact Or.inl (tally.subOrders x row stands active c named)
  · apply redeemed.standing tally placed
    by_cases own : o = call.orderId
    · subst own
      obtain rfl := Option.some.inj (placed.order.symm.trans stands)
      obtain ⟨coupon, attached, rfl⟩ := Option.map_eq_some_iff.mp named
      exact Or.inr ⟨(coupon, .order call.orderId), mem_claimsOf.mpr (Or.inl ⟨attached, rfl⟩), rfl⟩
    · rw [(placed.other_order own).1] at stands
      exact Or.inl (tally.orders o row stands c named)
  · rcases redeemed.claims spent with early | source | ⟨plan, inside, source⟩
    · exact placed.present (tally.sold c x early)
    · cases source
    · obtain rfl := Redemption.subOrder.inj source
      rw [placed.planned inside]
      exact Option.some_ne_none _
  · by_cases own : o = call.orderId
    · rw [own, placed.order]
      exact Option.some_ne_none _
    · rw [(placed.other_order own).1]
      rcases redeemed.claims spent with early | source | ⟨plan, inside, source⟩
      · exact tally.placed c o early
      · exact absurd (Redemption.order.inj source) own
      · cases source
  · rw [redeemed.releases] at member
    rw [redeemed.redemptions]
    exact List.mem_append_left _ (tally.returned p member)
  · by_cases own : o = call.orderId
    · subst own
      obtain ⟨plan, inside, rfl, stands⟩ := placed.filed unlisted member
      rw [stands]
      exact Option.some_ne_none _
    · rw [(placed.other_order own).2] at member
      exact placed.present (tally.filed o x member)
  · have other : o ≠ call.orderId := by
      rintro rfl
      rw [placed.order] at missing
      cases missing
    rw [(placed.other_order other).1] at missing
    rw [(placed.other_order other).2]
    exact tally.fresh o missing
  · by_cases own : o = call.orderId
    · subst own
      exact placed.list_nodup unlisted
    · rw [(placed.other_order own).2]
      exact tally.once o

end

section
variable {d₀ : Db} {h : History (Table Row) Mark} {v w : View (Table Row) Mark}

theorem CouponTallied.present {c : Id} (tallied : CouponTallied d₀ h.current v) :
    (v.rows (.coupon c)).isSome = (d₀ (.coupon c)).isSome := by
  have counted := congrArg Option.isSome (tallied.tally.counts.counted c)
  rwa [Option.isSome_map, Option.isSome_map] at counted

theorem CouponTalliedIn.present {s : Store (Table Row) Mark} {c : Id} (tallied : CouponTalliedIn d₀ s) :
    (s.rows (.coupon c)).isSome = (d₀ (.coupon c)).isSome := by
  have counted := congrArg Option.isSome (tallied.counts.counted c)
  rwa [Option.isSome_map, Option.isSome_map] at counted

/-- The save of a loaded coupon. -/
theorem CouponTallied.wp_saveCoupon {id : Id} {mem : Coupon} (inv : ∀ j ≤ h.now, CouponTalliedIn d₀ (h.past j))
    (tallied : CouponTallied d₀ h.current v) (known : (d₀ (.coupon id)).isSome) :
    (saveMarked (k := Key.coupon id) couponColumns mem (couponMarks id mem) : Action Unit).wp h.isolation
      (fun _ w => CountsFresh w.log → CouponTallied d₀ h.current w) (fun _ => True) v := by
  have here : (v.rows (.coupon id)).isSome := tallied.present.trans known
  refine wp_saveMarked _ _ _ fun d m sees => ?_
  have there : (d (.coupon id)).isSome := by
    rcases Isolation.row sees (.coupon id) with own | ⟨j, small, old⟩
    · rw [own, here]
    · rw [old]
      exact (inv j small).present.trans known
  obtain ⟨reread, found⟩ := Option.isSome_iff_exists.mp there
  obtain ⟨current, stands⟩ := Option.isSome_iff_exists.mp here
  rw [found]
  have ends : ∀ w : View (Table Row) Mark, w.log = v.log ++ couponMarks id mem reread →
      w.rows (.coupon id) = some (couponColumns.write mem reread current) → (∀ k, k ≠ .coupon id → w.rows k = v.rows k) →
      CountsFresh w.log → CouponTallied d₀ h.current w := by
    intro w log written others fresh
    have same : mem.usedCount = reread.usedCount := by
      have kept := fresh (.couponSaved id mem.usedCount reread.usedCount)
        (log ▸ List.mem_append_right _ List.mem_cons_self)
      simpa [Mark.rollsBack] using kept
    refine ⟨?_, fun x row earlier => ?_⟩
    · rw [log, ← List.append_assoc]
      refine tallied.tally.recount (tallied.tally.counts.save stands same written fun i other => ?_) (fun k _ apart => ?_)
        fun e member => couponMarks_idle member
      · exact others (.coupon i) (by simpa using other)
      · exact others k fun same => apart (same ▸ trivial)
    · rw [others (.subOrder x) nofun]
      exact tallied.onward x row earlier
  refine ⟨fun same => ends _ rfl ?_ fun _ _ => rfl, fun _ => ends _ rfl ?_ fun k other => ?_⟩
  · rw [← same, couponColumns.same]
    exact stands
  · rw [View.put_rows_self]
    change (v.rows (.coupon id)).map _ = _
    rw [stands, Option.map_some]
  · rw [View.put_rows_other _ _ other]
    rfl

theorem updateCoupon_tallies (inv : ∀ j ≤ h.now, CouponTalliedIn d₀ (h.past j)) (id : Id) (dto : UpdateCouponDto)
    (sellerId : Option Id) {m : Nat} : (updateCoupon id dto sellerId).wp h.isolation
      (fun _ w => CountsFresh w.log → CouponTallied d₀ h.current w) (fun _ => True) (View.start h.current.rows m) := by
  unfold updateCoupon validateCouponPayload getOwnedCoupon
  simp only [wp_bind]
  rw [wp_require]
  refine ⟨fun _ => ?_, fun _ => trivial⟩
  rw [wp_require]
  refine ⟨fun _ => ?_, fun _ => trivial⟩
  rw [wp_select]
  intro d₁ m₁ sees
  rw [wp_orFail]
  refine ⟨fun coupon found => ?_, fun _ => trivial⟩
  have known : (d₀ (.coupon id)).isSome := by
    obtain ⟨j, small, same⟩ := committed_of_sees sees rfl (.coupon id)
    rw [← (inv j small).present, ← same, found]
    rfl
  have begun : CouponTallied d₀ h.current ((View.start h.current.rows m).looking m₁) :=
    (CouponTallied.start (inv _ (Nat.le_refl _))).beside (K := fun _ => False) (L := NoMark) (.looking (h.isolation.forward sees))
      (fun _ _ no => no) fun _ no => no.elim
  cases sellerId with
  | none => exact begun.wp_saveCoupon inv known
  | some seller =>
    simp only [wp_bind]
    rw [wp_select]
    intro d₂ m₂ sees₂
    rw [wp_orFail]
    refine ⟨fun shop _ => ?_, fun _ => trivial⟩
    rw [wp_require]
    refine ⟨fun _ => ?_, fun _ => trivial⟩
    rw [wp_pure]
    have looked : CouponTallied d₀ h.current (((View.start h.current.rows m).looking m₁).looking m₂) :=
      begun.beside (K := fun _ => False) (L := NoMark) (.looking (h.isolation.forward sees₂)) (fun _ _ no => no)
        fun _ no => no.elim
    exact looked.wp_saveCoupon inv known

theorem runCheckoutTransaction_tallies (inv : CouponTalliedIn d₀ h.current) (distance : Distance) (call : CheckoutCall)
    (address : Address) {m : Nat} : (runCheckoutTransaction distance call address).wp h.isolation
      (fun _ w => CouponTallied d₀ h.current w) (fun _ => True) (View.start h.current.rows m) := by
  refine wp_mono _ (runCheckoutTransaction_redeems distance call address) (fun _ w found => ?_) fun _ e => e
  obtain ⟨_, _, quote, _, redeemed, placed⟩ := found
  refine ⟨(CouponTallied.start inv).tally.place redeemed placed, fun x row stands => ?_⟩
  rw [placed.kept stands]
  exact ⟨rfl, id⟩

theorem within_keepsUses {α : Type} {body : Action α} {K : Key → Prop} {L : Mark → Prop} (within : body.Within K L)
    (apart : ∀ k, ClaimKey k → ¬ K k) (idle : ∀ e, L e → e.Idle) : body.Keeps UsesKept (CouponTalliedIn d₀) Onward := by
  intro h m inv _ _
  refine wp_of_within within (fun _ w more _ _ => ?_) fun _ => trivial
  exact ((CouponTallied.start (inv _ (Nat.le_refl _))).beside more apart idle).commit

theorem cancellation_keepsUses (call : Cancellation) :
    call.request.All fun _ body => body.Keeps UsesKept (CouponTalliedIn d₀) Onward := by
  have commits : ∀ {h : History (Table Row) Mark} {m : Nat} {w : View (Table Row) Mark},
      (∀ j ≤ h.now, CouponTalliedIn d₀ (h.past j)) → (∀ j k, j ≤ k → k ≤ h.now → Onward (h.past j) (h.past k)) →
      SubOrderSteps h (View.start h.current.rows m) w →
      CouponTalliedIn d₀ (h.commit w) ∧ Onward h.current (h.commit w) := fun inv ordered steps =>
    ((CouponTallied.start (inv _ (Nat.le_refl _))).steps ordered steps).commit
  cases call with
  | byCustomer user sub now =>
    refine .tx (fun h m inv ordered _ => ?_) (fun _ => .done _) fun _ => .done _
    exact wp_mono _ (cancelSubOrder_steps user sub now) (fun _ w steps _ _ => commits inv ordered steps) fun _ e => e
  | bySeller seller sub new now =>
    refine .tx (fun h m inv ordered _ => ?_) (fun _ => .done _) fun _ => .done _
    exact wp_mono _ (updateSubOrderStatus_steps seller sub new now) (fun _ w steps _ _ => commits inv ordered steps)
      fun _ e => e
  | byExpiry order now =>
    refine .tx (fun h m inv ordered _ => ?_) (fun _ => .done _) fun _ => .done _
    exact wp_mono _ (expireUnpaidVnpayOrder_steps (fun j small => (inv j small).once) order now)
      (fun _ w steps _ admitted => commits inv ordered (steps admitted.1)) fun _ e => e

theorem couponRequest_keepsUses {distance : Distance} {r : Request} (request : CouponRequest distance r) :
    r.All fun _ body => body.Keeps UsesKept (CouponTalliedIn d₀) Onward := by
  rcases request with ⟨call, keepsCoupons, rfl⟩ | beside
  · cases call with
    | checkout call =>
      refine checkout_all distance call (fun α body within => within_keepsUses within ?_ ?_) fun address h m inv _ _ => ?_
      · rintro k claim ⟨key, rfl⟩
        exact claim
      · intro e mark
        cases e <;> first | exact mark.elim | exact ⟨rfl, rfl⟩
      · exact wp_mono _ (runCheckoutTransaction_tallies (inv _ (Nat.le_refl _)) distance call address)
          (fun _ w tallied _ _ => tallied.commit) fun _ e => e
    | cancellation call => exact cancellation_keepsUses call
    | updateCoupon id dto seller =>
      refine .tx (fun h m inv _ _ => ?_) (fun _ => .done _) fun _ => .done _
      exact wp_mono _ (updateCoupon_tallies inv id dto seller) (fun _ w tallied _ admitted => (tallied admitted.2).commit)
        fun _ e => e
    | deleteCoupon id seller => exact absurd rfl (keepsCoupons id seller)
  · exact beside.mono fun α body within => within_keepsUses within (fun k claim apart => apart claim) fun e idle => idle

/-- In every run that admits no stale save of a coupon and no raced expiry. -/
theorem uses_counted {distance : Distance} (unsold : Unsold d₀) {r : Nat → Request} {fault : Err}
    {c : Conf (Table Row) Mark Err Answer} (requests : ∀ i, CouponRequest distance (r i))
    (run : Moves UsesKept fault (Conf.start ⟨d₀, []⟩ r) c) : UsesCounted d₀ c.store.rows c.store.journal := by
  have start : CouponTalliedIn d₀ ⟨d₀, []⟩ := unsold.tally
  have settled : CouponTalliedIn d₀ c.store :=
    keeps_safe Onward.refl Onward.trans start (fun i => couponRequest_keepsUses (requests i)) run
  exact settled.counts

end

theorem twoShops_unsold : Unsold twoShops where
  orders := twoShops_noOrders
  subOrders _ := rfl
  limits c row stands limit set := by
    by_cases shop : c = 20
    · subst shop
      obtain rfl := Option.some.inj stands
      cases set
    · by_cases global : c = 21
      · subst global
        obtain rfl := Option.some.inj stands
        cases set
      · simp [twoShops, shop, global] at stands

/-- A checkout with the global coupon 21 and an edit of that coupon that changes nothing. -/
def soldAndEdited : Nat → Request
  | 0 => (OrderCall.checkout bothShops).request fun _ _ => 1
  | 1 => (OrderCall.updateCoupon 21 noChange none).request fun _ _ => 1
  | _ => .done .done

theorem soldAndEdited_requests (i : Nat) : CouponRequest (fun _ _ => 1) (soldAndEdited i) := by
  match i with
  | 0 => exact Or.inl ⟨.checkout bothShops, fun _ _ => OrderCall.noConfusion, rfl⟩
  | 1 => exact Or.inl ⟨.updateCoupon 21 noChange none, fun _ _ => OrderCall.noConfusion, rfl⟩
  | _ + 2 => exact Or.inr (.done _)

set_option maxRecDepth 4000 in
/-- One after the other. -/
theorem edited_after : ∃ c, Moves UsesKept .database (Conf.start ⟨twoShops, []⟩ soldAndEdited) c ∧
    (c.store.rows (.coupon 21)).map (·.usedCount) = some 1 ∧
      UsesCounted twoShops c.store.rows c.store.journal := by
  have obeys : (Conf.start ⟨twoShops, []⟩ soldAndEdited).Obeys UsesKept
      (List.replicate 77 0 ++ List.replicate 5 1) := by decide +kernel
  have found : ∃ c ∈ (Conf.start ⟨twoShops, []⟩ soldAndEdited).play (List.replicate 77 0 ++ List.replicate 5 1),
      (c.store.rows (.coupon 21)).map (·.usedCount) = some 1 := by decide +kernel
  obtain ⟨c, run, used⟩ := Conf.exists_moves _ obeys found
  exact ⟨c, run, used, uses_counted twoShops_unsold soldAndEdited_requests run⟩

set_option maxRecDepth 4000 in
/-- The edit loads the coupon, the checkout redeems it, the edit saves. -/
theorem not_uses_counted : ¬ ∀ (distance : Distance) (d₀ : Db) (r : Nat → Request) (c : Conf (Table Row) Mark Err Answer),
    Unsold d₀ → (∀ i, CouponRequest distance (r i)) → Moves (fun _ _ => True) .database (Conf.start ⟨d₀, []⟩ r) c →
      UsesCounted d₀ c.store.rows c.store.journal := by
  intro claimed
  have found : ∃ c ∈ (Conf.start ⟨twoShops, []⟩ soldAndEdited).play
      (List.replicate 2 1 ++ List.replicate 77 0 ++ List.replicate 4 1),
      (c.store.rows (.coupon 21)).map (·.usedCount) = some 0 ∧ uses c.store.journal 21 = 1 := by decide +kernel
  obtain ⟨c, run, lost, once⟩ := Conf.exists_moves _ (Conf.obeys_any _ _) found
  have counted := (claimed _ twoShops _ c twoShops_unsold soldAndEdited_requests run).counted 21
  rw [lost, once] at counted
  cases counted

end Marketplace
