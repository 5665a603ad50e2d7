import Marketplace.Orders.Transitions
import Marketplace.Payouts.Resolution
import Marketplace.Returns.QuantityBound
import Mathlib.Algebra.Order.BigOperators.Group.List

/-! What a shop is paid or still owed against what it has ever sold. -/
namespace Marketplace
open ReadCommitted ReadCommitted.Tx

def PAYOUT_MIN_AMOUNT : Money := 5000000

/-- `CreatePayoutDto`, past its validation. -/
structure CreatePayoutDto where
  amount : Money
  enough : PAYOUT_MIN_AMOUNT ≤ amount

/-- The calls that sell, take back and pay out. -/
inductive SalesCall where
  | checkout (call : CheckoutCall)
  | cancelSubOrder (userId subOrderId : Id) (now : Time)
  | updateSubOrderStatus (sellerId subOrderId : Id) (newStatus : OrderStatus) (now : Time)
  | receiveReturn (sellerId returnId : Id) (now : Time)
  | requestPayout (sellerId payoutId : Id) (dto : CreatePayoutDto)
  | resolvePayout (resolution : PayoutResolution)

def SalesCall.request (distance : Distance) (table : List Id) : SalesCall → Request
  | .checkout call => Marketplace.checkout distance call
  | .cancelSubOrder user sub now => (Cancellation.byCustomer user sub now).request
  | .updateSubOrderStatus seller sub new now => (Cancellation.bySeller seller sub new now).request
  | .receiveReturn seller request now => (ReturnOperation.receive seller request now).request
  | .requestPayout seller payout dto => payoutRequest table seller payout dto.amount
  | .resolvePayout resolution => resolution.request

/-- The rows sales and payouts stand in. -/
def SalesKey : Key → Prop
  | .product _ => True
  | .variant _ => True
  | .subOrder _ => True
  | .payout _ => True
  | .payoutsOf _ => True
  | _ => False

/-- A call, or any other request that writes no row of sales or payouts. -/
def SalesRequest (distance : Distance) (table : List Id) (r : Request) : Prop :=
  (∃ call : SalesCall, r = call.request distance table) ∨
    r.All fun _ body => body.Within (fun k => ¬ SalesKey k) fun _ => True

/-- Delivered at some time, and returned since or not. -/
def SubOrder.Sold (s : SubOrder) : Prop := s.status = .delivered ∨ s.status = .returned

instance (s : SubOrder) : Decidable s.Sold := inferInstanceAs (Decidable (_ ∨ _))

/-- What all sub-orders of a shop that were ever delivered have earned. -/
def soldRevenue (table : List Id) (shop : Id) (d : Db) : Money :=
  (((table.filterMap fun s => d (.subOrder s)).filter fun s => s.shop = some shop ∧ s.Sold).map (·.earned)).sum

/-- An amount less its commission. -/
def netOf (gross : Money) : Money := gross - commissionOf gross

/-- What is paid to a shop or waits to be. -/
def owed (shop : Id) (d : Db) : Money := payoutSum [.pending, .processing, .completed] shop d

/-- The refunds of the returns a shop has received. -/
def receivedRefunds (table : List Id) (shop : Id) (d : Db) : Money :=
  ((table.flatMap fun s => (returnsOfSubOrder d s).map (·.2)).filter fun r =>
    r.shop = some shop ∧ r.status = .received).map (·.refundTotal) |>.sum

/-- No payout yet, and no negative price or earning. -/
structure Unpaid (d : Db) : Prop where
  prices : ∀ p, ∀ row ∈ d (.product p), 0 ≤ row.price
  surcharges : ∀ x, ∀ row ∈ d (.variant x), 0 ≤ row.additionalPrice
  earnings : ∀ s, ∀ row ∈ d (.subOrder s), 0 ≤ row.earned
  payouts : ∀ p, d (.payout p) = none
  lists : ∀ shop, listed (d (.payoutsOf shop)) = []

structure Backed (table : List Id) (d : Db) : Prop where
  prices : ∀ p, ∀ row ∈ d (.product p), 0 ≤ row.price
  surcharges : ∀ x, ∀ row ∈ d (.variant x), 0 ≤ row.additionalPrice
  earnings : ∀ s, ∀ row ∈ d (.subOrder s), 0 ≤ row.earned
  amounts : ∀ p, ∀ row ∈ d (.payout p), 0 ≤ row.amount
  filed : ∀ shop, ∀ p ∈ listed (d (.payoutsOf shop)), d (.payout p) ≠ none
  backed : ∀ shop, owed shop d ≤ netOf (soldRevenue table shop d)

/-- A sub-order keeps its shop and its earnings, and stays sold. -/
def SubOrder.SoldOn (before after : SubOrder) : Prop :=
  after.shop = before.shop ∧ after.earned = before.earned ∧ (before.Sold → after.Sold)

/-- A payout keeps its amount, and makes at most the one transition its status allows. -/
def Payout.Onward (before after : Payout) : Prop :=
  after.amount = before.amount ∧ (after.status = before.status ∨ after.status ∈ PAYOUT_STATE_MACHINE before.status)

/-- What holds between a state and a later one. -/
structure Later (d e : Db) : Prop where
  subOrders : ∀ s, ∀ row ∈ d (.subOrder s), ∃ after ∈ e (.subOrder s), row.SoldOn after
  payouts : ∀ p, ∀ row ∈ d (.payout p), ∃ after ∈ e (.payout p), row.Onward after

/-- What a transaction of the orders or returns does to the rows of sales. -/
structure Trades (d e : Db) : Prop where
  prices : ∀ p, (e (.product p)).map (·.price) = (d (.product p)).map (·.price)
  surcharges : ∀ x, (e (.variant x)).map (·.additionalPrice) = (d (.variant x)).map (·.additionalPrice)
  subOrders : ∀ s, ∀ row ∈ d (.subOrder s), ∃ after ∈ e (.subOrder s), row.SoldOn after
  fresh : ∀ s, ∀ row ∈ e (.subOrder s), d (.subOrder s) = none → 0 ≤ row.earned
  payouts : ∀ p, e (.payout p) = d (.payout p)
  lists : ∀ shop, e (.payoutsOf shop) = d (.payoutsOf shop)

/-- The list of a shop's payouts grows under the lock of the shop. -/
def PayoutGuard (j k : Key) : Prop := ∃ shop, j = .payoutsOf shop ∧ k = .shop shop

/-- What a row adds to a sum over the rows that satisfy `p`. -/
def counted {ρ : Type} (p : ρ → Bool) (f : ρ → Money) : Option ρ → Money
  | none => 0
  | some r => if p r then f r else 0

section
variable {ρ : Type} {p : ρ → Bool} {f : ρ → Money}

@[simp] theorem counted_none : counted p f none = 0 := rfl

@[simp] theorem counted_some (r : ρ) : counted p f (some r) = if p r then f r else 0 := rfl

theorem counted_nonneg {row : Option ρ} (nonneg : ∀ r ∈ row, 0 ≤ f r) : 0 ≤ counted p f row := by
  cases row with
  | none => exact le_refl 0
  | some r =>
    rw [counted_some]
    split
    · exact nonneg r rfl
    · exact le_refl 0

theorem sum_filter_filterMap (l : List Id) (row : Id → Option ρ) :
    (((l.filterMap row).filter p).map f).sum = (l.map fun x => counted p f (row x)).sum := by
  induction l with
  | nil => rfl
  | cons x rest ih =>
    rw [List.filterMap_cons, List.map_cons, List.sum_cons, ← ih]
    cases row x with
    | none => rw [counted_none, zero_add]
    | some r => by_cases holds : p r <;> simp [holds]

/-- Sums over the rows of two states compare row by row. -/
theorem sum_rows_le {p' : ρ → Bool} {l : List Id} {row row' : Id → Option ρ}
    (le : ∀ x ∈ l, counted p f (row x) ≤ counted p' f (row' x)) :
    (((l.filterMap row).filter p).map f).sum ≤ (((l.filterMap row').filter p').map f).sum := by
  rw [sum_filter_filterMap, sum_filter_filterMap]
  exact List.sum_le_sum le

end

theorem netOf_mono {a b : Int} (le : a ≤ b) : netOf a ≤ netOf b := by
  change a - (a * 5 + 50) / 100 ≤ b - (b * 5 + 50) / 100
  omega

theorem SubOrder.SoldOn.refl (s : SubOrder) : s.SoldOn s := ⟨rfl, rfl, id⟩

theorem SubOrder.SoldOn.trans {a b c : SubOrder} (first : a.SoldOn b) (second : b.SoldOn c) : a.SoldOn c :=
  ⟨second.1.trans first.1, second.2.1.trans first.2.1, fun sold => second.2.2 (first.2.2 sold)⟩

theorem Payout.Onward.refl (p : Payout) : p.Onward p := ⟨rfl, Or.inl rfl⟩

theorem Payout.Onward.trans {a b c : Payout} (first : a.Onward b) (second : b.Onward c) : a.Onward c := by
  refine ⟨second.1.trans first.1, ?_⟩
  rcases first.2 with same | step
  · rw [← same]
    exact second.2
  · rcases second.2 with same | step'
    · exact Or.inr (same ▸ step)
    · rw [payout_terminal step] at step'
      cases step'

/-- A payout that is back in a status has not left it. -/
theorem Payout.Onward.unmoved {a b c : Payout} (first : a.Onward b) (second : b.Onward c)
    (back : c.status = a.status) : b.status = a.status := by
  rcases first.2 with same | left
  · exact same
  · rcases second.2 with same | further
    · rw [same] at back
      exact absurd back (payout_left left)
    · rw [payout_terminal left] at further
      cases further

/-- A payout that is neither pending nor processing stays as it is. -/
theorem Payout.Onward.settled {a b : Payout} (on : a.Onward b) (settled : a.status ∉ [PayoutStatus.pending, .processing]) :
    b.status = a.status := by
  rcases on.2 with same | step
  · exact same
  · cases source : a.status <;> simp_all [PAYOUT_STATE_MACHINE]

theorem Later.refl (d : Db) : Later d d :=
  ⟨fun _ row there => ⟨row, there, .refl row⟩, fun _ row there => ⟨row, there, .refl row⟩⟩

theorem Later.trans {d e f : Db} (first : Later d e) (second : Later e f) : Later d f := by
  refine ⟨fun s row there => ?_, fun p row there => ?_⟩
  · obtain ⟨mid, stands, on⟩ := first.subOrders s row there
    obtain ⟨last, stands', on'⟩ := second.subOrders s mid stands
    exact ⟨last, stands', on.trans on'⟩
  · obtain ⟨mid, stands, on⟩ := first.payouts p row there
    obtain ⟨last, stands', on'⟩ := second.payouts p mid stands
    exact ⟨last, stands', on.trans on'⟩

section
variable {table : List Id} {d e : Db} {shop : Id}

/-- Sales are never undone. -/
theorem soldRevenue_mono (earnings : ∀ s, ∀ row ∈ e (.subOrder s), 0 ≤ row.earned)
    (kept : ∀ s, ∀ row ∈ d (.subOrder s), ∃ after ∈ e (.subOrder s), row.SoldOn after) :
    soldRevenue table shop d ≤ soldRevenue table shop e := by
  apply sum_rows_le
  intro s _
  have gain := counted_nonneg (p := fun r : SubOrder => r.shop = some shop ∧ r.Sold) (earnings s)
  cases found : d (.subOrder s) with
  | none => exact gain
  | some row =>
    obtain ⟨after, stands, own, earned, sold⟩ := kept s row found
    by_cases counts : row.shop = some shop ∧ row.Sold
    · rw [Option.mem_def.mp stands]
      simp [own, counts, sold counts.2, earned]
    · rw [counted_some, if_neg (by simpa using counts)]
      exact gain

/-- What counts as revenue now was sold. -/
theorem deliveredRevenue_le_sold (earnings : ∀ s, ∀ row ∈ d (.subOrder s), 0 ≤ row.earned) :
    getShopDeliveredRevenue table shop d ≤ soldRevenue table shop d := by
  apply sum_rows_le
  intro s _
  have gain := counted_nonneg (p := fun r : SubOrder => r.shop = some shop ∧ r.Sold) (earnings s)
  cases found : d (.subOrder s) with
  | none => exact le_refl 0
  | some row =>
    by_cases counts : row.shop = some shop ∧ row.status = .delivered ∧ vnpayPaid (d (.payment row.order)) = true
    · simp [counts, SubOrder.Sold]
    · rw [counted_some, if_neg (by simpa using counts), ← found]
      exact gain

/-- The payouts in some statuses add up to no more than those that were in others, where each was in
one of these and has kept its amount. -/
theorem payoutSum_le {statuses statuses' : List PayoutStatus} (amounts : ∀ p, ∀ row ∈ e (.payout p), 0 ≤ row.amount)
    (list : d (.payoutsOf shop) = e (.payoutsOf shop))
    (among : ∀ p ∈ listed (d (.payoutsOf shop)), ∀ row ∈ d (.payout p), row.status ∈ statuses →
      ∃ row' ∈ e (.payout p), row'.status ∈ statuses' ∧ row'.amount = row.amount) :
    payoutSum statuses shop d ≤ payoutSum statuses' shop e := by
  unfold payoutSum payoutsOfShop
  rw [← list]
  apply sum_rows_le
  intro p member
  have gain := counted_nonneg (p := fun r : Payout => r.status ∈ statuses') (amounts p)
  cases found : d (.payout p) with
  | none => exact gain
  | some row =>
    by_cases counts : row.status ∈ statuses
    · obtain ⟨row', stands, counts', amount⟩ := among p member row found counts
      rw [Option.mem_def.mp stands]
      simp [counts, counts', amount]
    · rw [counted_some, if_neg (by simpa using counts)]
      exact gain

theorem payoutSum_nonneg {statuses : List PayoutStatus} (amounts : ∀ p, ∀ row ∈ d (.payout p), 0 ≤ row.amount) :
    0 ≤ payoutSum statuses shop d := by
  apply List.sum_nonneg
  intro amount member
  obtain ⟨row, inside, rfl⟩ := List.mem_map.mp member
  obtain ⟨p, _, found⟩ := List.mem_filterMap.mp (List.mem_filter.mp inside).1
  exact amounts p row found

/-- Once none of a shop's payouts is open, all it is owed has been paid. -/
theorem owed_le_completed {f : Db} (settled : ∀ p ∈ listed (d (.payoutsOf shop)), ∃ row ∈ d (.payout p),
      row.status ∉ [PayoutStatus.pending, .processing]) (first : Later d e) (second : Later e f)
    (amounts : ∀ p, ∀ row ∈ e (.payout p), 0 ≤ row.amount) (list : e (.payoutsOf shop) = d (.payoutsOf shop))
    (list' : f (.payoutsOf shop) = e (.payoutsOf shop)) : owed shop f ≤ payoutSum [.completed] shop e := by
  apply payoutSum_le amounts list'
  intro p member row there counts
  rw [list', list] at member
  obtain ⟨old, stands, closed⟩ := settled p member
  obtain ⟨mid, between, on⟩ := first.payouts p old stands
  obtain ⟨last, after, on'⟩ := second.payouts p mid between
  obtain rfl := Option.some.inj (there.symm.trans after)
  have same := on.settled closed
  have same' := on'.settled (same ▸ closed)
  refine ⟨mid, between, ?_, on'.1.symm⟩
  rw [same', same] at counts
  rw [same]
  simp_all

theorem Unpaid.backed (unpaid : Unpaid d) : Backed table d := by
  refine ⟨unpaid.prices, unpaid.surcharges, unpaid.earnings, fun p row there => ?_, fun shop p member => ?_, fun shop => ?_⟩
  · rw [unpaid.payouts p] at there
    cases there
  · rw [unpaid.lists shop] at member
    cases member
  · have nothing : owed shop d = 0 := by simp [owed, payoutSum, payoutsOfShop, unpaid.lists shop]
    have sold : 0 ≤ soldRevenue table shop d := by
      apply List.sum_nonneg
      intro amount member
      obtain ⟨row, inside, rfl⟩ := List.mem_map.mp member
      obtain ⟨s, _, found⟩ := List.mem_filterMap.mp (List.mem_filter.mp inside).1
      exact unpaid.earnings s row found
    have net := netOf_mono sold
    rw [nothing]
    exact net

theorem Trades.later (trades : Trades d e) : Later d e :=
  ⟨trades.subOrders, fun p row there => ⟨row, (trades.payouts p).trans there, .refl row⟩⟩

theorem Trades.backed (trades : Trades d e) (backed : Backed table d) : Backed table e := by
  have earnings : ∀ s, ∀ row ∈ e (.subOrder s), 0 ≤ row.earned := by
    intro s row there
    cases before : d (.subOrder s) with
    | none => exact trades.fresh s row there before
    | some was =>
      obtain ⟨after, stands, _, earned, _⟩ := trades.subOrders s was before
      obtain rfl := Option.some.inj (stands.symm.trans there)
      rw [earned]
      exact backed.earnings s was before
  refine ⟨fun p row there => ?_, fun x row there => ?_, earnings, fun p row there => ?_, fun shop p member => ?_,
    fun shop => ?_⟩
  · have same := trades.prices p
    rw [Option.mem_def.mp there] at same
    obtain ⟨was, before, (price : was.price = row.price)⟩ := Option.map_eq_some_iff.mp same.symm
    rw [← price]
    exact backed.prices p was before
  · have same := trades.surcharges x
    rw [Option.mem_def.mp there] at same
    obtain ⟨was, before, (price : was.additionalPrice = row.additionalPrice)⟩ := Option.map_eq_some_iff.mp same.symm
    rw [← price]
    exact backed.surcharges x was before
  · rw [trades.payouts p] at there
    exact backed.amounts p row there
  · rw [trades.lists shop] at member
    rw [trades.payouts p]
    exact backed.filed shop p member
  · have same : owed shop e = owed shop d := by
      unfold owed payoutSum payoutsOfShop
      rw [trades.lists shop]
      simp only [trades.payouts]
    rw [same]
    exact (backed.backed shop).trans (netOf_mono (soldRevenue_mono earnings trades.subOrders))

theorem soldRevenue_congr (same : ∀ s, e (.subOrder s) = d (.subOrder s)) : soldRevenue table shop e = soldRevenue table shop d := by
  unfold soldRevenue
  simp only [same]

/-- A payout moves on. -/
theorem Backed.resolve {p : Id} {row after : Payout} {target : PayoutStatus} (backed : Backed table d)
    (stands : d (.payout p) = some row) (amount : after.amount = row.amount) (status : after.status = target)
    (step : target ∈ PAYOUT_STATE_MACHINE row.status) (own : e (.payout p) = some after)
    (rest : ∀ k, k ≠ .payout p → e k = d k) : Backed table e ∧ Later d e := by
  have other : ∀ q, q ≠ p → e (.payout q) = d (.payout q) := fun q different => rest _ (by simpa using different)
  have subOrders : ∀ s, e (.subOrder s) = d (.subOrder s) := fun s => rest _ nofun
  refine ⟨⟨fun x there stands' => ?_, fun x there stands' => ?_, fun s there stands' => ?_, fun q there found => ?_,
    fun shop q member => ?_, fun shop => ?_⟩, fun s there stands' => ?_, fun q there found => ?_⟩
  · rw [rest (.product x) nofun] at stands'
    exact backed.prices x there stands'
  · rw [rest (.variant x) nofun] at stands'
    exact backed.surcharges x there stands'
  · rw [subOrders] at stands'
    exact backed.earnings s there stands'
  · by_cases same : q = p
    · subst same
      obtain rfl := Option.some.inj (own.symm.trans found)
      rw [amount]
      exact backed.amounts q row stands
    · rw [other q same] at found
      exact backed.amounts q there found
  · rw [rest (.payoutsOf shop) nofun] at member
    by_cases same : q = p
    · subst same
      rw [own]
      exact nofun
    · rw [other q same]
      exact backed.filed shop q member
  · rw [soldRevenue_congr subOrders]
    refine le_trans (payoutSum_le backed.amounts (rest (.payoutsOf shop) nofun) fun q member there found counts => ?_)
      (backed.backed shop)
    by_cases same : q = p
    · subst same
      obtain rfl := Option.some.inj (own.symm.trans found)
      refine ⟨row, stands, ?_, amount.symm⟩
      cases source : row.status <;> simp_all [PAYOUT_STATE_MACHINE]
    · rw [other q same] at found
      exact ⟨there, found, counts, rfl⟩
  · exact ⟨there, (subOrders s).trans stands', .refl there⟩
  · by_cases same : q = p
    · subst same
      obtain rfl := Option.some.inj (stands.symm.trans found)
      exact ⟨after, own, amount, Or.inr (status ▸ step)⟩
    · exact ⟨there, (other q same).trans found, .refl there⟩

/-- A new payout that the sales still cover. -/
theorem Backed.request {p : Id} {payout : Payout} (backed : Backed table d) (free : d (.payout p) = none)
    (own : e (.payout p) = some payout) (list : listed (e (.payoutsOf shop)) = listed (d (.payoutsOf shop)) ++ [p])
    (rest : ∀ k, k ≠ .payout p → k ≠ .payoutsOf shop → e k = d k) (nonneg : 0 ≤ payout.amount)
    (covered : owed shop d + payout.amount ≤ netOf (soldRevenue table shop d)) : Backed table e ∧ Later d e := by
  have other : ∀ q, q ≠ p → e (.payout q) = d (.payout q) := fun q different => rest _ (by simpa using different) nofun
  have subOrders : ∀ s, e (.subOrder s) = d (.subOrder s) := fun s => rest _ nofun nofun
  have there : ∀ s, ∀ q ∈ listed (d (.payoutsOf s)), e (.payout q) = d (.payout q) := by
    intro s q member
    refine other q ?_
    rintro rfl
    exact backed.filed s q member free
  have lists : ∀ s, s ≠ shop → e (.payoutsOf s) = d (.payoutsOf s) := fun s different =>
    rest _ nofun (by simpa using different)
  have before : ∀ s, (listed (d (.payoutsOf s))).filterMap (fun q => e (.payout q)) = payoutsOfShop d s := fun s =>
    List.filterMap_congr fun q member => there s q member
  refine ⟨⟨fun x row found => ?_, fun x row found => ?_, fun s row found => ?_, fun q row found => ?_,
    fun s q member => ?_, fun s => ?_⟩, fun s row found => ⟨row, (subOrders s).trans found, .refl row⟩,
    fun q row found => ⟨row, (other q ?_).trans found, .refl row⟩⟩
  · rw [rest (.product x) nofun nofun] at found
    exact backed.prices x row found
  · rw [rest (.variant x) nofun nofun] at found
    exact backed.surcharges x row found
  · rw [subOrders] at found
    exact backed.earnings s row found
  · by_cases same : q = p
    · subst same
      obtain rfl := Option.some.inj (own.symm.trans found)
      exact nonneg
    · rw [other q same] at found
      exact backed.amounts q row found
  · by_cases mine : s = shop
    · subst mine
      rw [list] at member
      rcases List.mem_append.mp member with old | new
      · rw [there s q old]
        exact backed.filed s q old
      · obtain rfl := List.mem_singleton.mp new
        rw [own]
        exact nofun
    · rw [lists s mine] at member
      rw [there s q member]
      exact backed.filed s q member
  · rw [soldRevenue_congr subOrders]
    by_cases mine : s = shop
    · subst mine
      refine le_trans ?_ covered
      unfold owed payoutSum
      rw [payoutsOfShop, list, List.filterMap_append, before, List.filter_append, List.map_append, List.sum_append]
      apply Int.add_le_add_left
      have last : [p].filterMap (fun q => e (.payout q)) = [payout] := by simp [own]
      rw [last, List.filter_singleton, Bool.cond_decide]
      split
      · simp
      · simpa using nonneg
    · have same : owed s e = owed s d := by
        unfold owed payoutSum
        rw [payoutsOfShop, lists s mine, before]
      rw [same]
      exact backed.backed s
  · rintro rfl
    cases found.symm.trans free

theorem Trades.of_same (same : ∀ k, SalesKey k → e k = d k) : Trades d e := by
  refine ⟨fun p => by rw [same (.product p) trivial], fun x => by rw [same (.variant x) trivial], fun s row there => ?_,
    fun s row there missing => ?_, fun p => same (.payout p) trivial, fun shop => same (.payoutsOf shop) trivial⟩
  · exact ⟨row, (same (.subOrder s) trivial).trans there, .refl row⟩
  · rw [same (.subOrder s) trivial, missing] at there
    cases there

/-- One sub-order moves on. -/
theorem Trades.subOrder {x : Id} (own : ∀ row ∈ d (.subOrder x), ∃ after ∈ e (.subOrder x), row.SoldOn after)
    (missing : d (.subOrder x) = none → e (.subOrder x) = none) (rest : ∀ k, k ≠ .subOrder x → e k = d k) : Trades d e := by
  refine ⟨fun p => by rw [rest (.product p) nofun], fun y => by rw [rest (.variant y) nofun], fun s row there => ?_,
    fun s row there before => ?_, fun p => rest (.payout p) nofun, fun shop => rest (.payoutsOf shop) nofun⟩
  · by_cases same : s = x
    · subst same
      exact own row there
    · exact ⟨row, (rest (.subOrder s) (by simpa using same)).trans there, .refl row⟩
  · by_cases same : s = x
    · subst same
      cases there.symm.trans (missing before)
    · rw [rest (.subOrder s) (by simpa using same), before] at there
      cases there

theorem Trades.trans {f : Db} (first : Trades d e) (second : Trades e f) : Trades d f := by
  refine ⟨fun p => (second.prices p).trans (first.prices p), fun x => (second.surcharges x).trans (first.surcharges x),
    (first.later.trans second.later).subOrders, fun s row there missing => ?_,
    fun p => (second.payouts p).trans (first.payouts p), fun shop => (second.lists shop).trans (first.lists shop)⟩
  cases between : e (.subOrder s) with
  | none => exact second.fresh s row there between
  | some mid =>
    obtain ⟨after, stands, _, earned, _⟩ := second.subOrders s mid between
    obtain rfl := Option.some.inj (stands.symm.trans there)
    rw [earned]
    exact first.fresh s mid between missing

theorem Trades.addStock (items : List StockLine) (sign : Int) : Trades d (addStock items sign d) := by
  refine ⟨fun p => ?_, fun x => ?_, fun s row there => ⟨row, there, .refl row⟩, fun s row there missing => ?_,
    fun _ => rfl, fun _ => rfl⟩
  · simp [Marketplace.addStock, Function.comp_def]
  · simp [Marketplace.addStock, Function.comp_def]
  · cases there.symm.trans missing

end

section
variable {I : Isolation (Table Row) Mark} {E : Err → Prop} {v w : View (Table Row) Mark}

theorem Trades.along {K : Key → Prop} {L : Mark → Prop} (apart : ∀ k, K k → ¬ SalesKey k) (more : v.Continues K L w) :
    Trades v.rows w.rows :=
  .of_same fun k sales => more.rows k fun inside => apart k inside sales

theorem wp_refund_trades {loaded : LoadedSubOrder} {Q : Unit → View (Table Row) Mark → Prop} (noErr : ∀ e, E e)
    (next : ∀ w, v.Continues RefundKey (· ∈ refundMarks loaded) w → Trades v.rows w.rows → Q () w) :
    (restockAndRefundSubOrder loaded).wp I Q E v := by
  refine wp_restockAndRefundSubOrder noErr fun w more rows _ => next w more ?_
  refine (Trades.addStock (restockTargets loaded.items) 1).trans (.of_same fun k sales => ?_)
  have apart : ¬ WalletKey k ∧ ¬ CouponKey k := by cases k <;> simp_all [SalesKey, WalletKey, CouponKey]
  rw [rows k apart.1, refunded_other apart.2]

theorem wp_recompute_trades {o : Id} {now : Time} {Q : OrderStatus × Money → View (Table Row) Mark → Prop}
    (noErr : ∀ e, E e) (next : ∀ a w, Trades v.rows w.rows → Q a w) :
    (recomputeMasterAfterSubOrderChange o now).wp I Q E v := by
  refine wp_recomputeMaster noErr fun order d₁ d₂ a w _ _ _ _ _ rows _ _ => next a w (.of_same fun k sales => ?_)
  have apart : ¬ WalletKey k ∧ ¬ CouponKey k ∧ k ≠ .order o ∧ k ≠ .payment o := by
    cases k <;> simp_all [SalesKey, WalletKey, CouponKey]
  rw [rows k apart.1 apart.2.2.2, recomputed_other apart.2.1 apart.2.2.1]

/-- The save of a sub-order under its lock. -/
theorem wp_save_trades {x : Id} {row mem : SubOrder} {Q : Unit → View (Table Row) Mark → Prop}
    (held : v.held (.subOrder x) = true) (stands : v.rows (.subOrder x) = some row) (on : row.SoldOn mem)
    (next : ∀ w, Trades v.rows w.rows → Q () w) :
    (save (k := Key.subOrder x) subOrderColumns mem : Action Unit).wp I Q E v := by
  refine wp_save_held held stands fun w more _ stored => next w (.subOrder (fun row there => ?_) (fun missing => ?_) more.rows)
  · obtain rfl := Option.some.inj (stands.symm.trans there)
    exact ⟨mem, stored, on⟩
  · cases stands.symm.trans missing

/-- A sub-order with a transition ahead has not been sold. -/
theorem soldOn_of_step {row : SubOrder} {status : OrderStatus} (deliveredAt : Option Time)
    (step : status ∈ SUB_ORDER_STATE_MACHINE row.status) : row.SoldOn { row with status, deliveredAt } := by
  refine ⟨rfl, rfl, fun sold => ?_⟩
  rcases sold with delivered | returned
  · rw [delivered] at step
    cases step
  · rw [returned] at step
    cases step

theorem cancelSubOrder_trades (userId subOrderId : Id) (now : Time) :
    (cancelSubOrder userId subOrderId now).wp I (fun _ w => Trades v.rows w.rows) (fun _ => True) v := by
  unfold cancelSubOrder
  simp only [wp_bind]
  refine wp_selectForUpdate fun w₁ first held => ?_
  rw [wp_orFail]
  refine ⟨fun _ _ => ?_, fun _ => trivial⟩
  rw [wp_select]
  intro d m sees
  rw [wp_orFail]
  refine ⟨fun loaded read => ?_, fun _ => trivial⟩
  obtain ⟨_, stands, _⟩ := loadSubOrder_some read
  rw [I.held sees held] at stands
  rw [wp_orFail]
  refine ⟨fun order _ => ?_, fun _ => trivial⟩
  rw [wp_require]
  refine ⟨fun _ => ?_, fun _ => trivial⟩
  rw [wp_note, wp_require]
  refine ⟨fun pending => ?_, fun _ => trivial⟩
  refine wp_refund_trades (fun _ => trivial) fun w₂ more refunded => ?_
  have kept : w₂.rows (.subOrder subOrderId) = some loaded.row :=
    (more.rows _ (by simp [RefundKey, StockKey, CouponKey, WalletKey])).trans stands
  refine wp_save_trades (more.held _ held) kept (soldOn_of_step _ (by simp [pending, SUB_ORDER_STATE_MACHINE])) fun w₃ saved => ?_
  refine wp_recompute_trades (fun _ => trivial) fun a w₄ recomputed => ?_
  rw [sellerOfShop, wp_select]
  intro d m sees
  rw [wp_note, wp_pure]
  have begun : Trades v.rows w₁.rows := .along (fun _ no => no.elim) first
  exact begun.trans (refunded.trans (saved.trans recomputed))

theorem updateSubOrderStatus_trades (sellerId subOrderId : Id) (newStatus : OrderStatus) (now : Time) :
    (updateSubOrderStatus sellerId subOrderId newStatus now).wp I (fun _ w => Trades v.rows w.rows) (fun _ => True) v := by
  unfold updateSubOrderStatus
  simp only [wp_bind]
  refine wp_selectForUpdate fun w₁ first held => ?_
  rw [wp_orFail]
  refine ⟨fun _ _ => ?_, fun _ => trivial⟩
  rw [wp_select]
  intro d m sees
  rw [wp_orFail]
  refine ⟨fun pair found => ?_, fun _ => trivial⟩
  obtain ⟨loaded, read, rfl⟩ := Option.map_eq_some_iff.mp found
  obtain ⟨_, stands, _⟩ := loadSubOrder_some read
  rw [I.held sees held] at stands
  rw [wp_orFail]
  refine ⟨fun order _ => ?_, fun _ => trivial⟩
  rw [wp_require]
  refine ⟨fun _ => ?_, fun _ => trivial⟩
  rw [wp_require]
  refine ⟨fun _ => ?_, fun _ => trivial⟩
  rw [wp_note]
  have begun : Trades v.rows w₁.rows := .along (fun _ no => no.elim) first
  rw [wp_ite]
  refine ⟨fun _ => ?_, fun _ => ?_⟩
  · rw [wp_bind, wp_select]
    intro d m sees
    exact begun
  simp only [wp_bind]
  rw [wp_require]
  refine ⟨fun allowed => ?_, fun _ => trivial⟩
  have rest : ∀ u : View (Table Row) Mark, Trades v.rows u.rows → u.held (.subOrder subOrderId) = true →
      u.rows (.subOrder subOrderId) = some loaded.row →
      (save (k := Key.subOrder subOrderId) subOrderColumns
        { loaded.row with
          status := newStatus
          deliveredAt := if newStatus = .delivered then some now else loaded.row.deliveredAt } : Action Unit).wp I
      (fun _ w => (reportStatus loaded order newStatus now).wp I (fun _ w => Trades v.rows w.rows) (fun _ => True) w)
      (fun _ => True) u := by
    intro u traded held there
    refine wp_save_trades held there (soldOn_of_step _ allowed) fun w₃ saved => ?_
    unfold reportStatus
    simp only [wp_bind]
    refine wp_recompute_trades (fun _ => trivial) fun a w₄ recomputed => ?_
    rw [wp_orFail]
    refine ⟨fun customer _ => ?_, fun _ => trivial⟩
    rw [wp_note, wp_pure]
    exact traded.trans (saved.trans recomputed)
  rw [wp_given]
  refine ⟨fun _ => wp_refund_trades (fun _ => trivial) fun w₂ more refunded => ?_, fun _ => rest _ begun held stands⟩
  refine rest w₂ (begun.trans refunded) (more.held _ held) ?_
  exact (more.rows _ (by simp [RefundKey, StockKey, CouponKey, WalletKey])).trans stands

theorem receiveReturn_trades (sellerId returnId : Id) (now : Time) :
    (receiveReturn sellerId returnId now).wp I (fun _ w => Trades v.rows w.rows) (fun _ => True) v := by
  unfold receiveReturn assertTransition emitReturnStatusChanged markSubOrderReturnedIfComplete
  simp only [wp_bind]
  refine wp_lockReturnForSeller (fun _ => trivial) fun u d m loaded first _ _ _ => ?_
  rw [wp_require]
  refine ⟨fun _ => ?_, fun _ => trivial⟩
  refine wp_restock (fun _ => trivial) fun w₂ _ restocked => ?_
  rw [wp_note]
  refine wp_of_within (within_save (k := Key.returnRequest returnId) (K := (· = .returnRequest returnId)) (L := NoMark) _ _ rfl)
    (fun _ w₃ third => ?_) fun _ => trivial
  have upto : Trades v.rows w₃.rows := by
    have begun : Trades v.rows u.rows := .along (fun _ no => no.elim) first
    have stocked : Trades u.rows w₂.rows := restocked ▸ .addStock loaded.lines 1
    have saved : Trades (w₂.mark (.returnRestocked returnId loaded.lines)).rows w₃.rows :=
      .along (by rintro k rfl; exact id) third
    exact begun.trans (stocked.trans saved)
  rw [wp_select]
  intro d m sees
  rw [wp_select]
  intro d m sees
  rw [wp_given]
  refine ⟨fun _ => ?_, fun _ => ?_⟩
  · unfold updateWhere
    rw [wp_bind, wp_select]
    intro d m sees
    rw [wp_ite]
    refine ⟨fun _ => ?_, fun _ => upto⟩
    rw [wp_modify, wp_note]
    refine upto.trans (.subOrder (x := loaded.row.subOrder) (fun row there => ?_) (fun missing => ?_)
      fun k other => View.put_rows_other w₃ _ other)
    · refine ⟨{ row with status := .returned }, ?_, rfl, rfl, fun _ => Or.inr rfl⟩
      rw [View.mark_rows, View.put_rows_self]
      change (w₃.rows (.subOrder loaded.row.subOrder)).map _ = _
      rw [Option.mem_def.mp there, Option.map_some, if_pos rfl]
    · rw [View.mark_rows, View.put_rows_self]
      change (w₃.rows (.subOrder loaded.row.subOrder)).map _ = _
      rw [missing, Option.map_none]
  · rw [wp_note]
    exact upto

/-- A new sub-order earns at least nothing. -/
theorem Quoted.earned_nonneg {distance : Distance} {address : Address} {items : List CartLine} {quote : Quote}
    (quoted : Quoted distance address items quote) (nonneg : ∀ it ∈ items, 0 ≤ unitPrice it) {plan : SubOrderPlan}
    (member : plan ∈ quote.plans) (order : Id) : 0 ≤ (newSubOrder order plan).earned := by
  obtain ⟨group, inside, fits⟩ := quoted.for_plan member
  have subtotal : 0 ≤ plan.shopSubtotal := by
    rw [fits.subtotal]
    apply List.sum_nonneg
    intro price there
    obtain ⟨it, own, rfl⟩ := List.mem_map.mp there
    have bought : it ∈ items := (groupItemsByShop_perm items).subset (List.mem_flatMap.mpr ⟨group, inside, own⟩)
    exact Int.mul_nonneg (nonneg it bought) (Int.natCast_nonneg _)
  have discount := discountOf_le plan.shopCoupon subtotal
  rw [← fits.discount] at discount
  exact Int.sub_nonneg_of_le discount

theorem Placed.trades {distance : Distance} {call : CheckoutCall} {address : Address} {items : List CartLine} {quote : Quote}
    (placed : Placed distance call address items quote v w) (nonneg : ∀ it ∈ items, 0 ≤ unitPrice it) :
    Trades v.rows w.rows := by
  have stocked : Trades v.rows (addStock (items.map stockLine) (-1) v.rows) := .addStock _ _
  obtain ⟨u, t, before, stored, _, after⟩ := placed.stored
  have apart : ∀ k, SalesKey k → ¬ StockKey k → (∀ x, k ≠ .subOrder x) → w.rows k = v.rows k := by
    intro k sales notStock notSub
    have kinds : ¬ SettledKey k ∧ k ≠ .payment call.orderId ∧ ¬ ItemKey k ∧ k ≠ .subOrdersOf call.orderId ∧
        ¬ OrderKey call k := by
      cases k <;> simp_all [SalesKey, SettledKey, ItemKey, OrderKey]
    rw [after k kinds.1 kinds.2.1, stored.frame k kinds.2.2.2.1 notSub kinds.2.2.1, before k notStock kinds.2.2.2.2]
  refine ⟨fun p => ?_, fun x => ?_, fun s row there => ⟨row, placed.kept there, .refl row⟩, fun s row there missing => ?_,
    fun p => apart (.payout p) trivial id fun _ => by rintro ⟨⟩, fun shop => apart (.payoutsOf shop) trivial id fun _ => by rintro ⟨⟩⟩
  · rw [placed.taken (.product p) trivial]
    exact stocked.prices p
  · rw [placed.taken (.variant x) trivial]
    exact stocked.surcharges x
  · rw [after (.subOrder s) id (by rintro ⟨⟩)] at there
    by_cases own : ∃ plan ∈ quote.plans.zipIdx, s = call.subOrderId plan.2
    · obtain ⟨plan, member, rfl⟩ := own
      obtain rfl := Option.some.inj ((stored.rows plan member).symm.trans there)
      exact placed.quoted.earned_nonneg nonneg (List.fst_mem_of_mem_zipIdx member) call.orderId
    · have other : ∀ plan ∈ quote.plans.zipIdx, s ≠ call.subOrderId plan.2 := fun plan member same =>
        own ⟨plan, member, same⟩
      rw [stored.others s other, before (.subOrder s) id (by simp [OrderKey]), missing] at there
      cases there

end

section
variable {table : List Id} {distance : Distance}

/-- A transaction that keeps payouts backed. -/
abbrev KeepsBacked (table : List Id) {α : Type} (body : Action α) : Prop :=
  body.KeepsGuarded PayoutGuard Unresolved (fun s => Backed table s.rows) fun s t => Later s.rows t.rows

theorem Trades.commit {h : History (Table Row) Mark} {w : View (Table Row) Mark} (trades : Trades h.current.rows w.rows)
    (backed : Backed table h.current.rows) : Backed table (h.commit w).rows ∧ Later h.current.rows (h.commit w).rows ∧
      Disciplined PayoutGuard h w := by
  refine ⟨trades.backed backed, trades.later, ?_⟩
  rintro j k ⟨shop, rfl, _⟩ _
  exact trades.lists shop

theorem keepsBacked_of_trades {α : Type} {body : Action α}
    (trades : ∀ (I : Isolation (Table Row) Mark) (v : View (Table Row) Mark),
      body.wp I (fun _ w => Trades v.rows w.rows) (fun _ => True) v) : KeepsBacked table body := by
  intro h m inv _ _
  refine wp_mono _ (trades _ _) (fun _ w traded _ _ => ?_) fun _ e => e
  exact Trades.commit traded (inv h.now (Nat.le_refl _))

theorem keepsBacked_of_within {α : Type} {body : Action α} (within : body.Within (fun k => ¬ SalesKey k) fun _ => True) :
    KeepsBacked table body :=
  keepsBacked_of_trades fun _ _ => wp_of_within within (fun _ _ more => .along (fun _ apart => apart) more) fun _ => trivial

theorem runCheckoutTransaction_backed (call : CheckoutCall) (address : Address) :
    KeepsBacked table (runCheckoutTransaction distance call address) := by
  intro h m inv _ _
  refine wp_mono _ (wp_runCheckoutTransaction distance call address) (fun _ w done => ?_) fun _ e => e
  obtain ⟨d, m₁, quote, sees, placed⟩ := done
  intro _ _
  refine Trades.commit (placed.trades fun it member => ?_) (inv h.now (Nat.le_refl _))
  obtain ⟨product, _, variant⟩ := mem_validItems member
  rw [h.sees_past sees rfl] at product variant
  have backed := inv m₁ sees.1.2.1
  have price := backed.prices _ _ product
  unfold unitPrice
  cases chosen : it.variant with
  | none => simpa using price
  | some pair =>
    have surcharge := backed.surcharges _ _ (variant pair.1 pair.2 chosen)
    simpa using Int.add_nonneg price surcharge

theorem resolvePayout_backed {target : PayoutStatus} {resolve : Payout → Payout} (p : Id) (reason : Option String)
    (sets : ∀ payout, (resolve payout).status = target) (keeps : ∀ payout, (resolve payout).amount = payout.amount) :
    KeepsBacked table (resolvePayout p target reason resolve) := by
  intro h m inv ordered _
  refine wp_resolvePayout (fun _ => trivial) fun d e m₁ m₂ loaded seller name amount w sees₁ read step sees₂ rows log => ?_
  intro _ unresolved
  rw [h.sees_past sees₁ rfl] at read
  rw [h.sees_past sees₂ rfl] at rows
  have small : m₂ ≤ h.now := sees₂.1.2.1
  obtain ⟨reread, between, on⟩ := (ordered m₁ m₂ sees₂.1.1 small).payouts p loaded read
  obtain ⟨current, stands, on'⟩ := (ordered m₂ h.now small (Nat.le_refl _)).payouts p reread between
  have back : current.status = loaded.status := by
    have fresh := unresolved (.payoutLoaded p loaded.status) (by simp [log])
    rw [Mark.stalePayout, payoutStatus, Option.mem_def.mp stands] at fresh
    simpa using fresh
  have same := on.unmoved on' back
  rw [Option.mem_def.mp between, View.start_rows, Option.mem_def.mp stands] at rows
  have written : w.rows (.payout p) = some (payoutColumns.write (resolve loaded) reread current) := by
    rw [rows, Function.update_self]
    rfl
  have moved : (payoutColumns.write (resolve loaded) reread current).status = target := by
    have left : target ≠ reread.status := same ▸ payout_left step
    change column (resolve loaded).status reread.status current.status = target
    rw [sets, column_diff left]
  have paid : (payoutColumns.write (resolve loaded) reread current).amount = current.amount := by
    change column (resolve loaded).amount reread.amount current.amount = _
    rw [keeps, ← on.1, column_same]
  have rest : ∀ k, k ≠ .payout p → w.rows k = h.current.rows k := by
    intro k other
    rw [rows, Function.update_of_ne other]
  obtain ⟨backed, later⟩ := (inv h.now (Nat.le_refl _)).resolve stands paid moved (back ▸ step) written rest
  refine ⟨backed, later, ?_⟩
  rintro j k ⟨shop, rfl, _⟩ _
  exact rest (.payoutsOf shop) (by rintro ⟨⟩)

theorem requestPayout_backed (shopId payoutId : Id) (dto : CreatePayoutDto) :
    KeepsBacked table (requestPayout table shopId payoutId dto.amount) := by
  intro h m inv ordered _
  unfold requestPayout calculateShopBalance
  simp only [wp_bind]
  refine wp_selectForUpdate fun u first held => ?_
  have unwritten : u.rows = h.current.rows := first.rows_same
  rw [wp_orFail]
  refine ⟨fun shop _ => ?_, fun _ => trivial⟩
  rw [wp_orFail]
  refine ⟨fun bankInfo _ => ?_, fun _ => trivial⟩
  rw [wp_select]
  intro d₁ m₁ sees₁
  rw [wp_require]
  refine ⟨fun none_ => ?_, fun _ => trivial⟩
  rw [wp_select]
  intro d₂ m₂ sees₂
  rw [wp_select]
  intro d₃ m₃ sees₃
  rw [wp_select]
  intro d₄ m₄ sees₄
  rw [wp_pure, wp_require]
  refine ⟨fun covered => ?_, fun _ => trivial⟩
  refine wp_insert (fun _ => trivial) fun w₁ second _ free inserted => ?_
  rw [wp_modify, wp_note, wp_pure]
  intro _ _
  have small : m₄ ≤ h.now := sees₄.1.2.1
  have order : m₁ ≤ m₂ ∧ m₂ ≤ m₃ ∧ m₃ ≤ m₄ := ⟨sees₂.1.1, sees₃.1.1, sees₄.1.1⟩
  have guard : PayoutGuard (.payoutsOf shopId) (.shop shopId) := ⟨shopId, rfl, rfl⟩
  have list₁ := sees₁.2 (.payoutsOf shopId) (.shop shopId) (Or.inr guard) held
  have list₃ := sees₃.2 (.payoutsOf shopId) (.shop shopId) (Or.inr guard) held
  rw [h.sees_past sees₁ unwritten] at none_
  rw [h.sees_past sees₂ unwritten, h.sees_past sees₃ unwritten, h.sees_past sees₄ unwritten] at covered
  -- under the shop's lock its list stands, and what is settled stays settled
  have settled : ∀ p ∈ listed ((h.past m₁).rows (.payoutsOf shopId)), ∃ row ∈ (h.past m₁).rows (.payout p),
      row.status ∉ [PayoutStatus.pending, .processing] := by
    intro p member
    obtain ⟨row, there⟩ := Option.ne_none_iff_exists'.mp ((inv m₁ (by omega)).filed shopId p member)
    refine ⟨row, there, fun open_ => ?_⟩
    have inside : row ∈ payoutsOfShop (h.past m₁).rows shopId := List.mem_filterMap.mpr ⟨p, member, there⟩
    have closed := List.filter_eq_nil_iff.mp (List.length_eq_zero_iff.mp none_) row inside
    exact closed (decide_eq_true open_)
  have paid := owed_le_completed settled (ordered m₁ m₃ (by omega) (by omega)) (ordered m₃ h.now (by omega) (Nat.le_refl _))
    (inv m₃ (by omega)).amounts (list₃.trans list₁.symm) list₃.symm
  have waiting : 0 ≤ payoutSum [.pending, .processing] shopId (h.past m₄).rows := payoutSum_nonneg (inv m₄ small).amounts
  have gross : getShopDeliveredRevenue table shopId (h.past m₂).rows ≤ soldRevenue table shopId h.current.rows :=
    (deliveredRevenue_le_sold (inv m₂ (by omega)).earnings).trans
      (soldRevenue_mono (inv h.now (Nat.le_refl _)).earnings (ordered m₂ h.now (by omega) (Nat.le_refl _)).subOrders)
  have net := netOf_mono gross
  have least : (0 : Int) < PAYOUT_MIN_AMOUNT := by decide
  have left : owed shopId h.current.rows + dto.amount ≤ netOf (soldRevenue table shopId h.current.rows) := by
    have sums : ∀ amount net net' completed waiting owed : Int, amount ≤ max 0 (net - completed - waiting) → 0 < amount →
        0 ≤ waiting → owed ≤ completed → net ≤ net' → owed + amount ≤ net' := by omega
    exact sums _ _ _ _ _ _ covered (lt_of_lt_of_le least dto.enough) waiting paid net
  have before : ∀ k, k ≠ .payout payoutId → w₁.rows k = h.current.rows k := fun k other =>
    (second.rows k other).trans (congrFun unwritten k)
  -- the row is in, and then its id at the end of the list
  have row : (w₁.put (.payoutsOf shopId) fun ids => some (listed ids ++ [payoutId])).rows (.payout payoutId) = some _ :=
    (View.put_rows_other w₁ _ (by simp)).trans inserted
  have list : listed ((w₁.put (.payoutsOf shopId) fun ids => some (listed ids ++ [payoutId])).rows (.payoutsOf shopId)) =
      listed (h.current.rows (.payoutsOf shopId)) ++ [payoutId] := by
    rw [View.put_rows_self]
    change listed (w₁.rows (.payoutsOf shopId)) ++ _ = _
    rw [before (.payoutsOf shopId) nofun]
  have rest : ∀ k, k ≠ .payout payoutId → k ≠ .payoutsOf shopId →
      (w₁.put (.payoutsOf shopId) fun ids => some (listed ids ++ [payoutId])).rows k = h.current.rows k := fun k other notList =>
    (View.put_rows_other w₁ _ notList).trans (before k other)
  obtain ⟨backed, later⟩ := (inv h.now (Nat.le_refl _)).request (unwritten ▸ free) row list rest
    (le_of_lt (lt_of_lt_of_le least dto.enough)) left
  refine ⟨backed, later, ?_⟩
  rintro j k ⟨s, rfl, rfl⟩ unheld
  have other : s ≠ shopId := by
    rintro rfl
    have kept := View.put_held w₁ (.payoutsOf s) (.shop s) (fun ids => some (listed ids ++ [payoutId]))
      (second.held (.shop s) held)
    exact absurd (unheld.symm.trans kept) Bool.false_ne_true
  exact rest (.payoutsOf s) nofun (by simpa using other)

theorem salesCall_backed (call : SalesCall) : (call.request distance table).All fun _ body => KeepsBacked table body := by
  cases call with
  | checkout call =>
    refine checkout_all distance call (fun _ body within => keepsBacked_of_within (within_mono ?_ (fun _ _ => trivial) within))
      (runCheckoutTransaction_backed call)
    rintro k ⟨key, rfl⟩
    exact id
  | cancelSubOrder user sub now =>
    exact .tx (keepsBacked_of_trades fun _ _ => cancelSubOrder_trades user sub now) (fun _ => .done _) fun _ => .done _
  | updateSubOrderStatus seller sub new now =>
    exact .tx (keepsBacked_of_trades fun _ _ => updateSubOrderStatus_trades seller sub new now) (fun _ => .done _)
      fun _ => .done _
  | receiveReturn seller request now =>
    refine .tx (keepsBacked_of_trades fun _ _ => receiveReturn_trades seller request now) (fun _ => ?_) fun _ => .done _
    refine .tx (keepsBacked_of_within ?_) (fun _ => .done _) fun _ => .done _
    exact within_bind (within_select _) fun _ => within_orFail _ _
  | requestPayout seller payout dto =>
    refine .tx (keepsBacked_of_within ?_) (fun shop => ?_) fun _ => .done _
    · exact within_bind (within_select _) fun _ => within_orFail _ _
    · exact .tx (requestPayout_backed shop payout dto) (fun _ => .done _) fun _ => .done _
  | resolvePayout resolution =>
    cases resolution with
    | approve p admin now =>
      exact .tx (resolvePayout_backed p none (fun _ => rfl) fun _ => rfl) (fun _ => .done _) fun _ => .done _
    | reject p reason admin now =>
      exact .tx (resolvePayout_backed p (some reason) (fun _ => rfl) fun _ => rfl) (fun _ => .done _) fun _ => .done _

end

/-- In every reachable state of every run in which no payout is resolved between being loaded and its resolution, what
a shop is owed is at most the net of all it ever sold; the balance it is shown is cut off at zero. -/
theorem payouts_backed {distance : Distance} {table : List Id} {requests : Nat → Request} {fault : Err}
    {s : Store (Table Row) Mark} {c : Conf (Table Row) Mark Err Answer}
    (sales : ∀ i, SalesRequest distance table (requests i)) (unpaid : Unpaid s.rows)
    (run : Moves Unresolved fault (Conf.start s requests) c) (shop : Id) :
    owed shop c.store.rows ≤ netOf (soldRevenue table shop c.store.rows) ∧
      ∀ (I : Isolation (Table Row) Mark) (v : View (Table Row) Mark),
        (calculateShopBalance table shop).wp I (fun balance _ => 0 ≤ balance.availableBalance) (fun _ => False) v := by
  have keeps : ∀ i, (requests i).All fun _ body => KeepsBacked table body := by
    intro i
    rcases sales i with ⟨call, same⟩ | apart
    · rw [same]
      exact salesCall_backed call
    · exact apart.mono fun _ _ within => keepsBacked_of_within within
  have backed := keepsGuarded_safe (fun s => Later.refl s.rows) (fun first second => first.trans second)
    unpaid.backed keeps run
  refine ⟨backed.backed shop, fun I v => ?_⟩
  unfold calculateShopBalance
  simp only [wp_bind]
  intro _ _ _ _ _ _ _ _ _
  exact Int.le_max_left _ _

/-- One delivered sub-order, of which the shop has agreed to take all back. -/
def onTheWayBack : Db
  | .shop 7 => some ⟨70, "", none, none, false, .active, some ⟨"", "", ""⟩⟩
  | .shopsOf 70 => some [7]
  | .order 1 => some ⟨some 3, none, 10000000, some 0, none, ⟨"", "", "", none, none⟩, .delivered, none, "ORD-1", 0⟩
  | .payment 1 => some ⟨.cod, .completed, 10000000, none, none, none, none, none⟩
  | .subOrdersOf 1 => some [10]
  | .subOrder 10 => some ⟨some 7, 1, none, 10000000, 0, 0, none, 10000000, .delivered, some 0⟩
  | .itemsOf 10 => some [100]
  | .orderItem 100 => some ⟨none, 10, some 5, 1, 10000000, "", none, none, none⟩
  | .product 5 => some ⟨7, "", 10000000, none, 3, false, false, .active⟩
  | .returnsOf 10 => some [20]
  | .returnRequest 20 => some ⟨10, 3, some 7, .approved, .damaged, none, 10000000, none, none, 1⟩
  | .returnItemsOf 20 => some [200]
  | .returnItemsFor 100 => some [200]
  | .returnItem 200 => some ⟨20, 100, 1, 10000000⟩
  | _ => none

/-- The shop asks for its money and gets it, then the return arrives. -/
def paidThenBack : Nat → Option SalesCall
  | 0 => some (.requestPayout 70 40 ⟨9000000, by decide⟩)
  | 1 => some (.resolvePayout (.approve 40 90 5))
  | 2 => some (.receiveReturn 70 20 6)
  | _ => none

def salesRequests (calls : Nat → Option SalesCall) (i : Nat) : Request :=
  match calls i with
  | some call => call.request (fun _ _ => 1) [10]
  | none => .done .done

theorem salesRequests_sales (calls : Nat → Option SalesCall) (i : Nat) :
    SalesRequest (fun _ _ => 1) [10] (salesRequests calls i) := by
  unfold salesRequests
  cases calls i with
  | none => exact Or.inr (.done _)
  | some call => exact Or.inl ⟨call, rfl⟩

theorem onTheWayBack_unpaid : Unpaid onTheWayBack := by
  refine ⟨fun p row there => ?_, fun _ _ no => (nomatch no), fun s row there => ?_, fun _ => rfl, fun _ => rfl⟩
  · by_cases five : p = 5
    · subst five
      cases there
      decide
    · simp [onTheWayBack, five] at there
  · by_cases ten : s = 10
    · subst ten
      cases there
      decide
    · simp [onTheWayBack, ten] at there

set_option maxRecDepth 4000 in
/-- The payout is paid, and backed by the sale. -/
theorem sale_paid :
    ∃ c : Conf (Table Row) Mark Err Answer, payoutStatus c.store.rows 40 = some .completed ∧
      owed 7 c.store.rows = 9000000 ∧ owed 7 c.store.rows ≤ netOf (soldRevenue [10] 7 c.store.rows) := by
  have obeys : (Conf.start ⟨onTheWayBack, []⟩ (salesRequests paidThenBack)).Obeys Unresolved
      (List.replicate 16 0 ++ List.replicate 7 1) := by decide +kernel
  have found : ∃ c ∈ (Conf.start ⟨onTheWayBack, []⟩ (salesRequests paidThenBack)).play
      (List.replicate 16 0 ++ List.replicate 7 1), payoutStatus c.store.rows 40 = some .completed ∧
        owed 7 c.store.rows = 9000000 := by decide +kernel
  obtain ⟨c, run, paid, amount⟩ := Conf.exists_moves Err.database obeys found
  exact ⟨c, paid, amount, (payouts_backed (salesRequests_sales paidThenBack) onTheWayBack_unpaid run 7).1⟩

set_option maxRecDepth 4000 in
/-- The return comes after the payout: what was paid is then more than what is left of the sale. -/
theorem not_payouts_backed :
    ¬ ∀ (distance : Distance) (table : List Id) (requests : Nat → Request) (s : Store (Table Row) Mark)
      (c : Conf (Table Row) Mark Err Answer) (shop : Id), (∀ i, SalesRequest distance table (requests i)) →
      Unpaid s.rows → Moves Unresolved .database (Conf.start s requests) c →
      owed shop c.store.rows ≤ netOf (getShopDeliveredRevenue table shop c.store.rows) -
        receivedRefunds table shop c.store.rows := by
  intro claimed
  have obeys : (Conf.start ⟨onTheWayBack, []⟩ (salesRequests paidThenBack)).Obeys Unresolved
      (List.replicate 16 0 ++ List.replicate 7 1 ++ List.replicate 22 2) := by decide +kernel
  have found : ∃ c ∈ (Conf.start ⟨onTheWayBack, []⟩ (salesRequests paidThenBack)).play
      (List.replicate 16 0 ++ List.replicate 7 1 ++ List.replicate 22 2),
      ¬ owed 7 c.store.rows ≤ netOf (getShopDeliveredRevenue [10] 7 c.store.rows) -
        receivedRefunds [10] 7 c.store.rows := by decide +kernel
  obtain ⟨c, run, over_⟩ := Conf.exists_moves Err.database obeys found
  exact over_ (claimed _ _ _ _ c 7 (salesRequests_sales paidThenBack) onTheWayBack_unpaid run)

end Marketplace
