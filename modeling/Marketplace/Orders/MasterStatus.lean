import Marketplace.Orders.Transitions
import Marketplace.Returns.QuantityBound

/-! The status of an order and the collection of its payment against the statuses of its sub-orders. -/
namespace Marketplace
open ReadCommitted ReadCommitted.Tx

def statusesOf (d : Db) (o : Id) : List OrderStatus := (subOrdersOf d o).map (·.2.status)

/-- A sub-order that was delivered, and may be back since. -/
def SubOrder.WasDelivered (row : SubOrder) : Prop := row.deliveredAt ≠ none

/-- Each sub-order is over, and one of them with its delivery. -/
def Concluded (d : Db) (o : Id) : Prop :=
  (∀ q ∈ subOrdersOf d o, q.2.status = .cancelled ∨ q.2.WasDelivered) ∧ ∃ q ∈ subOrdersOf d o, q.2.WasDelivered

/-- The rows with the receipt of a return request. -/
def withReceipt (d : Db) (request : Id) : Db :=
  Function.update d (.returnRequest request) ((d (.returnRequest request)).map fun row => { row with status := .received })

/-- With this receipt all items of the sub-order are back. -/
def completesReturn (d : Db) (request subOrder : Id) : Bool :=
  itemsOfSubOrder d subOrder ≠ [] ∧
    ∀ it ∈ itemsOfSubOrder d subOrder, it.2.quantity ≤ sumReceivedByOrderItem (withReceipt d request) subOrder it.1

def Mark.receipt : Mark → Option Id
  | .returnRestocked request _ => some request
  | _ => none

/-- Some other sub-order of the order is neither cancelled nor back. -/
def OthersLeft (d : Db) (subOrder : Id) : Prop :=
  ∀ row ∈ d (.subOrder subOrder), row.status = .delivered →
    ∃ other ∈ subOrdersOf d row.order, other.1 ≠ subOrder ∧ other.2.status ≠ .cancelled ∧ other.2.status ≠ .returned

/-- No receipt completes the return of the last sub-order of its order. -/
def ReceiptsLeaveOthers (s : Store (Table Row) Mark) (log : List Mark) : Prop :=
  ∀ e ∈ log, ∀ r ∈ e.receipt, ∀ row ∈ s.rows (.returnRequest r),
    completesReturn s.rows r row.subOrder → OthersLeft s.rows row.subOrder

/-- No recompute of a cash order finds all that stays active returned. -/
def RecomputesFindUnreturned (s : Store (Table Row) Mark) (log : List Mark) : Prop :=
  ∀ e ∈ log, ∀ r ∈ e.recomputes, (s.rows (.payment r.1)).any (·.method = .cod) → staying s.rows r.1 r.2 ≠ [] →
    ∃ q ∈ staying s.rows r.1 r.2, q.2.status ≠ .returned

instance (row : SubOrder) : Decidable row.WasDelivered := inferInstanceAs (Decidable (row.deliveredAt ≠ none))

instance (d : Db) (o : Id) : Decidable (Concluded d o) :=
  inferInstanceAs (Decidable ((∀ q ∈ subOrdersOf d o, q.2.status = .cancelled ∨ q.2.WasDelivered) ∧
    ∃ q ∈ subOrdersOf d o, q.2.WasDelivered))

instance (d : Db) (subOrder : Id) : Decidable (OthersLeft d subOrder) :=
  inferInstanceAs (Decidable (∀ row ∈ d (.subOrder subOrder), row.status = .delivered → ∃ other ∈ subOrdersOf d row.order,
    other.1 ≠ subOrder ∧ other.2.status ≠ .cancelled ∧ other.2.status ≠ .returned))

instance (s : Store (Table Row) Mark) (log : List Mark) : Decidable (ReceiptsLeaveOthers s log) :=
  inferInstanceAs (Decidable (∀ e ∈ log, ∀ r ∈ e.receipt, ∀ row ∈ s.rows (.returnRequest r),
    completesReturn s.rows r row.subOrder → OthersLeft s.rows row.subOrder))

instance (s : Store (Table Row) Mark) (log : List Mark) : Decidable (RecomputesFindUnreturned s log) :=
  inferInstanceAs (Decidable (∀ e ∈ log, ∀ r ∈ e.recomputes, (s.rows (.payment r.1)).any (·.method = .cod) →
    staying s.rows r.1 r.2 ≠ [] → ∃ q ∈ staying s.rows r.1 r.2, q.2.status ≠ .returned))

/-- A call of the orders or of the returns, whole or from any of its transactions on, or any other
request that writes none of their rows. -/
def FulfilmentRequest (distance : Distance) (r : Request) : Prop :=
  (∃ call : OrderCall, (call.request distance).Rest r) ∨ (∃ op : ReturnOperation, op.request.Rest r) ∨
    r.All fun _ body => body.Within (fun k => ¬ LedgerKey k) fun _ => True

/-- No order and no return yet. -/
def Unused (d : Db) : Prop := NoOrders d ∧ ∀ r, d (.returnRequest r) = none

theorem filterMap_progress_active (statuses : List OrderStatus) :
    (statuses.filter (· ≠ .cancelled)).filterMap progress = statuses.filterMap progress := by
  rw [List.filterMap_filter]
  apply List.filterMap_congr
  intro status _
  cases status <;> rfl

theorem deriveMasterStatus_of_min {statuses : List OrderStatus} {rank : Nat} (known : rank < 4)
    (least : (statuses.filterMap progress).min? = some rank) :
    deriveMasterStatus statuses = STATUS_PROGRESSION.getD rank .pending := by
  rw [← filterMap_progress_active] at least
  unfold deriveMasterStatus
  cases active : statuses.filter (· ≠ .cancelled) with
  | nil => rw [active] at least; cases least
  | cons first rest =>
    rw [active] at least
    simp only [least]
    have ranks : rank = 0 ∨ rank = 1 ∨ rank = 2 ∨ rank = 3 := by omega
    rcases ranks with rfl | rfl | rfl | rfl <;> rfl

theorem progress_le {status : OrderStatus} {rank : Nat} (at_ : progress status = some rank) : rank ≤ 3 := by
  cases status <;> simp [progress] at at_ <;> omega

/-- The least advanced statuses decide. -/
theorem deriveMasterStatus_congr {before after : List OrderStatus}
    (some_ : ∃ status ∈ after, progress status ≠ none)
    (inside : ∀ status ∈ after, progress status ≠ none → status ∈ before)
    (above : ∀ status ∈ before, status ∈ after ∨ status = .delivered ∨ progress status = none) :
    deriveMasterStatus after = deriveMasterStatus before := by
  obtain ⟨status, member, going⟩ := some_
  obtain ⟨rank, at_⟩ := Option.ne_none_iff_exists'.mp going
  have present : rank ∈ after.filterMap progress := List.mem_filterMap.mpr ⟨status, member, at_⟩
  obtain ⟨least, found⟩ : ∃ least, (after.filterMap progress).min? = some least :=
    Option.isSome_iff_exists.mp (List.isSome_min?_of_mem present)
  obtain ⟨own, lowest⟩ := List.min?_eq_some_iff.mp found
  obtain ⟨first, there, ranked⟩ := List.mem_filterMap.mp own
  have known : least ≤ 3 := progress_le ranked
  have same : (before.filterMap progress).min? = some least := by
    apply List.min?_eq_some_iff.mpr
    refine ⟨List.mem_filterMap.mpr ⟨first, inside first there (by simp [ranked]), ranked⟩, fun other member => ?_⟩
    obtain ⟨status, stands, at_⟩ := List.mem_filterMap.mp member
    rcases above status stands with still | rfl | off
    · exact lowest other (List.mem_filterMap.mpr ⟨status, still, at_⟩)
    · cases at_
      exact known
    · rw [off] at at_
      cases at_
  rw [deriveMasterStatus_of_min (by omega) found, deriveMasterStatus_of_min (by omega) same]

/-- Nothing but deliveries and returns is left, and not returns only. -/
theorem deriveMasterStatus_delivered {statuses : List OrderStatus} (some_ : .delivered ∈ statuses)
    (over_ : ∀ status ∈ statuses, status = .cancelled ∨ status = .delivered ∨ status = .returned) :
    deriveMasterStatus statuses = .delivered := by
  have least : (statuses.filterMap progress).min? = some 3 := by
    apply List.min?_eq_some_iff.mpr
    refine ⟨List.mem_filterMap.mpr ⟨.delivered, some_, rfl⟩, fun rank member => ?_⟩
    obtain ⟨status, stands, at_⟩ := List.mem_filterMap.mp member
    rcases over_ status stands with rfl | rfl | rfl
    · cases at_
    · cases at_
      exact Nat.le_refl _
    · cases at_
  exact deriveMasterStatus_of_min (by omega) least

/-- What an order's rows keep beside its status and its payment. -/
structure Fulfilled (d : Db) : Prop where
  ordered : Ordered d
  dated : ∀ o, ∀ q ∈ subOrdersOf d o, q.2.WasDelivered ↔ q.2.status = .delivered ∨ q.2.status = .returned
  returned : ∀ r row, d (.returnRequest r) = some row →
    ∃ sub, d (.subOrder row.subOrder) = some sub ∧ (sub.status = .delivered ∨ sub.status = .returned)

theorem SubOrder.Advances.open_ {row : SubOrder} {status : OrderStatus} {deliveredAt : Option Time}
    (advances : row.Advances status deliveredAt) : row.status ≠ .delivered ∧ row.status ≠ .returned := by
  have allowed := advances.allowed
  constructor <;> intro closed <;> rw [closed] at allowed <;> cases allowed

theorem SubOrder.Advances.unreturned {row : SubOrder} {status : OrderStatus} {deliveredAt : Option Time}
    (advances : row.Advances status deliveredAt) : status ≠ .returned := by
  rintro rfl
  have allowed := advances.allowed
  cases source : row.status <;> simp [source, SUB_ORDER_STATE_MACHINE] at allowed

/-- What a transaction of the returns did: it filed or resolved requests, and perhaps closed a
sub-order with the receipt of all its items. -/
structure ReturnEffect (s : Store (Table Row) Mark) (w : View (Table Row) Mark) : Prop where
  requests : ∀ r row, w.rows (.returnRequest r) = some row →
    (∃ before, s.rows (.returnRequest r) = some before ∧ before.subOrder = row.subOrder) ∨
      ∃ sub, s.rows (.subOrder row.subOrder) = some sub ∧ sub.status = .delivered
  kept : ∀ k, BillKey k → (∀ x, k ≠ .subOrder x) → w.rows k = s.rows k
  closed : (∀ x, w.rows (.subOrder x) = s.rows (.subOrder x)) ∨
    ∃ r row lines, s.rows (.returnRequest r) = some row ∧ .returnRestocked r lines ∈ w.log ∧
      completesReturn s.rows r row.subOrder ∧
      w.rows (.subOrder row.subOrder) = (s.rows (.subOrder row.subOrder)).map (fun sub => { sub with status := .returned }) ∧
      ∀ x, x ≠ row.subOrder → w.rows (.subOrder x) = s.rows (.subOrder x)

abbrev Returns {α : Type} (body : Action α) : Prop :=
  ∀ s : Store (Table Row) Mark, body.wp .serial (fun _ w => ReturnEffect s w) (fun _ => True) (View.start s.rows 0)

section
variable {s : Store (Table Row) Mark} {w : View (Table Row) Mark}

/-- A transaction that leaves the rows of the orders alone and files no request. -/
theorem ReturnEffect.restate (kept : ∀ k, BillKey k → w.rows k = s.rows k)
    (requests : ∀ r row, w.rows (.returnRequest r) = some row →
      (∃ before, s.rows (.returnRequest r) = some before ∧ before.subOrder = row.subOrder) ∨
        ∃ sub, s.rows (.subOrder row.subOrder) = some sub ∧ sub.status = .delivered) : ReturnEffect s w :=
  ⟨requests, fun k bill _ => kept k bill, Or.inl fun x => kept (.subOrder x) trivial⟩

/-- One request restated. -/
theorem ReturnEffect.resolve {r : Id} {row row' : ReturnRequest} (stands : s.rows (.returnRequest r) = some row)
    (sub : row'.subOrder = row.subOrder) (own : w.rows (.returnRequest r) = some row')
    (rest : ∀ k, k ≠ .returnRequest r → w.rows k = s.rows k) : ReturnEffect s w := by
  refine .restate (fun k bill => rest k (by rintro rfl; exact bill)) fun q there found => Or.inl ?_
  by_cases mine : q = r
  · subst mine
    obtain rfl := Option.some.inj (own.symm.trans found)
    exact ⟨row, stands, sub.symm⟩
  · rw [rest (.returnRequest q) (by simpa using mine)] at found
    exact ⟨there, found, rfl⟩

end

theorem cancelReturn_returns (userId r : Id) (now : Time) : Returns (cancelReturn userId r now) := by
  intro s
  unfold cancelReturn
  simp only [wp_bind]
  refine wp_selectForUpdate fun w₁ first _ => ?_
  rw [wp_orFail]
  refine ⟨fun _ _ => ?_, fun _ => trivial⟩
  rw [wp_select]
  rintro d m ⟨rfl, rfl⟩
  rw [wp_orFail]
  refine ⟨fun row found => ?_, fun _ => trivial⟩
  rw [wp_require]
  refine ⟨fun _ => ?_, fun _ => trivial⟩
  rw [wp_require]
  refine ⟨fun _ => ?_, fun _ => trivial⟩
  refine wp_save_alone (k := Key.returnRequest r) found fun w second stored => ?_
  have before : ∀ k, w₁.rows k = s.rows k := fun k => first.rows k id
  refine .resolve ((before _).symm.trans found) ?_ stored fun k other => (second.rows k other).trans (before k)
  rfl

theorem sellerResolve_returns (sellerId r : Id) (newStatus : ReturnStatus) (sellerNote : Option String) (now : Time) :
    Returns (sellerResolve sellerId r newStatus sellerNote now) := by
  intro s
  unfold sellerResolve assertTransition emitReturnStatusChanged
  simp only [wp_bind]
  refine wp_lockReturnForSeller (fun _ => trivial) fun u d m loaded first _ sees read => ?_
  obtain ⟨rfl, rfl⟩ := sees
  rw [wp_require]
  refine ⟨fun _ => ?_, fun _ => trivial⟩
  have found := (loadReturn_some read).1
  refine wp_save_alone (k := Key.returnRequest r) found fun w second stored => ?_
  rw [wp_note]
  have before : ∀ k, u.rows k = s.rows k := fun k => first.rows k id
  refine .resolve ((before _).symm.trans found) ?_ stored fun k other => (second.rows k other).trans (before k)
  split <;> rfl

/-- How many pieces are back depends on the statuses of the requests alone. -/
theorem sumReceivedByOrderItem_congr {d e : Db} {sub i : Id} (lists : ∀ k, k = .returnsOf sub ∨ (∃ r, k = .returnItemsOf r) ∨
      (∃ x, k = .returnItem x) → e k = d k)
    (status : ∀ r, (e (.returnRequest r)).map (·.status) = (d (.returnRequest r)).map (·.status)) :
    sumReceivedByOrderItem e sub i = sumReceivedByOrderItem d sub i := by
  have items : itemsOfReturn e = itemsOfReturn d := by
    funext r
    rw [itemsOfReturn, itemsOfReturn, lists (.returnItemsOf r) (Or.inr (Or.inl ⟨r, rfl⟩))]
    apply List.filterMap_congr
    intro x _
    exact lists (.returnItem x) (Or.inr (Or.inr ⟨x, rfl⟩))
  unfold sumReceivedByOrderItem returnsOfSubOrder
  rw [lists (.returnsOf sub) (Or.inl rfl), items]
  induction listed (d (.returnsOf sub)) with
  | nil => rfl
  | cons r rest ih =>
    have same := status r
    rw [List.filterMap_cons, List.filterMap_cons]
    cases before : d (.returnRequest r) with
    | none =>
      rw [before] at same
      rw [Option.map_eq_none_iff.mp same]
      exact ih
    | some row =>
      rw [before] at same
      obtain ⟨row', after, equal⟩ := Option.map_eq_some_iff.mp same
      rw [after]
      simp only [Option.map_some, List.filter_cons, equal]
      split
      · simp only [List.flatMap_cons, List.sum_append]
        exact congrArg _ ih
      · exact ih

theorem receiveReturn_returns (sellerId r : Id) (now : Time) : Returns (receiveReturn sellerId r now) := by
  intro s
  unfold receiveReturn assertTransition emitReturnStatusChanged
  simp only [wp_bind]
  refine wp_lockReturnForSeller (fun _ => trivial) fun u d m loaded first _ sees read => ?_
  obtain ⟨rfl, rfl⟩ := sees
  rw [wp_require]
  refine ⟨fun _ => ?_, fun _ => trivial⟩
  have found := (loadReturn_some read).1
  have before : ∀ k, u.rows k = s.rows k := fun k => first.rows k id
  have stands : s.rows (.returnRequest r) = some loaded.row := (before _).symm.trans found
  refine wp_restock (fun _ => trivial) fun w₂ second _ => ?_
  rw [wp_note]
  have unmoved : ∀ k, LedgerKey k → w₂.rows k = s.rows k := fun k ledger =>
    (second.rows k fun stock => ledger.apart (Or.inr (Or.inr stock))).trans (before k)
  refine wp_save_alone (k := Key.returnRequest r) ((unmoved (.returnRequest r) trivial).trans stands) fun w₃ third stored => ?_
  have saved : ∀ k, LedgerKey k → k ≠ .returnRequest r → w₃.rows k = s.rows k := fun k ledger other =>
    (third.rows k other).trans (unmoved k ledger)
  rw [wp_select]
  rintro d m ⟨rfl, rfl⟩
  have requests : ∀ w : View (Table Row) Mark, (∀ q, w.rows (.returnRequest q) = w₃.rows (.returnRequest q)) →
      ∀ q row, w.rows (.returnRequest q) = some row →
      (∃ before, s.rows (.returnRequest q) = some before ∧ before.subOrder = row.subOrder) ∨
        ∃ sub, s.rows (.subOrder row.subOrder) = some sub ∧ sub.status = .delivered := by
    intro w same q row there
    rw [same] at there
    by_cases mine : q = r
    · subst mine
      obtain rfl := Option.some.inj (stored.symm.trans there)
      exact Or.inl ⟨_, stands, rfl⟩
    · rw [saved (.returnRequest q) trivial (by simpa using mine)] at there
      exact Or.inl ⟨row, there, rfl⟩
  have marked : .returnRestocked r loaded.lines ∈ w₃.log := by
    rw [third.log_same, View.mark_log]
    exact List.mem_append_right _ List.mem_cons_self
  unfold markSubOrderReturnedIfComplete
  simp only [wp_bind]
  rw [wp_select]
  rintro d m ⟨rfl, rfl⟩
  rw [wp_given]
  refine ⟨fun complete => ?_, fun _ => ?_⟩
  · -- all items of the sub-order are back
    have counted : completesReturn s.rows r loaded.row.subOrder := by
      have items : itemsOfSubOrder w₃.rows loaded.row.subOrder = itemsOfSubOrder s.rows loaded.row.subOrder := by
        unfold itemsOfSubOrder
        rw [saved (.itemsOf loaded.row.subOrder) trivial (by rintro ⟨⟩)]
        exact List.filterMap_congr fun i _ => by rw [saved (.orderItem i) trivial (by rintro ⟨⟩)]
      have sums : ∀ i, sumReceivedByOrderItem w₃.rows loaded.row.subOrder i =
          sumReceivedByOrderItem (withReceipt s.rows r) loaded.row.subOrder i := by
        intro i
        apply sumReceivedByOrderItem_congr
        · rintro k (rfl | ⟨q, rfl⟩ | ⟨x, rfl⟩) <;> exact saved _ trivial (by rintro ⟨⟩)
        · intro q
          by_cases mine : q = r
          · subst mine
            simp [stored, withReceipt, stands]
          · rw [saved (.returnRequest q) trivial (by simpa using mine)]
            simp [withReceipt, Function.update, mine]
      unfold completesReturn
      simp only [View.looking_rows, items, sums] at complete
      exact decide_eq_true complete
    refine wp_updateWhere_alone fun w₄ fourth closed => ?_
    rw [wp_note]
    have there : w₃.rows (.subOrder loaded.row.subOrder) = s.rows (.subOrder loaded.row.subOrder) :=
      saved (.subOrder loaded.row.subOrder) trivial (by rintro ⟨⟩)
    have after : ∀ k, k ≠ .subOrder loaded.row.subOrder → w₄.rows k = w₃.rows k := fun k other => fourth.rows k other
    refine ⟨requests _ fun q => after (.returnRequest q) (by rintro ⟨⟩), fun k bill notSub => ?_, Or.inr
      ⟨r, loaded.row, loaded.lines, stands, ?_, counted, ?_, fun x other => ?_⟩⟩
    · exact (after k (notSub _)).trans (saved k bill.ledger (by rintro rfl; exact bill))
    · rw [View.mark_log, fourth.log_same]
      exact List.mem_append_left _ marked
    · simpa [there] using closed
    · exact (after (.subOrder x) (by simpa using other)).trans (saved (.subOrder x) trivial (by rintro ⟨⟩))
  · rw [wp_note]
    exact .restate (fun k bill => saved k bill.ledger (by rintro rfl; exact bill)) (requests _ fun _ => rfl)

/-- The rows a new request goes into. -/
def RequestKey : Key → Prop
  | .returnRequest _ => True
  | .returnsOf _ => True
  | .returnItem _ => True
  | .returnItemsOf _ => True
  | .returnItemsFor _ => True
  | _ => False

theorem within_returnLines {K : Key → Prop} (loaded : SubOrderForReturn) (base : Rat) (dto : List ReturnItemInputDto)
    (seen : List Id) : (returnLines loaded base dto seen).Within K NoMark := by
  induction dto generalizing seen with
  | nil => exact within_pure _
  | cons line rest ih =>
    unfold returnLines
    refine within_bind (within_require _ _) fun _ => within_bind (within_orFail _ _) fun item => ?_
    refine within_bind (within_select _) fun returned => within_bind (within_require _ _) fun _ => ?_
    exact within_bind (ih _) fun _ => within_pure _

theorem createReturn_returns (call : ReturnCall) : Returns (createReturn call) := by
  intro s
  unfold createReturn lockAndLoadSubOrderForReturn
  simp only [wp_bind]
  refine wp_selectForUpdate fun u first _ => ?_
  cases (View.start s.rows 0 : View (Table Row) Mark).rows (.subOrder call.dto.subOrderId) with
  | none => simp only [wp_pure, wp_orFail, reduceCtorEq, false_implies, implies_true, and_self]
  | some _ =>
    dsimp only
    rw [wp_select]
    rintro d m ⟨rfl, rfl⟩
    rw [wp_orFail]
    refine ⟨fun loaded found => ?_, fun _ => trivial⟩
    obtain ⟨row, stands, rfl⟩ := Option.map_eq_some_iff.mp found
    have before : ∀ k, u.rows k = s.rows k := fun k => first.rows k id
    rw [before] at stands
    unfold checkReturnable
    simp only [wp_bind]
    rw [wp_orFail]
    refine ⟨fun order _ => ?_, fun _ => trivial⟩
    rw [wp_require]
    refine ⟨fun _ => ?_, fun _ => trivial⟩
    rw [wp_require]
    refine ⟨fun delivered => ?_, fun _ => trivial⟩
    rw [wp_orFail]
    refine ⟨fun deliveredAt _ => ?_, fun _ => trivial⟩
    rw [wp_require]
    refine ⟨fun _ => ?_, fun _ => trivial⟩
    rw [wp_pure, wp_select]
    rintro d m ⟨rfl, rfl⟩
    rw [wp_require]
    refine ⟨fun _ => ?_, fun _ => trivial⟩
    rw [wp_require]
    refine ⟨fun _ => ?_, fun _ => trivial⟩
    refine wp_of_within (within_returnLines (K := fun _ => False) ..) (fun lines w second => ?_) fun _ => trivial
    have unmoved : ∀ k, w.rows k = s.rows k := fun k => (second.rows k id).trans (before k)
    unfold insertReturn
    simp only [wp_bind]
    refine wp_insert (fun _ => trivial) fun w₁ third _ _ stored => ?_
    have tail : (do
        Tx.modify (.returnsOf call.dto.subOrderId) fun ids => some (listed ids ++ [call.returnId])
        forM lines.zipIdx fun line => insertReturnItem call.returnId (call.returnItemId line.2) line.1
        let seller ← sellerOfShop (row.shop.filter fun i => (u.rows (.shop i)).isSome)
        note (.outbox (.returnRequested call.returnId call.dto.subOrderId order.orderNumber
          (row.shop.filter fun i => (u.rows (.shop i)).isSome) seller call.userId)) : Action Unit).Within
          (fun k => RequestKey k ∧ ∀ r, k ≠ .returnRequest r) fun _ => True := by
      refine within_bind ((within_modify _ _).mpr ⟨trivial, fun _ => by rintro ⟨⟩⟩) fun _ => within_bind ?_ fun _ => ?_
      · refine within_forM _ fun line _ => within_bind (within_insert _ _ _ ⟨trivial, fun _ => by rintro ⟨⟩⟩) fun _ => ?_
        exact within_bind ((within_modify _ _).mpr ⟨trivial, fun _ => by rintro ⟨⟩⟩) fun _ =>
          (within_modify _ _).mpr ⟨trivial, fun _ => by rintro ⟨⟩⟩
      · exact within_bind (within_select _) fun _ => (within_note _).mpr trivial
    have last := wp_of_within (I := .serial) (E := fun _ => True) (v := w₁) (Q := fun _ w => ReturnEffect s w) tail
      (fun _ w₂ fourth => ?_) fun _ => trivial
    · simpa only [wp_bind] using last
    · refine .restate (fun k bill => ?_) fun r there found => ?_
      · rw [fourth.rows k (by rintro ⟨kind, _⟩; cases k <;> first | exact kind | exact bill),
          third.rows k (by rintro rfl; exact bill)]
        exact unmoved k
      · rw [fourth.rows (.returnRequest r) (by rintro ⟨_, no⟩; exact no r rfl)] at found
        by_cases mine : r = call.returnId
        · subst mine
          obtain rfl := Option.some.inj (stored.symm.trans found)
          exact Or.inr ⟨row, stands, delivered⟩
        · rw [third.rows (.returnRequest r) (by simpa using mine), unmoved] at found
          exact Or.inl ⟨there, found, rfl⟩

theorem returns_of_within {α : Type} {body : Action α} (within : body.Within (fun k => ¬ LedgerKey k) fun _ => True) :
    Returns body := by
  intro s
  refine wp_of_within within (fun _ w more => ?_) fun _ => trivial
  have kept : ∀ k, LedgerKey k → w.rows k = s.rows k := fun k ledger => more.rows k fun outside => outside ledger
  refine .restate (fun k bill => kept k bill.ledger) fun r row there => Or.inl ⟨row, ?_, rfl⟩
  rw [← kept (.returnRequest r) trivial, there]

theorem returnOperation_returns (op : ReturnOperation) : op.request.All fun _ body => Returns body := by
  have detail : ∀ α (body : Action α), body.Within (fun _ => False) NoMark → Returns body := fun _ _ within =>
    returns_of_within (within_mono (fun _ no => no.elim) (fun _ _ => trivial) within)
  have own : ∀ user r, (getReturnDetail user r).Within (fun _ => False) NoMark := fun _ _ =>
    within_bind (within_select _) fun _ => within_orFail _ _
  have sold : ∀ seller r, (getSellerReturnDetail seller r).Within (fun _ => False) NoMark := fun _ _ =>
    within_bind (within_select _) fun _ => within_orFail _ _
  cases op with
  | create call =>
    exact .tx (createReturn_returns call) (fun _ => .tx (detail _ _ (own _ _)) (fun _ => .done _) fun _ => .done _) fun _ => .done _
  | cancel user r now => exact .tx (cancelReturn_returns user r now) (fun _ => .done _) fun _ => .done _
  | approve seller r now =>
    exact .tx (sellerResolve_returns seller r .approved none now)
      (fun _ => .tx (detail _ _ (sold _ _)) (fun _ => .done _) fun _ => .done _) fun _ => .done _
  | reject seller r sellerNote now =>
    exact .tx (sellerResolve_returns seller r .rejected (some sellerNote) now)
      (fun _ => .tx (detail _ _ (sold _ _)) (fun _ => .done _) fun _ => .done _) fun _ => .done _
  | receive seller r now =>
    exact .tx (receiveReturn_returns seller r now) (fun _ => .tx (detail _ _ (sold _ _)) (fun _ => .done _) fun _ => .done _)
      fun _ => .done _

theorem subOrdersOf_map {d e : Db} {o x : Id} {f : SubOrder → SubOrder} (list : e (.subOrdersOf o) = d (.subOrdersOf o))
    (own : e (.subOrder x) = (d (.subOrder x)).map f) (others : ∀ y, y ≠ x → e (.subOrder y) = d (.subOrder y)) :
    subOrdersOf e o = (subOrdersOf d o).map fun p => if p.1 = x then (p.1, f p.2) else p := by
  unfold subOrdersOf
  rw [list, List.map_filterMap]
  apply List.filterMap_congr
  intro y _
  by_cases same : y = x
  · subst same
    rw [own]
    cases d (.subOrder y) <;> simp
  · rw [others y same]
    cases d (.subOrder y) <;> simp [same]

section
variable {s : Store (Table Row) Mark} {w : View (Table Row) Mark}

/-- The sub-order a receipt closes was delivered, and nothing else about the sub-orders changes. -/
theorem ReturnEffect.subOrders (effect : ReturnEffect s w) (fulfilled : Fulfilled s.rows) :
    (∀ x, w.rows (.subOrder x) = s.rows (.subOrder x)) ∨
      ∃ r row lines sub, s.rows (.returnRequest r) = some row ∧ .returnRestocked r lines ∈ w.log ∧
        completesReturn s.rows r row.subOrder ∧ s.rows (.subOrder row.subOrder) = some sub ∧
        (sub.status = .delivered ∨ sub.status = .returned) ∧
        w.rows (.subOrder row.subOrder) = some { sub with status := .returned } ∧
        ∀ x, x ≠ row.subOrder → w.rows (.subOrder x) = s.rows (.subOrder x) := by
  rcases effect.closed with same | ⟨r, row, lines, stands, marked, complete, own, others⟩
  · exact Or.inl same
  · obtain ⟨sub, found, status⟩ := fulfilled.returned r row stands
    rw [found, Option.map_some] at own
    exact Or.inr ⟨r, row, lines, sub, stands, marked, complete, found, status, own, others⟩

theorem ReturnEffect.fulfilled (effect : ReturnEffect s w) (fulfilled : Fulfilled s.rows) : Fulfilled w.rows := by
  have list : ∀ o, w.rows (.subOrdersOf o) = s.rows (.subOrdersOf o) := fun o =>
    effect.kept (.subOrdersOf o) trivial fun _ => nofun
  have rows : ∀ x row, s.rows (.subOrder x) = some row → w.rows (.subOrder x) = some row ∨
      (row.status = .delivered ∨ row.status = .returned) ∧ w.rows (.subOrder x) = some { row with status := .returned } := by
    intro x row there
    rcases effect.subOrders fulfilled with same | ⟨r, request, lines, sub, _, _, _, found, status, own, others⟩
    · exact Or.inl ((same x).trans there)
    · by_cases mine : x = request.subOrder
      · subst mine
        obtain rfl := Option.some.inj (found.symm.trans there)
        exact Or.inr ⟨status, own⟩
      · exact Or.inl ((others x mine).trans there)
  refine ⟨⟨fun o x member => ?_, fun o missing => ?_⟩, fun o q member => ?_, fun r row stands => ?_⟩
  · rw [list] at member
    obtain ⟨row, there, owner⟩ := fulfilled.ordered.listed o x member
    rcases rows x row there with same | ⟨_, closed⟩
    · exact ⟨row, same, owner⟩
    · exact ⟨_, closed, owner⟩
  · rw [effect.kept (.order o) trivial fun _ => nofun] at missing
    rw [list]
    exact fulfilled.ordered.fresh o missing
  · obtain ⟨inside, there⟩ := mem_subOrdersOf member
    rw [list] at inside
    obtain ⟨row, before, _⟩ := fulfilled.ordered.listed o q.1 inside
    have filed : (q.1, row) ∈ subOrdersOf s.rows o := List.mem_filterMap.mpr ⟨q.1, inside, by rw [before]; rfl⟩
    have dated := fulfilled.dated o _ filed
    rcases rows q.1 row before with same | ⟨status, closed⟩
    · obtain rfl := Option.some.inj (same.symm.trans there)
      exact dated
    · obtain same := Option.some.inj (closed.symm.trans there)
      rw [← same]
      exact iff_of_true (dated.mpr status) (Or.inr rfl)
  · have later : ∀ x sub, s.rows (.subOrder x) = some sub → sub.status = .delivered ∨ sub.status = .returned →
        ∃ sub, w.rows (.subOrder x) = some sub ∧ (sub.status = .delivered ∨ sub.status = .returned) := by
      intro x sub there status
      rcases rows x sub there with same | ⟨_, closed⟩
      · exact ⟨sub, same, status⟩
      · exact ⟨_, closed, Or.inr rfl⟩
    rcases effect.requests r row stands with ⟨before, there, same⟩ | ⟨sub, there, delivered⟩
    · obtain ⟨sub, found, status⟩ := fulfilled.returned r before there
      exact later _ _ (same ▸ found) status
    · exact later _ _ there (Or.inl delivered)

theorem OrderEffect.fulfilled (effect : OrderEffect s w) (fulfilled : Fulfilled s.rows) : Fulfilled w.rows := by
  cases effect with
  | aside kept silent =>
    have subs : ∀ o, subOrdersOf w.rows o = subOrdersOf s.rows o := fun o =>
      subOrdersOf_congr (kept (.subOrdersOf o) trivial) fun x _ => kept (.subOrder x) trivial
    refine ⟨fulfilled.ordered.congr fun k bill => kept k bill.ledger, fun o q member => ?_, fun r row stands => ?_⟩
    · rw [subs] at member
      exact fulfilled.dated o q member
    · rw [kept (.returnRequest r) trivial] at stands
      rw [kept (.subOrder row.subOrder) trivial]
      exact fulfilled.returned r row stands
  | moved moving stands done log silent about left =>
    refine ⟨moving.ordered done fulfilled.ordered, fun o q member => ?_, fun r row there => ?_⟩
    · rw [done.subOrders, moving.subOrders] at member
      obtain ⟨p, inside, rfl⟩ := List.mem_map.mp member
      have dated := fulfilled.dated o p inside
      rcases moving.advanced inside with same | ⟨status, deliveredAt, advances, same⟩
      · rw [same]
        exact dated
      · have waiting : p.2.deliveredAt = none := by
          by_contra was
          exact (dated.mp was).elim advances.open_.1 advances.open_.2
        rw [same]
        have reached := advances.dated
        rw [waiting] at reached
        simp only [SubOrder.WasDelivered, ne_eq, ← Option.not_isSome_iff_eq_none, not_not, reached, Option.isSome_none,
          Bool.false_eq_true, or_false, advances.unreturned]
    · rw [moving.rest done (k := .returnRequest r) trivial (fun _ => nofun) nofun nofun] at there
      obtain ⟨sub, found, status⟩ := fulfilled.returned r row there
      refine ⟨sub, ?_, status⟩
      rw [done.rest (.subOrder row.subOrder) trivial nofun nofun]
      rcases moving.moved row.subOrder with same | ⟨row', _, _, before, _, advances, _⟩
      · rw [same, found]
      · obtain rfl := Option.some.inj (found.symm.trans before)
        exact absurd status (not_or.mpr advances.open_)
  | placed placed =>
    rename_i distance call address items quote
    have fresh := fulfilled.ordered.fresh call.orderId placed.free
    refine ⟨placed.ordered fulfilled.ordered, fun o q member => ?_, fun r row stands => ?_⟩
    · by_cases own : o = call.orderId
      · subst own
        rw [placed.subOrders fresh] at member
        obtain ⟨plan, _, rfl⟩ := List.mem_map.mp member
        simp [SubOrder.WasDelivered, newSubOrder]
      · rw [placed.other fulfilled.ordered own] at member
        exact fulfilled.dated o q member
    · rw [placed.rest (k := .returnRequest r) trivial nofun nofun nofun (fun _ => nofun) id] at stands
      obtain ⟨sub, found, status⟩ := fulfilled.returned r row stands
      exact ⟨sub, placed.kept found, status⟩

end

theorem Unused.fulfilled {d : Db} (unused : Unused d) : Fulfilled d := by
  obtain ⟨none_, closed⟩ := unused
  refine ⟨none_.ordered, fun o q member => ?_, fun r row stands => nomatch (closed r).symm.trans stands⟩
  have inside := (mem_subOrdersOf member).1
  rw [(none_ o).2] at inside
  cases inside

/-- Each order has the status its sub-orders give. -/
structure Mastered (d : Db) : Prop where
  fulfilled : Fulfilled d
  status : ∀ o order, d (.order o) = some order → order.status = deriveMasterStatus (statusesOf d o)

/-- Each cash order that is concluded is paid for. -/
structure Collected (d : Db) : Prop where
  fulfilled : Fulfilled d
  cash : ∀ o order, d (.order o) = some order → ∃ payment, d (.payment o) = some payment ∧
    (payment.method = .cod → (payment.status = .pending ∨ payment.status = .completed) ∧
      (Concluded d o → payment.status = .completed))

theorem statusesOf_congr {d e : Db} {o : Id} (same : subOrdersOf e o = subOrdersOf d o) : statusesOf e o = statusesOf d o := by
  rw [statusesOf, same, statusesOf]

theorem Concluded.congr {d e : Db} {o : Id} (same : subOrdersOf e o = subOrdersOf d o) (concluded : Concluded e o) :
    Concluded d o := by
  unfold Concluded at concluded
  rwa [same] at concluded

section
variable {s : Store (Table Row) Mark} {w : View (Table Row) Mark}

theorem OrderEffect.mastered (effect : OrderEffect s w) (mastered : Mastered s.rows) : Mastered w.rows := by
  refine ⟨effect.fulfilled mastered.fulfilled, ?_⟩
  have ordered := mastered.fulfilled.ordered
  intro i order stands
  cases effect with
  | aside kept silent =>
    rw [kept (.order i) trivial] at stands
    rw [mastered.status i order stands]
    refine congrArg _ (statusesOf_congr ?_).symm
    exact subOrdersOf_congr (kept (.subOrdersOf i) trivial) fun x _ => kept (.subOrder x) trivial
  | @moved o _ _ _ _ _ moving there done log silent about left =>
    by_cases own : i = o
    · subst own
      obtain rfl := Option.some.inj (done.written.symm.trans stands)
      rw [statusesOf_congr (done.subOrders i)]
      simp only [recomputedOrder, loadSiblings_eq]
      rfl
    · rw [moving.rest done (k := .order i) trivial (fun _ => nofun) (by simpa using own) nofun] at stands
      rw [statusesOf_congr (moving.others done ordered own)]
      exact mastered.status i order stands
  | @placed distance call address items quote placed =>
    by_cases own : i = call.orderId
    · subst own
      obtain rfl := Option.some.inj (placed.order.symm.trans stands)
      have fresh := ordered.fresh call.orderId placed.free
      have pending : ∀ status ∈ statusesOf w.rows call.orderId, status = .pending := by
        intro status member
        rw [statusesOf, placed.subOrders fresh, List.map_map] at member
        obtain ⟨plan, _, rfl⟩ := List.mem_map.mp member
        rfl
      have some_ : .pending ∈ statusesOf w.rows call.orderId := by
        obtain ⟨plan, rest, plans⟩ := List.exists_cons_of_ne_nil (placed.quoted.nonempty placed.bought)
        rw [statusesOf, placed.subOrders fresh, plans]
        exact List.mem_cons_self
      have least : ((statusesOf w.rows call.orderId).filterMap progress).min? = some 0 := by
        apply List.min?_eq_some_iff.mpr
        exact ⟨List.mem_filterMap.mpr ⟨.pending, some_, rfl⟩, fun _ _ => Nat.zero_le _⟩
      exact (deriveMasterStatus_of_min (by omega) least).symm
    · rw [placed.rest (k := .order i) trivial (by simpa using own) nofun nofun (fun _ => nofun) id] at stands
      rw [statusesOf_congr (placed.other ordered own)]
      exact mastered.status i order stands

/-- A receipt leaves the status of an order as its sub-orders give it, if others are left. -/
theorem ReturnEffect.mastered (effect : ReturnEffect s w) (mastered : Mastered s.rows) (admitted : ReceiptsLeaveOthers s w.log) :
    Mastered w.rows := by
  refine ⟨effect.fulfilled mastered.fulfilled, ?_⟩
  have ordered := mastered.fulfilled.ordered
  intro o order stands
  rw [effect.kept (.order o) trivial fun _ => nofun] at stands
  rw [mastered.status o order stands]
  have list := effect.kept (.subOrdersOf o) trivial fun _ => nofun
  rcases effect.subOrders mastered.fulfilled with same | ⟨r, row, lines, sub, requested, marked, complete, found, status, own, others⟩
  · exact congrArg _ (statusesOf_congr (subOrdersOf_congr list fun x _ => same x)).symm
  have shown : subOrdersOf w.rows o = (subOrdersOf s.rows o).map fun p =>
      if p.1 = row.subOrder then (p.1, { p.2 with status := .returned }) else p :=
    subOrdersOf_map list (by rw [own, found, Option.map_some]) others
  have closing : ∀ p ∈ subOrdersOf s.rows o, p.1 = row.subOrder → p.2 = sub := by
    intro p member same
    have there := (mem_subOrdersOf member).2
    rw [same, found] at there
    exact (Option.some.inj there).symm
  rcases status with delivered | closed
  · by_cases inside : ∃ p ∈ subOrdersOf s.rows o, p.1 = row.subOrder
    · -- the order loses a delivered sub-order, which was not behind any other
      obtain ⟨p, member, same⟩ := inside
      obtain ⟨listed, _⟩ := mem_subOrdersOf member
      rw [same] at listed
      obtain ⟨sub', there, owner⟩ := ordered.listed o _ listed
      obtain rfl := Option.some.inj (found.symm.trans there)
      obtain ⟨other, left, apart, active, unreturned⟩ :=
        admitted _ marked r rfl row requested complete sub found delivered
      rw [owner] at left
      symm
      apply deriveMasterStatus_congr
      · refine ⟨other.2.status, ?_, ?_⟩
        · rw [statusesOf, shown, List.map_map]
          exact List.mem_map.mpr ⟨other, left, by simp [apart]⟩
        · cases status : other.2.status <;> simp_all [progress]
      · intro status after going
        rw [statusesOf, shown, List.map_map] at after
        obtain ⟨q, before, rfl⟩ := List.mem_map.mp after
        by_cases mine : q.1 = row.subOrder
        · simp [mine, progress] at going
        · simp only [Function.comp_apply, mine, if_false]
          exact List.mem_map.mpr ⟨q, before, rfl⟩
      · intro status before
        obtain ⟨q, there, rfl⟩ := List.mem_map.mp before
        by_cases mine : q.1 = row.subOrder
        · rw [closing q there mine]
          exact Or.inr (Or.inl delivered)
        · left
          rw [statusesOf, shown, List.map_map]
          exact List.mem_map.mpr ⟨q, there, by simp [mine]⟩
    · have same : ∀ p ∈ subOrdersOf s.rows o,
          (if p.1 = row.subOrder then (p.1, { p.2 with status := .returned }) else p) = p := fun p member =>
        if_neg fun mine => inside ⟨p, member, mine⟩
      refine congrArg _ (statusesOf_congr (shown.trans ?_)).symm
      exact (List.map_congr_left same).trans (List.map_id' _)
  · have same : ∀ p ∈ subOrdersOf s.rows o,
        (if p.1 = row.subOrder then (p.1, { p.2 with status := .returned }) else p) = p := by
      intro p member
      split
      · rename_i mine
        rw [← closed, ← closing p member mine]
      · rfl
    refine congrArg _ (statusesOf_congr (shown.trans ?_)).symm
    exact (List.map_congr_left same).trans (List.map_id' _)

/-- A recompute of an order that is concluded finds a delivery, so it collects. -/
theorem Moving.collects {o : Id} {order : Order} {leaves : Id × SubOrder → Bool} {v : View (Table Row) Mark}
    (moving : Moving s o v) (done : Recomputed o order v.rows w.rows) (fulfilled : Fulfilled w.rows)
    (left : ∀ q ∈ activeSubOrders s.rows o, leaves q ↔ (shift v.rows q).2.status = .cancelled)
    (unreturned : staying s.rows o leaves ≠ [] → ∃ q ∈ staying s.rows o leaves, q.2.status ≠ .returned)
    (concluded : Concluded w.rows o) : deriveMasterStatus (loadSiblings v.rows o).statuses = .delivered := by
  have shown : subOrdersOf w.rows o = (subOrdersOf s.rows o).map (shift v.rows) :=
    (done.subOrders o).trans (moving.subOrders o)
  have statuses : (loadSiblings v.rows o).statuses = statusesOf w.rows o := by
    rw [statusesOf_congr (done.subOrders o), loadSiblings_eq]
    rfl
  obtain ⟨over_, last, there, was⟩ := concluded
  have ends : ∀ q ∈ subOrdersOf w.rows o, q.2.status = .cancelled ∨ q.2.status = .delivered ∨ q.2.status = .returned :=
    fun q member => (over_ q member).imp_right (fulfilled.dated o q member).mp
  rw [statuses]
  apply deriveMasterStatus_delivered
  · by_contra none_
    -- then what stays active is returned, and so was before
    have back : ∀ p ∈ subOrdersOf s.rows o, (shift v.rows p).2.status ≠ .cancelled → p.2.status = .returned := by
      intro p member active
      have inside : shift v.rows p ∈ subOrdersOf w.rows o := shown ▸ List.mem_map_of_mem member
      rcases ends _ inside with cancelled | delivered | returned
      · exact absurd cancelled active
      · exact absurd (List.mem_map.mpr ⟨_, inside, delivered⟩) none_
      · rcases moving.advanced member with same | ⟨status, deliveredAt, advances, same⟩
        · rw [← same]
          exact returned
        · rw [same] at returned
          exact absurd returned advances.unreturned
    have stays : ∀ p ∈ subOrdersOf s.rows o, (shift v.rows p).2.status ≠ .cancelled → p ∈ staying s.rows o leaves := by
      intro p member active
      have before : p ∈ activeSubOrders s.rows o := by
        refine List.mem_filter.mpr ⟨member, ?_⟩
        simp [back p member active]
      refine List.mem_filter.mpr ⟨before, ?_⟩
      simpa using fun leave => active ((left p before).mp leave)
    rw [shown] at there
    obtain ⟨p, member, rfl⟩ := List.mem_map.mp there
    have active : (shift v.rows p).2.status ≠ .cancelled := by
      intro cancelled
      have dated := (fulfilled.dated o _ (shown ▸ List.mem_map_of_mem member)).mp was
      rw [cancelled] at dated
      simp at dated
    obtain ⟨q, staying_, unreturned⟩ := unreturned (List.ne_nil_of_mem (stays p member active))
    obtain ⟨before, stay⟩ := List.mem_filter.mp staying_
    refine unreturned (back q (mem_active before).1 fun cancelled => ?_)
    simp [(left q before).mpr cancelled] at stay
  · intro status member
    obtain ⟨q, inside, rfl⟩ := List.mem_map.mp member
    exact ends q inside

theorem OrderEffect.collected (effect : OrderEffect s w) (collected : Collected s.rows)
    (admitted : RecomputesFindUnreturned s w.log) : Collected w.rows := by
  have fulfilled := effect.fulfilled collected.fulfilled
  refine ⟨fulfilled, ?_⟩
  have ordered := collected.fulfilled.ordered
  intro i order stands
  cases effect with
  | aside kept silent =>
    rw [kept (.order i) trivial] at stands
    rw [kept (.payment i) trivial]
    obtain ⟨payment, paid, cash⟩ := collected.cash i order stands
    refine ⟨payment, paid, fun cod => ⟨(cash cod).1, fun concluded => (cash cod).2 (concluded.congr ?_)⟩⟩
    exact subOrdersOf_congr (kept (.subOrdersOf i) trivial) fun x _ => kept (.subOrder x) trivial
  | @moved o _ leaves _ marks e moving there done log silent about left =>
    by_cases own : i = o
    · subst own
      obtain ⟨payment, paid, cash⟩ := collected.cash i _ there
      have before := moving.same (.payment i) trivial fun _ => nofun
      rw [paid] at before
      obtain ⟨after, now, charged⟩ := done.charged payment before
      refine ⟨after, now, fun cod => ?_⟩
      have method : payment.method = .cod := charged.method ▸ cod
      have status := charged.collected method
      obtain ⟨known, _⟩ := cash method
      have unreturned := admitted e (by rw [log]; exact List.mem_append_right _ List.mem_cons_self) _ about
        (by rw [paid]; simpa using method)
      rcases known with pending | completed
      · refine ⟨?_, fun concluded => ?_⟩
        · rw [status, pending]
          split <;> simp
        · rw [status, if_pos ⟨moving.collects done fulfilled left unreturned concluded, pending⟩]
      · have still : after.status = .completed := by
          rw [status, completed, if_neg (by simp)]
        exact ⟨Or.inr still, fun _ => still⟩
    · rw [moving.rest done (k := .order i) trivial (fun _ => nofun) (by simpa using own) nofun] at stands
      rw [moving.rest done (k := .payment i) trivial (fun _ => nofun) nofun (by simpa using own)]
      obtain ⟨payment, paid, cash⟩ := collected.cash i order stands
      exact ⟨payment, paid, fun cod =>
        ⟨(cash cod).1, fun concluded => (cash cod).2 (concluded.congr (moving.others done ordered own))⟩⟩
  | @placed distance call address items quote placed =>
    by_cases own : i = call.orderId
    · subst own
      refine ⟨_, placed.payment, fun _ => ⟨Or.inl rfl, fun concluded => ?_⟩⟩
      obtain ⟨_, q, member, was⟩ := concluded
      rw [placed.subOrders (ordered.fresh call.orderId placed.free)] at member
      obtain ⟨plan, _, rfl⟩ := List.mem_map.mp member
      exact absurd rfl was
    · rw [placed.rest (k := .order i) trivial (by simpa using own) nofun nofun (fun _ => nofun) id] at stands
      rw [placed.rest (k := .payment i) trivial nofun (by simpa using own) nofun (fun _ => nofun) id]
      obtain ⟨payment, paid, cash⟩ := collected.cash i order stands
      exact ⟨payment, paid, fun cod =>
        ⟨(cash cod).1, fun concluded => (cash cod).2 (concluded.congr (placed.other ordered own))⟩⟩

/-- A receipt concludes no order that was not concluded. -/
theorem ReturnEffect.collected (effect : ReturnEffect s w) (collected : Collected s.rows) : Collected w.rows := by
  have fulfilled := collected.fulfilled
  refine ⟨effect.fulfilled fulfilled, fun o order stands => ?_⟩
  rw [effect.kept (.order o) trivial fun _ => nofun] at stands
  rw [effect.kept (.payment o) trivial fun _ => nofun]
  obtain ⟨payment, paid, cash⟩ := collected.cash o order stands
  refine ⟨payment, paid, fun cod => ⟨(cash cod).1, fun concluded => (cash cod).2 ?_⟩⟩
  have list := effect.kept (.subOrdersOf o) trivial fun _ => nofun
  rcases effect.subOrders fulfilled with same | ⟨r, row, lines, sub, _, _, _, found, status, own, others⟩
  · exact concluded.congr (subOrdersOf_congr list fun x _ => same x)
  have shown : subOrdersOf w.rows o = (subOrdersOf s.rows o).map fun p =>
      if p.1 = row.subOrder then (p.1, { p.2 with status := .returned }) else p :=
    subOrdersOf_map list (by rw [own, found, Option.map_some]) others
  obtain ⟨over_, last, there, was⟩ := concluded
  refine ⟨fun p member => ?_, ?_⟩
  · by_cases mine : p.1 = row.subOrder
    · have stands := (mem_subOrdersOf member).2
      rw [mine, found] at stands
      obtain rfl := Option.some.inj stands
      exact Or.inr ((fulfilled.dated o p member).mpr status)
    · have inside : p ∈ subOrdersOf w.rows o := by
        rw [shown]
        exact List.mem_map.mpr ⟨p, member, if_neg mine⟩
      exact over_ p inside
  · rw [shown] at there
    obtain ⟨p, member, rfl⟩ := List.mem_map.mp there
    refine ⟨p, member, ?_⟩
    split at was <;> exact was

end

theorem fulfilmentRequest_keeps {distance : Distance} {guard : Store (Table Row) Mark → List Mark → Prop} {Inv : Db → Prop}
    (base : ∀ {d}, Inv d → Ordered d)
    (placing : ∀ {s w}, OrderEffect s w → Inv s.rows → guard s w.log → Inv w.rows)
    (returning : ∀ {s w}, ReturnEffect s w → Inv s.rows → guard s w.log → Inv w.rows) {r : Request}
    (op : FulfilmentRequest distance r) :
    r.All fun _ body => body.KeepsAlone guard (fun s => Inv s.rows) fun _ _ => True := by
  have returned : ∀ {α : Type} {body : Action α}, Returns body → body.KeepsAlone guard (fun s => Inv s.rows) fun _ _ => True :=
    fun returns s inv => wp_mono _ (returns s) (fun _ _ effect admitted => ⟨returning effect inv admitted, trivial⟩) fun _ e => e
  rcases op with ⟨call, rest⟩ | ⟨op, rest⟩ | elsewhere
  · refine ((orderCall_effects distance call).rest rest).mono fun _ _ effects s inv => ?_
    exact wp_mono _ (effects s (base inv)) (fun _ _ effect admitted => ⟨placing effect inv admitted, trivial⟩) fun _ e => e
  · exact ((returnOperation_returns op).rest rest).mono fun _ _ returns => returned returns
  · exact elsewhere.mono fun _ _ within => returned (returns_of_within within)

/-- In every run whose receipts leave other sub-orders, each order has the status its sub-orders give. -/
theorem master_status_derived {distance : Distance} {d₀ : Db} {s : Store (Table Row) Mark} {o : Id} {order : Order}
    (unused : Unused d₀) (run : Serial (FulfilmentRequest distance) ReceiptsLeaveOthers ⟨d₀, []⟩ s)
    (stands : s.rows (.order o) = some order) : order.status = deriveMasterStatus (statusesOf s.rows o) := by
  have start : Mastered d₀ := ⟨unused.fulfilled, fun i _ there => nomatch (unused.1 i).1.symm.trans there⟩
  have kept := alone_safe (fun _ => trivial) (fun _ _ => trivial)
    (fun _ op => fulfilmentRequest_keeps (fun mastered : Mastered _ => mastered.fulfilled.ordered)
      (fun effect mastered _ => effect.mastered mastered) (fun effect mastered => effect.mastered mastered) op) run start
  exact kept.1.status o order stands

/-- In every run whose recomputes find something unreturned, each cash order that is concluded is paid for. -/
theorem concluded_order_collected {distance : Distance} {d₀ : Db} {s : Store (Table Row) Mark} {o : Id} {order : Order}
    (unused : Unused d₀) (run : Serial (FulfilmentRequest distance) RecomputesFindUnreturned ⟨d₀, []⟩ s)
    (stands : s.rows (.order o) = some order) (concluded : Concluded s.rows o) :
    ∃ payment, s.rows (.payment o) = some payment ∧ (payment.method = .cod → payment.status = .completed) := by
  have start : Collected d₀ := ⟨unused.fulfilled, fun i _ there => nomatch (unused.1 i).1.symm.trans there⟩
  have kept := alone_safe (fun _ => trivial) (fun _ _ => trivial)
    (fun _ op => fulfilmentRequest_keeps (fun collected : Collected _ => collected.fulfilled.ordered)
      (fun effect collected => effect.collected collected) (fun effect collected _ => effect.collected collected) op) run start
  obtain ⟨payment, paid, cash⟩ := kept.1.cash o order stands
  exact ⟨payment, paid, fun cod => (cash cod).2 concluded⟩

/-- One product of each of two shops in the cart of customer 3. -/
def twoStalls : Db
  | .shop 7 => some ⟨70, "", none, none, false, .active, none⟩
  | .shop 8 => some ⟨80, "", none, none, false, .active, none⟩
  | .product 5 => some ⟨7, "", 100000, none, 10, false, false, .active⟩
  | .product 6 => some ⟨8, "", 200000, none, 10, false, false, .active⟩
  | .address 30 => some ⟨3, "", none, none, "", ""⟩
  | .cartOf 3 => some [300, 301]
  | .cartItem 300 => some ⟨3, none, 5, 1, 0⟩
  | .cartItem 301 => some ⟨3, none, 6, 1, 0⟩
  | _ => none

theorem twoStalls_unused : Unused twoStalls := ⟨fun _ => ⟨rfl, rfl⟩, fun _ => rfl⟩

def cashCall : CheckoutCall where
  userId := 3
  dto := ⟨30, .cod, none, []⟩
  idempotencyKey := "1f0c1f5e-6f6b-4a56-b6c8-0c3b8c3f5a10"
  now := 1000
  orderId := 1
  orderNumber := "ORD-1"
  subOrderId n := 10 + n
  orderItemId n m := 100 + 10 * n + m

abbrev Fulfilment := OrderCall ⊕ ReturnOperation

def Fulfilment.request : Fulfilment → Request
  | .inl call => call.request fun _ _ => 1
  | .inr op => op.request

def delivery (seller subOrder : Id) : List Fulfilment :=
  [.processing, .shipping, .delivered].map fun new => .inl (.cancellation (.bySeller seller subOrder new 2000))

/-- The only piece of an item goes back. -/
def wayBack (seller subOrder item request : Id) : List Fulfilment :=
  [.inr (.create ⟨3, ⟨subOrder, .damaged, "", [⟨item, 1⟩]⟩, 3000, request, fun n => 10 * request + n⟩),
    .inr (.approve seller request 3000), .inr (.receive seller request 3000)]

def placeBoth (after : List Fulfilment) : List Request :=
  (.inl (.checkout cashCall) :: after).map Fulfilment.request

theorem placeBoth_serial (after : List Fulfilment) (guard : Store (Table Row) Mark → List Mark → Prop)
    (obeys : ObeysAll guard ⟨twoStalls, []⟩ (placeBoth after)) :
    Serial (FulfilmentRequest fun _ _ => 1) guard ⟨twoStalls, []⟩ (runAll ⟨twoStalls, []⟩ (placeBoth after)) := by
  refine runAll_serial (fun r member => ?_) obeys
  obtain ⟨request, _, rfl⟩ := List.mem_map.mp member
  cases request with
  | inl call => exact Or.inl ⟨call, .whole⟩
  | inr op => exact Or.inr (Or.inl ⟨op, .whole⟩)

/-- Both sub-orders delivered and the first one back. -/
def oneBack : List Fulfilment := delivery 70 10 ++ delivery 80 11 ++ wayBack 70 10 100 900

set_option maxRecDepth 4000 in
theorem oneBack_status : ∃ s order, Serial (FulfilmentRequest fun _ _ => 1) ReceiptsLeaveOthers ⟨twoStalls, []⟩ s ∧
    s.rows (.order 1) = some order ∧ statusesOf s.rows 1 = [.returned, .delivered] ∧
      order.status = deriveMasterStatus (statusesOf s.rows 1) := by
  have run := placeBoth_serial oneBack ReceiptsLeaveOthers (by decide +kernel)
  have shown : ((runAll ⟨twoStalls, []⟩ (placeBoth oneBack)).rows (.order 1)).isSome ∧
      statusesOf (runAll ⟨twoStalls, []⟩ (placeBoth oneBack)).rows 1 = [.returned, .delivered] := by decide +kernel
  obtain ⟨order, stands⟩ := Option.isSome_iff_exists.mp shown.1
  exact ⟨_, order, run, stands, shown.2, master_status_derived twoStalls_unused run stands⟩

set_option maxRecDepth 4000 in
/-- The second sub-order comes back as well, and the order stays delivered. -/
theorem not_master_status_derived : ¬ ∀ (distance : Distance) (d₀ : Db) (s : Store (Table Row) Mark) (o : Id) (order : Order),
    Unused d₀ → Serial (FulfilmentRequest distance) (fun _ _ => True) ⟨d₀, []⟩ s → s.rows (.order o) = some order →
    order.status = deriveMasterStatus (statusesOf s.rows o) := by
  intro claimed
  have run := placeBoth_serial (oneBack ++ wayBack 80 11 110 901) (fun _ _ => True) (by decide +kernel)
  have shown : ((runAll ⟨twoStalls, []⟩ (placeBoth (oneBack ++ wayBack 80 11 110 901))).rows (.order 1)).any fun order =>
      order.status ≠ deriveMasterStatus
        (statusesOf (runAll ⟨twoStalls, []⟩ (placeBoth (oneBack ++ wayBack 80 11 110 901))).rows 1) := by decide +kernel
  obtain ⟨order, stands, differs⟩ := (Option.any_eq_true _ _).mp shown
  exact of_decide_eq_true differs (claimed _ twoStalls _ 1 order twoStalls_unused run stands)

def cancelSecond : Fulfilment := .inl (.cancellation (.byCustomer 3 11 4000))

set_option maxRecDepth 4000 in
theorem cancelSecond_collected : ∃ s order payment,
    Serial (FulfilmentRequest fun _ _ => 1) RecomputesFindUnreturned ⟨twoStalls, []⟩ s ∧ s.rows (.order 1) = some order ∧
      Concluded s.rows 1 ∧ s.rows (.payment 1) = some payment ∧ (payment.method = .cod → payment.status = .completed) := by
  have run := placeBoth_serial (delivery 70 10 ++ [cancelSecond]) RecomputesFindUnreturned (by decide +kernel)
  have shown : ((runAll ⟨twoStalls, []⟩ (placeBoth (delivery 70 10 ++ [cancelSecond]))).rows (.order 1)).isSome := by
    decide +kernel
  have concluded : Concluded (runAll ⟨twoStalls, []⟩ (placeBoth (delivery 70 10 ++ [cancelSecond]))).rows 1 := by
    decide +kernel
  obtain ⟨order, stands⟩ := Option.isSome_iff_exists.mp shown
  obtain ⟨payment, paid, completed⟩ := concluded_order_collected twoStalls_unused run stands concluded
  exact ⟨_, order, payment, run, stands, concluded, paid, completed⟩

set_option maxRecDepth 4000 in
/-- The first sub-order is delivered and comes back, then the second is cancelled: nothing collects the payment. -/
theorem not_concluded_order_collected : ¬ ∀ (distance : Distance) (d₀ : Db) (s : Store (Table Row) Mark) (o : Id)
    (order : Order), Unused d₀ → Serial (FulfilmentRequest distance) (fun _ _ => True) ⟨d₀, []⟩ s →
    s.rows (.order o) = some order → Concluded s.rows o →
    ∃ payment, s.rows (.payment o) = some payment ∧ (payment.method = .cod → payment.status = .completed) := by
  intro claimed
  have run := placeBoth_serial (delivery 70 10 ++ wayBack 70 10 100 900 ++ [cancelSecond]) (fun _ _ => True) (by decide +kernel)
  have shown : ((runAll ⟨twoStalls, []⟩ (placeBoth (delivery 70 10 ++ wayBack 70 10 100 900 ++ [cancelSecond]))).rows
      (.order 1)).isSome := by decide +kernel
  have concluded : Concluded
      (runAll ⟨twoStalls, []⟩ (placeBoth (delivery 70 10 ++ wayBack 70 10 100 900 ++ [cancelSecond]))).rows 1 := by decide +kernel
  have unpaid : ((runAll ⟨twoStalls, []⟩ (placeBoth (delivery 70 10 ++ wayBack 70 10 100 900 ++ [cancelSecond]))).rows
      (.payment 1)).all fun payment => payment.method = .cod ∧ payment.status = .pending := by decide +kernel
  obtain ⟨order, stands⟩ := Option.isSome_iff_exists.mp shown
  obtain ⟨payment, paid, completed⟩ := claimed _ twoStalls _ 1 order twoStalls_unused run stands concluded
  rw [paid] at unpaid
  obtain ⟨cod, pending⟩ := of_decide_eq_true unpaid
  cases (completed cod).symm.trans pending

end Marketplace
