import Marketplace.Orders.Idempotency
import Marketplace.Orders.Placement
import Marketplace.ReadCommitted.Invariant

/-! What a checkout removes from a cart is in its order. -/
namespace Marketplace
open ReadCommitted ReadCommitted.Tx

def cartLines (rows : List (Id × CartItem)) : List StockLine := rows.map fun r => ⟨r.2.product, r.2.variant, r.2.quantity⟩

/-- The rows of a user's cart that are gone by `t`. -/
def removedRows (s t : Db) (user : Id) : List (Id × CartItem) :=
  (cartRows s user).filter fun r => (t (.cartItem r.1)).isNone

/-- A checkout of the commit puts what it removes from the cart into its order. -/
def CartOrdered (s : Store (Table Row) Mark) (log : List Mark) (t : Store (Table Row) Mark) : Prop :=
  ∀ user lines order coupon, .stockTaken user lines ∈ log → .orderPlaced order coupon ∈ log →
    (cartLines (removedRows s.rows t.rows user)).Subperm (orderedLines t.rows order)

/-- The cart holds a row that was not read. -/
def Mark.cartChanged (s : Store (Table Row) Mark) : Mark → Bool
  | .stockTaken user lines => !decide ((cartLines (cartRows s.rows user)).Subperm lines)
  | _ => false

/-- No row of the cart was added or changed since the checkout read it. -/
def CartStands (s : Store (Table Row) Mark) (log : List Mark) : Prop := ∀ e ∈ log, e.cartChanged s = false

instance (s : Store (Table Row) Mark) (log : List Mark) : Decidable (CartStands s log) :=
  inferInstanceAs (Decidable (∀ e ∈ log, e.cartChanged s = false))

inductive CartCall where
  | addItem (user : Id) (dto : CartLineDto) (newId : Id) (now : Time)
  | updateItemQuantity (user itemId : Id) (quantity : Nat)
  | removeItem (user itemId : Id)
  | mergeCart (user : Id) (items : List CartLineDto) (newIds : List Id) (now : Time)
  | checkout (call : CheckoutCall)

def CartCall.request (distance : Distance) : CartCall → Request
  | .addItem user dto newId now => single (Marketplace.addItem user dto newId now) fun _ => .done
  | .updateItemQuantity user item quantity => single (Marketplace.updateItemQuantity user item quantity) fun _ => .done
  | .removeItem user item => single (Marketplace.removeItem user item) fun _ => .done
  | .mergeCart user items newIds now => single (Marketplace.mergeCart user items newIds now) fun _ => .done
  | .checkout call => Marketplace.checkout distance call

/-- One call for each thread that makes one. -/
def cartCalls (distance : Distance) (calls : Nat → Option CartCall) (i : Nat) : Request :=
  match calls i with
  | some call => call.request distance
  | none => .done .done

def CartKey : Key → Prop
  | .cartItem _ => True
  | .cartOf _ => True
  | _ => False

section
variable {user : Id}

theorem within_saveCartItem (id : Id) (item : CartItem) : (saveCartItem id item).Within CartKey NoMark := by
  refine within_bind (within_save (k := Key.cartItem id) _ _ trivial) fun _ => within_bind (within_select _) fun _ => ?_
  exact within_given fun _ => (within_modify _ _).mpr trivial

theorem within_insertCartItem (id : Id) (item : CartItem) : (insertCartItem id item).Within CartKey NoMark :=
  within_bind (within_insert _ _ _ trivial) fun _ => (within_modify _ _).mpr trivial

theorem within_validateProductPurchasable {K : Key → Prop} (p : ProductForCart) :
    (validateProductPurchasable p).Within K NoMark :=
  within_bind (within_require _ _) fun _ => within_bind (within_require _ _) fun _ =>
    within_bind (within_require _ _) fun _ => within_require _ _

theorem within_availableStock {K : Key → Prop} (p : ProductForCart) (variant : Option Id) :
    (availableStock p variant).Within K NoMark := by
  unfold availableStock
  apply within_ite
  · exact within_bind (within_orFail _ _) fun _ => within_bind (within_orFail _ _) fun _ => within_pure _
  · exact within_bind (within_require _ _) fun _ => within_pure _

theorem within_addItem (dto : CartLineDto) (newId : Id) (now : Time) : (addItem user dto newId now).Within CartKey NoMark := by
  unfold addItem
  refine within_bind (within_select _) fun _ => within_bind (within_orFail _ _) fun product => ?_
  refine within_bind (within_validateProductPurchasable product) fun _ => within_bind (within_require _ _) fun _ => ?_
  refine within_bind (within_availableStock product _) fun _ => within_bind (within_require _ _) fun _ => ?_
  refine within_bind (within_select _) fun existing => ?_
  cases existing with
  | some row =>
    exact within_bind (within_require _ _) fun _ => within_bind (within_require _ _) fun _ => within_saveCartItem _ _
  | none =>
    refine within_bind (within_require _ _) fun _ => within_bind (within_select _) fun _ => ?_
    exact within_bind (within_require _ _) fun _ => within_insertCartItem _ _

theorem within_mergeLines (dbCartItems : List (Id × CartItem)) (now : Time) (items : List (CartLineDto × Id)) (count : Nat) :
    (mergeLines user dbCartItems now items count).Within CartKey NoMark := by
  induction items generalizing count with
  | nil => exact within_pure ()
  | cons line rest ih =>
    obtain ⟨line, newId⟩ := line
    rw [mergeLines]
    refine within_bind (within_select _) fun found => ?_
    apply within_ite
    · dsimp only
      split
      · exact within_bind (within_saveCartItem _ _) fun _ => ih count
      · apply within_ite
        · exact ih count
        · exact within_bind (within_insertCartItem _ _) fun _ => ih (count + 1)
    · exact ih count

theorem within_findOwnedCartItemOrFail {K : Key → Prop} (itemId : Id) :
    (findOwnedCartItemOrFail user itemId).Within K NoMark :=
  within_bind (within_select _) fun _ => within_orFail _ _

theorem within_updateItemQuantity (itemId : Id) (quantity : Nat) :
    (updateItemQuantity user itemId quantity).Within CartKey NoMark := by
  unfold updateItemQuantity
  refine within_bind (within_findOwnedCartItemOrFail itemId) fun it => within_bind (within_orFail _ _) fun product => ?_
  refine within_bind (within_validateProductPurchasable _) fun _ => within_bind (within_require _ _) fun _ => ?_
  exact within_saveCartItem _ _

theorem within_removeItem (itemId : Id) : (removeItem user itemId).Within CartKey NoMark := by
  unfold removeItem
  exact within_bind (within_findOwnedCartItemOrFail itemId) fun _ =>
    within_bind ((within_modify _ _).mpr trivial) fun _ => (within_modify _ _).mpr trivial

end

theorem orderedLines_congr {d e : Db} {o : Id}
    (same : ∀ k, (ItemKey k ∨ (∃ s, k = .subOrder s) ∨ k = .subOrdersOf o) → e k = d k) :
    orderedLines e o = orderedLines d o := by
  have items : ∀ s, orderItems e s = orderItems d s := by
    intro s
    rw [orderItems, orderItems, same (.itemsOf s) (Or.inl trivial)]
    apply List.filterMap_congr
    intro i _
    exact same (.orderItem i) (Or.inl trivial)
  have subs : subOrdersOf e o = subOrdersOf d o := by
    rw [subOrdersOf, subOrdersOf, same (.subOrdersOf o) (Or.inr (Or.inr rfl))]
    apply List.filterMap_congr
    intro s _
    rw [same (.subOrder s) (Or.inr (Or.inl ⟨s, rfl⟩))]
  simp only [orderedLines, items, subs]

/-- Every line a checkout takes is in the order it places. -/
theorem Placed.lines {distance : Distance} {call : CheckoutCall} {address : Address} {items : List CartLine} {quote : Quote}
    {v w : View (Table Row) Mark} (placed : Placed distance call address items quote v w) :
    (items.map stockLine).Subperm (orderedLines w.rows call.orderId) := by
  obtain ⟨u, t, _, stored, _, after⟩ := placed.stored
  have plans : (quote.plans.flatMap (·.items)).Perm items := by
    rw [plans_items placed.quoted.plans]
    exact groupItemsByShop_perm items
  have same : ∀ k, (ItemKey k ∨ (∃ s, k = .subOrder s) ∨ k = .subOrdersOf call.orderId) → w.rows k = t.rows k := by
    intro k kind
    have aside : ¬ SettledKey k ∧ k ≠ .payment call.orderId := by
      rcases kind with item | ⟨s, rfl⟩ | rfl
      · cases k <;> first | exact item.elim | exact ⟨id, nofun⟩
      · exact ⟨id, nofun⟩
      · exact ⟨id, nofun⟩
    exact after k aside.1 aside.2
  rw [orderedLines_congr same]
  exact (plans.map stockLine).symm.subperm.trans stored.lines.subperm

/-- Transactions that take nothing. -/
theorem steps_of_within {K : Key → Prop} {L : Mark → Prop} {α : Type} {body : Action α} (within : body.Within K L)
    (untaken : ∀ e, L e → ∀ user lines, e ≠ .stockTaken user lines) : body.Steps CartStands CartOrdered := by
  intro h m _
  refine wp_of_within within (fun _ w more _ _ => ?_) fun _ => trivial
  intro user lines order coupon taken _
  obtain ⟨marks, log, marked⟩ := more.log
  rw [log, View.start_log, List.nil_append] at taken
  exact absurd rfl (untaken _ (marked _ taken) user lines)

theorem runCheckoutTransaction_steps (distance : Distance) (call : CheckoutCall) (address : Address) :
    (runCheckoutTransaction distance call address).Steps CartStands CartOrdered := by
  intro h m _
  refine wp_mono _ (wp_runCheckoutTransaction distance call address) (fun _ w done => ?_) fun _ _ => trivial
  obtain ⟨d, _, quote, _, done⟩ := done
  have inside := done.lines
  obtain ⟨marks, settled, log⟩ := done.log
  rw [View.start_log, List.nil_append] at log
  intro _ stands user lines' order coupon' taken placed
  have takes : user = call.userId ∧ lines' = (validItems (loadCart d call.userId)).map stockLine := by
    rw [log] at taken
    rcases List.mem_cons.mp taken with same | later
    · cases same
      exact ⟨rfl, rfl⟩
    · rcases List.mem_cons.mp later with same | late
      · cases same
      · exact (settled _ late).elim
  have places : order = call.orderId := by
    rw [log] at placed
    rcases List.mem_cons.mp placed with same | later
    · cases same
    · rcases List.mem_cons.mp later with same | late
      · cases same
        rfl
      · exact (settled _ late).elim
  obtain ⟨rfl, rfl⟩ := takes
  obtain rfl := places
  have read := stands _ taken
  simp only [Mark.cartChanged, Bool.not_eq_false', decide_eq_true_eq] at read
  have removed : (cartLines (removedRows h.current.rows w.rows call.userId)).Sublist
      (cartLines (cartRows h.current.rows call.userId)) := List.filter_sublist.map _
  exact removed.subperm.trans (read.trans inside)

theorem cartCall_steps (distance : Distance) (call : CartCall) :
    (call.request distance).All fun _ body => body.Steps CartStands CartOrdered := by
  have cart : ∀ {α : Type} {body : Action α} (answer : α → Answer), body.Within CartKey NoMark →
      (single body answer).All fun _ body => body.Steps CartStands CartOrdered := fun answer within =>
    .tx (steps_of_within within fun _ no => no.elim) (fun _ => .done _) fun _ => .done _
  cases call with
  | addItem user dto newId now => exact cart _ (within_addItem dto newId now)
  | updateItemQuantity user item quantity => exact cart _ (within_updateItemQuantity item quantity)
  | removeItem user item => exact cart _ (within_removeItem item)
  | mergeCart user items newIds now =>
    exact cart _ (within_bind (within_select _) fun _ => within_mergeLines _ _ _ _)
  | checkout call =>
    apply checkout_all
    · intro α body within
      apply steps_of_within within
      rintro e kind user lines rfl
      exact kind
    · exact runCheckoutTransaction_steps distance call

/-- At every commit of every run that finds the cart as the checkout read it, what is removed was ordered. -/
theorem removed_rows_ordered {distance : Distance} {calls : Nat → Option CartCall} {fault : Err}
    {s : Store (Table Row) Mark} {c d : Conf (Table Row) Mark Err Answer} {i : Nat} {log : List Mark}
    (run : Moves CartStands fault (Conf.start s (cartCalls distance calls)) c) (next : c.advance i = some d)
    (committing : c.committing i = some log) (stands : CartStands c.store log) : CartOrdered c.store log d.store := by
  have steps : ∀ i, (cartCalls distance calls i).All fun _ body => body.Steps CartStands CartOrdered := by
    intro i
    unfold cartCalls
    cases calls i with
    | none => exact .done _
    | some call => exact cartCall_steps distance call
  exact steps_run steps run next committing stands

/-- A checkout of customer 3, and the quantity in the cart raised from 1 to 4. -/
def raised : Nat → Option CartCall
  | 0 => some (.checkout (orderBy 3 30 1 1000))
  | 1 => some (.updateItemQuantity 3 300 4)
  | _ => none

set_option maxRecDepth 4000 in
/-- Raised before the checkout: all four are ordered. -/
theorem raised_before : ∃ (c d : Conf (Table Row) Mark Err Answer) (log : List Mark), c.committing 0 = some log ∧
    cartLines (removedRows c.store.rows d.store.rows 3) = [⟨5, none, 4⟩] ∧ CartOrdered c.store log d.store := by
  have obeys : (Conf.start ⟨market, []⟩ (cartCalls flat raised)).Obeys CartStands
      (List.replicate 6 1 ++ List.replicate 44 0) := by decide +kernel
  have found : ∃ c ∈ (Conf.start ⟨market, []⟩ (cartCalls flat raised)).play (List.replicate 6 1 ++ List.replicate 44 0),
      ∃ log ∈ c.committing 0, CartStands c.store log ∧ ∃ d ∈ c.advance 0,
        cartLines (removedRows c.store.rows d.store.rows 3) = [⟨5, none, 4⟩] := by decide +kernel
  obtain ⟨c, run, log, committing, stands, d, next, removed⟩ := Conf.exists_moves Err.database obeys found
  exact ⟨c, d, log, committing, removed, removed_rows_ordered run next committing stands⟩

set_option maxRecDepth 4000 in
/-- Raised after the cart was read: four go, one is ordered. -/
theorem not_removed_rows_ordered :
    ¬ ∀ (distance : Distance) (calls : Nat → Option CartCall) (s : Store (Table Row) Mark)
        (c d : Conf (Table Row) Mark Err Answer) (i : Nat) (log : List Mark),
      Moves (fun _ _ => True) .database (Conf.start s (cartCalls distance calls)) c → c.advance i = some d →
      c.committing i = some log → CartOrdered c.store log d.store := by
  intro claimed
  have found : ∃ c ∈ (Conf.start ⟨market, []⟩ (cartCalls flat raised)).play
      (List.replicate 20 0 ++ List.replicate 6 1 ++ List.replicate 24 0),
      ∃ log ∈ c.committing 0, Mark.stockTaken 3 [⟨5, none, 1⟩] ∈ log ∧ Mark.orderPlaced 1 none ∈ log ∧ ∃ d ∈ c.advance 0,
        ¬ (cartLines (removedRows c.store.rows d.store.rows 3)).Subperm (orderedLines d.store.rows 1) := by decide +kernel
  obtain ⟨c, run, log, committing, taken, placed, d, next, lost⟩ := Conf.exists_moves _ (Conf.obeys_any _ _) found
  exact lost (claimed flat raised _ c d 0 log run next committing 3 _ 1 none taken placed)

end Marketplace
