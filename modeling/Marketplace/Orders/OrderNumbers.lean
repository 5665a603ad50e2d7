import Marketplace.Orders.Checkout
import Marketplace.ReadCommitted.Session

/-! Order numbers that clash, and the loop that draws again inside the checkout's transaction. -/
namespace Marketplace.OrderNumbers
open ReadCommitted ReadCommitted.Tx

def ORDER_NUMBER_MAX_RETRIES : ℕ := 5

def UQ_ORDER_NUMBER : String := "UQ_f9180f384353c621e8d0c414c14"

/-- What the attempts draw: a number each, and the id the table gives its row. -/
structure Draws where
  number : ℕ → String
  id : ℕ → Id

def isPgUniqueViolation (error : Err) (constraintName : Option String) : Bool :=
  match error with
  | .uniqueViolation constraint => constraintName.all (constraint = ·)
  | _ => false

/-- The `INSERT` of a new order, with its unique columns in the order of their constraints. -/
def insertOrder (id : Id) (key : String) (order : Order) : Action Unit := do
  insert (.order id) order .database
  insert (.orderByKey key) id (.uniqueViolation UQ_ORDER_IDEMPOTENCY_KEY)
  insert (.orderByNumber order.orderNumber) id (.uniqueViolation UQ_ORDER_NUMBER)

def exhaustedMsg : String := "Không sinh được mã đơn hàng duy nhất sau nhiều lần thử. Vui lòng thử lại"

section
variable (draws : Draws) (key : String) (order : Order)

def orderEntity (attempt : ℕ) : Order :=
  { order with idempotencyKey := some key, orderNumber := draws.number attempt }

/-- The turns of the loop that are left. A save in an open transaction sets no savepoint. -/
def attempts : ℕ → ℕ → Session Row → Except Err (Id × Order) × Session Row
  | 0, _, s => (.error (.internal exhaustedMsg), s)
  | left + 1, attempt, s =>
    match s.statement .database (insertOrder (draws.id attempt) key (orderEntity draws key order attempt)) with
    | (.ok (), s) => (.ok (draws.id attempt, orderEntity draws key order attempt), s)
    | (.error error, s) =>
      if isPgUniqueViolation error (some UQ_ORDER_IDEMPOTENCY_KEY) then (.error error, s)
      else if isPgUniqueViolation error none then attempts left (attempt + 1) s
      else (.error error, s)

def createOrderWithRetry (s : Session Row) : Except Err (Id × Order) × Session Row :=
  attempts draws key order ORDER_NUMBER_MAX_RETRIES 0 s

end

/-- The first of the numbers the loop may draw that no order has. -/
structure FirstFresh (d : Db) (draws : Draws) (attempt : ℕ) : Prop where
  drawn : attempt < ORDER_NUMBER_MAX_RETRIES
  fresh : d (.orderByNumber (draws.number attempt)) = none
  taken : ∀ earlier < attempt, d (.orderByNumber (draws.number earlier)) ≠ none

def withOrder (d : Db) (id : Id) (key : String) (order : Order) : Db :=
  Function.update (Function.update (Function.update d (.order id) (some order)) (.orderByKey key) (some id))
    (.orderByNumber order.orderNumber) (some id)

/-- The order gets the first fresh number, and is the only one that is made. -/
def FirstFreshTaken (d : Db) (draws : Draws) (key : String) (order : Order) : Prop :=
  ∀ attempt, FirstFresh d draws attempt → createOrderWithRetry draws key order ⟨d, false⟩ =
    (.ok (draws.id attempt, orderEntity draws key order attempt),
      ⟨withOrder d (draws.id attempt) key (orderEntity draws key order attempt), false⟩)

variable {d : Db} {draws : Draws} {key : String} {order : Order} {id : Id}

/-- The key is looked at before the number. -/
theorem insertOrder_run (free : d (.order id) = none) :
    (insertOrder id key order).run d [] =
      if d (.orderByKey key) = none then
        if d (.orderByNumber order.orderNumber) = none then .ok ((), withOrder d id key order, [])
        else .error (.uniqueViolation UQ_ORDER_NUMBER)
      else .error (.uniqueViolation UQ_ORDER_IDEMPOTENCY_KEY) := by
  have sameKey : Function.update d (.order id) (some order) (.orderByKey key) = d (.orderByKey key) := by simp
  have sameNumber : Function.update (Function.update d (.order id) (some order)) (.orderByKey key) (some id)
      (.orderByNumber order.orderNumber) = d (.orderByNumber order.orderNumber) := by simp
  unfold insertOrder
  rw [run_bind, run_insert, if_pos free]
  dsimp only
  rw [run_bind, run_insert, sameKey]
  by_cases unused : d (.orderByKey key) = none
  · rw [if_pos unused, if_pos unused]
    dsimp only
    rw [run_insert, sameNumber]
    rfl
  · rw [if_neg unused, if_neg unused]

section
variable (ids : ∀ attempt, d (.order (draws.id attempt)) = none)
include ids

variable (key order) in
/-- The first attempt decides: after a clash of numbers every other statement is refused. -/
theorem createOrderWithRetry_eq : createOrderWithRetry draws key order ⟨d, false⟩ =
    if d (.orderByKey key) = none then
      if d (.orderByNumber (draws.number 0)) = none then
        (.ok (draws.id 0, orderEntity draws key order 0),
          ⟨withOrder d (draws.id 0) key (orderEntity draws key order 0), false⟩)
      else (.error .database, ⟨d, true⟩)
    else (.error (.uniqueViolation UQ_ORDER_IDEMPOTENCY_KEY), ⟨d, true⟩) := by
  have first : (insertOrder (draws.id 0) key (orderEntity draws key order 0)).run d [] =
      if d (.orderByKey key) = none then
        if d (.orderByNumber (draws.number 0)) = none then
          .ok ((), withOrder d (draws.id 0) key (orderEntity draws key order 0), [])
        else .error (.uniqueViolation UQ_ORDER_NUMBER)
      else .error (.uniqueViolation UQ_ORDER_IDEMPOTENCY_KEY) := insertOrder_run (ids 0)
  change attempts draws key order 5 0 ⟨d, false⟩ = _
  unfold attempts
  rw [statement_open, first]
  by_cases unused : d (.orderByKey key) = none
  · rw [if_pos unused, if_pos unused]
    by_cases fresh : d (.orderByNumber (draws.number 0)) = none
    · rw [if_pos fresh, if_pos fresh]
    · rw [if_neg fresh, if_neg fresh]
      -- The clash spoils the transaction, and the error of the second attempt is no unique violation.
      rfl
  · rw [if_neg unused, if_neg unused]
    rfl

theorem createOrderWithRetry_once (call : CheckoutCall) (id : call.orderId = draws.id 0) :
    (createOrderWithRetry draws call.idempotencyKey order ⟨d, false⟩).1.map (fun _ => ()) =
      ((Marketplace.createOrderWithRetry call (orderEntity draws call.idempotencyKey order 0)).run d []).map fun _ => () := by
  have sameKey (entity : Order) : Function.update d (.order call.orderId) (some entity) (.orderByKey call.idempotencyKey) =
      d (.orderByKey call.idempotencyKey) := by simp
  have sameNumber (entity : Order) : Function.update (Function.update d (.order call.orderId) (some entity))
      (.orderByKey call.idempotencyKey) (some call.orderId) (.orderByNumber (draws.number 0)) =
      d (.orderByNumber (draws.number 0)) := by simp
  have free : d (.order call.orderId) = none := id ▸ ids 0
  rw [createOrderWithRetry_eq _ order ids, Marketplace.createOrderWithRetry, run_bind, run_insert, if_pos free]
  dsimp only
  rw [run_bind, run_insert, sameKey]
  by_cases unused : d (.orderByKey call.idempotencyKey) = none
  · rw [if_pos unused, if_pos unused]
    dsimp only [orderEntity]
    rw [run_insert, sameNumber]
    by_cases fresh : d (.orderByNumber (draws.number 0)) = none
    · rw [if_pos fresh, if_pos fresh]
      rfl
    · rw [if_neg fresh, if_neg fresh]
      rfl
  · rw [if_neg unused, if_neg unused]
    rfl

theorem firstFreshTaken_iff : FirstFreshTaken d draws key order ↔
    (∀ attempt < ORDER_NUMBER_MAX_RETRIES, d (.orderByNumber (draws.number attempt)) ≠ none) ∨
      d (.orderByNumber (draws.number 0)) = none ∧ d (.orderByKey key) = none := by
  have run := createOrderWithRetry_eq key order ids
  constructor
  · intro holds
    by_cases fresh : ∃ attempt, attempt < ORDER_NUMBER_MAX_RETRIES ∧ d (.orderByNumber (draws.number attempt)) = none
    · right
      obtain ⟨drawn, free⟩ := Nat.find_spec fresh
      have made := holds _ ⟨drawn, free, fun earlier before free =>
        Nat.find_min fresh before ⟨Nat.lt_trans before drawn, free⟩⟩
      rw [run] at made
      by_cases unused : d (.orderByKey key) = none
      · by_cases first : d (.orderByNumber (draws.number 0)) = none
        · exact ⟨first, unused⟩
        · rw [if_pos unused, if_neg first] at made
          cases congrArg Prod.fst made
      · rw [if_neg unused] at made
        cases congrArg Prod.fst made
    · exact Or.inl fun attempt drawn free => fresh ⟨attempt, drawn, free⟩
  · rintro (none_fresh | ⟨first, unused⟩) attempt ⟨drawn, fresh, taken⟩
    · exact absurd fresh (none_fresh attempt drawn)
    · have zero : attempt = 0 := Nat.eq_zero_of_not_pos fun later => taken 0 later first
      subst zero
      rw [run, if_pos unused, if_pos first]

end

/-- Two numbers, the first of which an order has. -/
def clashing : Draws := ⟨fun attempt => if attempt = 0 then "#ORD-20260101-AAAAAA" else "#ORD-20260101-BBBBBB", fun n => n + 1⟩

def orders : Db := Function.update (fun _ => none) (.orderByNumber "#ORD-20260101-AAAAAA") (some (0 : Id))

def placed : Order := ⟨some 7, none, 100, some 0, none, ⟨none, none, none, none, none⟩, .pending, none, "", 0⟩

theorem first_number_fresh : FirstFreshTaken (fun _ => none) clashing "key" placed :=
  (firstFreshTaken_iff fun _ => rfl).mpr (Or.inr ⟨rfl, rfl⟩)

/-- The second number is fresh, and the checkout fails. -/
theorem not_firstFreshTaken : ¬ FirstFreshTaken orders clashing "key" placed := by
  intro holds
  have fresh : FirstFresh orders clashing 1 := by
    refine ⟨by decide, by decide, fun earlier before => ?_⟩
    have zero : earlier = 0 := by omega
    subst zero
    decide
  have made := holds 1 fresh
  rw [createOrderWithRetry_eq _ _ (fun _ => rfl)] at made
  rw [if_pos (by decide), if_neg (by decide)] at made
  cases congrArg Prod.fst made

end Marketplace.OrderNumbers
