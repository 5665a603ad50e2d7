import Marketplace.Orders.Journal
import Marketplace.ReadCommitted.Guarded
import Marketplace.Returns.Requests

/-! No item goes back more often than it was bought, and a return is restocked when it arrives. -/
namespace Marketplace
open ReadCommitted ReadCommitted.Tx

/-- What the requests that are open or received claim of an order item. -/
def claimedQuantity (d : Db) (orderItem : Id) : Nat :=
  quantityIn [.requested, .approved, .received] (returnItemsFor d orderItem)

def isReceived (row : Option ReturnRequest) : Bool := row.any fun r => r.status = .received

/-- What a request puts back. -/
def linesOfReturn (d : Db) (request : Id) : List StockLine := (itemsOfReturn d request).filterMap (restockLine d)

def Mark.returnRestockOf (request : Id) : Mark → Option (List StockLine)
  | .returnRestocked r lines => if r = request then some lines else none
  | _ => none

def Mark.receivedLines : Mark → List StockLine
  | .returnRestocked _ lines => lines
  | _ => []

/-- The restocks of a request. -/
def returnRestocks (journal : List Mark) (request : Id) : List (List StockLine) :=
  journal.filterMap (Mark.returnRestockOf request)

def receivedLines (journal : List Mark) : List StockLine := journal.flatMap Mark.receivedLines

/-- No item is claimed beyond its quantity, each sub-order has one open request at most, and the
stock is the initial one with the lines of each request received since put back once. -/
structure ReturnsKept (d₀ : Db) (s : Store (Table Row) Mark) : Prop where
  bounded : ∀ i item, s.rows (.orderItem i) = some item → claimedQuantity s.rows i ≤ item.quantity
  single : ∀ sub, (activeReturns s.rows sub).length ≤ 1
  restocked : ∀ r, returnRestocks s.journal r =
    if isReceived (s.rows (.returnRequest r)) ∧ ¬ isReceived (d₀ (.returnRequest r)) then [linesOfReturn s.rows r]
    else []
  stock : ∀ k, StockKey k → s.rows k = addStock (receivedLines s.journal) 1 d₀ k

/-- The foreign keys of returns and order items, read both ways. -/
structure Filed (d : Db) : Prop where
  listed : ∀ sub, ∀ r ∈ Marketplace.listed (d (.returnsOf sub)),
    ∃ row, d (.returnRequest r) = some row ∧ row.subOrder = sub
  filed : ∀ r row, d (.returnRequest r) = some row → r ∈ Marketplace.listed (d (.returnsOf row.subOrder))
  items : ∀ r, ∀ x ∈ Marketplace.listed (d (.returnItemsOf r)), (d (.returnItem x)).isSome
  named : ∀ i, ∀ x ∈ Marketplace.listed (d (.returnItemsFor i)), ∃ item request orderItem,
    d (.returnItem x) = some item ∧ d (.returnRequest item.request) = some request ∧
      d (.orderItem i) = some orderItem ∧ request.subOrder = orderItem.subOrder
  owned : ∀ sub, ∀ i ∈ Marketplace.listed (d (.itemsOf sub)), ∃ item, d (.orderItem i) = some item ∧ item.subOrder = sub

/-- What no transaction undoes: a closed request stays as it closed, and items stay as they are. -/
structure Closing (d e : Db) : Prop where
  request : ∀ r row, d (.returnRequest r) = some row → ∃ row', e (.returnRequest r) = some row' ∧
    row'.subOrder = row.subOrder ∧ (row.status ∉ ACTIVE_RETURN_STATUSES → row'.status = row.status)
  itemsOf : ∀ r, (d (.returnRequest r)).isSome → e (.returnItemsOf r) = d (.returnItemsOf r)
  item : ∀ x item, d (.returnItem x) = some item → e (.returnItem x) = some item

structure Tallied (d₀ d : Db) (journal : List Mark) : Prop where
  filed : Filed d
  since : Closing d₀ d
  orderItem : ∀ i, d (.orderItem i) = d₀ (.orderItem i)
  itemsOf : ∀ sub, d (.itemsOf sub) = d₀ (.itemsOf sub)
  bounded : ∀ i item, d₀ (.orderItem i) = some item → claimedQuantity d i ≤ item.quantity
  single : ∀ sub, (activeReturns d sub).length ≤ 1
  restocked : ∀ r, returnRestocks journal r =
    if isReceived (d (.returnRequest r)) ∧ ¬ isReceived (d₀ (.returnRequest r)) then [linesOfReturn d r] else []
  stock : ∀ k, StockKey k → d k = addStock (receivedLines journal) 1 d₀ k

/-- The rows of returns and what they name. -/
def ReturnKey : Key → Prop
  | .returnRequest _ => True
  | .returnsOf _ => True
  | .returnItem _ => True
  | .returnItemsOf _ => True
  | .returnItemsFor _ => True
  | .orderItem _ => True
  | .itemsOf _ => True
  | _ => False

def Mark.Unreturned : Mark → Prop
  | .returnRestocked _ _ => False
  | _ => True

theorem Closing.refl (d : Db) : Closing d d :=
  ⟨fun _ row stands => ⟨row, stands, rfl, fun _ => rfl⟩, fun _ _ => rfl, fun _ _ stands => stands⟩

theorem Closing.trans {d e f : Db} (first : Closing d e) (second : Closing e f) : Closing d f := by
  refine ⟨fun r row stands => ?_, fun r there => ?_, fun x item stands => second.item x item (first.item x item stands)⟩
  · obtain ⟨mid, after, sub, closed⟩ := first.request r row stands
    obtain ⟨last, after', sub', closed'⟩ := second.request r mid after
    refine ⟨last, after', sub'.trans sub, fun done => ?_⟩
    rw [closed' (by rw [closed done]; exact done), closed done]
  · obtain ⟨row, stands⟩ := Option.isSome_iff_exists.mp there
    obtain ⟨mid, after, _⟩ := first.request r row stands
    rw [second.itemsOf r (by rw [after]; rfl), first.itemsOf r there]

section
variable {journal marks : List Mark}

theorem returnRestocks_append (r : Id) :
    returnRestocks (journal ++ marks) r = returnRestocks journal r ++ returnRestocks marks r := by
  simp [returnRestocks]

theorem receivedLines_append : receivedLines (journal ++ marks) = receivedLines journal ++ receivedLines marks := by
  simp [receivedLines]

theorem returnRestocks_unreturned (silent : ∀ e ∈ marks, e.Unreturned) (r : Id) : returnRestocks marks r = [] := by
  refine List.filterMap_eq_nil_iff.mpr fun e member => ?_
  have quiet := silent e member
  cases e <;> first | exact quiet.elim | rfl

theorem receivedLines_unreturned (silent : ∀ e ∈ marks, e.Unreturned) : receivedLines marks = [] := by
  refine List.flatMap_eq_nil_iff.mpr fun e member => ?_
  have quiet := silent e member
  cases e <;> first | exact quiet.elim | rfl

end

theorem quantityIn_append (statuses : List ReturnStatus) (a b : List (ReturnItem × ReturnStatus)) :
    quantityIn statuses (a ++ b) = quantityIn statuses a + quantityIn statuses b := by
  simp [quantityIn]

/-- Items whose requests leave the statuses count for less. -/
theorem quantityIn_map_le {statuses : List ReturnStatus} {items : List (ReturnItem × ReturnStatus)}
    {moved : ReturnItem × ReturnStatus → ReturnItem × ReturnStatus}
    (leaves : ∀ p ∈ items, (moved p).1 = p.1 ∧ ((moved p).2 ∈ statuses → p.2 ∈ statuses)) :
    quantityIn statuses (items.map moved) ≤ quantityIn statuses items := by
  induction items with
  | nil => exact Nat.le_refl _
  | cons p rest ih =>
    have later := ih fun q member => leaves q (List.mem_cons_of_mem p member)
    obtain ⟨same, inside⟩ := leaves p List.mem_cons_self
    simp only [quantityIn, List.map_cons, List.filter_cons] at later ⊢
    by_cases after : (moved p).2 ∈ statuses
    · simp only [after, inside after, decide_true, if_true, List.map_cons, List.sum_cons, same]
      omega
    · simp only [after, decide_false, Bool.false_eq_true, if_false]
      split
      · simp only [List.map_cons, List.sum_cons]
        omega
      · exact later

theorem length_filter_map_le {α : Type} {p : α → Bool} {moved : α → α} {l : List α}
    (leaves : ∀ a ∈ l, p (moved a) → p a) : ((l.map moved).filter p).length ≤ (l.filter p).length := by
  rw [← List.countP_eq_length_filter, ← List.countP_eq_length_filter, List.countP_map]
  exact List.countP_mono_left leaves

/-- The lines of a request depend on its items and on which products there are. -/
theorem linesOfReturn_congr {d e : Db} {r : Id} (list : e (.returnItemsOf r) = d (.returnItemsOf r))
    (items : ∀ x ∈ listed (d (.returnItemsOf r)), e (.returnItem x) = d (.returnItem x))
    (orderItem : ∀ i, e (.orderItem i) = d (.orderItem i))
    (product : ∀ p, (e (.product p)).isSome = (d (.product p)).isSome)
    (variant : ∀ x, (e (.variant x)).isSome = (d (.variant x)).isSome) : linesOfReturn e r = linesOfReturn d r := by
  have same : itemsOfReturn e r = itemsOfReturn d r := by
    unfold itemsOfReturn
    rw [list]
    exact List.filterMap_congr fun x member => items x member
  have line : restockLine e = restockLine d := by
    funext item
    simp only [restockLine, orderItem, product, variant]
  rw [linesOfReturn, linesOfReturn, same, line]

/-- The status of one request of a list set anew. -/
theorem returnItemsFor_resolved {d e : Db} {r : Id} {row : ReturnRequest} (there : (d (.returnRequest r)).isSome)
    (own : e (.returnRequest r) = some row)
    (rest : ∀ k, ReturnKey k → k ≠ .returnRequest r → e k = d k) (i : Id) :
    returnItemsFor e i = (returnItemsFor d i).map fun p => (p.1, if p.1.request = r then row.status else p.2) := by
  unfold returnItemsFor
  rw [rest (.returnItemsFor i) trivial nofun, List.map_filterMap]
  refine List.filterMap_congr fun x _ => ?_
  rw [rest (.returnItem x) trivial nofun]
  cases d (.returnItem x) with
  | none => rfl
  | some item =>
    by_cases same : item.request = r
    · obtain ⟨old, stands⟩ := Option.isSome_iff_exists.mp there
      subst same
      simp [own, stands]
    · have other := rest (.returnRequest item.request) trivial (by simpa using same)
      cases found : d (.returnRequest item.request) <;> simp [other, found, same]

theorem returnsOfSubOrder_resolved {d e : Db} {r : Id} {row : ReturnRequest} (there : (d (.returnRequest r)).isSome)
    (own : e (.returnRequest r) = some row)
    (rest : ∀ k, ReturnKey k → k ≠ .returnRequest r → e k = d k) (sub : Id) :
    returnsOfSubOrder e sub = (returnsOfSubOrder d sub).map fun p => (p.1, if p.1 = r then row else p.2) := by
  unfold returnsOfSubOrder
  rw [rest (.returnsOf sub) trivial nofun, List.map_filterMap]
  refine List.filterMap_congr fun q _ => ?_
  by_cases same : q = r
  · obtain ⟨old, stands⟩ := Option.isSome_iff_exists.mp there
    subst same
    simp [own, stands]
  · have other := rest (.returnRequest q) trivial (by simpa using same)
    cases found : d (.returnRequest q) <;> simp [other, found, same]

theorem mem_returnItemsFor {d : Db} {i : Id} {p : ReturnItem × ReturnStatus}
    (member : p ∈ returnItemsFor d i) : ∃ row, d (.returnRequest p.1.request) = some row ∧ row.status = p.2 := by
  obtain ⟨x, _, found⟩ := List.mem_filterMap.mp member
  simp only [Option.bind_eq_bind, Option.bind_eq_some_iff, Option.some.injEq] at found
  obtain ⟨item, _, row, stands, rfl⟩ := found
  exact ⟨row, stands, rfl⟩

theorem mem_returnsOfSubOrder {d : Db} {sub : Id} {p : Id × ReturnRequest} (member : p ∈ returnsOfSubOrder d sub) :
    p.1 ∈ listed (d (.returnsOf sub)) ∧ d (.returnRequest p.1) = some p.2 := by
  obtain ⟨r, inside, found⟩ := List.mem_filterMap.mp member
  obtain ⟨row, stands, rfl⟩ := Option.map_eq_some_iff.mp found
  exact ⟨inside, stands⟩

section
variable {d₀ d e : Db} {journal marks : List Mark} {r : Id} {row row' : ReturnRequest}

theorem Filed.resolve (filed : Filed d) (stands : d (.returnRequest r) = some row) (sub : row'.subOrder = row.subOrder)
    (own : e (.returnRequest r) = some row') (rest : ∀ k, ReturnKey k → k ≠ .returnRequest r → e k = d k) :
    Filed e := by
  have request : ∀ q old, d (.returnRequest q) = some old →
      ∃ new, e (.returnRequest q) = some new ∧ new.subOrder = old.subOrder := by
    intro q old before
    by_cases same : q = r
    · subst same
      obtain rfl := Option.some.inj (before.symm.trans stands)
      exact ⟨row', own, sub⟩
    · exact ⟨old, (rest (.returnRequest q) trivial (by simpa using same)).trans before, rfl⟩
  refine ⟨fun s q member => ?_, fun q new after => ?_, fun q x member => ?_, fun i x member => ?_, fun s i member => ?_⟩
  · rw [rest (.returnsOf s) trivial nofun] at member
    obtain ⟨old, before, owner⟩ := filed.listed s q member
    obtain ⟨new, after, same⟩ := request q old before
    exact ⟨new, after, same.trans owner⟩
  · rw [rest (.returnsOf _) trivial nofun]
    by_cases same : q = r
    · subst same
      obtain rfl := Option.some.inj (own.symm.trans after)
      rw [sub]
      exact filed.filed q row stands
    · rw [rest (.returnRequest q) trivial (by simpa using same)] at after
      exact filed.filed q new after
  · rw [rest (.returnItemsOf q) trivial nofun] at member
    rw [rest (.returnItem x) trivial nofun]
    exact filed.items q x member
  · rw [rest (.returnItemsFor i) trivial nofun] at member
    obtain ⟨item, old, orderItem, found, before, bought, owner⟩ := filed.named i x member
    obtain ⟨new, after, same⟩ := request _ old before
    refine ⟨item, new, orderItem, ?_, after, ?_, same.trans owner⟩
    · rw [rest (.returnItem x) trivial nofun, found]
    · rw [rest (.orderItem i) trivial nofun, bought]
  · rw [rest (.itemsOf s) trivial nofun] at member
    rw [rest (.orderItem i) trivial nofun]
    exact filed.owned s i member

theorem Closing.resolve (stands : d (.returnRequest r) = some row) (active : row.status ∈ ACTIVE_RETURN_STATUSES)
    (sub : row'.subOrder = row.subOrder) (own : e (.returnRequest r) = some row')
    (rest : ∀ k, ReturnKey k → k ≠ .returnRequest r → e k = d k) : Closing d e := by
  refine ⟨fun q old before => ?_, fun q _ => rest (.returnItemsOf q) trivial nofun, fun x item found => ?_⟩
  · by_cases same : q = r
    · subst same
      obtain rfl := Option.some.inj (before.symm.trans stands)
      exact ⟨row', own, sub, fun closed => absurd active closed⟩
    · exact ⟨old, (rest (.returnRequest q) trivial (by simpa using same)).trans before, rfl, fun _ => rfl⟩
  · rw [rest (.returnItem x) trivial nofun, found]

theorem not_received (stands : d (.returnRequest r) = some row) (active : row.status ∈ ACTIVE_RETURN_STATUSES) :
    isReceived (d (.returnRequest r)) = false := by
  rw [stands]
  cases status : row.status <;> simp_all [isReceived, ACTIVE_RETURN_STATUSES]

theorem Closing.received (closing : Closing d e) (done : isReceived (d (.returnRequest r))) :
    isReceived (e (.returnRequest r)) := by
  obtain ⟨row, stands, received⟩ := (Option.any_eq_true _ _).mp done
  have status : row.status = .received := by simpa using received
  obtain ⟨row', after, _, closed⟩ := closing.request r row stands
  have kept := closed (by rw [status]; decide)
  simp [isReceived, after, kept, status]

/-- An open request changes its status; only its receipt puts its lines back. -/
theorem Tallied.resolve {lines : List StockLine} (tallied : Tallied d₀ d journal)
    (stands : d (.returnRequest r) = some row) (active : row.status ∈ ACTIVE_RETURN_STATUSES)
    (sub : row'.subOrder = row.subOrder) (own : e (.returnRequest r) = some row')
    (rest : ∀ k, ReturnKey k → k ≠ .returnRequest r → e k = d k)
    (stock : ∀ k, StockKey k → e k = addStock lines 1 d k) (put : receivedLines marks = lines)
    (once : ∀ q, returnRestocks marks q = if q = r ∧ row'.status = .received then [linesOfReturn d r] else []) :
    Tallied d₀ e (journal ++ marks) := by
  have there : (d (.returnRequest r)).isSome := by rw [stands]; rfl
  have open_ : isReceived (d (.returnRequest r)) = false := not_received stands active
  have fresh : isReceived (d₀ (.returnRequest r)) = false := by
    by_contra done
    have still := tallied.since.received (by simpa using done)
    rw [open_] at still
    cases still
  have present : ∀ k, StockKey k → (e k).isSome = (d k).isSome := fun k kind => by
    rw [stock k kind]
    cases k <;> first | exact kind.elim | simp [addStock]
  have same : ∀ q, linesOfReturn e q = linesOfReturn d q := fun q =>
    linesOfReturn_congr (rest (.returnItemsOf q) trivial (by rintro ⟨⟩)) (fun x _ => rest (.returnItem x) trivial (by rintro ⟨⟩))
      (fun i => rest (.orderItem i) trivial (by rintro ⟨⟩)) (fun p => present (.product p) trivial)
      fun x => present (.variant x) trivial
  refine ⟨tallied.filed.resolve stands sub own rest,
    tallied.since.trans (Closing.resolve stands active sub own rest), fun i => ?_, fun s => ?_, fun i item bought => ?_, fun s => ?_,
    fun q => ?_, fun k kind => ?_⟩
  · rw [rest (.orderItem i) trivial (by rintro ⟨⟩), tallied.orderItem i]
  · rw [rest (.itemsOf s) trivial (by rintro ⟨⟩), tallied.itemsOf s]
  · refine Nat.le_trans ?_ (tallied.bounded i item bought)
    rw [claimedQuantity, returnItemsFor_resolved there own rest i]
    refine quantityIn_map_le fun p member => ⟨rfl, fun inside => ?_⟩
    by_cases same : p.1.request = r
    · obtain ⟨old, before, status⟩ := mem_returnItemsFor member
      rw [same] at before
      obtain rfl := Option.some.inj (before.symm.trans stands)
      rw [← status]
      simp only [ACTIVE_RETURN_STATUSES, List.mem_cons, List.not_mem_nil, or_false] at active
      rcases active with requested | approved
      · simp [requested]
      · simp [approved]
    · simpa [same] using inside
  · refine Nat.le_trans ?_ (tallied.single s)
    rw [activeReturns, returnsOfSubOrder_resolved there own rest s]
    refine length_filter_map_le fun p member inside => ?_
    by_cases same : p.1 = r
    · have before := (mem_returnsOfSubOrder member).2
      rw [same] at before
      obtain rfl := Option.some.inj (before.symm.trans stands)
      exact decide_eq_true active
    · simpa [same] using inside
  · rw [returnRestocks_append, once q, tallied.restocked q, same q]
    by_cases other : q = r
    · subst other
      rw [own]
      have after : isReceived (some row') = decide (row'.status = .received) := rfl
      by_cases arrives : row'.status = .received
      · simp [open_, after, arrives, fresh]
      · simp [open_, after, arrives]
    · rw [rest (.returnRequest q) trivial (by simpa using other)]
      simp [other]
  · rw [receivedLines_append, put, addStock_append, stock k kind]
    have before := tallied.stock k kind
    cases k with
    | product p => simp only [addStock] at before ⊢; rw [before]
    | variant x => simp only [addStock] at before ⊢; rw [before]
    | _ => exact kind.elim

end

/-- What the lines still to be filed ask of an order item. -/
def pendingQuantity (lines : List ReturnLine) (orderItem : Id) : Nat :=
  ((lines.filter fun l => l.orderItem = orderItem).map (·.quantity)).sum

/-- The rows a new request of a sub-order changes. -/
def OpenedKey (r sub : Id) (k : Key) : Prop :=
  k = .returnRequest r ∨ k = .returnsOf sub ∨ k = .returnItemsOf r ∨ (∃ x, k = .returnItem x) ∨
    ∃ i, k = .returnItemsFor i

/-- From `d` on a request has been filed, and all of its items but `rest`. -/
structure Opening (d₀ d : Db) (r sub : Id) (rest : List ReturnLine) (e : Db) : Prop where
  filed : Filed e
  request : ∃ row, e (.returnRequest r) = some row ∧ row.status = .requested ∧ row.subOrder = sub
  bounded : ∀ i item, d₀ (.orderItem i) = some item → claimedQuantity e i + pendingQuantity rest i ≤ item.quantity
  single : ∀ s, (activeReturns e s).length ≤ 1
  lines : ∀ line ∈ rest, ∃ item, d₀ (.orderItem line.orderItem) = some item ∧ item.subOrder = sub
  orderItem : ∀ i, e (.orderItem i) = d₀ (.orderItem i)
  item : ∀ x item, d (.returnItem x) = some item → e (.returnItem x) = some item
  named : ∀ i item, d₀ (.orderItem i) = some item → item.subOrder ≠ sub →
    e (.returnItemsFor i) = d (.returnItemsFor i)
  other : ∀ k, ¬ OpenedKey r sub k → e k = d k

section
variable {d₀ d e f : Db} {journal : List Mark} {r sub x : Id} {line : ReturnLine} {rest lines : List ReturnLine}

theorem pendingQuantity_cons (i : Id) : pendingQuantity (line :: rest) i =
    (if line.orderItem = i then line.quantity else 0) + pendingQuantity rest i := by
  by_cases same : line.orderItem = i <;> simp [pendingQuantity, same]

theorem returnItemsFor_congr {i : Id} (list : e (.returnItemsFor i) = d (.returnItemsFor i))
    (items : ∀ x ∈ listed (d (.returnItemsFor i)), e (.returnItem x) = d (.returnItem x))
    (requests : ∀ x ∈ listed (d (.returnItemsFor i)), ∀ item ∈ d (.returnItem x),
      e (.returnRequest item.request) = d (.returnRequest item.request)) :
    returnItemsFor e i = returnItemsFor d i := by
  unfold returnItemsFor
  rw [list]
  refine List.filterMap_congr fun x member => ?_
  rw [items x member]
  cases found : d (.returnItem x) with
  | none => rfl
  | some item => simp only [Option.bind_eq_bind, Option.bind_some, requests x member item found]

/-- A request row `r` of `sub` is inserted, and listed. -/
structure RequestInserted (d : Db) (r sub : Id) (row : ReturnRequest) (e : Db) : Prop where
  fresh : d (.returnRequest r) = none
  own : e (.returnRequest r) = some row
  owner : row.subOrder = sub
  list : e (.returnsOf sub) = some (listed (d (.returnsOf sub)) ++ [r])
  same : ∀ k, k ≠ .returnRequest r → k ≠ .returnsOf sub → e k = d k

section
variable {row : ReturnRequest} (inserted : RequestInserted d r sub row e)
include inserted

theorem RequestInserted.standing {q : Id} {old : ReturnRequest} (stands : d (.returnRequest q) = some old) :
    e (.returnRequest q) = some old := by
  have other : q ≠ r := by
    rintro rfl
    rw [inserted.fresh] at stands
    cases stands
  rw [inserted.same (.returnRequest q) (by simpa using other) nofun, stands]

theorem RequestInserted.listOf {s : Id} (other : s ≠ sub) : e (.returnsOf s) = d (.returnsOf s) :=
  inserted.same (.returnsOf s) nofun (by simpa using other)

theorem RequestInserted.filed (filed : Filed d) : Filed e := by
  have same := inserted.same
  have known {s q : Id} (member : q ∈ listed (d (.returnsOf s))) :
      ∃ row, e (.returnRequest q) = some row ∧ row.subOrder = s := by
    obtain ⟨old, stands, owner⟩ := filed.listed s q member
    exact ⟨old, inserted.standing stands, owner⟩
  refine ⟨fun s q member => ?_, fun q new after => ?_, fun q y member => ?_, fun i y member => ?_,
    fun s i member => ?_⟩
  · by_cases mine : s = sub
    · subst mine
      rw [inserted.list] at member
      rcases List.mem_append.mp member with before | new
      · exact known before
      · obtain rfl := List.mem_singleton.mp new
        exact ⟨row, inserted.own, inserted.owner⟩
    · rw [inserted.listOf mine] at member
      exact known member
  · by_cases mine : q = r
    · subst mine
      obtain rfl := Option.some.inj (inserted.own.symm.trans after)
      rw [inserted.owner, inserted.list]
      exact List.mem_append_right _ (List.mem_singleton.mpr rfl)
    · rw [same (.returnRequest q) (by simpa using mine) nofun] at after
      have before := filed.filed q new after
      by_cases here : new.subOrder = sub
      · rw [here] at before ⊢
        rw [inserted.list]
        exact List.mem_append_left _ before
      · rwa [inserted.listOf here]
  · rw [same (.returnItemsOf q) nofun nofun] at member
    rw [same (.returnItem y) nofun nofun]
    exact filed.items q y member
  · rw [same (.returnItemsFor i) nofun nofun] at member
    obtain ⟨item, request, orderItem, found, stands, bought, owner⟩ := filed.named i y member
    refine ⟨item, request, orderItem, ?_, inserted.standing stands, ?_, owner⟩
    · rw [same (.returnItem y) nofun nofun, found]
    · rw [same (.orderItem i) nofun nofun, bought]
  · rw [same (.itemsOf s) nofun nofun] at member
    rw [same (.orderItem i) nofun nofun]
    exact filed.owned s i member

theorem RequestInserted.returnItemsFor (filed : Filed d) (i : Id) :
    Marketplace.returnItemsFor e i = Marketplace.returnItemsFor d i := by
  have same := inserted.same
  refine returnItemsFor_congr (same (.returnItemsFor i) nofun nofun) (fun y _ => same (.returnItem y) nofun nofun)
    fun y member item found => ?_
  obtain ⟨item', request, _, found', stands, _⟩ := filed.named i y member
  obtain rfl := Option.some.inj ((Option.mem_def.mp found).symm.trans found')
  rw [inserted.standing stands, stands]

/-- Where no request was open, the new one is the only one. -/
theorem RequestInserted.single (filed : Filed d) (closed : activeReturns d sub = [])
    (single : ∀ s, (activeReturns d s).length ≤ 1) (s : Id) : (activeReturns e s).length ≤ 1 := by
  have before : (listed (d (.returnsOf s))).filterMap (fun q => (e (.returnRequest q)).map fun row => (q, row)) =
      returnsOfSubOrder d s := by
    refine List.filterMap_congr fun q member => ?_
    obtain ⟨old, stands, _⟩ := filed.listed s q member
    rw [inserted.standing stands, stands]
  by_cases mine : s = sub
  · subst mine
    have grown : returnsOfSubOrder e s = returnsOfSubOrder d s ++ [(r, row)] := by
      rw [returnsOfSubOrder, inserted.list]
      simp [listed, List.filterMap_append, inserted.own] at before ⊢
      exact before
    rw [activeReturns] at closed ⊢
    rw [grown, List.filter_append, closed]
    exact List.length_filter_le _ _
  · rw [activeReturns, returnsOfSubOrder, inserted.listOf mine, before]
    exact single s

/-- The request row and its place in the list, before any of its items. -/
theorem Opening.start (tallied : Tallied d₀ d journal) (closed : activeReturns d sub = [])
    (requested : row.status = .requested)
    (fits : ∀ i item, d₀ (.orderItem i) = some item → claimedQuantity d i + pendingQuantity lines i ≤ item.quantity)
    (belong : ∀ line ∈ lines, ∃ item, d₀ (.orderItem line.orderItem) = some item ∧ item.subOrder = sub) :
    Opening d₀ d r sub lines e where
  filed := inserted.filed tallied.filed
  request := ⟨row, inserted.own, requested, inserted.owner⟩
  bounded i item bought := by
    rw [claimedQuantity, inserted.returnItemsFor tallied.filed i]
    exact fits i item bought
  single := inserted.single tallied.filed closed tallied.single
  lines := belong
  orderItem i := by rw [inserted.same (.orderItem i) nofun nofun, tallied.orderItem i]
  item y item stands := by rw [inserted.same (.returnItem y) nofun nofun, stands]
  named i _ _ _ := inserted.same (.returnItemsFor i) nofun nofun
  other k outside := inserted.same k (fun eq => outside (Or.inl eq)) fun eq => outside (Or.inr (Or.inl eq))

end

/-- A row `x` of a filed item is inserted, and listed under its request and its order item. -/
structure ItemInserted (e : Db) (x : Id) (item : ReturnItem) (f : Db) : Prop where
  fresh : e (.returnItem x) = none
  own : f (.returnItem x) = some item
  byRequest : f (.returnItemsOf item.request) = some (listed (e (.returnItemsOf item.request)) ++ [x])
  byItem : f (.returnItemsFor item.orderItem) = some (listed (e (.returnItemsFor item.orderItem)) ++ [x])
  same : ∀ k, k ≠ .returnItem x → k ≠ .returnItemsOf item.request → k ≠ .returnItemsFor item.orderItem → f k = e k

section
variable {item : ReturnItem} (inserted : ItemInserted e x item f)
include inserted

theorem ItemInserted.standing {y : Id} {old : ReturnItem} (stands : e (.returnItem y) = some old) :
    f (.returnItem y) = some old := by
  have other : y ≠ x := by
    rintro rfl
    rw [inserted.fresh] at stands
    cases stands
  rw [inserted.same (.returnItem y) (by simpa using other) nofun nofun, stands]

theorem ItemInserted.request (q : Id) : f (.returnRequest q) = e (.returnRequest q) :=
  inserted.same (.returnRequest q) nofun nofun nofun

theorem ItemInserted.orderItem (i : Id) : f (.orderItem i) = e (.orderItem i) :=
  inserted.same (.orderItem i) nofun nofun nofun

theorem ItemInserted.listOf (s : Id) : f (.returnsOf s) = e (.returnsOf s) :=
  inserted.same (.returnsOf s) nofun nofun nofun

theorem ItemInserted.listFor {i : Id} (other : i ≠ item.orderItem) : f (.returnItemsFor i) = e (.returnItemsFor i) :=
  inserted.same (.returnItemsFor i) nofun nofun (by simpa using other)

theorem ItemInserted.filed (filed : Filed e) {request : ReturnRequest} {bought : OrderItem}
    (stands : e (.returnRequest item.request) = some request) (found : e (.orderItem item.orderItem) = some bought)
    (belongs : request.subOrder = bought.subOrder) : Filed f := by
  have isSome {q y : Id} (member : y ∈ listed (e (.returnItemsOf q))) : (f (.returnItem y)).isSome := by
    obtain ⟨old, there⟩ := Option.isSome_iff_exists.mp (filed.items q y member)
    rw [inserted.standing there]
    rfl
  have kept {i y : Id} (member : y ∈ listed (e (.returnItemsFor i))) : ∃ item request orderItem,
      f (.returnItem y) = some item ∧ f (.returnRequest item.request) = some request ∧
        f (.orderItem i) = some orderItem ∧ request.subOrder = orderItem.subOrder := by
    obtain ⟨old, request, orderItem, there, stands, bought, owner⟩ := filed.named i y member
    exact ⟨old, request, orderItem, inserted.standing there, (inserted.request _).trans stands,
      (inserted.orderItem i).trans bought, owner⟩
  refine ⟨fun s q member => ?_, fun q new after => ?_, fun q y member => ?_, fun i y member => ?_,
    fun s i member => ?_⟩
  · rw [inserted.listOf] at member
    rw [inserted.request]
    exact filed.listed s q member
  · rw [inserted.request] at after
    rw [inserted.listOf]
    exact filed.filed q new after
  · by_cases mine : q = item.request
    · subst mine
      rw [inserted.byRequest] at member
      rcases List.mem_append.mp member with before | new
      · exact isSome before
      · obtain rfl := List.mem_singleton.mp new
        rw [inserted.own]
        rfl
    · rw [inserted.same (.returnItemsOf q) nofun (by simpa using mine) nofun] at member
      exact isSome member
  · by_cases mine : i = item.orderItem
    · subst mine
      rw [inserted.byItem] at member
      rcases List.mem_append.mp member with before | new
      · exact kept before
      · obtain rfl := List.mem_singleton.mp new
        exact ⟨item, request, bought, inserted.own, (inserted.request _).trans stands,
          (inserted.orderItem _).trans found, belongs⟩
    · rw [inserted.listFor mine] at member
      exact kept member
  · rw [inserted.same (.itemsOf s) nofun nofun nofun] at member
    rw [inserted.orderItem]
    exact filed.owned s i member

theorem ItemInserted.listedSame (filed : Filed e) (i : Id) :
    ∀ y ∈ listed (e (.returnItemsFor i)), f (.returnItem y) = e (.returnItem y) := by
  intro y member
  obtain ⟨old, _, _, there, _⟩ := filed.named i y member
  rw [inserted.standing there, there]

theorem ItemInserted.returnItemsFor_other (filed : Filed e) {i : Id} (other : i ≠ item.orderItem) :
    returnItemsFor f i = returnItemsFor e i :=
  returnItemsFor_congr (inserted.listFor other) (inserted.listedSame filed i) fun _ _ _ _ => inserted.request _

theorem ItemInserted.returnItemsFor_own (filed : Filed e) {request : ReturnRequest}
    (stands : e (.returnRequest item.request) = some request) :
    returnItemsFor f item.orderItem = returnItemsFor e item.orderItem ++ [(item, request.status)] := by
  have before : (listed (e (.returnItemsFor item.orderItem))).filterMap (fun y => do
      let old ← f (.returnItem y)
      let request ← f (.returnRequest old.request)
      some (old, request.status)) = returnItemsFor e item.orderItem :=
    List.filterMap_congr fun y member => by simp only [inserted.listedSame filed _ y member, inserted.request]
  rw [returnItemsFor, inserted.byItem]
  simp only [listed, Option.getD_some, List.filterMap_append] at before ⊢
  rw [before]
  simp [inserted.own, inserted.request, stands]

end

/-- One more item filed. -/
theorem Opening.step (opening : Opening d₀ d r sub (line :: rest) e)
    (inserted : ItemInserted e x ⟨r, line.orderItem, line.quantity, line.refund⟩ f) :
    Opening d₀ d r sub rest f := by
  obtain ⟨row, stands, requested, owner⟩ := opening.request
  obtain ⟨bought, found, belongs⟩ := opening.lines line List.mem_cons_self
  have filed : Filed f := inserted.filed opening.filed stands ((opening.orderItem _).trans found) (owner.trans belongs.symm)
  refine ⟨filed, ⟨row, (inserted.request r).trans stands, requested, owner⟩, fun i item there => ?_, fun s => ?_,
    fun l member => opening.lines l (List.mem_cons_of_mem _ member),
    fun i => (inserted.orderItem i).trans (opening.orderItem i),
    fun y item there => inserted.standing (opening.item y item there), fun i item there elsewhere => ?_, fun k outside => ?_⟩
  · have bound := opening.bounded i item there
    rw [pendingQuantity_cons] at bound
    by_cases mine : i = line.orderItem
    · subst mine
      have one : quantityIn [.requested, .approved, .received]
          [((⟨r, line.orderItem, line.quantity, line.refund⟩ : ReturnItem), row.status)] = line.quantity := by
        simp [quantityIn, requested]
      have grown : returnItemsFor f line.orderItem = returnItemsFor e line.orderItem ++
          [(⟨r, line.orderItem, line.quantity, line.refund⟩, row.status)] :=
        inserted.returnItemsFor_own opening.filed stands
      rw [claimedQuantity, grown, quantityIn_append, one]
      simp only [claimedQuantity, if_true] at bound
      omega
    · rw [claimedQuantity, inserted.returnItemsFor_other opening.filed mine]
      simp only [claimedQuantity, Ne.symm mine, if_false] at bound
      omega
  · have same : returnsOfSubOrder f s = returnsOfSubOrder e s := by
      unfold returnsOfSubOrder
      rw [inserted.listOf]
      exact List.filterMap_congr fun q _ => by rw [inserted.request]
    rw [activeReturns, same]
    exact opening.single s
  · rw [inserted.listFor, opening.named i item there elsewhere]
    rintro rfl
    obtain rfl := Option.some.inj (found.symm.trans there)
    exact elsewhere belongs
  · rw [inserted.same k, opening.other k outside]
    · exact fun eq => outside (Or.inr (Or.inr (Or.inr (Or.inl ⟨x, eq⟩))))
    · exact fun eq => outside (Or.inr (Or.inr (Or.inl eq)))
    · exact fun eq => outside (Or.inr (Or.inr (Or.inr (Or.inr ⟨_, eq⟩))))

theorem Opening.closing (opening : Opening d₀ d r sub rest e) (fresh : d (.returnRequest r) = none) : Closing d e := by
  refine ⟨fun q row stands => ?_, fun q there => ?_, opening.item⟩
  · have other : q ≠ r := by
      rintro rfl
      rw [fresh] at stands
      cases stands
    exact ⟨row, (opening.other _ (by simp [OpenedKey, other])).trans stands, rfl, fun _ => rfl⟩
  · have other : q ≠ r := by
      rintro rfl
      rw [fresh] at there
      cases there
    exact opening.other _ (by simp [OpenedKey, other])

/-- A request with all its items filed. -/
theorem Opening.tallied {marks : List Mark} (opening : Opening d₀ d r sub [] e) (tallied : Tallied d₀ d journal)
    (fresh : d (.returnRequest r) = none) (silent : ∀ m ∈ marks, m.Unreturned) : Tallied d₀ e (journal ++ marks) := by
  have closing := opening.closing fresh
  obtain ⟨row, stands, requested, _⟩ := opening.request
  have stock : ∀ k, StockKey k → e k = d k := fun k kind => opening.other k (by
    cases k <;> first | exact kind.elim | simp [OpenedKey])
  refine ⟨opening.filed, tallied.since.trans closing, opening.orderItem, fun s => ?_, fun i item bought => ?_,
    opening.single, fun q => ?_, fun k kind => ?_⟩
  · rw [opening.other (.itemsOf s) (by simp [OpenedKey]), tallied.itemsOf s]
  · exact Nat.le_trans (Nat.le_add_right _ _) (opening.bounded i item bought)
  · rw [returnRestocks_append, returnRestocks_unreturned silent, List.append_nil, tallied.restocked q]
    by_cases mine : q = r
    · subst mine
      simp [fresh, stands, isReceived, requested]
    · rw [opening.other (.returnRequest q) (by simp [OpenedKey, mine])]
      refine if_congr Iff.rfl (congrArg (fun l => [l]) ?_) rfl
      refine (linesOfReturn_congr (opening.other _ (by simp [OpenedKey, mine])) (fun y member => ?_) (fun i => ?_)
        (fun p => by rw [stock (.product p) trivial]) fun y => by rw [stock (.variant y) trivial]).symm
      · obtain ⟨item, there⟩ := Option.isSome_iff_exists.mp (tallied.filed.items q y member)
        rw [opening.item y item there, there]
      · rw [opening.orderItem, tallied.orderItem]
  · rw [receivedLines_append, receivedLines_unreturned silent, List.append_nil, stock k kind]
    exact tallied.stock k kind

end

theorem pendingQuantity_of_nodup {lines : List ReturnLine} (unique : (lines.map (·.orderItem)).Nodup) (i : Id) :
    pendingQuantity lines i = 0 ∨ ∃ line ∈ lines, line.orderItem = i ∧ pendingQuantity lines i = line.quantity := by
  induction lines with
  | nil => exact Or.inl rfl
  | cons line rest ih =>
    obtain ⟨new, unique⟩ := List.nodup_cons.mp unique
    rw [pendingQuantity_cons]
    by_cases mine : line.orderItem = i
    · have none : pendingQuantity rest i = 0 := by
        rcases ih unique with zero | ⟨other, member, same, _⟩
        · exact zero
        · exact absurd (List.mem_map.mpr ⟨other, member, same.trans mine.symm⟩) new
      exact Or.inr ⟨line, List.mem_cons_self, mine, by simp [mine, none]⟩
    · simp only [mine, if_false, Nat.zero_add]
      rcases ih unique with zero | ⟨other, member, same, total⟩
      · exact Or.inl zero
      · exact Or.inr ⟨other, List.mem_cons_of_mem _ member, same, total⟩

section
variable {d e : Db} {sub : Id}

theorem closed_of_none (none_ : activeReturns d sub = []) (filed : Filed d) {r : Id} {row : ReturnRequest}
    (stands : d (.returnRequest r) = some row) (mine : row.subOrder = sub) : row.status ∉ ACTIVE_RETURN_STATUSES := by
  intro active
  have inside : (r, row) ∈ activeReturns d sub := by
    refine List.mem_filter.mpr ⟨List.mem_filterMap.mpr ⟨r, mine ▸ filed.filed r row stands, ?_⟩, decide_eq_true active⟩
    rw [stands, Option.map_some]
  rw [none_] at inside
  cases inside

/-- A sub-order without open requests stays so while none is filed. -/
theorem Closing.none_active (closing : Closing d e) (filed : Filed d)
    (list : e (.returnsOf sub) = d (.returnsOf sub)) (none_ : activeReturns d sub = []) : activeReturns e sub = [] := by
  refine List.filter_eq_nil_iff.mpr fun p member active => ?_
  obtain ⟨inside, stands⟩ := mem_returnsOfSubOrder member
  rw [list] at inside
  obtain ⟨row, before, owner⟩ := filed.listed sub p.1 inside
  obtain ⟨row', after, _, closed⟩ := closing.request p.1 row before
  obtain rfl := Option.some.inj (after.symm.trans stands)
  have done := closed_of_none none_ filed before owner
  rw [closed done] at active
  exact done (by simpa using active)

/-- Then its items are claimed by what was received. -/
theorem Closing.claimed {i : Id} {item : OrderItem} (closing : Closing d e) (filed : Filed d)
    (bought : d (.orderItem i) = some item) (list : e (.returnItemsFor i) = d (.returnItemsFor i))
    (none_ : activeReturns d item.subOrder = []) : claimedQuantity e i = receivedQuantity d i := by
  have closed : ∀ x ∈ Marketplace.listed (d (.returnItemsFor i)), ∃ returned row row',
      d (.returnItem x) = some returned ∧ d (.returnRequest returned.request) = some row ∧
        e (.returnRequest returned.request) = some row' ∧ row'.status = row.status ∧
          row.status ∉ ACTIVE_RETURN_STATUSES := by
    intro x member
    obtain ⟨returned, row, item', found, stands, bought', owner⟩ := filed.named i x member
    obtain rfl := Option.some.inj (bought.symm.trans bought')
    have done := closed_of_none none_ filed stands owner
    obtain ⟨row', after, _, same⟩ := closing.request _ row stands
    exact ⟨returned, row, row', found, stands, after, same done, done⟩
  have same : returnItemsFor e i = returnItemsFor d i := by
    unfold returnItemsFor
    rw [list]
    refine List.filterMap_congr fun x member => ?_
    obtain ⟨returned, row, row', found, stands, after, status, _⟩ := closed x member
    simp [closing.item x returned found, found, stands, after, status]
  rw [claimedQuantity, same, receivedQuantity, quantityIn, quantityIn]
  refine congrArg (fun l => (l.map fun ri : ReturnItem × ReturnStatus => ri.1.quantity).sum) (List.filter_congr fun p member => ?_)
  obtain ⟨x, inside, read⟩ := List.mem_filterMap.mp member
  obtain ⟨returned, row, _, found, stands, _, _, done⟩ := closed x inside
  simp only [found, stands, Option.bind_eq_bind, Option.bind_some, Option.some.injEq] at read
  subst read
  cases status : row.status <;> simp_all [ACTIVE_RETURN_STATUSES]

end

section
variable {I : Isolation (Table Row) Mark} {E : Err → Prop} {v : View (Table Row) Mark}

theorem wp_insertReturnItem {r sub x : Id} {line : ReturnLine} {Q : Unit → View (Table Row) Mark → Prop}
    (noErr : ∀ e, E e)
    (h : ∀ w, v.Continues (OpenedKey r sub) NoMark w → v.rows (.returnItem x) = none →
      w.rows (.returnItem x) = some ⟨r, line.orderItem, line.quantity, line.refund⟩ →
      w.rows (.returnItemsOf r) = some (listed (v.rows (.returnItemsOf r)) ++ [x]) →
      w.rows (.returnItemsFor line.orderItem) = some (listed (v.rows (.returnItemsFor line.orderItem)) ++ [x]) →
      (∀ k, k ≠ .returnItem x → k ≠ .returnItemsOf r → k ≠ .returnItemsFor line.orderItem → w.rows k = v.rows k) →
      Q () w) :
    (insertReturnItem r x line).wp I Q E v := by
  unfold insertReturnItem
  rw [wp_bind]
  refine wp_insert (fun _ => noErr _) fun w first _ free stored => ?_
  rw [wp_bind, wp_modify, wp_modify]
  have upto : v.Continues (OpenedKey r sub) NoMark w :=
    first.mono (fun _ same => Or.inr (Or.inr (Or.inr (Or.inl ⟨x, same⟩)))) fun _ no => no
  refine h _ ((upto.trans (.put (Or.inr (Or.inr (Or.inl rfl))))).trans
    (.put (Or.inr (Or.inr (Or.inr (Or.inr ⟨_, rfl⟩)))))) free ?_ ?_ ?_ fun k notItem notOf notFor => ?_
  · rw [View.put_rows_other _ _ (by simp), View.put_rows_other _ _ (by simp), stored]
  · rw [View.put_rows_other _ _ (by simp), View.put_rows_self, first.rows _ (by simp)]
  · rw [View.put_rows_self, View.put_rows_other _ _ (by simp), first.rows _ (by simp)]
  · rw [View.put_rows_other _ _ notFor, View.put_rows_other _ _ notOf, first.rows _ notItem]

/-- The request with all its items, from rows that leave room for them. -/
theorem wp_insertReturn {d₀ : Db} (journal : List Mark) {call : ReturnCall} {shop : Option Id}
    {lines : List ReturnLine} {Q : Unit → View (Table Row) Mark → Prop} (noErr : ∀ e, E e)
    (tallied : Tallied d₀ v.rows journal) (closed : activeReturns v.rows call.dto.subOrderId = [])
    (fits : ∀ i item, d₀ (.orderItem i) = some item →
      claimedQuantity v.rows i + pendingQuantity lines i ≤ item.quantity)
    (belong : ∀ line ∈ lines, ∃ item, d₀ (.orderItem line.orderItem) = some item ∧
      item.subOrder = call.dto.subOrderId)
    (h : ∀ w, v.Continues (OpenedKey call.returnId call.dto.subOrderId) NoMark w →
      v.rows (.returnRequest call.returnId) = none →
      Opening d₀ v.rows call.returnId call.dto.subOrderId [] w.rows → Q () w) :
    (insertReturn call shop lines).wp I Q E v := by
  unfold insertReturn
  rw [wp_bind]
  refine wp_insert (fun _ => noErr _) fun w first _ free stored => ?_
  rw [wp_bind, wp_modify]
  have filed : v.Continues (OpenedKey call.returnId call.dto.subOrderId) NoMark
      (w.put (.returnsOf call.dto.subOrderId) fun ids => some (listed ids ++ [call.returnId])) :=
    (first.mono (fun _ same => Or.inl same) fun _ no => no).trans (.put (Or.inr (Or.inl rfl)))
  have start : Opening d₀ v.rows call.returnId call.dto.subOrderId (lines.zipIdx.map (·.1))
      (w.put (.returnsOf call.dto.subOrderId) fun ids => some (listed ids ++ [call.returnId])).rows := by
    rw [List.zipIdx_map_fst]
    have own := (View.put_rows_other w (fun ids => some (listed ids ++ [call.returnId]))
      (show Key.returnRequest call.returnId ≠ .returnsOf call.dto.subOrderId by simp)).trans stored
    refine Opening.start ⟨free, own, rfl, ?_, fun k notRequest notList => ?_⟩ tallied closed rfl fits belong
    · rw [View.put_rows_self, first.rows _ (by simp)]
    · rw [View.put_rows_other _ _ notList, first.rows _ notRequest]
  refine wp_mono _ (wp_forM (fun rest u => v.Continues (OpenedKey call.returnId call.dto.subOrderId) NoMark u ∧
    Opening d₀ v.rows call.returnId call.dto.subOrderId (rest.map (·.1)) u.rows) _ (fun line rest u kept => ?_)
    lines.zipIdx ⟨filed, start⟩) (fun _ u done => h u done.1 free done.2) fun _ e => e
  exact wp_insertReturnItem noErr fun u' more fresh own byRequest byItem same =>
    ⟨kept.1.trans more, kept.2.step ⟨fresh, own, byRequest, byItem, same⟩⟩

/-- The lines that pass: each once, of an item of the sub-order, within what its receipts leave. -/
theorem wp_returnLines {loaded : SubOrderForReturn} {base : Rat} (received : Id → Nat) {dto : List ReturnItemInputDto}
    {seen : List Id} {Q : List ReturnLine → View (Table Row) Mark → Prop} (noErr : ∀ e, E e)
    (reads : ∀ u d m i item, v.Continues (fun _ => False) NoMark u → I.Sees u d m →
      loaded.items.lookup i = some item → received i ≤ receivedQuantity d i)
    (h : ∀ lines w, v.Continues (fun _ => False) NoMark w → (lines.map (·.orderItem)).Nodup →
      (∀ line ∈ lines, line.orderItem ∉ seen ∧ ∃ item, loaded.items.lookup line.orderItem = some item ∧
        received line.orderItem + line.quantity ≤ item.quantity ∧
        line.refund = refundAmount item.priceAtPurchase line.quantity loaded.row.subTotal base) → Q lines w) :
    (returnLines loaded base dto seen).wp I Q E v := by
  induction dto generalizing seen v Q with
  | nil => exact h [] v (.refl v) List.nodup_nil fun _ no => nomatch no
  | cons line rest ih =>
    unfold returnLines
    rw [wp_bind, wp_require]
    refine ⟨fun new => ?_, fun _ => noErr _⟩
    rw [wp_bind, wp_orFail]
    refine ⟨fun item found => ?_, fun _ => noErr _⟩
    rw [wp_bind, wp_select]
    intro d m sees
    dsimp only
    rw [wp_bind, wp_require]
    refine ⟨fun room => ?_, fun _ => noErr _⟩
    rw [wp_bind]
    have looked : v.Continues (fun _ => False) NoMark (v.looking m) := .looking (I.forward sees)
    refine ih (fun u d' m' i item' more => reads u d' m' i item' (looked.trans more)) fun others w more unique fine => ?_
    rw [wp_pure]
    refine h _ w (looked.trans more) (List.nodup_cons.mpr ⟨fun twice => ?_, unique⟩) fun l member => ?_
    · obtain ⟨other, inside, same⟩ := List.mem_map.mp twice
      exact (fine other inside).1 (by rw [same]; exact List.mem_cons_self)
    · rcases List.mem_cons.mp member with rfl | later
      · have least := reads v d m line.orderItemId item (.refl v) sees found
        exact ⟨new, item, found, by dsimp only; omega, rfl⟩
      · obtain ⟨fresh, fact⟩ := fine l later
        exact ⟨fun old => fresh (List.mem_cons_of_mem _ old), fact⟩

theorem wp_lockReturnForSeller {sellerId r : Id} {Q : LoadedReturn → View (Table Row) Mark → Prop} (noErr : ∀ e, E e)
    (h : ∀ u d m loaded, v.Continues (fun _ => False) NoMark u → u.held (.returnRequest r) = true → I.Sees u d m →
      loadReturn d sellerId r = some loaded → Q loaded (u.looking m)) :
    (lockReturnForSeller sellerId r).wp I Q E v := by
  unfold lockReturnForSeller
  rw [wp_bind]
  refine wp_selectForUpdate fun u first held => ?_
  rw [wp_bind, wp_orFail]
  refine ⟨fun _ _ => ?_, fun _ => noErr _⟩
  rw [wp_bind, wp_select]
  intro d m sees
  rw [wp_orFail]
  exact ⟨fun loaded found => h u d m loaded first held sees found, fun _ => noErr _⟩

theorem loadReturn_some {d : Db} {sellerId r : Id} {loaded : LoadedReturn} (read : loadReturn d sellerId r = some loaded) :
    d (.returnRequest r) = some loaded.row ∧ loaded.lines = linesOfReturn d r := by
  simp only [loadReturn, Option.bind_eq_bind, Option.bind_eq_some_iff] at read
  obtain ⟨row, stands, shop, _, rest⟩ := read
  split at rest
  · cases rest
  · simp only [Option.bind_eq_some_iff, Option.some.injEq] at rest
    obtain ⟨subOrder, _, order, _, rfl⟩ := rest
    exact ⟨stands, rfl⟩

theorem active_of_step {source target : ReturnStatus} (step : target ∈ RETURN_STATE_MACHINE source) :
    source ∈ ACTIVE_RETURN_STATUSES := by
  cases source <;> simp_all [RETURN_STATE_MACHINE, ACTIVE_RETURN_STATUSES]

theorem lookup_itemsOfSubOrder {d : Db} {sub i : Id} {item : OrderItem}
    (found : (itemsOfSubOrder d sub).lookup i = some item) :
    i ∈ listed (d (.itemsOf sub)) ∧ d (.orderItem i) = some item := by
  obtain ⟨before, after, split, _⟩ := List.lookup_eq_some_iff.mp found
  have member : (i, item) ∈ itemsOfSubOrder d sub := by rw [split]; simp
  obtain ⟨j, inside, read⟩ := List.mem_filterMap.mp member
  obtain ⟨row, stands, same⟩ := Option.map_eq_some_iff.mp read
  obtain ⟨rfl, rfl⟩ := Prod.mk.inj same
  exact ⟨inside, stands⟩

end

/-- The requests of a sub-order and of its items are listed under the lock of the sub-order. -/
def ReturnGuard (d₀ : Db) (j k : Key) : Prop :=
  (∃ sub, j = .returnsOf sub ∧ k = .subOrder sub) ∨
    ∃ i item, d₀ (.orderItem i) = some item ∧ j = .returnItemsFor i ∧ k = .subOrder item.subOrder

def TalliedIn (d₀ : Db) (s : Store (Table Row) Mark) : Prop := Tallied d₀ s.rows s.journal

/-- A transaction that keeps the tally under the locks of the sub-orders. -/
def KeepsTally (d₀ : Db) {α : Type} (body : Action α) : Prop :=
  body.KeepsGuarded (ReturnGuard d₀) (fun _ _ => True) (TalliedIn d₀) fun s t => Closing s.rows t.rows

section
variable {d₀ : Db} {h : History (Table Row) Mark} {w : View (Table Row) Mark} {r : Id} {row row' : ReturnRequest}

/-- The commit of a change of one open request. -/
theorem Tallied.commit_resolve (lines : List StockLine) (inv : TalliedIn d₀ h.current)
    (stands : h.current.rows (.returnRequest r) = some row) (active : row.status ∈ ACTIVE_RETURN_STATUSES)
    (sub : row'.subOrder = row.subOrder) (own : w.rows (.returnRequest r) = some row')
    (rest : ∀ k, ReturnKey k → k ≠ .returnRequest r → w.rows k = h.current.rows k)
    (stock : ∀ k, StockKey k → w.rows k = addStock lines 1 h.current.rows k) (put : receivedLines w.log = lines)
    (once : ∀ q, returnRestocks w.log q =
      if q = r ∧ row'.status = .received then [linesOfReturn h.current.rows r] else []) :
    TalliedIn d₀ (h.commit w) ∧ Closing h.current.rows (h.commit w).rows ∧ Disciplined (ReturnGuard d₀) h w := by
  refine ⟨Tallied.resolve inv stands active sub own rest stock put once,
    Closing.resolve stands active sub own rest, fun j k guards _ => ?_⟩
  rcases guards with ⟨s, rfl, _⟩ | ⟨i, item, _, rfl, _⟩
  · exact rest (.returnsOf s) trivial nofun
  · exact rest (.returnItemsFor i) trivial nofun

/-- The commit of a change that moves no stock. -/
theorem Tallied.commit_restate (inv : TalliedIn d₀ h.current)
    (stands : h.current.rows (.returnRequest r) = some row) (active : row.status ∈ ACTIVE_RETURN_STATUSES)
    (sub : row'.subOrder = row.subOrder) (open_ : row'.status ≠ .received) (own : w.rows (.returnRequest r) = some row')
    (rest : ∀ k, k ≠ .returnRequest r → w.rows k = h.current.rows k) (silent : ∀ e ∈ w.log, e.Unreturned) :
    TalliedIn d₀ (h.commit w) ∧ Closing h.current.rows (h.commit w).rows ∧ Disciplined (ReturnGuard d₀) h w := by
  refine Tallied.commit_resolve [] inv stands active sub own (fun k _ other => rest k other) (fun k kind => ?_)
    (receivedLines_unreturned silent) fun q => ?_
  · rw [addStock_nil]
    exact rest k (by rintro rfl; exact kind)
  · rw [returnRestocks_unreturned silent, if_neg fun both => open_ both.2]

theorem cancelReturn_keeps (userId r : Id) (now : Time) : KeepsTally d₀ (cancelReturn userId r now) := by
  intro h m inv _ _
  unfold cancelReturn
  rw [wp_bind]
  refine wp_selectForUpdate fun w₁ first held => ?_
  rw [wp_bind, wp_orFail]
  refine ⟨fun _ _ => ?_, fun _ => trivial⟩
  rw [wp_bind, wp_select]
  intro d m₁ sees
  rw [wp_bind, wp_orFail]
  refine ⟨fun row found => ?_, fun _ => trivial⟩
  rw [wp_bind, wp_require]
  refine ⟨fun _ => ?_, fun _ => trivial⟩
  rw [wp_bind, wp_require]
  refine ⟨fun requested => ?_, fun _ => trivial⟩
  have stands : (w₁.looking m₁).rows (.returnRequest r) = some row :=
    ((h.guarded (ReturnGuard d₀)).held sees held).symm.trans found
  refine wp_save_held (k := Key.returnRequest r) held stands fun w₂ second _ stored => ?_
  intro _ _
  have before : ∀ k, w₁.rows k = h.current.rows k := fun k => first.rows k fun no => no
  refine Tallied.commit_restate (inv h.now (Nat.le_refl _)) ((before _).symm.trans stands) (by simp [requested, ACTIVE_RETURN_STATUSES]) ?_ ?_
    stored (fun k other => (second.rows k other).trans (before k)) ?_
  · rfl
  · simp
  · rw [second.log_same]
    intro e member
    rw [View.looking_log, first.log_same] at member
    cases member

theorem sellerResolve_keeps (sellerId r : Id) (newStatus : ReturnStatus) (open_ : newStatus ≠ .received)
    (sellerNote : Option String) (now : Time) :
    KeepsTally d₀ (sellerResolve sellerId r newStatus sellerNote now) := by
  intro h m inv _ _
  unfold sellerResolve
  rw [wp_bind]
  refine wp_lockReturnForSeller (fun _ => trivial) fun u d m₁ loaded first held sees read => ?_
  rw [wp_bind]
  unfold assertTransition
  rw [wp_require]
  refine ⟨fun step => ?_, fun _ => trivial⟩
  have stands : u.rows (.returnRequest r) = some loaded.row :=
    ((h.guarded (ReturnGuard d₀)).held sees held).symm.trans (loadReturn_some read).1
  rw [wp_bind]
  refine wp_save_held (k := Key.returnRequest r) held stands fun w₂ second _ stored => ?_
  unfold emitReturnStatusChanged
  rw [wp_note]
  intro _ _
  have before : ∀ k, u.rows k = h.current.rows k := fun k => first.rows k fun no => no
  refine Tallied.commit_restate (inv h.now (Nat.le_refl _)) ((before _).symm.trans stands) (active_of_step step) ?_ ?_ stored
    (fun k other => (second.rows k other).trans (before k)) fun e member => ?_
  · split <;> rfl
  · split <;> exact open_
  · rw [View.mark_log, second.log_same, View.looking_log, first.log_same] at member
    obtain rfl := List.mem_singleton.mp member
    trivial

/-- Between two commits of a run, a request that stands in both puts back the same lines. -/
theorem TalliedIn.lines_same {s t : Store (Table Row) Mark} (early : TalliedIn d₀ s) (late : TalliedIn d₀ t)
    (closing : Closing s.rows t.rows) (there : (s.rows (.returnRequest r)).isSome) :
    linesOfReturn t.rows r = linesOfReturn s.rows r := by
  have present : ∀ k, StockKey k → (t.rows k).isSome = (s.rows k).isSome := fun k kind => by
    rw [early.stock k kind, late.stock k kind]
    cases k <;> first | exact kind.elim | simp [addStock]
  refine linesOfReturn_congr (closing.itemsOf r there) (fun x member => ?_) (fun i => ?_)
    (fun p => present (.product p) trivial) fun x => present (.variant x) trivial
  · obtain ⟨item, found⟩ := Option.isSome_iff_exists.mp (early.filed.items r x member)
    rw [closing.item x item found, found]
  · rw [late.orderItem, early.orderItem]

theorem within_markSubOrderReturned (sub : Id) (received : Id → Nat) :
    (markSubOrderReturnedIfComplete sub received).Within (· = .subOrder sub) NoMark :=
  within_bind (within_select _) fun _ => within_given fun _ => within_updateWhere _ _ _ rfl

theorem receiveReturn_keeps (sellerId r : Id) (now : Time) : KeepsTally d₀ (receiveReturn sellerId r now) := by
  intro h m inv ordered _
  have current := inv h.now (Nat.le_refl _)
  unfold receiveReturn
  rw [wp_bind]
  refine wp_lockReturnForSeller (fun _ => trivial) fun u d m₁ loaded first held sees read => ?_
  rw [wp_bind]
  unfold assertTransition
  rw [wp_require]
  refine ⟨fun step => ?_, fun _ => trivial⟩
  have before : u.rows = h.current.rows := first.rows_same
  have whole : d = (h.past m₁).rows := h.sees_past sees before
  obtain ⟨found, lines⟩ := loadReturn_some read
  have stands : u.rows (.returnRequest r) = some loaded.row :=
    ((h.guarded (ReturnGuard d₀)).held sees held).symm.trans found
  have small : m₁ ≤ h.now := sees.1.2.1
  have same : loaded.lines = linesOfReturn h.current.rows r := by
    rw [lines, whole]
    refine ((inv m₁ small).lines_same current (ordered m₁ h.now small (Nat.le_refl _)) ?_).symm
    rw [← whole, found]
    rfl
  rw [wp_bind]
  refine wp_restock (fun _ => trivial) fun w₂ second stock => ?_
  rw [wp_bind, wp_note, wp_bind]
  have standing : w₂.rows (.returnRequest r) = some loaded.row := (second.rows (.returnRequest r) fun no => no).trans stands
  refine wp_save_held (k := Key.returnRequest r) (second.held _ held) standing fun w₃ third _ stored => ?_
  have tail : (do
      let receivedByItem ← select fun d => sumReceivedByOrderItem d loaded.row.subOrder
      markSubOrderReturnedIfComplete loaded.row.subOrder receivedByItem
      emitReturnStatusChanged r loaded .received none : Action Unit).Within
        (· = .subOrder loaded.row.subOrder) Mark.Unreturned := by
    refine within_bind (within_select _) fun _ => within_bind ?_ fun _ => (within_note _).mpr trivial
    exact within_mono (fun _ k => k) (fun _ no => no.elim) (within_markSubOrderReturned _ _)
  refine wp_of_within tail (fun _ w₄ last => ?_) fun _ => trivial
  intro _ _
  obtain ⟨marks, log, silent⟩ := last.log
  have logged : w₄.log = .returnRestocked r loaded.lines :: marks := by
    rw [log, third.log_same, View.mark_log, second.log_same, View.looking_log, first.log_same]
    rfl
  have others : ∀ k, k ≠ .subOrder loaded.row.subOrder → k ≠ .returnRequest r →
      w₄.rows k = addStock loaded.lines 1 h.current.rows k := fun k notSub notRequest => by
    rw [last.rows k notSub, third.rows k notRequest, View.mark_rows, stock, View.looking_rows, before]
  have own : w₄.rows (.returnRequest r) = some { loaded.row with status := .received, resolvedAt := some now } := by
    rw [last.rows _ (by simp), stored]
  refine Tallied.commit_resolve loaded.lines current (before ▸ stands) (active_of_step step) ?_ own
    (fun k kind other => ?_) (fun k kind => ?_) ?_ fun q => ?_
  · rfl
  · rw [others k (by rintro rfl; exact kind) other]
    cases k <;> first | exact kind.elim | rfl
  · exact others k (by rintro rfl; exact kind) (by rintro rfl; exact kind)
  · rw [logged]
    have rest := receivedLines_unreturned silent
    simp only [receivedLines, List.flatMap_cons] at rest ⊢
    rw [rest, List.append_nil]
    rfl
  · rw [logged, ← same]
    have rest := returnRestocks_unreturned silent q
    simp only [returnRestocks, List.filterMap_cons] at rest ⊢
    rw [rest]
    by_cases mine : q = r <;> simp [Mark.returnRestockOf, mine, Ne.symm]

theorem within_checkReturnable {K : Key → Prop} (call : ReturnCall) (loaded : SubOrderForReturn) :
    (checkReturnable call loaded).Within K NoMark := by
  unfold checkReturnable
  refine within_bind (within_orFail _ _) fun _ => within_bind (within_require _ _) fun _ => ?_
  refine within_bind (within_require _ _) fun _ => within_bind (within_orFail _ _) fun _ => ?_
  exact within_bind (within_require _ _) fun _ => within_pure _

/-- While the sub-order is locked and none of its requests is open, what is claimed of its items is
what any later statement reads as received. -/
theorem claimed_le_received {sub m₁ m₂ i : Id} {v u : View (Table Row) Mark} {d : Db} {item : OrderItem}
    (inv : ∀ j ≤ h.now, TalliedIn d₀ (h.past j))
    (ordered : ∀ j k, j ≤ k → k ≤ h.now → Closing (h.past j).rows (h.past k).rows)
    (none_ : activeReturns (h.past m₁).rows sub = [])
    (list : (h.past m₁).rows (.returnsOf sub) = h.current.rows (.returnsOf sub)) (bought : d₀ (.orderItem i) = some item)
    (mine : item.subOrder = sub) (unwritten : v.rows = h.current.rows) (held : v.held (.subOrder sub) = true)
    (more : v.Continues (fun _ => False) NoMark u) (later : m₁ ≤ v.seen) (sees : (h.guarded (ReturnGuard d₀)).Sees u d m₂) :
    claimedQuantity h.current.rows i ≤ receivedQuantity d i := by
  obtain rfl := h.sees_past sees (more.rows_same.trans unwritten)
  have small : m₂ ≤ h.now := sees.1.2.1
  have order : m₁ ≤ m₂ := Nat.le_trans later (Nat.le_trans more.seen sees.1.1)
  have locked := more.held _ held
  have lists : (h.past m₂).rows (.returnsOf sub) = h.current.rows (.returnsOf sub) :=
    sees.2 _ _ (Or.inr (Or.inl ⟨sub, rfl, rfl⟩)) locked
  have named : (h.past m₂).rows (.returnItemsFor i) = h.current.rows (.returnItemsFor i) :=
    sees.2 _ _ (Or.inr (Or.inr ⟨i, item, bought, rfl, rfl⟩)) (mine ▸ locked)
  have still : activeReturns (h.past m₂).rows sub = [] :=
    (ordered m₁ m₂ order small).none_active (inv m₁ (Nat.le_trans order small)).filed (lists.trans list.symm) none_
  have there : (h.past m₂).rows (.orderItem i) = some item := ((inv m₂ small).orderItem i).trans bought
  exact Nat.le_of_eq ((ordered m₂ h.now small (Nat.le_refl _)).claimed (inv m₂ small).filed there named.symm (mine ▸ still))

theorem createReturn_keeps (call : ReturnCall) : KeepsTally d₀ (createReturn call) := by
  intro h m inv ordered _
  have current := inv h.now (Nat.le_refl _)
  unfold createReturn lockAndLoadSubOrderForReturn
  rw [wp_bind, wp_bind]
  refine wp_selectForUpdate fun u first held => ?_
  cases (View.start h.current.rows m : View (Table Row) Mark).rows (.subOrder call.dto.subOrderId) with
  | none => simp only [wp_pure, wp_bind, wp_orFail, reduceCtorEq, false_implies, implies_true, and_self]
  | some row =>
    dsimp only
    rw [wp_select]
    intro d m₁ sees
    rw [wp_bind, wp_orFail]
    refine ⟨fun loaded found => ?_, fun _ => trivial⟩
    obtain ⟨row', _, rfl⟩ := Option.map_eq_some_iff.mp found
    obtain rfl := h.sees_past sees first.rows_same
    rw [wp_bind]
    refine wp_of_within (within_checkReturnable (K := fun _ => False) call _) (fun order u₂ second => ?_) fun _ => trivial
    rw [wp_bind, wp_select]
    intro d₂ m₂ sees₂
    rw [wp_bind, wp_require]
    refine ⟨fun none_ => ?_, fun _ => trivial⟩
    rw [wp_bind, wp_require]
    refine ⟨fun _ => ?_, fun _ => trivial⟩
    have upto : (View.start h.current.rows m : View (Table Row) Mark).Continues (fun _ => False) NoMark (u₂.looking m₂) :=
      ((first.trans (.looking ((h.guarded (ReturnGuard d₀)).forward sees))).trans second).trans
        (.looking ((h.guarded (ReturnGuard d₀)).forward sees₂))
    have locked : (u₂.looking m₂).held (.subOrder call.dto.subOrderId) = true := second.held _ held
    have unwritten : (u₂.looking m₂).rows = h.current.rows := upto.rows_same
    obtain rfl := h.sees_past sees₂ unwritten
    have small : m₂ ≤ h.now := sees₂.1.2.1
    have closed : activeReturns (h.past m₂).rows call.dto.subOrderId = [] := List.length_eq_zero_iff.mp none_
    have list : (h.past m₂).rows (.returnsOf call.dto.subOrderId) = h.current.rows (.returnsOf call.dto.subOrderId) :=
      sees₂.2 _ _ (Or.inr (Or.inl ⟨_, rfl, rfl⟩)) locked
    -- the item rows never change, so that of the first statement is that of every other
    have bought : ∀ i item, (itemsOfSubOrder (h.past m₁).rows call.dto.subOrderId).lookup i = some item →
        d₀ (.orderItem i) = some item ∧ item.subOrder = call.dto.subOrderId := by
      intro i item found
      have early := inv m₁ sees.1.2.1
      obtain ⟨inside, stands⟩ := lookup_itemsOfSubOrder found
      obtain ⟨item', stands', owner⟩ := early.filed.owned _ i inside
      obtain rfl := Option.some.inj (stands.symm.trans stands')
      exact ⟨(early.orderItem i).symm.trans stands, owner⟩
    rw [wp_bind]
    refine wp_returnLines (claimedQuantity h.current.rows) (fun _ => trivial)
      (fun u' d' m' i item more sees' found => ?_) fun lines w third unique fine => ?_
    · exact claimed_le_received inv ordered closed list (bought i item found).1 (bought i item found).2 unwritten locked
        more (Nat.le_refl _) sees'
    have same : w.rows = h.current.rows := third.rows_same.trans unwritten
    rw [wp_bind]
    refine wp_insertReturn h.current.journal (fun _ => trivial) (by rw [same]; exact current) ?_
      (fun i item there => ?_) (fun line member => ?_) fun w₂ filed fresh opening => ?_
    · rw [same]
      exact (ordered m₂ h.now small (Nat.le_refl _)).none_active (inv m₂ small).filed list.symm closed
    · rw [same]
      rcases pendingQuantity_of_nodup unique i with zero | ⟨line, member, rfl, total⟩
      · rw [zero]
        exact current.bounded i item there
      · obtain ⟨_, item', found, room, _⟩ := fine line member
        obtain rfl := Option.some.inj ((bought _ item' found).1.symm.trans there)
        rw [total]
        exact room
    · obtain ⟨_, item, found, _⟩ := fine line member
      exact ⟨item, bought _ item found⟩
    rw [wp_bind]
    unfold sellerOfShop
    rw [wp_select]
    intro d₃ m₃ sees₃
    rw [wp_note]
    intro _ _
    rw [same] at fresh opening
    refine ⟨opening.tallied current fresh fun e member => ?_, opening.closing fresh, fun j k guards free => ?_⟩
    · rw [View.mark_log, View.looking_log, filed.log_same, third.log_same, upto.log_same] at member
      obtain rfl := List.mem_singleton.mp member
      trivial
    · have held' : w₂.held (.subOrder call.dto.subOrderId) = true := filed.held _ (third.held _ locked)
      rcases guards with ⟨s, rfl, rfl⟩ | ⟨i, item, there, rfl, rfl⟩
      · have other : s ≠ call.dto.subOrderId := by
          rintro rfl
          rw [View.mark_held, View.looking_held, held'] at free
          cases free
        exact opening.other _ (by simp [OpenedKey, other])
      · refine opening.named i item there ?_
        rintro mine
        rw [View.mark_held, View.looking_held, mine, held'] at free
        cases free

theorem operation_keeps (op : ReturnOperation) : op.request.All fun _ body => KeepsTally d₀ body := by
  have detail : ∀ α (body : Action α), body.Within (fun _ => False) NoMark → KeepsTally d₀ body := by
    intro α body within h m inv _ _
    refine wp_of_within within (fun _ w more _ _ => ?_) fun _ => trivial
    have commit : h.commit w = h.current := by
      rw [History.commit, more.rows_same, more.log_same, View.start_rows, View.start_log, List.append_nil]
    rw [commit]
    refine ⟨inv h.now (Nat.le_refl _), Closing.refl _, fun j k _ _ => ?_⟩
    rw [more.rows_same, View.start_rows]
  have answered : ∀ (body : Action Unit) (show_ : Action ReturnRequestResponse), KeepsTally d₀ body →
      show_.Within (fun _ => False) NoMark → (thenDetail body show_).All fun _ body => KeepsTally d₀ body :=
    fun body show_ keeps within =>
      .tx keeps (fun _ => .tx (detail _ _ within) (fun _ => .done _) fun _ => .done _) fun _ => .done _
  have ofCustomer : ∀ user r, (getReturnDetail user r).Within (fun _ => False) NoMark := fun _ _ =>
    within_bind (within_select _) fun _ => within_orFail _ _
  have ofSeller : ∀ seller r, (getSellerReturnDetail seller r).Within (fun _ => False) NoMark := fun _ _ =>
    within_bind (within_select _) fun _ => within_orFail _ _
  cases op with
  | create call => exact answered _ _ (createReturn_keeps call) (ofCustomer _ _)
  | cancel user r now => exact .tx (cancelReturn_keeps user r now) (fun _ => .done _) fun _ => .done _
  | approve seller r now => exact answered _ _ (sellerResolve_keeps seller r .approved (by rintro ⟨⟩) none now) (ofSeller _ _)
  | reject seller r sellerNote now =>
    exact answered _ _ (sellerResolve_keeps seller r .rejected (by rintro ⟨⟩) (some sellerNote) now) (ofSeller _ _)
  | receive seller r now => exact answered _ _ (receiveReturn_keeps seller r now) (ofSeller _ _)

end

/-- One call for each thread that makes one. -/
def returnOperations (ops : Nat → Option ReturnOperation) (i : Nat) : Request :=
  match ops i with
  | some op => op.request
  | none => .done .done

/-- From any database whose returns keep to the bounds. -/
theorem returns_kept {d₀ : Db} (filed : Filed d₀) (bounded : ∀ i item, d₀ (.orderItem i) = some item →
      claimedQuantity d₀ i ≤ item.quantity) (single : ∀ sub, (activeReturns d₀ sub).length ≤ 1)
    {ops : Nat → Option ReturnOperation} {fault : Err} {c : Conf (Table Row) Mark Err Answer}
    (run : Moves (fun _ _ => True) fault (Conf.start ⟨d₀, []⟩ (returnOperations ops)) c) : ReturnsKept d₀ c.store := by
  have start : TalliedIn d₀ ⟨d₀, []⟩ := by
    refine ⟨filed, .refl d₀, fun _ => rfl, fun _ => rfl, bounded, single, fun r => ?_, fun k _ => ?_⟩
    · rw [if_neg fun both => both.2 both.1]
      rfl
    · rw [show receivedLines [] = [] from rfl, addStock_nil]
  have keeps : ∀ i, (returnOperations ops i).All fun _ body => KeepsTally d₀ body := fun i => by
    unfold returnOperations
    cases ops i with
    | none => exact .done _
    | some op => exact operation_keeps op
  have tallied : TalliedIn d₀ c.store :=
    keepsGuarded_safe (fun s => Closing.refl s.rows) (fun first second => first.trans second) start keeps run
  exact ⟨fun i item stands => tallied.bounded i item ((tallied.orderItem i).symm.trans stands), tallied.single,
    tallied.restocked, tallied.stock⟩

/-- A delivered sub-order with three of product 5. -/
def delivered : Db
  | .order 1 => some
    { customer := some 3, globalCoupon := none, totalAmount := 1500, globalDiscountAmount := some 0,
      globalCouponCode := none, shippingAddress := ⟨"", "", "", none, none⟩, status := .delivered,
      idempotencyKey := none, orderNumber := "ORD-1", createdAt := 0 }
  | .subOrdersOf 1 => some [10]
  | .subOrder 10 => some
    { shop := some 7, order := 1, shopCoupon := none, subTotal := 1500, shippingFee := 0, shopDiscountAmount := 0,
      shopCouponCode := none, totalAmount := 1500, status := .delivered, deliveredAt := some 0 }
  | .itemsOf 10 => some [100]
  | .orderItem 100 => some
    { variant := none, subOrder := 10, product := some 5, quantity := 3, priceAtPurchase := 500,
      productName := "", variantName := none, productThumbnail := none, variantAttributes := none }
  | .product 5 => some
    { shop := 7, name := "", price := 500, thumbnailUrl := none, stockQuantity := 8, hasVariants := false,
      isHidden := false, status := .active }
  | .shop 7 => some { seller := 4, name := "", lat := none, lng := none, isCoordinatesVerified := false, status := .active }
  | _ => none

/-- Two requests for the same items, and the way of the first to its receipt. -/
def twoReturns : Nat → Option ReturnOperation
  | 0 => some (.create ⟨3, ⟨10, .damaged, "", [⟨100, 2⟩]⟩, 5, 20, fun n => 200 + n⟩)
  | 1 => some (.create ⟨3, ⟨10, .damaged, "", [⟨100, 2⟩]⟩, 5, 21, fun n => 300 + n⟩)
  | 2 => some (.approve 4 20 6)
  | 3 => some (.receive 4 20 7)
  | _ => none

theorem delivered_filed : Filed delivered := by
  refine ⟨fun _ _ no => (nomatch no), fun _ _ no => (nomatch no), fun _ _ no => (nomatch no), fun _ _ no => (nomatch no), fun sub i member => ?_⟩
  by_cases ten : sub = 10
  · subst ten
    obtain rfl := List.mem_singleton.mp member
    exact ⟨_, rfl, rfl⟩
  · simp [delivered, ten, listed] at member

set_option maxRecDepth 4000 in
/-- The second request waits for the first and is turned down; the first comes back in full. -/
theorem twoReturns_kept :
    ∃ c, Moves (fun _ _ => True) .database (Conf.start ⟨delivered, []⟩ (returnOperations twoReturns)) c ∧
      returnRestocks c.store.journal 20 = [[⟨5, none, 2⟩]] ∧ claimedQuantity c.store.rows 100 = 2 ∧
      ReturnsKept delivered c.store := by
  have found : ∃ c ∈ (Conf.start ⟨delivered, []⟩ (returnOperations twoReturns)).play
      ([1] ++ List.replicate 21 0 ++ List.replicate 5 1 ++ List.replicate 11 2 ++ List.replicate 20 3),
      returnRestocks c.store.journal 20 = [[⟨5, none, 2⟩]] ∧ claimedQuantity c.store.rows 100 = 2 := by
    decide +kernel
  obtain ⟨c, run, once, claimed⟩ := Conf.exists_moves _ (Conf.obeys_any _ _) found
  refine ⟨c, run, once, claimed, returns_kept delivered_filed (fun i item _ => ?_) (fun sub => ?_) run⟩
  · exact Nat.zero_le _
  · exact Nat.zero_le 1

end Marketplace
