import Marketplace.ReadCommitted.Tx

/-! Weakest preconditions of a transaction under an isolation level, and the frame rule. -/
namespace ReadCommitted

variable {Key : Type} {Val : Key → Type} {Ev Err α β ι : Type}

/-- A transaction seen from its commit: `rows` is the database if it committed now, `held` the
rows it has locked and `seen` the commit count its last statement read at. -/
structure View (Val : Key → Type) (Ev : Type) where
  rows : Rows Val
  held : Key → Bool
  log : List Ev
  seen : Nat

namespace View

def start (d : Rows Val) (m : Nat) : View Val Ev := ⟨d, fun _ => false, [], m⟩

section
variable [DecidableEq Key]

def hold (v : View Val Ev) (k : Key) : View Val Ev :=
  { v with held := Function.update v.held k true }

def put (v : View Val Ev) (k : Key) (f : Val k → Val k) : View Val Ev :=
  { v with rows := Function.update v.rows k (f (v.rows k)), held := Function.update v.held k true }

end

def mark (v : View Val Ev) (e : Ev) : View Val Ev := { v with log := v.log ++ [e] }

def looking (v : View Val Ev) (m : Nat) : View Val Ev := { v with seen := m }

@[simp] theorem start_rows (d : Rows Val) (m : Nat) : (start d m : View Val Ev).rows = d := rfl
@[simp] theorem start_held (d : Rows Val) (m : Nat) (k : Key) :
    (start d m : View Val Ev).held k = false := rfl
@[simp] theorem start_log (d : Rows Val) (m : Nat) : (start d m : View Val Ev).log = [] := rfl
@[simp] theorem start_seen (d : Rows Val) (m : Nat) : (start d m : View Val Ev).seen = m := rfl

section
variable [DecidableEq Key]

@[simp] theorem hold_rows (v : View Val Ev) (k : Key) : (v.hold k).rows = v.rows := rfl
@[simp] theorem hold_log (v : View Val Ev) (k : Key) : (v.hold k).log = v.log := rfl
@[simp] theorem hold_seen (v : View Val Ev) (k : Key) : (v.hold k).seen = v.seen := rfl
@[simp] theorem hold_self (v : View Val Ev) (k : Key) : (v.hold k).held k = true := by
  simp [hold]

theorem hold_held (v : View Val Ev) (k j : Key) (h : v.held j = true) : (v.hold k).held j = true := by
  by_cases same : j = k
  · subst same; simp
  · simpa [hold, same] using h

@[simp] theorem put_log (v : View Val Ev) (k : Key) (f : Val k → Val k) : (v.put k f).log = v.log := rfl
@[simp] theorem put_seen (v : View Val Ev) (k : Key) (f : Val k → Val k) :
    (v.put k f).seen = v.seen := rfl
@[simp] theorem put_rows_self (v : View Val Ev) (k : Key) (f : Val k → Val k) :
    (v.put k f).rows k = f (v.rows k) := by simp [put]
@[simp] theorem put_held_self (v : View Val Ev) (k : Key) (f : Val k → Val k) :
    (v.put k f).held k = true := by simp [put]

theorem put_rows_other (v : View Val Ev) {k j : Key} (f : Val k → Val k) (h : j ≠ k) :
    (v.put k f).rows j = v.rows j := by simp [put, h]

theorem put_held (v : View Val Ev) (k j : Key) (f : Val k → Val k) (h : v.held j = true) :
    (v.put k f).held j = true := hold_held v k j h

end

@[simp] theorem mark_rows (v : View Val Ev) (e : Ev) : (v.mark e).rows = v.rows := rfl
@[simp] theorem mark_held (v : View Val Ev) (e : Ev) : (v.mark e).held = v.held := rfl
@[simp] theorem mark_log (v : View Val Ev) (e : Ev) : (v.mark e).log = v.log ++ [e] := rfl
@[simp] theorem mark_seen (v : View Val Ev) (e : Ev) : (v.mark e).seen = v.seen := rfl

@[simp] theorem looking_rows (v : View Val Ev) (m : Nat) : (v.looking m).rows = v.rows := rfl
@[simp] theorem looking_held (v : View Val Ev) (m : Nat) : (v.looking m).held = v.held := rfl
@[simp] theorem looking_log (v : View Val Ev) (m : Nat) : (v.looking m).log = v.log := rfl
@[simp] theorem looking_seen (v : View Val Ev) (m : Nat) : (v.looking m).seen = m := rfl

/-- `w` continues `v`: it holds at least the same rows, and changes only `K` rows and marks only `L`. -/
structure Continues (K : Key → Prop) (L : Ev → Prop) (v w : View Val Ev) : Prop where
  held : ∀ k, v.held k = true → w.held k = true
  seen : v.seen ≤ w.seen
  rows : ∀ k, ¬ K k → w.rows k = v.rows k
  log : ∃ marks, w.log = v.log ++ marks ∧ ∀ e ∈ marks, L e

theorem Continues.refl {K : Key → Prop} {L : Ev → Prop} (v : View Val Ev) : Continues K L v v :=
  ⟨fun _ h => h, Nat.le_refl _, fun _ _ => rfl, [], by simp, by simp⟩

theorem Continues.trans {K : Key → Prop} {L : Ev → Prop} {u v w : View Val Ev}
    (first : Continues K L u v) (second : Continues K L v w) : Continues K L u w := by
  obtain ⟨marks, same, marked⟩ := first.log
  obtain ⟨more, next, moreMarked⟩ := second.log
  refine ⟨fun k h => second.held k (first.held k h), Nat.le_trans first.seen second.seen,
    fun k h => (second.rows k h).trans (first.rows k h), marks ++ more, ?_, ?_⟩
  · rw [next, same, List.append_assoc]
  · intro e member
    rcases List.mem_append.mp member with early | late
    · exact marked e early
    · exact moreMarked e late

theorem Continues.log_same {K : Key → Prop} {v w : View Val Ev} (h : Continues K (fun _ => False) v w) :
    w.log = v.log := by
  obtain ⟨marks, same, none⟩ := h.log
  rw [same, List.eq_nil_iff_forall_not_mem.mpr fun e member => none e member, List.append_nil]

theorem Continues.rows_same {L : Ev → Prop} {v w : View Val Ev} (h : Continues (fun _ => False) L v w) :
    w.rows = v.rows := funext fun k => h.rows k fun no => no

/-- A continuation that changes and marks nothing is one of any kind. -/
theorem Continues.idle {K : Key → Prop} {L : Ev → Prop} {v w : View Val Ev}
    (h : Continues (fun _ => False) (fun _ => False) v w) : Continues K L v w :=
  ⟨h.held, h.seen, fun k _ => h.rows k fun no => no, [], by simpa using h.log_same, by simp⟩

theorem Continues.mono {K K' : Key → Prop} {L L' : Ev → Prop} {v w : View Val Ev}
    (keys : ∀ k, K k → K' k) (marks : ∀ e, L e → L' e) (h : Continues K L v w) :
    Continues K' L' v w := by
  obtain ⟨more, same, marked⟩ := h.log
  exact ⟨h.held, h.seen, fun k out => h.rows k (fun inside => out (keys k inside)),
    more, same, fun e member => marks e (marked e member)⟩

section
variable {K : Key → Prop} {L : Ev → Prop}

theorem Continues.looking {v : View Val Ev} {m : Nat} (later : v.seen ≤ m) :
    v.Continues K L (v.looking m) :=
  ⟨fun _ held => held, later, fun _ _ => rfl, [], by simp, by simp⟩

theorem Continues.mark {v : View Val Ev} {e : Ev} (marked : L e) : v.Continues K L (v.mark e) :=
  ⟨fun _ held => held, Nat.le_refl _, fun _ _ => rfl, [e], rfl, by simpa using marked⟩

variable [DecidableEq Key]

theorem Continues.hold {v : View Val Ev} {k : Key} : v.Continues K L (v.hold k) :=
  ⟨fun j held => hold_held v k j held, Nat.le_refl _, fun _ _ => rfl, [], by simp, by simp⟩

theorem Continues.put {v : View Val Ev} {k : Key} {f : Val k → Val k} (changed : K k) :
    v.Continues K L (v.put k f) := by
  refine ⟨fun j held => put_held v k j f held, Nat.le_refl _, fun j out => ?_, [], by simp, by simp⟩
  exact put_rows_other v f fun same => out (same ▸ changed)

end

end View

/-- Which snapshots a statement of a transaction may read. A held row is read as the transaction
itself has it. -/
structure Isolation (Val : Key → Type) (Ev : Type) where
  Sees : View Val Ev → Rows Val → Nat → Prop
  held : ∀ {v d m k}, Sees v d m → v.held k = true → d k = v.rows k
  forward : ∀ {v d m}, Sees v d m → v.seen ≤ m

/-- Nothing else commits while the transaction runs. -/
def Isolation.serial : Isolation Val Ev where
  Sees v d m := d = v.rows ∧ m = v.seen
  held := by rintro v d m k ⟨rfl, _⟩ _; rfl
  forward := by rintro v d m ⟨_, rfl⟩; exact Nat.le_refl _

/-- Each statement reads the rows committed at some count between the last statement's and `now`. -/
def Isolation.readCommitted (past : Nat → Rows Val) (now : Nat) : Isolation Val Ev where
  Sees v d m := v.seen ≤ m ∧ m ≤ now ∧ d = fun k => if v.held k then v.rows k else past m k
  held := by rintro v d m k ⟨_, _, rfl⟩ h; simp [h]
  forward := fun h => h.1

/-- A row of a snapshot is the transaction's own or was committed by now. -/
theorem Isolation.row {past : Nat → Rows Val} {now m : Nat} {v : View Val Ev} {d : Rows Val}
    (sees : (Isolation.readCommitted past now).Sees v d m) (k : Key) :
    d k = v.rows k ∨ ∃ j ≤ now, d k = past j k := by
  obtain ⟨_, small, rfl⟩ := sees
  by_cases held : v.held k
  · exact Or.inl (by simp [held])
  · exact Or.inr ⟨m, small, by simp [held]⟩

/-- A property of single rows holds of a snapshot if it holds of the committed rows and of the
transaction's own. -/
theorem Isolation.pointwise {past : Nat → Rows Val} {now m : Nat} {v : View Val Ev} {d : Rows Val}
    {P : ∀ k, Val k → Prop} (sees : (Isolation.readCommitted past now).Sees v d m)
    (mine : ∀ k, P k (v.rows k)) (committed : ∀ j ≤ now, ∀ k, P k (past j k)) (k : Key) : P k (d k) := by
  rcases Isolation.row sees k with own | ⟨j, small, old⟩
  · rw [own]
    exact mine k
  · rw [old]
    exact committed j small k

namespace Tx

section
variable [DecidableEq Key]

/-- Every way the transaction can run from the view ends in `Q`, or fails into `E`. -/
def wp (I : Isolation Val Ev) (Q : α → View Val Ev → Prop) (E : Err → Prop) :
    Tx Val Ev Err α → View Val Ev → Prop
  | ret a, v => Q a v
  | fail e, _ => E e
  | read next, v => ∀ d m, I.Sees v d m → (next d).wp I Q E (v.looking m)
  | lock k next, v => next.wp I Q E (v.hold k)
  | update k f next, v => next.wp I Q E (v.put k f)
  | emit e next, v => next.wp I Q E (v.mark e)

variable {I : Isolation Val Ev} {Q R : α → View Val Ev → Prop} {E F : Err → Prop}
  {v : View Val Ev}

@[simp] theorem wp_ret (a : α) : (ret a : Tx Val Ev Err α).wp I Q E v ↔ Q a v := Iff.rfl

@[simp] theorem wp_pure (a : α) : (pure a : Tx Val Ev Err α).wp I Q E v ↔ Q a v := Iff.rfl

@[simp] theorem wp_fail (e : Err) : (fail e : Tx Val Ev Err α).wp I Q E v ↔ E e := Iff.rfl

@[simp] theorem wp_raise (e : Err) : (raise e : Tx Val Ev Err α).wp I Q E v ↔ E e := Iff.rfl

@[simp] theorem wp_select (f : Rows Val → α) :
    (select f : Tx Val Ev Err α).wp I Q E v ↔ ∀ d m, I.Sees v d m → Q (f d) (v.looking m) := Iff.rfl

@[simp] theorem wp_lockRow (k : Key) {Q : Unit → View Val Ev → Prop} :
    (lockRow k : Tx Val Ev Err Unit).wp I Q E v ↔ Q () (v.hold k) := Iff.rfl

@[simp] theorem wp_modify (k : Key) (f : Val k → Val k) {Q : Unit → View Val Ev → Prop} :
    (modify k f : Tx Val Ev Err Unit).wp I Q E v ↔ Q () (v.put k f) := Iff.rfl

@[simp] theorem wp_note (e : Ev) {Q : Unit → View Val Ev → Prop} :
    (note e : Tx Val Ev Err Unit).wp I Q E v ↔ Q () (v.mark e) := Iff.rfl

@[simp] theorem wp_require (p : Prop) [Decidable p] (e : Err) {Q : Unit → View Val Ev → Prop} :
    (require p e : Tx Val Ev Err Unit).wp I Q E v ↔ (p → Q () v) ∧ (¬ p → E e) := by
  by_cases h : p <;> simp [require, h]

@[simp] theorem wp_orFail (e : Err) (o : Option α) :
    (orFail e o : Tx Val Ev Err α).wp I Q E v ↔ (∀ a, o = some a → Q a v) ∧ (o = none → E e) := by
  cases o <;> simp [orFail]

theorem wp_ite (p : Prop) [Decidable p] (s t : Tx Val Ev Err α) :
    (if p then s else t).wp I Q E v ↔ (p → s.wp I Q E v) ∧ (¬ p → t.wp I Q E v) := by
  by_cases h : p <;> simp [h]

theorem wp_given (p : Prop) [Decidable p] (t : Tx Val Ev Err Unit) {Q : Unit → View Val Ev → Prop} :
    (given p t).wp I Q E v ↔ (p → t.wp I Q E v) ∧ (¬ p → Q () v) := by
  by_cases h : p <;> simp [given, h]

@[simp] theorem wp_bind (t : Tx Val Ev Err β) (f : β → Tx Val Ev Err α) :
    (t >>= f).wp I Q E v ↔ t.wp I (fun b w => (f b).wp I Q E w) E v := by
  change (t.bind f).wp I Q E v ↔ _
  induction t generalizing v with
  | ret b => rfl
  | fail e => rfl
  | read next ih =>
    constructor
    · intro h d m sees; exact (ih d).mp (h d m sees)
    · intro h d m sees; exact (ih d).mpr (h d m sees)
  | lock k next ih => exact ih
  | update k g next ih => exact ih
  | emit e next ih => exact ih

theorem wp_mono (t : Tx Val Ev Err α) (h : t.wp I Q E v) (post : ∀ a w, Q a w → R a w)
    (err : ∀ e, E e → F e) : t.wp I R F v := by
  induction t generalizing v with
  | ret a => exact post a v h
  | fail e => exact err e h
  | read next ih => intro d m sees; exact ih d (h d m sees)
  | lock k next ih => exact ih h
  | update k g next ih => exact ih h
  | emit e next ih => exact ih h

/-- What holds whatever is read holds where less can be read. -/
theorem wp_isolation {J : Isolation Val Ev} {t : Tx Val Ev Err α} (fewer : ∀ u d m, J.Sees u d m → I.Sees u d m)
    (h : t.wp I Q E v) : t.wp J Q E v := by
  induction t generalizing v with
  | ret a => exact h
  | fail e => exact h
  | read next ih => intro d m sees; exact ih d (h d m (fewer v d m sees))
  | lock k next ih => exact ih h
  | update k g next ih => exact ih h
  | emit e next ih => exact ih h

theorem wp_and (t : Tx Val Ev Err α) (first : t.wp I Q E v) (second : t.wp I R F v) :
    t.wp I (fun a w => Q a w ∧ R a w) (fun e => E e ∧ F e) v := by
  induction t generalizing v with
  | ret a => exact ⟨first, second⟩
  | fail e => exact ⟨first, second⟩
  | read next ih => intro d m sees; exact ih d (first d m sees) (second d m sees)
  | lock k next ih => exact ih first second
  | update k g next ih => exact ih first second
  | emit e next ih => exact ih first second

theorem wp_selectForUpdate {k : Key} {Q : Val k → View Val Ev → Prop}
    (h : ∀ w, v.Continues (fun _ => False) (fun _ => False) w → w.held k = true → Q (v.rows k) w) :
    (selectForUpdate k : Tx Val Ev Err (Val k)).wp I Q E v := by
  unfold selectForUpdate
  rw [wp_bind, wp_lockRow, wp_select]
  intro d m sees
  have read : d k = (v.hold k).rows k := I.held sees (View.hold_self v k)
  rw [read]
  exact h _ (View.Continues.hold.trans (.looking (I.forward sees))) (View.hold_self v k)

/-- A loop keeps `J`, which speaks of the elements still to come. -/
theorem wp_forM (J : List ι → View Val Ev → Prop) (f : ι → Tx Val Ev Err Unit)
    (step : ∀ x xs w, J (x :: xs) w → (f x).wp I (fun _ => J xs) E w) (xs : List ι) (h : J xs v) :
    (forM xs f).wp I (fun _ => J []) E v := by
  induction xs generalizing v with
  | nil => exact h
  | cons x xs ih =>
    rw [List.forM_cons, wp_bind]
    exact wp_mono _ (step x xs v h) (fun _ _ next => ih next) (fun _ e => e)

/-- A loop that collects results keeps `J`, which speaks of the results so far. -/
theorem wp_mapM (J : List ι → List α → View Val Ev → Prop) (f : ι → Tx Val Ev Err α)
    (step : ∀ x xs done w, J (x :: xs) done w → (f x).wp I (fun a => J xs (done ++ [a])) E w)
    (xs : List ι) (done : List α) (h : J xs done v) :
    (xs.mapM f).wp I (fun as => J [] (done ++ as)) E v := by
  induction xs generalizing v done with
  | nil => simpa using h
  | cons x xs ih =>
    rw [List.mapM_cons, wp_bind]
    refine wp_mono _ (step x xs done v h) (fun a w next => ?_) (fun _ e => e)
    rw [wp_bind]
    refine wp_mono _ (ih (done ++ [a]) next) (fun as w last => ?_) (fun _ e => e)
    simpa [List.append_assoc] using last

end

/-- The transaction changes no row outside `K` and marks nothing outside `L`. -/
def Within (K : Key → Prop) (L : Ev → Prop) : Tx Val Ev Err α → Prop
  | ret _ => True
  | fail _ => True
  | read next => ∀ d, (next d).Within K L
  | lock _ next => next.Within K L
  | update k _ next => K k ∧ next.Within K L
  | emit e next => L e ∧ next.Within K L

variable {K : Key → Prop} {L : Ev → Prop}

@[simp] theorem within_ret (a : α) : (ret a : Tx Val Ev Err α).Within K L := trivial
@[simp] theorem within_pure (a : α) : (pure a : Tx Val Ev Err α).Within K L := trivial
@[simp] theorem within_raise (e : Err) : (raise e : Tx Val Ev Err α).Within K L := trivial
@[simp] theorem within_select (f : Rows Val → α) : (select f : Tx Val Ev Err α).Within K L :=
  fun _ => trivial
@[simp] theorem within_lockRow (k : Key) : (lockRow k : Tx Val Ev Err Unit).Within K L := trivial
@[simp] theorem within_selectForUpdate (k : Key) :
    (selectForUpdate k : Tx Val Ev Err (Val k)).Within K L := fun _ => trivial
@[simp] theorem within_modify (k : Key) (f : Val k → Val k) :
    (modify k f : Tx Val Ev Err Unit).Within K L ↔ K k := and_iff_left trivial
@[simp] theorem within_note (e : Ev) : (note e : Tx Val Ev Err Unit).Within K L ↔ L e :=
  and_iff_left trivial
@[simp] theorem within_require (p : Prop) [Decidable p] (e : Err) :
    (require p e : Tx Val Ev Err Unit).Within K L := by
  unfold require; split <;> trivial
@[simp] theorem within_orFail (e : Err) (o : Option α) : (orFail e o : Tx Val Ev Err α).Within K L := by
  cases o <;> trivial

theorem within_bind {t : Tx Val Ev Err β} {f : β → Tx Val Ev Err α} (first : t.Within K L)
    (rest : ∀ b, (f b).Within K L) : (t >>= f).Within K L := by
  change (t.bind f).Within K L
  induction t with
  | ret b => exact rest b
  | fail e => trivial
  | read next ih => intro d; exact ih d (first d)
  | lock k next ih => exact ih first
  | update k g next ih => exact ⟨first.1, ih first.2⟩
  | emit e next ih => exact ⟨first.1, ih first.2⟩

theorem within_ite {p : Prop} [Decidable p] {s t : Tx Val Ev Err α} (yes : s.Within K L)
    (no : t.Within K L) : (if p then s else t).Within K L := by
  split
  · exact yes
  · exact no

theorem within_given {p : Prop} [Decidable p] {t : Tx Val Ev Err Unit} (yes : p → t.Within K L) :
    (given p t).Within K L := by
  unfold given
  split
  · rename_i holds; exact yes holds
  · trivial

theorem within_forM {f : ι → Tx Val Ev Err Unit} (xs : List ι) (body : ∀ x ∈ xs, (f x).Within K L) :
    (forM xs f).Within K L := by
  induction xs with
  | nil => trivial
  | cons x xs ih =>
    rw [List.forM_cons]
    exact within_bind (body x (by simp)) fun _ => ih fun y member => body y (by simp [member])

theorem within_mapM {f : ι → Tx Val Ev Err α} (xs : List ι) (body : ∀ x ∈ xs, (f x).Within K L) :
    (xs.mapM f).Within K L := by
  induction xs with
  | nil => simp
  | cons x xs ih =>
    rw [List.mapM_cons]
    refine within_bind (body x (by simp)) fun a => within_bind ?_ fun _ => within_pure _
    exact ih fun y member => body y (by simp [member])

theorem within_mono {K' : Key → Prop} {L' : Ev → Prop} {t : Tx Val Ev Err α}
    (keys : ∀ k, K k → K' k) (marks : ∀ e, L e → L' e) (h : t.Within K L) : t.Within K' L' := by
  induction t with
  | ret a => trivial
  | fail e => trivial
  | read next ih => intro d; exact ih d (h d)
  | lock k next ih => exact ih h
  | update k g next ih => exact ⟨keys k h.1, ih h.2⟩
  | emit e next ih => exact ⟨marks e h.1, ih h.2⟩

theorem within_any (t : Tx Val Ev Err α) : t.Within (fun _ => True) fun _ => True := by
  induction t with
  | ret a => trivial
  | fail e => trivial
  | read next ih => intro d; exact ih d
  | lock k next ih => exact ih
  | update k g next ih => exact ⟨trivial, ih⟩
  | emit e next ih => exact ⟨trivial, ih⟩

variable [DecidableEq Key] {I : Isolation Val Ev} {Q R : α → View Val Ev → Prop} {E : Err → Prop}
  {v : View Val Ev}

/-- The frame rule: past a transaction that stays within `K` and `L`, everything else is as before. -/
theorem wp_of_within {t : Tx Val Ev Err α} (h : t.Within K L)
    (post : ∀ a w, v.Continues K L w → Q a w) (err : ∀ e, E e) : t.wp I Q E v := by
  induction t generalizing v with
  | ret a => exact post a v (View.Continues.refl v)
  | fail e => exact err e
  | read next ih =>
    intro d m sees
    exact ih d (h d) fun a w more => post a w ((View.Continues.looking (I.forward sees)).trans more)
  | lock k next ih => exact ih h fun a w more => post a w (View.Continues.hold.trans more)
  | update k g next ih => exact ih h.2 fun a w more => post a w ((View.Continues.put h.1).trans more)
  | emit e next ih => exact ih h.2 fun a w more => post a w ((View.Continues.mark h.1).trans more)

/-- Locking rows in turn changes nothing and holds them all. -/
theorem wp_lockRows (key : ι → Key) (ids : List ι) {Q : Unit → View Val Ev → Prop}
    (h : ∀ w, v.Continues (fun _ => False) (fun _ => False) w →
      (∀ i ∈ ids, w.held (key i) = true) → Q () w) :
    (forM ids fun i => lockRow (key i) : Tx Val Ev Err Unit).wp I Q E v := by
  have loop := wp_forM (I := I) (E := E) (v := v)
    (fun rest w => v.Continues (fun _ => False) (fun _ => False) w ∧
      ∀ i ∈ ids, i ∈ rest ∨ w.held (key i) = true)
    (fun i => (lockRow (key i) : Tx Val Ev Err Unit))
    (fun i rest w kept => by
      rw [wp_lockRow]
      refine ⟨kept.1.trans View.Continues.hold, fun j member => ?_⟩
      rcases kept.2 j member with waiting | held
      · rcases List.mem_cons.mp waiting with same | later
        · subst same; exact Or.inr (View.hold_self w _)
        · exact Or.inl later
      · exact Or.inr (View.hold_held w (key i) _ held))
    ids ⟨View.Continues.refl v, fun i member => Or.inl member⟩
  refine wp_mono _ loop (fun _ w done => h w done.1 fun i member => ?_) (fun _ e => e)
  rcases done.2 i member with waiting | held
  · cases waiting
  · exact held

/-- The run alone is one of the runs `wp` speaks of. -/
theorem run_of_wp (t : Tx Val Ev Err α) (h : t.wp .serial Q E v) :
    match t.run v.rows v.log with
    | .ok (a, d, log) => ∃ w, Q a w ∧ w.rows = d ∧ w.log = log
    | .error e => E e := by
  induction t generalizing v with
  | ret a => exact ⟨v, h, rfl, rfl⟩
  | fail e => exact h
  | read next ih => exact ih v.rows (h v.rows v.seen ⟨rfl, rfl⟩)
  | lock k next ih => exact ih (v := v.hold k) h
  | update k g next ih => exact ih (v := v.put k g) h
  | emit e next ih => exact ih (v := v.mark e) h

section
variable {J : View Val Ev → Prop}

/-- Whatever it reads, the transaction carries `J` from its start to its commit. -/
def Maintains (J : View Val Ev → Prop) (t : Tx Val Ev Err α) : Prop :=
  ∀ (I : Isolation Val Ev) (v : View Val Ev), J v → t.wp I (fun _ => J) (fun _ => True) v

theorem maintains_bind {t : Tx Val Ev Err β} {f : β → Tx Val Ev Err α} (first : t.Maintains J)
    (second : ∀ b, (f b).Maintains J) : (t >>= f).Maintains J := by
  intro I v holds
  rw [wp_bind]
  exact wp_mono _ (first I v holds) (fun b w kept => second b I w kept) fun _ e => e

theorem maintains_of_within {K : Key → Prop} {L : Ev → Prop} {t : Tx Val Ev Err α} (h : t.Within K L)
    (stable : ∀ v w, v.Continues K L w → J v → J w) : t.Maintains J :=
  fun _ v holds => wp_of_within h (fun _ w more => stable v w more holds) fun _ => trivial

end

end Tx
end ReadCommitted
