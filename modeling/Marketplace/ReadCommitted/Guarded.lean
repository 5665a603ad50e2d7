import Marketplace.ReadCommitted.System

/-! An invariant of the committed store where some rows change only under the lock of another row. -/
namespace ReadCommitted

variable {Key : Type} {Val : Key → Type} {Ev Err Out : Type}

/-- `G j k` says that row `j` changes only under the lock of row `k`: while a transaction holds a row,
neither the row nor what it guards is committed anew. -/
def Isolation.guarded (past : Nat → Rows Val) (now : Nat) (G : Key → Key → Prop) : Isolation Val Ev where
  Sees v d m := (readCommitted past now).Sees v d m ∧
    ∀ j k, (j = k ∨ G j k) → v.held k = true → past m j = past now j
  held := fun h held => (readCommitted past now).held h.1 held
  forward := fun h => (readCommitted past now).forward h.1

/-- The committed stores of a run, by commit count. -/
structure History (Val : Key → Type) (Ev : Type) where
  past : Nat → Store Val Ev
  now : Nat

namespace History

abbrev current (h : History Val Ev) : Store Val Ev := h.past h.now

def push (h : History Val Ev) (s : Store Val Ev) : History Val Ev :=
  ⟨fun j => if j ≤ h.now then h.past j else s, h.now + 1⟩

def Extends (h' h : History Val Ev) : Prop := h.now ≤ h'.now ∧ ∀ j ≤ h.now, h'.past j = h.past j

theorem Extends.refl (h : History Val Ev) : h.Extends h := ⟨Nat.le_refl _, fun _ _ => rfl⟩

theorem Extends.trans {h h' h'' : History Val Ev} (first : h'.Extends h) (second : h''.Extends h') :
    h''.Extends h :=
  ⟨Nat.le_trans first.1 second.1, fun j le =>
    (second.2 j (Nat.le_trans le first.1)).trans (first.2 j le)⟩

@[simp] theorem push_current (h : History Val Ev) (s : Store Val Ev) : (h.push s).current = s := by
  have new : ¬ h.now + 1 ≤ h.now := by omega
  simp only [current, push, if_neg new]

theorem push_extends (h : History Val Ev) (s : Store Val Ev) : (h.push s).Extends h :=
  ⟨Nat.le_succ _, fun j le => by simp [push, le]⟩

/-- The isolation of a transaction that commits next. -/
abbrev isolation (h : History Val Ev) : Isolation Val Ev :=
  .readCommitted (fun j => (h.past j).rows) h.now

/-- As `isolation`, with rows that guard others. -/
abbrev guarded (h : History Val Ev) (G : Key → Key → Prop) : Isolation Val Ev :=
  .guarded (fun j => (h.past j).rows) h.now G

end History

/-- The store after a transaction with this view has committed. -/
def History.commit (h : History Val Ev) (w : View Val Ev) : Store Val Ev :=
  ⟨w.rows, h.current.journal ++ w.log⟩

/-- A commit changes a guarded row only while it holds the guard. -/
def Disciplined (G : Key → Key → Prop) (h : History Val Ev) (w : View Val Ev) : Prop :=
  ∀ j k, G j k → w.held k = false → w.rows j = h.current.rows j

/-- `Inv` holds of every committed store, `Le` relates each to the later ones, `Step` each to the next
with the thread and the marks of its commit, and `Ready` says what a thread between transactions needs. `commits` is the proof of one transaction: it may use
that every store it read from satisfies `Inv`, and that it is admitted. -/
structure GuardedInvariant [DecidableEq Key] (Val : Key → Type) (Ev Err Out : Type) (G : Key → Key → Prop)
    (guard : Store Val Ev → List Ev → Prop) (fault : Err) where
  Inv : Store Val Ev → Prop
  Le : Store Val Ev → Store Val Ev → Prop
  Step : Nat → Store Val Ev → List Ev → Store Val Ev → Prop
  Ready : Nat → Store Val Ev → Req Val Ev Err Out → Prop
  le_refl : ∀ s, Le s s
  le_trans : ∀ {s t u}, Le s t → Le t u → Le s u
  ready_le : ∀ {i s t r}, Le s t → Ready i s r → Ready i t r
  aborted : ∀ {i s α} {body : Tx Val Ev Err α} {ok err},
    Ready i s (.tx body ok err) → Ready i s (err fault)
  commits : ∀ {i α} {body : Tx Val Ev Err α} {ok err} {h : History Val Ev} {m : Nat},
    (∀ j ≤ h.now, Inv (h.past j)) → (∀ j k, j ≤ k → k ≤ h.now → Le (h.past j) (h.past k)) → m ≤ h.now →
    Ready i (h.past m) (.tx body ok err) →
    body.wp (h.guarded G)
      (fun a w => (∀ k, w.held k = false → w.rows k = h.current.rows k) → guard h.current w.log →
        Inv (h.commit w) ∧ Le h.current (h.commit w) ∧ Step i h.current w.log (h.commit w) ∧
          Ready i (h.commit w) (ok a) ∧ Disciplined G h w)
      (fun e => Ready i h.current (err e)) (View.start h.current.rows m)

namespace GuardedInvariant

variable [DecidableEq Key] {guard : Store Val Ev → List Ev → Prop} {fault : Err} {G : Key → Key → Prop}
  (P : GuardedInvariant Val Ev Err Out G guard fault)

structure Valid (h : History Val Ev) : Prop where
  inv : ∀ j ≤ h.now, P.Inv (h.past j)
  le : ∀ j k, j ≤ k → k ≤ h.now → P.Le (h.past j) (h.past k)

theorem push {h : History Val Ev} (valid : P.Valid h) {s : Store Val Ev} (inv : P.Inv s)
    (le : P.Le h.current s) : P.Valid (h.push s) := by
  have old : ∀ j ≤ h.now, (h.push s).past j = h.past j := (h.push_extends s).2
  have new : (h.push s).past (h.now + 1) = s := h.push_current s
  constructor
  · intro j small
    rcases Nat.lt_or_ge h.now j with last | early
    · rw [show j = h.now + 1 from Nat.le_antisymm small last, new]
      exact inv
    · rw [old j early]
      exact valid.inv j early
  · intro j k order small
    rcases Nat.lt_or_ge h.now k with last | early
    · rw [show k = h.now + 1 from Nat.le_antisymm small last, new]
      rcases Nat.lt_or_ge h.now j with same | before
      · rw [show j = h.now + 1 from Nat.le_antisymm (Nat.le_trans order small) same, new]
        exact P.le_refl s
      · rw [old j before]
        exact P.le_trans (valid.le j h.now before (Nat.le_refl _)) le
    · rw [old j (Nat.le_trans order early), old k early]
      exact valid.le j k order early

/-- The view of thread `i` when the store it commits over has the rows `base`. -/
def viewOf (c : Conf Val Ev Err Out) (i : Nat) (mine : Rows Val) (log : List Ev) (seen : Nat)
    (base : Rows Val) : View Val Ev :=
  ⟨fun k => if c.owner k = some i then mine k else base k, fun k => decide (c.owner k = some i), log, seen⟩

/-- Thread `i` holds the row, or its guard. -/
def Secured (G : Key → Key → Prop) (c : Conf Val Ev Err Out) (i : Nat) (j : Key) : Prop :=
  c.owner j = some i ∨ ∃ k, G j k ∧ c.owner k = some i

/-- Whatever commits before it, an open transaction that holds its rows can still finish. -/
def Live (h : History Val Ev) (c : Conf Val Ev Err Out) (i : Nat) {α : Type} (body : Tx Val Ev Err α)
    (ok : α → Req Val Ev Err Out) (err : Err → Req Val Ev Err Out) (mine : Rows Val)
    (log : List Ev) : Prop :=
  ∃ seen ≤ h.now, ∀ h' : History Val Ev, h'.Extends h → P.Valid h' →
    (∀ k, Secured G c i k → h'.current.rows k = c.store.rows k) →
    body.wp (h'.guarded G)
      (fun a w => (∀ k, w.held k = false → w.rows k = h'.current.rows k) → guard h'.current w.log →
        P.Inv (h'.commit w) ∧ P.Le h'.current (h'.commit w) ∧ P.Step i h'.current w.log (h'.commit w) ∧
          P.Ready i (h'.commit w) (ok a) ∧ Disciplined G h' w)
      (fun e => P.Ready i h'.current (err e)) (viewOf c i mine log seen h'.current.rows)

/-- What is known of one thread. -/
def Known (h : History Val Ev) (c : Conf Val Ev Err Out) (i : Nat) : Prop :=
  match c.thread i with
  | .idle r => P.Ready i c.store r ∧ ∀ k, c.owner k ≠ some i
  | .active body ok err mine log =>
    P.Ready i c.store (err fault) ∧ P.Live h c i body ok err mine log
  | .down => True

structure Good (h : History Val Ev) (c : Conf Val Ev Err Out) : Prop where
  valid : P.Valid h
  current : h.current = c.store
  thread : ∀ i, P.Known h c i

theorem good_start {s : Store Val Ev} {r : Nat → Req Val Ev Err Out} (inv : P.Inv s)
    (ready : ∀ i, P.Ready i s (r i)) : P.Good ⟨fun _ => s, 0⟩ (Conf.start s r) := by
  refine ⟨⟨fun _ _ => inv, fun _ _ _ _ => P.le_refl s⟩, rfl, fun i => ?_⟩
  exact ⟨ready i, fun _ => by simp [Conf.start]⟩

/-- A thread whose own rows and state are untouched stays as it was. -/
theorem known_other {h h' : History Val Ev} {c d : Conf Val Ev Err Out} {i : Nat}
    (known : P.Known h c i) (more : h'.Extends h) (le : P.Le c.store d.store)
    (same : d.thread i = c.thread i) (owner : ∀ k, d.owner k = some i ↔ c.owner k = some i)
    (rows : ∀ k, Secured G c i k → d.store.rows k = c.store.rows k) : P.Known h' d i := by
  unfold Known at known ⊢
  rw [same]
  cases found : c.thread i with
  | down => trivial
  | idle r =>
    rw [found] at known
    exact ⟨P.ready_le le known.1, fun k held => known.2 k ((owner k).mp held)⟩
  | active body ok err mine log =>
    rw [found] at known
    obtain ⟨ready, seen, small, live⟩ := known
    refine ⟨P.ready_le le ready, seen, Nat.le_trans small more.1, fun h'' later valid kept => ?_⟩
    have view : viewOf d i mine log seen h''.current.rows = viewOf c i mine log seen h''.current.rows := by
      simp only [viewOf, owner]
    rw [view]
    have secured : ∀ k, Secured G c i k → Secured G d i k := fun k held => by
      rcases held with own | ⟨guardian, guards, own⟩
      · exact Or.inl ((owner k).mpr own)
      · exact Or.inr ⟨guardian, guards, (owner guardian).mpr own⟩
    exact live h'' (more.trans later) valid fun k held =>
      (kept k (secured k held)).trans (rows k held)

/-- A step of thread `i` that commits nothing leaves the other threads as they were. -/
theorem good_local {h : History Val Ev} {c d : Conf Val Ev Err Out} {i : Nat} (good : P.Good h c)
    (store : d.store = c.store) (threads : ∀ j, j ≠ i → d.thread j = c.thread j)
    (owners : ∀ k j, j ≠ i → (d.owner k = some j ↔ c.owner k = some j)) (own : P.Known h d i) :
    P.Good h d := by
  refine ⟨good.valid, good.current.trans store.symm, fun j => ?_⟩
  by_cases same : j = i
  · exact same ▸ own
  · refine P.known_other (good.thread j) (History.Extends.refl h) ?_ (threads j same)
      (fun k => owners k j same) (fun k _ => by rw [store])
    rw [store]
    exact P.le_refl _

omit [DecidableEq Key] in
theorem owner_release (c : Conf Val Ev Err Out) (i : Nat) (k : Key) (j : Nat) :
    (c.release i).owner k = some j ↔ c.owner k = some j ∧ j ≠ i := by
  simp only [Conf.release]
  constructor
  · intro held
    split at held
    · cases held
    · rename_i other
      refine ⟨held, ?_⟩
      rintro rfl
      exact other held
  · rintro ⟨held, other⟩
    rw [if_neg, held]
    rw [held]
    exact fun same => other (Option.some.inj same)

theorem owner_acquire {c : Conf Val Ev Err Out} {i : Nat} {k : Key} (free : c.owner k = none)
    (l : Key) (j : Nat) (other : j ≠ i) : (c.acquire i k).owner l = some j ↔ c.owner l = some j := by
  by_cases same : l = k
  · subst same
    simp [Conf.acquire, free, Ne.symm other]
  · simp [Conf.acquire, same]

theorem secured_acquire {c : Conf Val Ev Err Out} {i : Nat} {k l : Key} {t : Thread Val Ev Err Out}
    (free : c.owner k = none) (held : Secured G c i l) : Secured G ((c.acquire i k).become i t) i l := by
  have stays : ∀ j, c.owner j = some i → ((c.acquire i k).become i t).owner j = some i := fun j own => by
    have ne : j ≠ k := by rintro rfl; rw [free] at own; cases own
    simpa [Conf.become, Conf.acquire, ne] using own
  rcases held with own | ⟨guardian, guards, own⟩
  · exact Or.inl (stays l own)
  · exact Or.inr ⟨guardian, guards, stays guardian own⟩

/-- A thread that goes idle without committing: a rollback, an abort or a crash. -/
theorem good_rollback {h : History Val Ev} {c : Conf Val Ev Err Out} (good : P.Good h c) (i : Nat)
    (t : Thread Val Ev Err Out)
    (settled : match t with
      | .idle r => P.Ready i c.store r
      | .active .. => False
      | .down => True) : P.Good h ((c.release i).become i t) := by
  refine P.good_local (i := i) good rfl (fun j other => by simp [Conf.become, Conf.release, other])
    (fun k j other => by simpa [Conf.become, other] using owner_release c i k j) ?_
  unfold Known
  cases t with
  | down => simp [Conf.become]
  | active => exact settled.elim
  | idle r =>
    simp only [Conf.become, Function.update_self]
    exact ⟨settled, fun k held => ((owner_release c i k i).mp held).2 rfl⟩

theorem viewOf_hold {c : Conf Val Ev Err Out} {i : Nat} {k : Key} {mine : Rows Val} {log : List Ev}
    {seen : Nat} {base : Rows Val} (free : c.owner k = none) (same : base k = c.store.rows k) :
    viewOf (c.acquire i k) i (Function.update mine k (c.store.rows k)) log seen base =
      (viewOf c i mine log seen base).hold k := by
  unfold viewOf View.hold Conf.acquire
  congr 1
  · funext l
    by_cases eq : l = k
    · subst eq; simp [free, same]
    · simp [eq]
  · funext l
    by_cases eq : l = k
    · subst eq; simp
    · simp [eq]

theorem viewOf_put {c : Conf Val Ev Err Out} {i : Nat} {k : Key} {mine : Rows Val} {log : List Ev}
    {seen : Nat} {base : Rows Val} (f : Val k → Val k) (mineHeld : c.owner k = some i) :
    viewOf c i (Function.update mine k (f (mine k))) log seen base =
      (viewOf c i mine log seen base).put k f := by
  unfold viewOf View.put
  congr 1
  · funext l
    by_cases eq : l = k
    · subst eq; simp [mineHeld]
    · simp [eq]
  · funext l
    by_cases eq : l = k
    · subst eq; simp [mineHeld]
    · simp [eq]

theorem viewOf_hold_held {c : Conf Val Ev Err Out} {i : Nat} {k : Key} {mine : Rows Val}
    {log : List Ev} {seen : Nat} {base : Rows Val} (mineHeld : c.owner k = some i) :
    (viewOf c i mine log seen base).hold k = viewOf c i mine log seen base := by
  unfold viewOf View.hold
  congr 1
  funext l
  by_cases eq : l = k
  · subst eq; simp [mineHeld]
  · simp [eq]

theorem put_hold (v : View Val Ev) (k : Key) (f : Val k → Val k) : (v.hold k).put k f = v.put k f := by
  simp [View.hold, View.put]

theorem good_begin {h : History Val Ev} {c : Conf Val Ev Err Out} (good : P.Good h c) {i : Nat}
    {α : Type} {body : Tx Val Ev Err α} {ok : α → Req Val Ev Err Out} {err : Err → Req Val Ev Err Out}
    (found : c.thread i = .idle (.tx body ok err)) :
    P.Good h (c.become i (.active body ok err c.store.rows [])) := by
  have known := good.thread i
  unfold Known at known
  rw [found] at known
  obtain ⟨ready, free⟩ := known
  refine P.good_local (i := i) good rfl (fun j other => by simp [Conf.become, other])
    (fun k j _ => Iff.rfl) ?_
  simp only [Known, Conf.become, Function.update_self]
  refine ⟨P.aborted ready, h.now, Nat.le_refl _, fun h' more valid _ => ?_⟩
  have fresh : viewOf (c.become i (.active body ok err c.store.rows [])) i c.store.rows [] h.now
      h'.current.rows = View.start h'.current.rows h.now := by
    simp [viewOf, View.start, Conf.become, free]
  have before : h'.past h.now = c.store := (more.2 h.now (Nat.le_refl _)).trans good.current
  change (body.wp _ _ _ (viewOf (c.become i _) i c.store.rows [] h.now h'.current.rows))
  rw [fresh]
  exact P.commits valid.inv valid.le more.1 (before ▸ ready)

section
variable {h : History Val Ev} {c : Conf Val Ev Err Out} {i : Nat} {α : Type} {a : α} {ok : α → Req Val Ev Err Out}
  {err : Err → Req Val Ev Err Out} {mine : Rows Val} {log : List Ev}

/-- What a commit brings. -/
theorem good_committing (good : P.Good h c) (found : c.thread i = .active (.ret a) ok err mine log)
    (admitted : guard c.store log) :
    P.Inv ⟨c.overlay i mine, c.store.journal ++ log⟩ ∧ P.Le c.store ⟨c.overlay i mine, c.store.journal ++ log⟩ ∧
      P.Step i c.store log ⟨c.overlay i mine, c.store.journal ++ log⟩ ∧
      P.Ready i ⟨c.overlay i mine, c.store.journal ++ log⟩ (ok a) ∧
      ∀ j k, G j k → c.owner k ≠ some i → c.overlay i mine j = c.store.rows j := by
  have known := good.thread i
  unfold Known at known
  rw [found] at known
  obtain ⟨_, seen, _, live⟩ := known
  have done := live h (History.Extends.refl h) good.valid (fun k _ => by rw [good.current])
  rw [Tx.wp_ret] at done
  obtain ⟨inv, le, step, ready, disciplined⟩ := done
    (fun k free => by
      have other : ¬ c.owner k = some i := by simpa [viewOf] using free
      simp only [viewOf, if_neg other])
    (by simpa only [viewOf, good.current] using admitted)
  have store : h.commit (viewOf c i mine log seen h.current.rows) =
      ⟨c.overlay i mine, c.store.journal ++ log⟩ := by
    unfold History.commit viewOf Conf.overlay
    rw [good.current]
  rw [store] at inv le step ready
  rw [good.current] at le step
  refine ⟨inv, le, step, ready, fun j k guards free => ?_⟩
  have untouched := disciplined j k guards (by simpa [viewOf] using free)
  rw [good.current] at untouched
  simpa only [viewOf, Conf.overlay, good.current] using untouched

theorem good_commit (good : P.Good h c) (found : c.thread i = .active (.ret a) ok err mine log)
    (admitted : guard c.store log) :
    P.Good (h.push ⟨c.overlay i mine, c.store.journal ++ log⟩)
      (({ c with store := ⟨c.overlay i mine, c.store.journal ++ log⟩ }.release i).become i (.idle (ok a))) := by
  obtain ⟨inv, le, _, ready, disciplined⟩ := P.good_committing good found admitted
  refine ⟨P.push good.valid inv (by rw [good.current]; exact le), h.push_current _, fun j => ?_⟩
  by_cases same : j = i
  · subst same
    simp only [Known, Conf.become, Conf.release, Function.update_self]
    refine ⟨ready, fun k held => ?_⟩
    exact ((owner_release c j k j).mp held).2 rfl
  · refine P.known_other (good.thread j) (h.push_extends _) le (by simp [Conf.become, Conf.release, same])
      (fun k => ?_) (fun k held => ?_)
    · exact (owner_release c i k j).trans (and_iff_left same)
    · have others : ∀ l, c.owner l = some j → c.owner l ≠ some i := fun l own mine => by
        rw [own] at mine
        exact same (Option.some.inj mine)
      rcases held with own | ⟨guardian, guards, own⟩
      · simp only [Conf.become, Conf.release, Conf.overlay, if_neg (others k own)]
      · exact disciplined k guardian guards (others guardian own)

end

theorem good_advance {h : History Val Ev} {c d : Conf Val Ev Err Out} (good : P.Good h c) (i : Nat)
    (next : c.advance i = some d) (admitted : c.Admits guard i) :
    ∃ h', h'.Extends h ∧ P.Good h' d := by
  have known := good.thread i
  have stays : ∀ {e : Conf Val Ev Err Out}, P.Good h e → ∃ h', h'.Extends h ∧ P.Good h' e :=
    fun settled => ⟨h, History.Extends.refl h, settled⟩
  unfold Known at known
  unfold Conf.advance at next
  split at next
  · cases next
  · cases next
  · rename_i found
    cases next
    exact stays (P.good_begin good found)
  · -- a commit: the history grows by one store
    rename_i a ok err mine log found
    cases next
    refine ⟨_, h.push_extends _, P.good_commit good found ?_⟩
    exact admitted log (by simp [Conf.committing, found])
  · -- a rollback
    rename_i e ok err mine log found
    cases next
    rw [found] at known
    obtain ⟨_, seen, _, live⟩ := known
    have failed := live h (History.Extends.refl h) good.valid (fun k _ => by rw [good.current])
    exact stays (P.good_rollback good i _ (by rw [← good.current]; exact failed))
  · -- a statement reads the rows committed by now, under the thread's own
    rename_i body ok err mine log found
    cases next
    rw [found] at known
    obtain ⟨ready, seen, small, live⟩ := known
    refine stays (P.good_local (i := i) good rfl (fun j other => by simp [Conf.become, other])
      (fun k j _ => Iff.rfl) ?_)
    simp only [Known, Conf.become, Function.update_self]
    refine ⟨ready, h.now, Nat.le_refl _, fun h' more valid kept => ?_⟩
    have before : h'.past h.now = c.store := (more.2 h.now (Nat.le_refl _)).trans good.current
    refine live h' more valid kept (c.overlay i mine) h.now ⟨⟨small, more.1, ?_⟩, fun j k secured held => ?_⟩
    · funext k
      by_cases held : c.owner k = some i
      · simp [viewOf, Conf.overlay, held]
      · simp [viewOf, Conf.overlay, held, before]
    · -- nothing has changed the row since its guard was taken
      have own : c.owner k = some i := by simpa [viewOf] using held
      have same : h'.current.rows j = c.store.rows j := kept j (by
        rcases secured with rfl | guards
        · exact Or.inl own
        · exact Or.inr ⟨k, guards, own⟩)
      exact (congrArg (·.rows j) before).trans same.symm
  · -- a lock
    rename_i k body ok err mine log found
    rw [found] at known
    obtain ⟨ready, seen, small, live⟩ := known
    split at next
    · rename_i held
      cases next
      refine stays (P.good_local (i := i) good rfl (fun j other => by simp [Conf.become, other])
        (fun k j _ => Iff.rfl) ?_)
      simp only [Known, Conf.become, Function.update_self]
      refine ⟨ready, seen, small, fun h' more valid kept => ?_⟩
      have run := live h' more valid kept
      simp only [Tx.wp, viewOf_hold_held held] at run
      exact run
    · split at next
      · rename_i other free
        cases next
        refine stays (P.good_local (i := i) good rfl (fun j other => by simp [Conf.become, Conf.acquire, other])
          (fun l j other => by simpa [Conf.become] using owner_acquire free l j other) ?_)
        simp only [Known, Conf.become, Function.update_self]
        refine ⟨ready, seen, small, fun h' more valid kept => ?_⟩
        have run := live h' more valid fun l held => kept l (secured_acquire free held)
        have same : h'.current.rows k = c.store.rows k := kept k (Or.inl (by simp [Conf.acquire]))
        simp only [Tx.wp, ← viewOf_hold free same] at run
        exact run
      · cases next
  · -- an update
    rename_i k f body ok err mine log found
    rw [found] at known
    obtain ⟨ready, seen, small, live⟩ := known
    split at next
    · rename_i held
      cases next
      refine stays (P.good_local (i := i) good rfl (fun j other => by simp [Conf.become, other])
        (fun k j _ => Iff.rfl) ?_)
      simp only [Known, Conf.become, Function.update_self]
      refine ⟨ready, seen, small, fun h' more valid kept => ?_⟩
      have run := live h' more valid kept
      simp only [Tx.wp, ← viewOf_put f held] at run
      exact run
    · split at next
      · rename_i other free
        cases next
        refine stays (P.good_local (i := i) good rfl (fun j other => by simp [Conf.become, Conf.acquire, other])
          (fun l j other => by simpa [Conf.become] using owner_acquire free l j other) ?_)
        simp only [Known, Conf.become, Function.update_self]
        refine ⟨ready, seen, small, fun h' more valid kept => ?_⟩
        have run := live h' more valid fun l held => kept l (secured_acquire free held)
        have same : h'.current.rows k = c.store.rows k := kept k (Or.inl (by simp [Conf.acquire]))
        have own : (c.acquire i k).owner k = some i := by simp [Conf.acquire]
        have view := @viewOf_put _ _ _ _ _ _ (c.acquire i k) i k
          (Function.update mine k (c.store.rows k)) log seen h'.current.rows f own
        rw [viewOf_hold free same, put_hold, Function.update_self, Function.update_idem] at view
        simp only [Tx.wp, ← view] at run
        exact run
      · cases next
  · -- a mark
    rename_i e body ok err mine log found
    cases next
    rw [found] at known
    obtain ⟨ready, seen, small, live⟩ := known
    refine stays (P.good_local (i := i) good rfl (fun j other => by simp [Conf.become, other])
      (fun k j _ => Iff.rfl) ?_)
    simp only [Known, Conf.become, Function.update_self]
    exact ⟨ready, seen, small, fun h' more valid kept => live h' more valid kept⟩

theorem good_move {h : History Val Ev} {c d : Conf Val Ev Err Out} (good : P.Good h c)
    (move : Move guard fault c d) : ∃ h', h'.Extends h ∧ P.Good h' d := by
  cases move with
  | step i next admitted => exact P.good_advance good i next admitted
  | abort i running =>
    have known := good.thread i
    unfold Known at known
    rw [running] at known
    exact ⟨h, History.Extends.refl h, P.good_rollback good i (.idle _) known.1⟩
  | crash i => exact ⟨h, History.Extends.refl h, P.good_rollback good i .down trivial⟩

theorem good_moves {h : History Val Ev} {c d : Conf Val Ev Err Out} (good : P.Good h c)
    (run : Moves guard fault c d) : ∃ h', h'.Extends h ∧ P.Good h' d := by
  induction run with
  | refl => exact ⟨h, History.Extends.refl h, good⟩
  | tail _ last ih =>
    obtain ⟨h', more, settled⟩ := ih
    obtain ⟨h'', later, reached⟩ := P.good_move settled last
    exact ⟨h'', more.trans later, reached⟩

section
variable {s : Store Val Ev} {r : Nat → Req Val Ev Err Out} {c d : Conf Val Ev Err Out}

/-- Every run from a good start: the invariant holds of what is committed, and a thread between
transactions is ready. -/
theorem run_safe (inv : P.Inv s) (ready : ∀ i, P.Ready i s (r i))
    (run : Moves guard fault (Conf.start s r) c) :
    P.Inv c.store ∧ ∀ i q, c.thread i = .idle q → P.Ready i c.store q := by
  obtain ⟨h, _, good⟩ := P.good_moves (P.good_start inv ready) run
  refine ⟨good.current ▸ good.valid.inv h.now (Nat.le_refl _), fun i q found => ?_⟩
  have known := good.thread i
  unfold Known at known
  rw [found] at known
  exact known.1

/-- Between any two states of a run. -/
theorem run_le (inv : P.Inv s) (ready : ∀ i, P.Ready i s (r i))
    (run : Moves guard fault (Conf.start s r) c) (later : Moves guard fault c d) :
    P.Le c.store d.store := by
  obtain ⟨h, _, good⟩ := P.good_moves (P.good_start inv ready) run
  obtain ⟨h', more, settled⟩ := P.good_moves good later
  have before : h'.past h.now = c.store := (more.2 h.now (Nat.le_refl _)).trans good.current
  have order := settled.valid.le h.now h'.now more.1 (Nat.le_refl _)
  rw [before] at order
  exact settled.current ▸ order

/-- Each commit of a run is a step. -/
theorem run_step (inv : P.Inv s) (ready : ∀ i, P.Ready i s (r i)) (run : Moves guard fault (Conf.start s r) c) {i : Nat}
    {log : List Ev} (next : c.advance i = some d) (committing : c.committing i = some log) (admitted : guard c.store log) :
    P.Step i c.store log d.store := by
  obtain ⟨h, _, good⟩ := P.good_moves (P.good_start inv ready) run
  unfold Conf.committing at committing
  split at committing
  · rename_i a ok err mine log' found
    cases committing
    rw [Conf.advance, found] at next
    cases next
    exact (P.good_committing good found admitted).2.2.1
  · cases committing

end
end GuardedInvariant

/-- Until it writes, a transaction reads committed stores whole. -/
theorem History.sees_past {G : Key → Key → Prop} {h : History Val Ev} {v : View Val Ev} {d : Rows Val} {m : Nat}
    (sees : (h.guarded G).Sees v d m) (unwritten : v.rows = h.current.rows) : d = (h.past m).rows := by
  obtain ⟨⟨_, _, rfl⟩, stands⟩ := sees
  funext k
  by_cases held : v.held k = true
  · rw [if_pos held, unwritten]
    exact (stands k k (Or.inl rfl) held).symm
  · rw [if_neg held]

/-- Of a row whose guard it holds, a transaction reads what stands at its commit. -/
theorem History.sees_guarded {G : Key → Key → Prop} {h : History Val Ev} {v : View Val Ev} {d : Rows Val} {m : Nat}
    (sees : (h.guarded G).Sees v d m) {j k : Key} (guards : G j k) (locked : v.held k = true)
    (unheld : v.held j = false → v.rows j = h.current.rows j) : d j = v.rows j := by
  obtain ⟨⟨_, _, rfl⟩, stands⟩ := sees
  by_cases held : v.held j = true
  · exact if_pos held
  · calc
      (if v.held j = true then v.rows j else (h.past m).rows j) = (h.past m).rows j := if_neg held
      _ = h.current.rows j := stands j k (Or.inr guards) locked
      _ = v.rows j := (unheld (by simpa using held)).symm

section
variable [DecidableEq Key] (G : Key → Key → Prop) (guard : Store Val Ev → List Ev → Prop)
  (Inv : Store Val Ev → Prop) (Le : Store Val Ev → Store Val Ev → Prop)

/-- A transaction that keeps `Inv` and moves along `Le`, and changes guarded rows under their guards. -/
def Tx.KeepsGuarded {α : Type} (body : Tx Val Ev Err α) : Prop :=
  ∀ (h : History Val Ev) (m : Nat), (∀ j ≤ h.now, Inv (h.past j)) →
    (∀ j k, j ≤ k → k ≤ h.now → Le (h.past j) (h.past k)) → m ≤ h.now →
    body.wp (h.guarded G)
      (fun _ w => (∀ k, w.held k = false → w.rows k = h.current.rows k) → guard h.current w.log →
        Inv (h.commit w) ∧ Le h.current (h.commit w) ∧ Disciplined G h w)
      (fun _ => True) (View.start h.current.rows m)

variable {G guard Inv Le} {fault : Err} {s : Store Val Ev} {r : Nat → Req Val Ev Err Out} {c : Conf Val Ev Err Out}

/-- A statement that only reads keeps whatever holds. -/
theorem Tx.keepsGuarded_select {α : Type} (f : Rows Val → α) (le_refl : ∀ s, Le s s) :
    (Tx.select f : Tx Val Ev Err α).KeepsGuarded G guard Inv Le := by
  intro h m valid _ _
  rw [Tx.wp_select]
  intro d n _ _ _
  have same : h.commit ((View.start h.current.rows m).looking n) = h.current := by simp [History.commit]
  rw [same]
  exact ⟨valid h.now (Nat.le_refl _), le_refl _, fun _ _ _ _ => rfl⟩

theorem keepsGuarded_safe (le_refl : ∀ s, Le s s) (le_trans : ∀ {s t u}, Le s t → Le t u → Le s u) (inv : Inv s)
    (keeps : ∀ i, (r i).All fun _ body => body.KeepsGuarded G guard Inv Le)
    (run : Moves guard fault (Conf.start s r) c) : Inv c.store :=
  let P : GuardedInvariant Val Ev Err Out G guard fault :=
    { Inv := Inv
      Le := Le
      Step := fun _ _ _ _ => True
      Ready := fun _ _ q => q.All fun _ body => body.KeepsGuarded G guard Inv Le
      le_refl := le_refl
      le_trans := le_trans
      ready_le := fun _ ready => ready
      aborted := fun ready => by cases ready with | tx _ _ failed => exact failed _
      commits := by
        intro i α body ok err h m valid ordered small ready
        cases ready with
        | tx now next failed =>
          refine Tx.wp_mono _ (now h m valid ordered small) (fun a w kept free admitted => ?_) fun e _ => failed e
          obtain ⟨after, le, disciplined⟩ := kept free admitted
          exact ⟨after, le, trivial, next a, disciplined⟩ }
  (P.run_safe inv keeps run).1

end

end ReadCommitted
