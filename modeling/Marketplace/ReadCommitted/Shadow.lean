import Marketplace.ReadCommitted.Guarded
import Marketplace.ReadCommitted.Save

/-! Runs of requests beside the runs without some of their deletions. -/
namespace ReadCommitted

/-- A statement of thread `i`, its rollback by the database, or the end of the server running it. -/
inductive Label where
  | step (i : Nat)
  | abort (i : Nat)
  | crash (i : Nat)

def Label.thread : Label → Nat
  | .step i => i
  | .abort i => i
  | .crash i => i

section
variable {Key : Type} {Val : Key → Type} {Ev Err Out α : Type}

/-- The row that a transaction begins by writing. -/
def Tx.writes : Tx Val Ev Err α → Option Key
  | .update k _ _ => some k
  | _ => none

def Req.writes : Req Val Ev Err Out → Option Key
  | .tx body _ _ => body.writes
  | .done _ => none

def Thread.open_ : Thread Val Ev Err Out → Bool
  | .active .. => true
  | _ => false

namespace Conf
variable [DecidableEq Key]

def take (fault : Err) (c : Conf Val Ev Err Out) : Label → Option (Conf Val Ev Err Out)
  | .step i => c.advance i
  | .abort i =>
    match c.thread i with
    | .active _ _ err _ _ => some ((c.release i).become i (.idle (err fault)))
    | _ => none
  | .crash i => some ((c.release i).become i .down)

def follow (fault : Err) (c : Conf Val Ev Err Out) (labels : List Label) : Option (Conf Val Ev Err Out) :=
  labels.foldlM (take fault) c

end Conf
end

variable {Key : Type} {Row : Key → Type} {Ev Err Out : Type}

/-- `DELETE` of one row, whatever comes of it. -/
def Req.delete (k : Key) (r : Req (Table Row) Ev Err Out) : Req (Table Row) Ev Err Out :=
  .tx (Tx.modify k fun _ => none) (fun _ => r) fun _ => r

/-- The second request is the first without its deletions of `D` rows. -/
inductive Req.Trims (D : Key → Prop) : Req (Table Row) Ev Err Out → Req (Table Row) Ev Err Out → Prop
  | done (out : Out) : Req.Trims D (.done out) (.done out)
  | tx {α : Type} {body : Tx (Table Row) Ev Err α} {ok ok' : α → Req (Table Row) Ev Err Out}
      {err err' : Err → Req (Table Row) Ev Err Out} (other : ∀ k ∈ body.writes, ¬ D k)
      (next : ∀ a, Req.Trims D (ok a) (ok' a)) (failed : ∀ e, Req.Trims D (err e) (err' e)) :
      Req.Trims D (.tx body ok err) (.tx body ok' err')
  | delete {k : Key} {r r' : Req (Table Row) Ev Err Out} (silent : D k) (rest : Req.Trims D r r') :
      Req.Trims D (Req.delete k r) r'

theorem Req.Trims.nothing {D : Key → Prop} (none_ : ∀ k, ¬ D k) (r : Req (Table Row) Ev Err Out) : r.Trims D r := by
  induction r with
  | done out => exact .done out
  | tx body ok err next failed => exact .tx (fun k _ => none_ k) next failed

variable [DecidableEq Key]

/-- A move of thread `i` that deletes a `D i` row; `silent` tells whose open transaction is such a deletion. -/
def Conf.Hidden (D : Nat → Key → Prop) (c : Conf (Table Row) Ev Err Out) (silent : Nat → Bool) : Label → Prop
  | .step i => silent i = true ∨
      match c.thread i with
      | .idle q => ∃ k ∈ q.writes, D i k
      | _ => False
  | .abort i => silent i = true
  | .crash _ => False

/-- What commits is admitted, or is a hidden deletion and finds the store as `harmless` has it. -/
structure Conf.Fair (D : Nat → Key → Prop) (guard : Store (Table Row) Ev → List Ev → Prop)
    (harmless : Store (Table Row) Ev → Key → Prop) (c : Conf (Table Row) Ev Err Out) (silent : Nat → Bool) (l : Label) :
    Prop where
  hidden : c.Hidden D silent l → ∀ i, l = .step i → (c.committing i).isSome → ∀ k, D i k → harmless c.store k
  shown : ¬ c.Hidden D silent l → ∀ i, l = .step i → c.Admits guard i

/-- A run with the labels of the moves that are not hidden. -/
inductive Shown (D : Nat → Key → Prop) (guard : Store (Table Row) Ev → List Ev → Prop)
    (harmless : Store (Table Row) Ev → Key → Prop) (fault : Err) (start : Conf (Table Row) Ev Err Out) :
    List Label → Conf (Table Row) Ev Err Out → (Nat → Bool) → Prop
  | start : Shown D guard harmless fault start [] start fun _ => false
  | hidden {labels : List Label} {c d : Conf (Table Row) Ev Err Out} {silent : Nat → Bool} {l : Label}
      (run : Shown D guard harmless fault start labels c silent) (fair : c.Fair D guard harmless silent l)
      (next : c.take fault l = some d) (hidden : c.Hidden D silent l) :
      Shown D guard harmless fault start labels d (Function.update silent l.thread (d.thread l.thread).open_)
  | shown {labels : List Label} {c d : Conf (Table Row) Ev Err Out} {silent : Nat → Bool} {l : Label}
      (run : Shown D guard harmless fault start labels c silent) (fair : c.Fair D guard harmless silent l)
      (next : c.take fault l = some d) (shown : ¬ c.Hidden D silent l) :
      Shown D guard harmless fault start (labels ++ [l]) d (Function.update silent l.thread false)

/-- A thread beside its shadow, which knows nothing of an open deletion. -/
inductive Follows (D : Key → Prop) (owns : Key → Prop) :
    Bool → Thread (Table Row) Ev Err Out → Thread (Table Row) Ev Err Out → Prop
  | idle {r r' : Req (Table Row) Ev Err Out} (trims : r.Trims D r') (free : ∀ k, ¬ owns k) :
      Follows D owns false (.idle r) (.idle r')
  | active {α : Type} {body : Tx (Table Row) Ev Err α} {ok ok' : α → Req (Table Row) Ev Err Out}
      {err err' : Err → Req (Table Row) Ev Err Out} {mine : Rows (Table Row)} {log : List Ev}
      (next : ∀ a, (ok a).Trims D (ok' a)) (failed : ∀ e, (err e).Trims D (err' e)) :
      Follows D owns false (.active body ok err mine log) (.active body ok' err' mine log)
  | down (free : ∀ k, ¬ owns k) : Follows D owns false .down .down
  | opened {k : Key} {r r' : Req (Table Row) Ev Err Out} {mine : Rows (Table Row)} (silent : D k) (rest : r.Trims D r')
      (free : ∀ k, ¬ owns k) :
      Follows D owns true (.active (Tx.modify k fun _ => none) (fun _ => r) (fun _ => r) mine []) (.idle r')
  | deleted {k : Key} {r r' : Req (Table Row) Ev Err Out} {mine : Rows (Table Row)} (silent : D k) (rest : r.Trims D r')
      (own : ∀ j, owns j → j = k) (gone : mine k = none) :
      Follows D owns true (.active (.ret ()) (fun _ => r) (fun _ => r) mine []) (.idle r')

/-- The shadow has the same store, and the same locks but those of open deletions. -/
structure Shadow (D : Nat → Key → Prop) (c c' : Conf (Table Row) Ev Err Out) (silent : Nat → Bool) : Prop where
  store : c'.store = c.store
  thread : ∀ i, Follows (D i) (fun k => c.owner k = some i) (silent i) (c.thread i) (c'.thread i)
  owner : ∀ k i, c'.owner k = some i ↔ c.owner k = some i ∧ silent i = false

section
variable {D : Nat → Key → Prop} {c c' d d' : Conf (Table Row) Ev Err Out} {silent silent' : Nat → Bool}

omit [DecidableEq Key] in
theorem Follows.fewer {P owns owns' : Key → Prop} {b : Bool} {t t' : Thread (Table Row) Ev Err Out}
    (follows : Follows P owns b t t') (fewer : ∀ k, owns' k → owns k) : Follows P owns' b t t' := by
  cases follows with
  | idle trims free => exact .idle trims fun k own => free k (fewer k own)
  | active next failed => exact .active next failed
  | down free => exact .down fun k own => free k (fewer k own)
  | opened silent rest free => exact .opened silent rest fun k own => free k (fewer k own)
  | deleted silent rest own gone => exact .deleted silent rest (fun j mine => own j (fewer j mine)) gone

omit [DecidableEq Key] in
theorem shadow_start {s : Store (Table Row) Ev} {r r' : Nat → Req (Table Row) Ev Err Out}
    (trims : ∀ i, (r i).Trims (D i) (r' i)) : Shadow D (Conf.start s r) (Conf.start s r') fun _ => false := by
  refine ⟨rfl, fun i => .idle (trims i) fun k => nofun, fun k i => ?_⟩
  exact ⟨nofun, nofun⟩

omit [DecidableEq Key] in
/-- Moves of thread `i` on both sides leave the other threads as they were. -/
theorem Shadow.turn (shadow : Shadow D c c' silent) (i : Nat) (store : d'.store = d.store)
    (others : ∀ j, j ≠ i → d.thread j = c.thread j) (others' : ∀ j, j ≠ i → d'.thread j = c'.thread j)
    (owners : ∀ k j, j ≠ i → (d.owner k = some j ↔ c.owner k = some j))
    (owners' : ∀ k j, j ≠ i → (d'.owner k = some j ↔ c'.owner k = some j))
    (flags : ∀ j, j ≠ i → silent' j = silent j)
    (own : Follows (D i) (fun k => d.owner k = some i) (silent' i) (d.thread i) (d'.thread i))
    (held : ∀ k, d'.owner k = some i ↔ d.owner k = some i ∧ silent' i = false) : Shadow D d d' silent' := by
  refine ⟨store, fun j => ?_, fun k j => ?_⟩
  · by_cases same : j = i
    · subst same
      exact own
    · rw [others j same, others' j same, flags j same]
      exact (shadow.thread j).fewer fun k mine => (owners k j same).mp mine
  · by_cases same : j = i
    · subst same
      exact held k
    · rw [owners' k j same, owners k j same, flags j same]
      exact shadow.owner k j

omit [DecidableEq Key] in
theorem Shadow.owns (shadow : Shadow D c c' silent) {i : Nat} (plain : silent i = false) (k : Key) :
    c'.owner k = some i ↔ c.owner k = some i := by
  rw [shadow.owner k i]
  exact and_iff_left plain

omit [DecidableEq Key] in
theorem Shadow.free (shadow : Shadow D c c' silent) {k : Key} (free : c.owner k = none) : c'.owner k = none := by
  cases owned : c'.owner k with
  | none => rfl
  | some j =>
    have mine := ((shadow.owner k j).mp owned).1
    rw [free] at mine
    cases mine

omit [DecidableEq Key] in
theorem Shadow.overlay (shadow : Shadow D c c' silent) {i : Nat} (plain : silent i = false) (mine : Rows (Table Row)) :
    c'.overlay i mine = c.overlay i mine := by
  funext k
  unfold Conf.overlay
  rw [shadow.store]
  exact if_congr (shadow.owns plain k) rfl rfl

omit [DecidableEq Key] in
/-- Both threads go on alike, with the same rows. -/
theorem Shadow.alike (shadow : Shadow D c c' silent) {i : Nat} (plain : silent i = false)
    {t t' : Thread (Table Row) Ev Err Out} (own : Follows (D i) (fun k => c.owner k = some i) false t t') :
    Shadow D (c.become i t) (c'.become i t') silent := by
  refine shadow.turn i shadow.store (fun j other => by simp [Conf.become, other])
    (fun j other => by simp [Conf.become, other]) (fun _ _ _ => Iff.rfl) (fun _ _ _ => Iff.rfl) (fun _ _ => rfl) ?_ ?_
  · simpa [Conf.become, plain] using own
  · intro k
    exact shadow.owner k i

/-- Both threads take a row that was free. -/
theorem Shadow.acquire (shadow : Shadow D c c' silent) {i : Nat} (plain : silent i = false) {k : Key}
    (free : c.owner k = none) {t t' : Thread (Table Row) Ev Err Out}
    (own : Follows (D i) (fun l => (c.acquire i k).owner l = some i) false t t') :
    Shadow D ((c.acquire i k).become i t) ((c'.acquire i k).become i t') silent := by
  refine shadow.turn i shadow.store (fun j other => by simp [Conf.become, Conf.acquire, other])
    (fun j other => by simp [Conf.become, Conf.acquire, other]) (fun l j other => GuardedInvariant.owner_acquire free l j other)
    (fun l j other => GuardedInvariant.owner_acquire (shadow.free free) l j other) (fun _ _ => rfl) ?_ ?_
  · simpa [Conf.become, plain] using own
  · intro l
    by_cases same : l = k
    · subst same
      simp [Conf.become, Conf.acquire, plain]
    · simpa [Conf.become, Conf.acquire, same] using shadow.owner l i

omit [DecidableEq Key] in
/-- Both threads let their rows go, over the same store. -/
theorem Shadow.release (shadow : Shadow D c c' silent) {b b' : Conf (Table Row) Ev Err Out} {i : Nat}
    (store : b'.store = b.store) (owner : b.owner = c.owner) (owner' : b'.owner = c'.owner) (thread : b.thread = c.thread)
    (thread' : b'.thread = c'.thread) (flags : ∀ j, j ≠ i → silent' j = silent j) (plain : silent' i = false)
    {t t' : Thread (Table Row) Ev Err Out} (own : Follows (D i) (fun _ => False) false t t') :
    Shadow D ((b.release i).become i t) ((b'.release i).become i t') silent' := by
  have left : ∀ k, (b.release i).owner k ≠ some i :=
    fun k mine => ((GuardedInvariant.owner_release _ i k i).mp mine).2 rfl
  have right : ∀ k, (b'.release i).owner k ≠ some i :=
    fun k mine => ((GuardedInvariant.owner_release _ i k i).mp mine).2 rfl
  refine shadow.turn i store (fun j other => ?_) (fun j other => ?_) (fun k j other => ?_) (fun k j other => ?_) flags ?_ ?_
  · simp [Conf.become, Conf.release, other, thread]
  · simp [Conf.become, Conf.release, other, thread']
  · rw [← owner]
    exact (GuardedInvariant.owner_release _ i k j).trans (and_iff_left other)
  · rw [← owner']
    exact (GuardedInvariant.owner_release _ i k j).trans (and_iff_left other)
  · rw [plain]
    simpa [Conf.become] using own.fewer fun k mine => left k mine
  · intro k
    exact ⟨fun mine => absurd mine (right k), fun mine => absurd mine.1 (left k)⟩

/-- A statement of a thread that is not deleting. -/
theorem Shadow.advance (shadow : Shadow D c c' silent) {i : Nat} (shown : ¬ c.Hidden D silent (.step i))
    (next : c.advance i = some d) : ∃ d', c'.advance i = some d' ∧ Shadow D d d' silent := by
  have plain : silent i = false := by
    cases flag : silent i with
    | false => rfl
    | true => exact absurd (Or.inl flag) shown
  have follows := shadow.thread i
  rw [plain] at follows
  unfold Conf.advance at next ⊢
  generalize found : c.thread i = t at follows next
  generalize found' : c'.thread i = t' at follows
  cases follows with
  | down free => cases next
  | idle trims free =>
    cases trims with
    | done out => cases next
    | delete dropped rest =>
      refine absurd (Or.inr ?_) shown
      rw [found]
      exact ⟨_, rfl, dropped⟩
    | tx other go failed =>
      cases next
      refine ⟨_, rfl, ?_⟩
      rw [shadow.store]
      exact shadow.alike plain (.active go failed)
  | @active α body ok ok' err err' mine log go failed =>
    cases body with
    | ret a =>
      cases next
      refine ⟨_, rfl, ?_⟩
      rw [shadow.overlay plain, shadow.store]
      refine shadow.release ?_ ?_ ?_ ?_ ?_ (fun _ _ => rfl) plain (.idle (go a) fun _ no => no)
      all_goals rfl
    | fail e =>
      cases next
      exact ⟨_, rfl, shadow.release shadow.store rfl rfl rfl rfl (fun _ _ => rfl) plain (.idle (failed e) fun _ no => no)⟩
    | read rest =>
      cases next
      refine ⟨_, rfl, ?_⟩
      rw [shadow.overlay plain]
      exact shadow.alike plain (.active go failed)
    | emit e rest =>
      cases next
      exact ⟨_, rfl, shadow.alike plain (.active go failed)⟩
    | lock k rest =>
      dsimp only at next ⊢
      by_cases own : c.owner k = some i
      · rw [if_pos own] at next
        cases next
        rw [if_pos ((shadow.owns plain k).mpr own)]
        exact ⟨_, rfl, shadow.alike plain (.active go failed)⟩
      · rw [if_neg own] at next
        rw [if_neg fun mine => own ((shadow.owns plain k).mp mine)]
        by_cases free : c.owner k = none
        · rw [if_pos free] at next
          cases next
          rw [if_pos (shadow.free free), shadow.store]
          exact ⟨_, rfl, shadow.acquire plain free (.active go failed)⟩
        · rw [if_neg free] at next
          cases next
    | update k f rest =>
      dsimp only at next ⊢
      by_cases own : c.owner k = some i
      · rw [if_pos own] at next
        cases next
        rw [if_pos ((shadow.owns plain k).mpr own)]
        exact ⟨_, rfl, shadow.alike plain (.active go failed)⟩
      · rw [if_neg own] at next
        rw [if_neg fun mine => own ((shadow.owns plain k).mp mine)]
        by_cases free : c.owner k = none
        · rw [if_pos free] at next
          cases next
          rw [if_pos (shadow.free free), shadow.store]
          exact ⟨_, rfl, shadow.acquire plain free (.active go failed)⟩
        · rw [if_neg free] at next
          cases next

omit [DecidableEq Key] in
theorem Conf.become_thread (c : Conf (Table Row) Ev Err Out) (i : Nat) (t : Thread (Table Row) Ev Err Out) :
    (c.become i t).thread i = t := Function.update_self _ _ _

omit [DecidableEq Key] in
/-- The end of a deletion, over an unchanged store. -/
theorem Shadow.close (shadow : Shadow D c c' silent) {b : Conf (Table Row) Ev Err Out} {i : Nat} (hidden : silent i = true)
    (store : b.store = c.store) (owner : b.owner = c.owner) (thread : b.thread = c.thread)
    {r r' : Req (Table Row) Ev Err Out} (waits : c'.thread i = .idle r') (rest : r.Trims (D i) r') :
    Shadow D ((b.release i).become i (.idle r)) c' (Function.update silent i false) := by
  have left : ∀ k, (b.release i).owner k ≠ some i :=
    fun k mine => ((GuardedInvariant.owner_release _ i k i).mp mine).2 rfl
  refine shadow.turn i (shadow.store.trans store.symm) (fun j other => ?_) (fun _ _ => rfl) (fun k j other => ?_)
    (fun _ _ _ => Iff.rfl) (fun j other => Function.update_of_ne other _ _) ?_ fun k => ?_
  · simp [Conf.become, Conf.release, other, thread]
  · rw [← owner]
    exact (GuardedInvariant.owner_release _ i k j).trans (and_iff_left other)
  · rw [waits]
    simpa [Conf.become] using Follows.idle rest left
  · refine ⟨fun mine => ?_, fun mine => absurd mine.1 (left k)⟩
    have plain := ((shadow.owner k i).mp mine).2
    rw [hidden] at plain
    cases plain

/-- What a hidden statement leaves to its thread, while the shadow waits. -/
theorem Shadow.wait (shadow : Shadow D c c' silent) {i : Nat} (hidden : c.Hidden D silent (.step i))
    (next : c.advance i = some d) (settled : (c.committing i).isSome → ∀ k, D i k → c.store.rows k = none) :
    Shadow D d c' (Function.update silent i (d.thread i).open_) := by
  have follows := shadow.thread i
  have unheld : silent i = true → ∀ k, c'.owner k ≠ some i := by
    intro flag k mine
    have plain := ((shadow.owner k i).mp mine).2
    rw [flag] at plain
    cases plain
  unfold Conf.advance at next
  unfold Conf.committing at settled
  generalize found : c.thread i = t at follows next settled
  generalize found' : c'.thread i = t' at follows
  generalize flag : silent i = b at follows
  cases follows with
  | down free => cases next
  | active go failed =>
    rcases hidden with on | begins
    · rw [flag] at on
      cases on
    · rw [found] at begins
      exact begins.elim
  | idle trims free =>
    rcases hidden with on | begins
    · rw [flag] at on
      cases on
    · rw [found] at begins
      obtain ⟨k, writes, gone⟩ := begins
      cases trims with
      | done out => cases writes
      | tx other go failed => exact absurd gone (other k writes)
      | delete dropped rest =>
        cases next
        refine shadow.turn i shadow.store (fun j other => by simp [Conf.become, other]) (fun _ _ => rfl)
          (fun _ _ _ => Iff.rfl) (fun _ _ _ => Iff.rfl) (fun j other => Function.update_of_ne other _ _) ?_ fun k => ?_
        · rw [found']
          simpa [Conf.become, Thread.open_] using Follows.opened dropped rest free
        · refine ⟨fun mine => absurd ((shadow.owner k i).mp mine).1 (free k), fun mine => absurd mine.1 (free k)⟩
  | @opened k r r' mine dropped rest free =>
    dsimp only [Tx.modify] at next
    rw [if_neg (free k)] at next
    by_cases unowned : c.owner k = none
    · rw [if_pos unowned] at next
      cases next
      have own : ∀ j, (c.acquire i k).owner j = some i → j = k := by
        intro j mine
        by_contra other
        exact free j (by simpa [Conf.acquire, other] using mine)
      refine shadow.turn i shadow.store (fun j other => by simp [Conf.become, Conf.acquire, other]) (fun _ _ => rfl)
        (fun l j other => GuardedInvariant.owner_acquire unowned l j other) (fun _ _ _ => Iff.rfl)
        (fun j other => Function.update_of_ne other _ _) ?_ fun l => ?_
      · rw [found']
        have gone : Function.update mine k none k = none := Function.update_self _ _ _
        simpa [Conf.become, Thread.open_] using Follows.deleted dropped rest own gone
      · refine ⟨fun mine => absurd mine (unheld flag l), fun mine => ?_⟩
        have shut := mine.2
        simp [Conf.become, Thread.open_] at shut
    · rw [if_neg unowned] at next
      cases next
  | @deleted k r r' mine dropped rest own gone =>
    cases next
    have absent : c.store.rows k = none := settled rfl k dropped
    have store : (⟨c.overlay i mine, c.store.journal ++ []⟩ : Store (Table Row) Ev) = c.store := by
      have rows : c.overlay i mine = c.store.rows := by
        funext l
        unfold Conf.overlay
        split
        · rename_i owned
          obtain rfl := own l owned
          rw [gone, absent]
        · rfl
      rw [rows, List.append_nil]
    rw [Conf.become_thread]
    refine shadow.close flag ?_ ?_ ?_ found' rest
    · exact store
    · rfl
    · rfl

/-- Only a commit changes the store. -/
theorem advance_store {i : Nat} (next : c.advance i = some d) (open_ : c.committing i = none) : d.store = c.store := by
  unfold Conf.advance at next
  unfold Conf.committing at open_
  generalize c.thread i = t at next open_
  cases t with
  | down => cases next
  | idle r =>
    cases r with
    | done out => cases next
    | tx body ok err =>
      cases next
      rfl
  | active body ok err mine log =>
    cases body with
    | ret a => cases open_
    | fail e =>
      cases next
      rfl
    | read rest =>
      cases next
      rfl
    | emit e rest =>
      cases next
      rfl
    | lock k rest =>
      dsimp only at next
      split at next
      · cases next
        rfl
      · split at next
        · cases next
          rfl
        · cases next
    | update k f rest =>
      dsimp only at next
      split at next
      · cases next
        rfl
      · split at next
        · cases next
          rfl
        · cases next

variable {fault : Err} {l : Label}

theorem take_store (next : c.take fault l = some d) (changed : d.store ≠ c.store) :
    ∃ i log, l = .step i ∧ c.committing i = some log := by
  cases l with
  | step i =>
    cases committing : c.committing i with
    | none => exact absurd (advance_store next committing) changed
    | some log => exact ⟨i, log, rfl, committing⟩
  | crash i =>
    cases next
    exact absurd rfl changed
  | abort i =>
    unfold Conf.take at next
    dsimp only at next
    split at next
    · cases next
      exact absurd rfl changed
    · cases next

/-- A move that is shown is a move of the shadow. -/
theorem Shadow.take (shadow : Shadow D c c' silent) (shown : ¬ c.Hidden D silent l) (next : c.take fault l = some d) :
    ∃ d', c'.take fault l = some d' ∧ Shadow D d d' (Function.update silent l.thread false) := by
  have unflagged : ∀ {i}, silent i = false → Function.update silent i false = silent := fun plain => by
    rw [← plain, Function.update_eq_self]
  have others : ∀ i j, j ≠ i → Function.update silent i false j = silent j := fun i j other => Function.update_of_ne other _ _
  cases l with
  | step i =>
    have plain : silent i = false := by
      cases flag : silent i with
      | false => rfl
      | true => exact absurd (Or.inl flag) shown
    obtain ⟨d', taken, after⟩ := shadow.advance shown next
    refine ⟨d', taken, ?_⟩
    rw [Label.thread, unflagged plain]
    exact after
  | abort i =>
    have plain : silent i = false := by
      cases flag : silent i with
      | false => rfl
      | true => exact absurd flag shown
    have follows := shadow.thread i
    rw [plain] at follows
    unfold Conf.take at next ⊢
    dsimp only at next ⊢
    generalize found : c.thread i = t at follows next
    generalize found' : c'.thread i = t' at follows
    cases follows with
    | idle trims free => cases next
    | down free => cases next
    | active go failed =>
      cases next
      exact ⟨_, rfl, shadow.release shadow.store rfl rfl rfl rfl (others i) (Function.update_self _ _ _)
        (.idle (failed fault) fun _ no => no)⟩
  | crash i =>
    cases next
    exact ⟨_, rfl, shadow.release shadow.store rfl rfl rfl rfl (others i) (Function.update_self _ _ _) (.down fun _ no => no)⟩

/-- A hidden move is none of the shadow. -/
theorem Shadow.skip (shadow : Shadow D c c' silent) (hidden : c.Hidden D silent l) (next : c.take fault l = some d)
    (settled : ∀ i, l = .step i → (c.committing i).isSome → ∀ k, D i k → c.store.rows k = none) :
    Shadow D d c' (Function.update silent l.thread (d.thread l.thread).open_) := by
  cases l with
  | step i => exact shadow.wait hidden next (settled i rfl)
  | crash i => exact hidden.elim
  | abort i =>
    have follows := shadow.thread i
    have flag : silent i = true := hidden
    rw [flag] at follows
    unfold Conf.take at next
    dsimp only at next
    generalize found : c.thread i = t at follows next
    generalize found' : c'.thread i = t' at follows
    cases follows with
    | opened dropped rest free =>
      cases next
      rw [Label.thread, Conf.become_thread]
      exact shadow.close flag rfl rfl rfl found' rest
    | deleted dropped rest own gone =>
      cases next
      rw [Label.thread, Conf.become_thread]
      exact shadow.close flag rfl rfl rfl found' rest

omit [DecidableEq Key] in
theorem Shadow.committing (shadow : Shadow D c c' silent) {i : Nat} (plain : silent i = false) :
    c'.committing i = c.committing i := by
  have follows := shadow.thread i
  rw [plain] at follows
  unfold Conf.committing
  generalize c.thread i = t at follows ⊢
  generalize c'.thread i = t' at follows ⊢
  cases follows with
  | idle trims free => rfl
  | down free => rfl
  | @active α body _ _ _ _ _ _ go failed => cases body <;> rfl

theorem take_move {guard : Store (Table Row) Ev → List Ev → Prop} (next : c.take fault l = some d)
    (admitted : ∀ i, l = .step i → c.Admits guard i) : Move guard fault c d := by
  cases l with
  | step i => exact .step i next (admitted i rfl)
  | crash i =>
    cases next
    exact .crash i
  | abort i =>
    unfold Conf.take at next
    dsimp only at next
    split at next
    · rename_i running
      cases next
      exact .abort i running
    · cases next

end

section
variable {D D' : Nat → Key → Prop} {guard : Store (Table Row) Ev → List Ev → Prop} {fault : Err}
  {labels : List Label} {silent silent' : Nat → Bool}

/-- Where nothing that a hidden deletion names stands, the shadow makes exactly the moves that are shown. -/
theorem Shown.shadow {start start' c : Conf (Table Row) Ev Err Out} (first : Shadow D start start' fun _ => false)
    (run : Shown D guard (fun s k => s.rows k = none) fault start labels c silent) :
    ∃ c', start'.follow fault labels = some c' ∧ Moves guard fault start' c' ∧ Shadow D c c' silent := by
  induction run with
  | start => exact ⟨start', rfl, .refl _, first⟩
  | hidden run fair next hidden ih =>
    obtain ⟨c', followed, moves, shadow⟩ := ih
    exact ⟨c', followed, moves, shadow.skip hidden next (fair.hidden hidden)⟩
  | @shown labels c d silent l run fair next shown ih =>
    obtain ⟨c', followed, moves, shadow⟩ := ih
    obtain ⟨d', taken, after⟩ := shadow.take shown next
    refine ⟨d', ?_, moves.tail (take_move taken ?_), after⟩
    · unfold Conf.follow at followed ⊢
      rw [List.foldlM_append, followed]
      simpa using taken
    · rintro i rfl log committing
      have plain : silent i = false := by
        cases flag : silent i with
        | false => rfl
        | true => exact absurd (Or.inl flag) shown
      rw [shadow.store]
      rw [shadow.committing plain] at committing
      exact fair.shown shown i rfl log committing

/-- Two runs that show the same moves and differ only in hidden deletions have the same store. -/
theorem shown_agree {s : Store (Table Row) Ev} {r r' q : Nat → Req (Table Row) Ev Err Out} {c d : Conf (Table Row) Ev Err Out}
    (trims : ∀ i, (r i).Trims (D i) (q i)) (trims' : ∀ i, (r' i).Trims (D' i) (q i))
    (run : Shown D guard (fun s k => s.rows k = none) fault (Conf.start s r) labels c silent)
    (other : Shown D' guard (fun s k => s.rows k = none) fault (Conf.start s r') labels d silent') : c.store = d.store := by
  obtain ⟨e, followed, _, shadow⟩ := run.shadow (shadow_start trims)
  obtain ⟨e', followed', _, shadow'⟩ := other.shadow (shadow_start trims')
  obtain rfl := Option.some.inj (followed.symm.trans followed')
  exact shadow.store.symm.trans shadow'.store

/-- Every run is one that shows some of its moves. -/
theorem exists_shown {start c : Conf (Table Row) Ev Err Out} (run : Moves (fun _ _ => True) fault start c) :
    ∃ labels silent, Shown D (fun _ _ => True) (fun _ _ => True) fault start labels c silent := by
  induction run with
  | refl => exact ⟨[], _, .start⟩
  | @tail c d run last ih =>
    obtain ⟨labels, silent, shown⟩ := ih
    have fair : ∀ l, c.Fair D (fun _ _ => True) (fun _ _ => True) silent l := fun l =>
      ⟨fun _ _ _ _ _ _ => trivial, fun _ _ _ _ _ => trivial⟩
    obtain ⟨l, next⟩ : ∃ l, c.take fault l = some d := by
      cases last with
      | step i next admitted => exact ⟨.step i, next⟩
      | crash i => exact ⟨.crash i, rfl⟩
      | abort i running => exact ⟨.abort i, by simp [Conf.take, running]⟩
    by_cases hidden : c.Hidden D silent l
    · exact ⟨labels, _, shown.hidden (fair l) next hidden⟩
    · exact ⟨labels ++ [l], _, shown.shown (fair l) next hidden⟩

end

section
variable (names : Nat → Option Key) (guard : Store (Table Row) Ev → List Ev → Prop)
  (harmless : Store (Table Row) Ev → Key → Prop) (fault : Err) [∀ s log, Decidable (guard s log)]
  [∀ s k, Decidable (harmless s k)]

/-- Each thread deletes one row out of sight, or none. -/
abbrev named (i : Nat) (k : Key) : Prop := names i = some k

instance (c : Conf (Table Row) Ev Err Out) (silent : Nat → Bool) (i : Nat) :
    Decidable (c.Hidden (named names) silent (.step i)) :=
  match found : c.thread i with
  | .idle q => decidable_of_iff (silent i = true ∨ ∃ k ∈ q.writes, names i = some k) (by rw [Conf.Hidden, found])
  | .active .. => decidable_of_iff (silent i = true) (by rw [Conf.Hidden, found, or_false])
  | .down => decidable_of_iff (silent i = true) (by rw [Conf.Hidden, found, or_false])

/-- The threads of `schedule` each advance by one statement in turn; what is shown and where it ends. -/
def Conf.show_ (c : Conf (Table Row) Ev Err Out) (silent : Nat → Bool) (labels : List Label) :
    List Nat → Option (List Label × Conf (Table Row) Ev Err Out)
  | [] => some (labels, c)
  | i :: schedule =>
    match c.advance i with
    | none => none
    | some d =>
      if c.Hidden (named names) silent (.step i) then
        if (c.committing i).isSome → ∀ k ∈ names i, harmless c.store k then
          d.show_ (Function.update silent i (d.thread i).open_) labels schedule
        else none
      else if c.Admits guard i then d.show_ (Function.update silent i false) (labels ++ [.step i]) schedule
      else none

theorem show_shown {start c d : Conf (Table Row) Ev Err Out} {silent : Nat → Bool} {labels labels' : List Label}
    {schedule : List Nat} (run : Shown (named names) guard harmless fault start labels c silent)
    (played : c.show_ names guard harmless silent labels schedule = some (labels', d)) :
    ∃ silent', Shown (named names) guard harmless fault start labels' d silent' := by
  induction schedule generalizing c silent labels with
  | nil =>
    cases played
    exact ⟨silent, run⟩
  | cons i schedule ih =>
    unfold Conf.show_ at played
    cases next : c.advance i with
    | none =>
      rw [next] at played
      cases played
    | some e =>
      rw [next] at played
      dsimp only at played
      split at played
      · rename_i hidden
        split at played
        · rename_i settled
          refine ih (run.hidden (l := .step i) ⟨?_, fun shown => absurd hidden shown⟩ next hidden) played
          rintro _ j ⟨⟩ committing k name
          exact settled committing k name
        · cases played
      · rename_i shown
        split at played
        · rename_i admitted
          refine ih (run.shown (l := .step i) ⟨fun hidden => absurd hidden shown, ?_⟩ next shown) played
          rintro _ j ⟨⟩
          exact admitted
        · cases played

end
end ReadCommitted
