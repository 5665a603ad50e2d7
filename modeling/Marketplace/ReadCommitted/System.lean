import Marketplace.ReadCommitted.Wp

/-! Requests of concurrent threads over one database with row locks. -/
namespace ReadCommitted

/-- A request runs transactions in turn: `ok` continues after a commit, `err` after a rollback. -/
inductive Req {Key : Type} (Val : Key → Type) (Ev Err Out : Type) : Type 1 where
  | done (out : Out)
  | tx {α : Type} (body : Tx Val Ev Err α) (ok : α → Req Val Ev Err Out) (err : Err → Req Val Ev Err Out)

/-- The committed rows and the marks of the committed transactions, oldest first. -/
structure Store {Key : Type} (Val : Key → Type) (Ev : Type) where
  rows : Rows Val
  journal : List Ev

inductive Thread {Key : Type} (Val : Key → Type) (Ev Err Out : Type) : Type 1 where
  | idle (r : Req Val Ev Err Out)
  | active {α : Type} (body : Tx Val Ev Err α) (ok : α → Req Val Ev Err Out)
      (err : Err → Req Val Ev Err Out) (mine : Rows Val) (log : List Ev)
  | down

def Thread.answered {Key : Type} {Val : Key → Type} {Ev Err Out : Type} : Thread Val Ev Err Out → Bool
  | .idle (.done _) => true
  | _ => false

structure Conf {Key : Type} (Val : Key → Type) (Ev Err Out : Type) : Type 1 where
  store : Store Val Ev
  owner : Key → Option Nat
  thread : Nat → Thread Val Ev Err Out

variable {Key : Type} {Val : Key → Type} {Ev Err Out : Type}

/-- Every transaction the request may run, whatever it is answered, satisfies `T`. -/
inductive Req.All (T : ∀ α : Type, Tx Val Ev Err α → Prop) : Req Val Ev Err Out → Prop
  | done (out : Out) : Req.All T (.done out)
  | tx {α : Type} {body : Tx Val Ev Err α} {ok : α → Req Val Ev Err Out} {err : Err → Req Val Ev Err Out}
      (now : T α body) (next : ∀ a, Req.All T (ok a)) (failed : ∀ e, Req.All T (err e)) :
      Req.All T (.tx body ok err)

theorem Req.All.mono {T U : ∀ α : Type, Tx Val Ev Err α → Prop} {r : Req Val Ev Err Out} (all : r.All T)
    (weaker : ∀ α body, T α body → U α body) : r.All U := by
  induction all with
  | done out => exact .done out
  | tx now _ _ next failed => exact .tx (weaker _ _ now) next failed

namespace Conf

def start (s : Store Val Ev) (r : Nat → Req Val Ev Err Out) : Conf Val Ev Err Out :=
  ⟨s, fun _ => none, fun i => .idle (r i)⟩

def become (c : Conf Val Ev Err Out) (i : Nat) (t : Thread Val Ev Err Out) :
    Conf Val Ev Err Out :=
  { c with thread := Function.update c.thread i t }

/-- The database as thread `i` reads it: its own version of the rows it holds. -/
def overlay (c : Conf Val Ev Err Out) (i : Nat) (mine : Rows Val) : Rows Val := fun k =>
  if c.owner k = some i then mine k else c.store.rows k

def release (c : Conf Val Ev Err Out) (i : Nat) : Conf Val Ev Err Out :=
  { c with owner := fun k => if c.owner k = some i then none else c.owner k }

variable [DecidableEq Key]

def acquire (c : Conf Val Ev Err Out) (i : Nat) (k : Key) : Conf Val Ev Err Out :=
  { c with owner := Function.update c.owner k (some i) }

/-- One statement of thread `i`; `none` when it has ended or waits for a row another thread holds. -/
def advance (c : Conf Val Ev Err Out) (i : Nat) : Option (Conf Val Ev Err Out) :=
  match c.thread i with
  | .down => none
  | .idle (.done _) => none
  | .idle (.tx body ok err) => some (c.become i (.active body ok err c.store.rows []))
  | .active (.ret a) ok _ mine log =>
    some ({ c with store := ⟨c.overlay i mine, c.store.journal ++ log⟩ }.release i |>.become i (.idle (ok a)))
  | .active (.fail e) _ err _ _ => some ((c.release i).become i (.idle (err e)))
  | .active (.read next) ok err mine log =>
    some (c.become i (.active (next (c.overlay i mine)) ok err mine log))
  | .active (.lock k next) ok err mine log =>
    if c.owner k = some i then some (c.become i (.active next ok err mine log))
    else if c.owner k = none then
      some ((c.acquire i k).become i
        (.active next ok err (Function.update mine k (c.store.rows k)) log))
    else none
  | .active (.update k f next) ok err mine log =>
    if c.owner k = some i then
      some (c.become i (.active next ok err (Function.update mine k (f (mine k))) log))
    else if c.owner k = none then
      some ((c.acquire i k).become i
        (.active next ok err (Function.update mine k (f (c.store.rows k))) log))
    else none
  | .active (.emit e next) ok err mine log => some (c.become i (.active next ok err mine (log ++ [e])))

/-- The marks thread `i` is about to commit. -/
def committing (c : Conf Val Ev Err Out) (i : Nat) : Option (List Ev) :=
  match c.thread i with
  | .active (.ret _) _ _ _ log => some log
  | _ => none

end Conf

variable [DecidableEq Key]

/-- A commit is admitted when `guard` holds of the store it finds and the marks it brings. -/
def Conf.Admits (guard : Store Val Ev → List Ev → Prop) (c : Conf Val Ev Err Out) (i : Nat) : Prop :=
  ∀ log ∈ c.committing i, guard c.store log

/-- Besides its statements, an open transaction may be rolled back by the database with `fault`,
and the server running the request may stop. -/
inductive Move (guard : Store Val Ev → List Ev → Prop) (fault : Err) :
    Conf Val Ev Err Out → Conf Val Ev Err Out → Prop
  | step {c d : Conf Val Ev Err Out} (i : Nat) (next : c.advance i = some d)
      (admitted : c.Admits guard i) : Move guard fault c d
  | abort {c : Conf Val Ev Err Out} {α : Type} {body : Tx Val Ev Err α} {ok : α → Req Val Ev Err Out}
      {err : Err → Req Val Ev Err Out} {mine : Rows Val} {log : List Ev} (i : Nat)
      (running : c.thread i = .active body ok err mine log) :
      Move guard fault c ((c.release i).become i (.idle (err fault)))
  | crash {c : Conf Val Ev Err Out} (i : Nat) : Move guard fault c ((c.release i).become i .down)

inductive Moves (guard : Store Val Ev → List Ev → Prop) (fault : Err) :
    Conf Val Ev Err Out → Conf Val Ev Err Out → Prop
  | refl (c : Conf Val Ev Err Out) : Moves guard fault c c
  | tail {c d e : Conf Val Ev Err Out} (run : Moves guard fault c d) (last : Move guard fault d e) :
      Moves guard fault c e

theorem Moves.head {guard : Store Val Ev → List Ev → Prop} {fault : Err}
    {c d e : Conf Val Ev Err Out} (first : Move guard fault c d) (run : Moves guard fault d e) :
    Moves guard fault c e := by
  induction run with
  | refl => exact .tail (.refl _) first
  | tail _ last ih => exact .tail ih last

namespace Conf

/-- The threads of `schedule` each advance by one statement in turn. -/
def play (c : Conf Val Ev Err Out) : List Nat → Option (Conf Val Ev Err Out)
  | [] => some c
  | i :: schedule =>
    match c.advance i with
    | some d => d.play schedule
    | none => none

/-- Every commit of the schedule is admitted. -/
def Obeys (guard : Store Val Ev → List Ev → Prop) (c : Conf Val Ev Err Out) : List Nat → Prop
  | [] => True
  | i :: schedule => c.Admits guard i ∧ ∀ d ∈ c.advance i, d.Obeys guard schedule

section
variable (guard : Store Val Ev → List Ev → Prop) [∀ s log, Decidable (guard s log)]

instance (c : Conf Val Ev Err Out) (i : Nat) : Decidable (c.Admits guard i) :=
  inferInstanceAs (Decidable (∀ log ∈ c.committing i, guard c.store log))

instance decideObeys : ∀ (c : Conf Val Ev Err Out) (schedule : List Nat),
    Decidable (c.Obeys guard schedule)
  | _, [] => isTrue trivial
  | c, i :: schedule =>
    have : ∀ d : Conf Val Ev Err Out, Decidable (d.Obeys guard schedule) := fun d =>
      decideObeys d schedule
    inferInstanceAs (Decidable (c.Admits guard i ∧ ∀ d ∈ c.advance i, d.Obeys guard schedule))

end

theorem obeys_any (c : Conf Val Ev Err Out) (schedule : List Nat) : c.Obeys (fun _ _ => True) schedule := by
  induction schedule generalizing c with
  | nil => trivial
  | cons i schedule ih => exact ⟨fun _ _ => trivial, fun d _ => ih d⟩

theorem play_moves {guard : Store Val Ev → List Ev → Prop} {fault : Err} {c d : Conf Val Ev Err Out}
    {schedule : List Nat} (played : c.play schedule = some d) (obeys : c.Obeys guard schedule) :
    Moves guard fault c d := by
  induction schedule generalizing c with
  | nil => cases played; exact .refl _
  | cons i schedule ih =>
    simp only [play] at played
    cases step : c.advance i with
    | none => simp [step] at played
    | some e =>
      simp only [step] at played
      exact .head (.step i step obeys.1) (ih played (obeys.2 e step))

theorem exists_moves {guard : Store Val Ev → List Ev → Prop} (fault : Err)
    {c : Conf Val Ev Err Out} {schedule : List Nat} {P : Conf Val Ev Err Out → Prop}
    (obeys : c.Obeys guard schedule) (found : ∃ d ∈ c.play schedule, P d) :
    ∃ d, Moves guard fault c d ∧ P d := by
  obtain ⟨d, played, holds⟩ := found
  exact ⟨d, play_moves played obeys, holds⟩

theorem advance_thread {c d : Conf Val Ev Err Out} {i j : Nat} (next : c.advance i = some d) (other : j ≠ i) :
    d.thread j = c.thread j := by
  have become : ∀ (e : Conf Val Ev Err Out) t, (e.become i t).thread j = e.thread j := by
    intro e t
    simp [Conf.become, other]
  unfold advance at next
  split at next
  case h_1 | h_2 => cases next
  case h_3 | h_4 | h_5 | h_6 | h_9 =>
    cases next
    exact become _ _
  case h_7 | h_8 =>
    split at next
    · cases next
      exact become _ _
    · split at next
      · cases next
        exact become _ _
      · cases next

/-- A thread that is not in the schedule stays as it is. -/
theorem play_thread {c d : Conf Val Ev Err Out} {schedule : List Nat} {j : Nat} (played : c.play schedule = some d)
    (out : j ∉ schedule) : d.thread j = c.thread j := by
  induction schedule generalizing c with
  | nil => cases played; rfl
  | cons i schedule ih =>
    simp only [play] at played
    cases step : c.advance i with
    | none => simp [step] at played
    | some e =>
      simp only [step] at played
      calc
        d.thread j = e.thread j := ih played fun later => out (List.mem_cons_of_mem i later)
        _ = c.thread j := advance_thread step fun same => out (same ▸ List.mem_cons_self)

end Conf
end ReadCommitted
