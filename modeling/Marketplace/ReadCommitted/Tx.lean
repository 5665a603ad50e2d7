import Mathlib.Logic.Function.Basic

/-! Transactions as programs over keyed rows: statements, sequencing and the run alone. -/
namespace ReadCommitted

abbrev Rows {Key : Type} (Val : Key → Type) := ∀ k, Val k

/-- A `read` is one statement: everything it looks at comes from one snapshot. `emit` leaves a
mark in the journal that no statement can read back. -/
inductive Tx {Key : Type} (Val : Key → Type) (Ev Err α : Type) where
  | ret (a : α)
  | fail (e : Err)
  | read (next : Rows Val → Tx Val Ev Err α)
  | lock (k : Key) (next : Tx Val Ev Err α)
  | update (k : Key) (f : Val k → Val k) (next : Tx Val Ev Err α)
  | emit (e : Ev) (next : Tx Val Ev Err α)

namespace Tx
variable {Key : Type} {Val : Key → Type} {Ev Err α β γ ι : Type}

def bind (t : Tx Val Ev Err α) (f : α → Tx Val Ev Err β) : Tx Val Ev Err β :=
  match t with
  | ret a => f a
  | fail e => fail e
  | read next => read fun d => (next d).bind f
  | lock k next => lock k (next.bind f)
  | update k g next => update k g (next.bind f)
  | emit e next => emit e (next.bind f)

instance : Monad (Tx Val Ev Err) where
  pure := ret
  bind := bind

theorem bind_ret (t : Tx Val Ev Err α) : t.bind ret = t := by
  induction t with
  | ret a => rfl
  | fail e => rfl
  | read next ih => simp only [bind, ih]
  | lock k next ih => simp only [bind, ih]
  | update k g next ih => simp only [bind, ih]
  | emit e next ih => simp only [bind, ih]

theorem bind_bind (t : Tx Val Ev Err α) (f : α → Tx Val Ev Err β) (g : β → Tx Val Ev Err γ) :
    (t.bind f).bind g = t.bind fun a => (f a).bind g := by
  induction t with
  | ret a => rfl
  | fail e => rfl
  | read next ih => simp only [bind, ih]
  | lock k next ih => simp only [bind, ih]
  | update k h next ih => simp only [bind, ih]
  | emit e next ih => simp only [bind, ih]

instance : LawfulMonad (Tx Val Ev Err) :=
  LawfulMonad.mk' _ bind_ret (fun _ _ => rfl) bind_bind

/-- What one statement reads. -/
def select (f : Rows Val → α) : Tx Val Ev Err α := read fun d => ret (f d)

def lockRow (k : Key) : Tx Val Ev Err Unit := lock k (ret ())

/-- `SELECT ... FOR UPDATE` of one row. -/
def selectForUpdate (k : Key) : Tx Val Ev Err (Val k) := do
  lockRow k
  select fun d => d k

def modify (k : Key) (f : Val k → Val k) : Tx Val Ev Err Unit := update k f (ret ())

def note (e : Ev) : Tx Val Ev Err Unit := emit e (ret ())

def raise (e : Err) : Tx Val Ev Err α := fail e

def require (p : Prop) [Decidable p] (e : Err) : Tx Val Ev Err Unit :=
  if p then ret () else fail e

/-- A step taken only when `p` holds. -/
def given (p : Prop) [Decidable p] (t : Tx Val Ev Err Unit) : Tx Val Ev Err Unit :=
  if p then t else ret ()

/-- The value of an optional result, or the error of its absence. -/
def orFail (e : Err) : Option α → Tx Val Ev Err α
  | some a => ret a
  | none => fail e

/-- The transaction run with nothing else committing between its statements. -/
def run [DecidableEq Key] : Tx Val Ev Err α → Rows Val → List Ev → Except Err (α × Rows Val × List Ev)
  | ret a, d, log => .ok (a, d, log)
  | fail e, _, _ => .error e
  | read next, d, log => (next d).run d log
  | lock _ next, d, log => next.run d log
  | update k f next, d, log => next.run (Function.update d k (f (d k))) log
  | emit e next, d, log => next.run d (log ++ [e])

end Tx
end ReadCommitted
