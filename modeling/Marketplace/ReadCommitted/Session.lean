import Marketplace.ReadCommitted.Alone

/-! One open transaction on a connection: the first statement that fails spoils every later one. -/
namespace ReadCommitted
open Tx
variable {Key : Type} [DecidableEq Key] {Row : Key → Type} {Ev Err α : Type}

structure Session (Row : Key → Type) where
  rows : Rows (Table Row)
  spoiled : Bool

/-- A statement on its own; `ignored` is the error of a statement in a spoiled transaction. -/
def Session.statement (ignored : Err) (t : Tx (Table Row) Ev Err α) (s : Session Row) : Except Err α × Session Row :=
  if s.spoiled then (.error ignored, s)
  else match t.run s.rows [] with
    | .ok (a, rows, _) => (.ok a, ⟨rows, false⟩)
    | .error e => (.error e, ⟨s.rows, true⟩)

variable {ignored : Err} {rows : Rows (Table Row)}

theorem statement_open (t : Tx (Table Row) Ev Err α) :
    Session.statement ignored t ⟨rows, false⟩ = match t.run rows [] with
      | .ok (a, after, _) => (.ok a, ⟨after, false⟩)
      | .error e => (.error e, ⟨rows, true⟩) := rfl

end ReadCommitted
