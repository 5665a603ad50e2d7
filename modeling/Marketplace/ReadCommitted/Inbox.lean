import Marketplace.ReadCommitted.Invariant
import Marketplace.ReadCommitted.Save

/-! Work done once per id: its transaction first inserts a row under the id. -/
namespace ReadCommitted
open Tx

/-- The rows that say which ids are done, and the marks that record their inserts. -/
structure Inbox {Key : Type} (Row : Key → Type) (Ev ι : Type) where
  key : ι → Key
  row : ∀ id, Row (key id)
  claim : ι → Ev
  key_injective : Function.Injective key
  claim_injective : Function.Injective claim

namespace Inbox

section
variable {Key : Type} {Row : Key → Type} {Ev Err ι : Type} (B : Inbox Row Ev ι)

def Apart (k : Key) : Prop := ∀ id, k ≠ B.key id

def Quiet (e : Ev) : Prop := ∀ id, e ≠ B.claim id

/-- The row of the id stands. -/
def Claimed (s : Store (Table Row) Ev) (id : ι) : Prop := s.rows (B.key id) ≠ none

def Stays (s t : Store (Table Row) Ev) : Prop := ∀ id, B.Claimed s id → B.Claimed t id

theorem stays_refl (s : Store (Table Row) Ev) : B.Stays s s := fun _ claimed => claimed

theorem Stays.trans {s t u : Store (Table Row) Ev} (first : B.Stays s t) (second : B.Stays t u) : B.Stays s u :=
  fun id claimed => second id (first id claimed)

variable [DecidableEq Ev]

/-- An id is claimed once, and then its row stands. -/
structure Sound (s : Store (Table Row) Ev) : Prop where
  free : ∀ id, ¬ B.Claimed s id → B.claim id ∉ s.journal
  once : ∀ id, B.Claimed s id → s.journal.count (B.claim id) = 1

theorem Sound.count_le {B : Inbox Row Ev ι} {s : Store (Table Row) Ev} (sound : B.Sound s) (id : ι) :
    s.journal.count (B.claim id) ≤ 1 := by
  by_cases claimed : B.Claimed s id
  · exact Nat.le_of_eq (sound.once id claimed)
  · rw [List.count_eq_zero_of_not_mem (sound.free id claimed)]
    exact Nat.zero_le 1

theorem count_quiet {log : List Ev} (quiet : ∀ e ∈ log, B.Quiet e) (id : ι) : log.count (B.claim id) = 0 :=
  List.count_eq_zero_of_not_mem fun member => quiet _ member id rfl

section
variable {B : Inbox Row Ev ι} {s t : Store (Table Row) Ev} {log : List Ev}

/-- A commit that leaves the rows alone. -/
theorem Sound.aside (sound : B.Sound s) (rows : ∀ id, t.rows (B.key id) = s.rows (B.key id))
    (grown : t.journal = s.journal ++ log) (quiet : ∀ e ∈ log, B.Quiet e) : B.Sound t where
  free id open_ := by
    have before : ¬ B.Claimed s id := by
      rw [Claimed, ← rows]
      exact open_
    rw [grown, List.mem_append, not_or]
    exact ⟨sound.free id before, fun member => quiet _ member id rfl⟩
  once id claimed := by
    have before : B.Claimed s id := by
      rw [Claimed, ← rows]
      exact claimed
    rw [grown, List.count_append, sound.once id before, B.count_quiet quiet id]

/-- A commit that claims a free id. -/
theorem Sound.claim {own : ι} (sound : B.Sound s) (free : s.rows (B.key own) = none) (stands : t.rows (B.key own) ≠ none)
    (rows : ∀ id, id ≠ own → t.rows (B.key id) = s.rows (B.key id))
    (grown : t.journal = s.journal ++ (B.claim own :: log)) (quiet : ∀ e ∈ log, B.Quiet e) : B.Sound t where
  free id open_ := by
    have other : id ≠ own := by
      rintro rfl
      exact open_ stands
    have before : ¬ B.Claimed s id := by
      rw [Claimed, ← rows id other]
      exact open_
    rw [grown, List.mem_append, not_or]
    refine ⟨sound.free id before, fun member => ?_⟩
    rcases List.mem_cons.mp member with same | later
    · exact other (B.claim_injective same)
    · exact quiet _ later id rfl
  once id claimed := by
    rw [grown, List.count_append, List.count_cons, B.count_quiet quiet id]
    by_cases same : id = own
    · subst same
      have unclaimed : ¬ B.Claimed s id := fun claimed => claimed free
      rw [List.count_eq_zero_of_not_mem (sound.free id unclaimed)]
      simp
    · have before : B.Claimed s id := by
        rw [Claimed, ← rows id same]
        exact claimed
      have differs : B.claim own ≠ B.claim id := fun equal => same (B.claim_injective equal).symm
      rw [sound.once id before]
      simp [differs]

end
end

section
variable {Key : Type} [DecidableEq Key] {Row : Key → Type} {Ev Err ι α : Type} (B : Inbox Row Ev ι)

/-- The work of an id, behind the insert that claims it. -/
def once (id : ι) (taken : Err) (work : Tx (Table Row) Ev Err α) : Tx (Table Row) Ev Err α := do
  insert (B.key id) (B.row id) taken
  note (B.claim id)
  work

variable {B} {I : Isolation (Table Row) Ev} {v : View (Table Row) Ev} {Q : α → View (Table Row) Ev → Prop} {E : Err → Prop}

theorem wp_once {id : ι} {taken : Err} {work : Tx (Table Row) Ev Err α} (clash : v.rows (B.key id) ≠ none → E taken)
    (h : ∀ w, v.Continues (· = B.key id) (· = B.claim id) w → v.rows (B.key id) = none →
      w.rows (B.key id) = some (B.row id) → w.log = v.log ++ [B.claim id] → work.wp I Q E w) :
    (B.once id taken work).wp I Q E v := by
  unfold once
  rw [wp_bind]
  refine wp_insert clash fun w more _ free stored => ?_
  rw [wp_bind, wp_note]
  have grown : w.log = v.log := more.log_same
  refine h _ ((more.mono (fun _ same => same) fun _ no => no.elim).trans (.mark rfl)) free stored ?_
  rw [View.mark_log, grown]

/-- The work is done once: its commit claims the id. -/
theorem wp_once_sound [DecidableEq Ev] {h : History (Table Row) Ev} {m : Nat} {id : ι} {taken : Err}
    {work : Tx (Table Row) Ev Err α} (aside : work.Within B.Apart B.Quiet)
    (fails : ∀ w, work.wp h.isolation (fun _ _ => True) E w) (clash : h.current.rows (B.key id) ≠ none → E taken) :
    (B.once id taken work).wp h.isolation
      (fun _ w => B.Sound h.current → B.Sound (h.commit w) ∧ B.Stays h.current (h.commit w) ∧ B.Claimed (h.commit w) id)
      E (View.start h.current.rows m) := by
  refine wp_once clash fun w more free stored log => ?_
  have done : work.wp h.isolation (fun _ u => w.Continues B.Apart B.Quiet u) (fun _ => True) w :=
    wp_of_within aside (fun _ _ later => later) fun _ => trivial
  refine wp_mono _ (wp_and _ done (fails w)) (fun _ u kept sound => ?_) fun _ failed => failed.2
  have later := kept.1
  obtain ⟨marks, grown, quiet⟩ := later.log
  have rows : ∀ id', u.rows (B.key id') = w.rows (B.key id') := fun id' => later.rows _ fun apart => apart id' rfl
  have others : ∀ id', id' ≠ id → u.rows (B.key id') = h.current.rows (B.key id') := fun id' other =>
    (rows id').trans (more.rows _ fun same => other (B.key_injective same))
  have stands : u.rows (B.key id) ≠ none := by
    rw [rows, stored]
    exact Option.some_ne_none _
  have journal : (h.commit u).journal = h.current.journal ++ (B.claim id :: marks) := by
    show h.current.journal ++ u.log = _
    rw [grown, log]
    rfl
  refine ⟨sound.claim free stands others journal quiet, fun id' claimed => ?_, stands⟩
  by_cases same : id' = id
  · subst same
    exact stands
  · show u.rows (B.key id') ≠ none
    rw [others id' same]
    exact claimed

end

section
variable {Key : Type} {Row : Key → Type} {Ev ι : Type} (B : Inbox Row Ev ι) (about : Ev → ι)

/-- The marks of one id, its claim first. -/
def Wrote (id : ι) (log : List Ev) : Prop := ∃ rest, log = B.claim id :: rest ∧ ∀ e ∈ log, about e = id

variable {B about} [DecidableEq ι] {id : ι}

omit [DecidableEq ι] in
theorem Wrote.claimed {log : List Ev} (wrote : B.Wrote about id log) : B.claim id ∈ log := by
  obtain ⟨rest, rfl, _⟩ := wrote
  exact List.mem_cons_self

theorem Wrote.filter_self {log : List Ev} (wrote : B.Wrote about id log) : log.filter (about · = id) = log := by
  obtain ⟨_, _, all⟩ := wrote
  exact List.filter_eq_self.mpr fun e member => decide_eq_true (all e member)

theorem Wrote.filter_other {log : List Ev} {other : ι} (wrote : B.Wrote about other log) (differs : other ≠ id) :
    log.filter (about · = id) = [] := by
  obtain ⟨_, _, all⟩ := wrote
  rw [List.filter_eq_nil_iff]
  intro e member
  rw [all e member]
  simpa using differs

variable {entries : List (Nat × List Ev)} (made : ∀ x ∈ entries, ∃ id, B.Wrote about id x.2)
include made

/-- Entries none of which claims the id have no marks of it. -/
theorem filter_unclaimed (unclaimed : B.claim id ∉ entries.flatMap Prod.snd) :
    (entries.flatMap Prod.snd).filter (about · = id) = [] := by
  induction entries with
  | nil => rfl
  | cons x rest ih =>
    obtain ⟨own, wrote⟩ := made x List.mem_cons_self
    rw [List.flatMap_cons, List.mem_append, not_or] at unclaimed
    have differs : own ≠ id := by
      rintro rfl
      exact unclaimed.1 wrote.claimed
    rw [List.flatMap_cons, List.filter_append, wrote.filter_other differs, List.nil_append]
    exact ih (fun y more => made y (List.mem_cons_of_mem _ more)) unclaimed.2

/-- Where the id is claimed once, the entry that claims it has all its marks. -/
theorem exists_entry [DecidableEq Ev] (own : ∀ id, about (B.claim id) = id)
    (once : (entries.flatMap Prod.snd).count (B.claim id) = 1) :
    ∃ x ∈ entries, B.Wrote about id x.2 ∧ (entries.flatMap Prod.snd).filter (about · = id) = x.2 := by
  induction entries with
  | nil => simp at once
  | cons x rest ih =>
    have later : ∀ y ∈ rest, ∃ id, B.Wrote about id y.2 := fun y more => made y (List.mem_cons_of_mem _ more)
    obtain ⟨first, wrote⟩ := made x List.mem_cons_self
    rw [List.flatMap_cons, List.count_append] at once
    rw [List.flatMap_cons, List.filter_append]
    by_cases same : first = id
    · subst same
      have here : 0 < x.2.count (B.claim first) := List.count_pos_iff.mpr wrote.claimed
      have others : B.claim first ∉ rest.flatMap Prod.snd := List.count_eq_zero.mp (by omega)
      rw [filter_unclaimed later others, List.append_nil, wrote.filter_self]
      exact ⟨x, List.mem_cons_self, wrote, rfl⟩
    · have absent : B.claim id ∉ x.2 := by
        intro member
        obtain ⟨_, _, all⟩ := wrote
        exact same ((all _ member).symm.trans (own id))
      rw [List.count_eq_zero_of_not_mem absent, Nat.zero_add] at once
      obtain ⟨y, member, found⟩ := ih later once
      rw [wrote.filter_other same, List.nil_append]
      exact ⟨y, List.mem_cons_of_mem _ member, found⟩

end
end Inbox
end ReadCommitted
