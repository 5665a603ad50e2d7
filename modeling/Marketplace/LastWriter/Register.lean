import Mathlib.Order.MinMax

/-! A register under stamped writes and deletes, whatever their order. -/
namespace LastWriter

/-- A value, and the newest delete it may have to be defended against. -/
structure Register (τ α : Type) where
  tombstone : Option τ
  value : Option α

inductive Op (τ α : Type) where
  | upsert (a : α)
  | delete (t : τ)

variable {τ α : Type} [LinearOrder τ] (stamp : α → τ)

def newer (a : α) : Option α → α
  | none => a
  | some b => if stamp b < stamp a then a else b

/-- A tombstone at least as new turns a write away; an older one goes. -/
def Register.upsert (r : Register τ α) (a : α) : Register τ α :=
  if ∃ t ∈ r.tombstone, stamp a ≤ t then r else ⟨none, some (newer stamp a r.value)⟩

def Register.delete (r : Register τ α) (t : τ) : Register τ α :=
  ⟨some (r.tombstone.elim t (max t)), r.value.filter fun a => t < stamp a⟩

def Register.apply (r : Register τ α) : Op τ α → Register τ α
  | .upsert a => r.upsert stamp a
  | .delete t => r.delete stamp t

/-- The newest write, newer than every delete. -/
structure Newest (ops : Op τ α → Prop) (a : α) : Prop where
  written : ops (.upsert a)
  newest : ∀ b, ops (.upsert b) → stamp b ≤ stamp a
  undeleted : ∀ t, ops (.delete t) → t < stamp a

/-- A register after `ops`. A value that is missing is held off by the tombstone. -/
structure Settled (ops : Op τ α → Prop) (r : Register τ α) : Prop where
  shown : ∀ a ∈ r.value, Newest stamp ops a
  hidden : r.value = none → ∀ a, ops (.upsert a) → ∃ t ∈ r.tombstone, stamp a ≤ t
  kept : r.value = none → ∀ t, ops (.delete t) → ∃ u ∈ r.tombstone, t ≤ u
  deleted : ∀ t ∈ r.tombstone, ops (.delete t)

/-- `ops` and one more. -/
def also (ops : Op τ α → Prop) (op : Op τ α) (o : Op τ α) : Prop := ops o ∨ o = op

variable {stamp} {ops : Op τ α → Prop} {r : Register τ α}

theorem settled_empty : Settled stamp (fun _ => False) ⟨none, none⟩ where
  shown _ no := nomatch no
  hidden _ _ no := no.elim
  kept _ _ no := no.elim
  deleted _ no := nomatch no

theorem Newest.also_upsert {a b : α} (newest : Newest stamp ops a) (older : stamp b ≤ stamp a) :
    Newest stamp (also ops (.upsert b)) a where
  written := Or.inl newest.written
  newest c written := by
    rcases written with early | last
    · exact newest.newest c early
    · obtain rfl := Op.upsert.inj last
      exact older
  undeleted t deleted := newest.undeleted t (deleted.resolve_right nofun)

/-- A write takes the place of what is older than it. -/
theorem Newest.overtaken {a : α} (writes : ∀ b, ops (.upsert b) → stamp b ≤ stamp a)
    (deletes : ∀ t, ops (.delete t) → t < stamp a) : Newest stamp (also ops (.upsert a)) a where
  written := Or.inr rfl
  newest c written := by
    rcases written with early | last
    · exact writes c early
    · obtain rfl := Op.upsert.inj last
      exact le_refl _
  undeleted t deleted := deletes t (deleted.resolve_right nofun)

theorem Settled.newer (settled : Settled stamp ops r) {a : α} (open_ : ∀ t ∈ r.tombstone, t < stamp a) :
    Newest stamp (also ops (.upsert a)) (newer stamp a r.value) := by
  cases found : r.value with
  | none =>
    apply Newest.overtaken
    · intro b written
      obtain ⟨t, stands, older⟩ := settled.hidden found b written
      exact le_of_lt (lt_of_le_of_lt older (open_ t stands))
    · intro t deleted
      obtain ⟨u, stands, older⟩ := settled.kept found t deleted
      exact lt_of_le_of_lt older (open_ u stands)
  | some b =>
    have newest := settled.shown b found
    by_cases later : stamp b < stamp a
    · rw [LastWriter.newer, if_pos later]
      apply Newest.overtaken
      · intro c written
        exact le_of_lt (lt_of_le_of_lt (newest.newest c written) later)
      · intro t deleted
        exact lt_trans (newest.undeleted t deleted) later
    · rw [LastWriter.newer, if_neg later]
      exact newest.also_upsert (le_of_not_gt later)

theorem Settled.upsert (settled : Settled stamp ops r) (a : α) :
    Settled stamp (also ops (.upsert a)) (r.upsert stamp a) := by
  have deletes : ∀ {t : τ}, also ops (.upsert a) (.delete t) → ops (.delete t) := fun deleted => deleted.resolve_right nofun
  unfold Register.upsert
  split
  · rename_i blocked
    obtain ⟨t, stands, older⟩ := blocked
    refine ⟨fun b there => ?_, fun gone b written => ?_, fun gone u deleted => settled.kept gone u (deletes deleted),
      fun u there => Or.inl (settled.deleted u there)⟩
    · have newest := settled.shown b there
      exact newest.also_upsert (le_of_lt (lt_of_le_of_lt older (newest.undeleted t (settled.deleted t stands))))
    · rcases written with early | last
      · exact settled.hidden gone b early
      · obtain rfl := Op.upsert.inj last
        exact ⟨t, stands, older⟩
  · rename_i open_
    refine ⟨fun b there => ?_, (fun gone => absurd gone (Option.some_ne_none _)),
      (fun gone => absurd gone (Option.some_ne_none _)), (fun t no => absurd no (Option.not_mem_none t))⟩
    obtain rfl := Option.some.inj there
    exact settled.newer fun t stands => lt_of_not_ge fun older => open_ ⟨t, stands, older⟩

theorem Settled.delete (settled : Settled stamp ops r) (t : τ) :
    Settled stamp (also ops (.delete t)) (r.delete stamp t) := by
  have writes : ∀ {a : α}, also ops (.delete t) (.upsert a) → ops (.upsert a) := fun written => written.resolve_right nofun
  have tombstone : ∀ u, (u = t ∨ u ∈ r.tombstone) → ∃ w ∈ (r.delete stamp t).tombstone, u ≤ w := by
    intro u kind
    refine ⟨r.tombstone.elim t (max t), rfl, ?_⟩
    rcases kind with rfl | stands
    · cases r.tombstone with
      | none => exact le_refl _
      | some w => exact le_max_left _ _
    · rw [stands]
      exact le_max_right _ _
  -- a value that stood and is gone was no newer than `t`
  have gone : (r.delete stamp t).value = none → r.value = none ∨ ∃ b ∈ r.value, stamp b ≤ t := by
    intro none_
    cases found : r.value with
    | none => exact Or.inl rfl
    | some b =>
      refine Or.inr ⟨b, rfl, le_of_not_gt fun newer => ?_⟩
      simp [Register.delete, found, Option.filter, newer] at none_
  refine ⟨fun b there => ?_, fun none_ a written => ?_, fun none_ u deleted => ?_, fun u there => ?_⟩
  · obtain ⟨stands, later⟩ := Option.filter_eq_some_iff.mp there
    have newest := settled.shown b stands
    refine ⟨Or.inl newest.written, fun c written => newest.newest c (writes written), fun u deleted => ?_⟩
    rcases deleted with early | last
    · exact newest.undeleted u early
    · obtain rfl := Op.delete.inj last
      exact of_decide_eq_true later
  · rcases gone none_ with before | ⟨b, stands, older⟩
    · obtain ⟨u, held, least⟩ := settled.hidden before a (writes written)
      obtain ⟨w, kept, above⟩ := tombstone u (Or.inr held)
      exact ⟨w, kept, le_trans least above⟩
    · obtain ⟨w, kept, above⟩ := tombstone t (Or.inl rfl)
      have newest := (settled.shown b stands).newest a (writes written)
      exact ⟨w, kept, le_trans (le_trans newest older) above⟩
  · rcases deleted with early | last
    · rcases gone none_ with before | ⟨b, stands, older⟩
      · obtain ⟨x, held, least⟩ := settled.kept before u early
        obtain ⟨w, kept, above⟩ := tombstone x (Or.inr held)
        exact ⟨w, kept, le_trans least above⟩
      · obtain ⟨w, kept, above⟩ := tombstone t (Or.inl rfl)
        have newest := (settled.shown b stands).undeleted u early
        exact ⟨w, kept, le_trans (le_of_lt newest) (le_trans older above)⟩
    · obtain rfl := Op.delete.inj last
      exact tombstone u (Or.inl rfl)
  · obtain rfl := Option.some.inj there
    cases found : r.tombstone with
    | none => exact Or.inr rfl
    | some w =>
      rcases max_choice t w with first | second
      · exact Or.inr (congrArg Op.delete first)
      · left
        show ops (.delete (max t w))
        rw [second]
        exact settled.deleted w found

theorem Settled.apply (settled : Settled stamp ops r) (op : Op τ α) :
    Settled stamp (also ops op) (r.apply stamp op) := by
  cases op with
  | upsert a => exact settled.upsert a
  | delete t => exact settled.delete t

/-- Where writes of one stamp agree, the register holds the newest write and nothing else. -/
theorem Settled.value_iff (settled : Settled stamp ops r)
    (ties : ∀ a b, ops (.upsert a) → ops (.upsert b) → stamp a = stamp b → a = b) {a : α} :
    r.value = some a ↔ Newest stamp ops a := by
  refine ⟨settled.shown a, fun newest => ?_⟩
  cases found : r.value with
  | none =>
    obtain ⟨t, stands, older⟩ := settled.hidden found a newest.written
    exact absurd (newest.undeleted t (settled.deleted t stands)) (not_lt_of_ge older)
  | some b =>
    have shown := settled.shown b found
    rw [ties b a shown.written newest.written (le_antisymm (newest.newest b shown.written) (shown.newest a newest.written))]

/-- `r` lacks tombstones of `full` that have expired. -/
structure Forgot (expired : τ → Prop) (r full : Register τ α) : Prop where
  value : r.value = full.value
  behind : ∀ t ∈ r.tombstone, ∃ u ∈ full.tombstone, t ≤ u
  kept : ∀ u ∈ full.tombstone, u ∈ r.tombstone ∨ expired u

section
variable {expired : τ → Prop} {full : Register τ α}

theorem Forgot.refl (r : Register τ α) : Forgot expired r r where
  value := rfl
  behind t stands := ⟨t, stands, le_refl t⟩
  kept _ stands := Or.inl stands

theorem Forgot.mono {later : τ → Prop} (forgot : Forgot expired r full) (more : ∀ t, expired t → later t) :
    Forgot later r full where
  value := forgot.value
  behind := forgot.behind
  kept u stands := (forgot.kept u stands).imp id (more u)

theorem Forgot.forget (forgot : Forgot expired r full) (gone : ∀ t ∈ r.tombstone, expired t) :
    Forgot expired ⟨none, r.value⟩ full where
  value := forgot.value
  behind t no := absurd no (Option.not_mem_none t)
  kept u stands := Or.inr ((forgot.kept u stands).elim (gone u) id)

/-- A write that no expired tombstone holds off ends the same. -/
theorem Forgot.upsert {a : α} (forgot : Forgot expired r full) (fresh : ∀ u ∈ full.tombstone, stamp a ≤ u → ¬ expired u) :
    Forgot expired (r.upsert stamp a) (full.upsert stamp a) := by
  unfold Register.upsert
  by_cases blocked : ∃ u ∈ full.tombstone, stamp a ≤ u
  · obtain ⟨u, stands, older⟩ := blocked
    have too : u ∈ r.tombstone := (forgot.kept u stands).resolve_right (fresh u stands older)
    rw [if_pos ⟨u, too, older⟩, if_pos ⟨u, stands, older⟩]
    exact forgot
  · have open_ : ¬ ∃ t ∈ r.tombstone, stamp a ≤ t := by
      rintro ⟨t, stands, older⟩
      obtain ⟨u, there, above⟩ := forgot.behind t stands
      exact blocked ⟨u, there, le_trans older above⟩
    rw [if_neg open_, if_neg blocked, forgot.value]
    exact Forgot.refl _

theorem Forgot.delete (forgot : Forgot expired r full) (t : τ) : Forgot expired (r.delete stamp t) (full.delete stamp t) where
  value := by rw [Register.delete, Register.delete, forgot.value]
  behind := by
    intro w there
    obtain rfl := Option.some.inj there
    refine ⟨_, rfl, ?_⟩
    cases own : r.tombstone with
    | none =>
      cases full.tombstone with
      | none => exact le_refl t
      | some u => exact le_max_left t u
    | some v =>
      obtain ⟨u, stands, above⟩ := forgot.behind v own
      rw [stands]
      exact max_le_max_left t above
  kept := by
    intro w there
    obtain rfl := Option.some.inj there
    show some _ = some _ ∨ _
    cases all : full.tombstone with
    | none =>
      cases own : r.tombstone with
      | none => exact Or.inl rfl
      | some v =>
        obtain ⟨u, stands, _⟩ := forgot.behind v own
        rw [all] at stands
        exact absurd stands (Option.not_mem_none u)
    | some u =>
      rcases forgot.kept u all with same | old
      · rw [same]
        exact Or.inl rfl
      · rcases le_total u t with early | late
        · left
          show some (r.tombstone.elim t (max t)) = some (max t u)
          rw [max_eq_left early]
          cases own : r.tombstone with
          | none => rfl
          | some v =>
            obtain ⟨x, stands, above⟩ := forgot.behind v own
            obtain rfl := Option.some.inj (stands.symm.trans all)
            exact congrArg some (max_eq_left (le_trans above early))
        · right
          show expired (max t u)
          rw [max_eq_right late]
          exact old

end

end LastWriter
