import Marketplace.LastWriter.Register

/-! The owner of a value, who writes it anew when it changes, and the writes it sends. -/
namespace LastWriter
variable {τ α : Type} [LinearOrder τ] {stamp : α → τ} {same : α → α → Prop} {ops : Op τ α → Prop} {a b : α} {gone : Prop}

/-- What the owner of `a` has sent: nothing newer, and the newest write says the same. After a delete it is `gone`. -/
structure Follows (stamp : α → τ) (same : α → α → Prop) (ops : Op τ α → Prop) (a : α) (gone : Prop) : Prop where
  writes : ∀ b, ops (.upsert b) → stamp b < stamp a ∨ b = a
  deletes : ∀ t, ops (.delete t) → t < stamp a ∨ t = stamp a ∧ gone
  ties : ∀ b c, ops (.upsert b) → ops (.upsert c) → stamp b = stamp c → b = c
  alike : ∀ b, Newest stamp ops b → same b a
  shown : ¬ gone → ∃ b, Newest stamp ops b

theorem Follows.writes_le (follows : Follows stamp same ops a gone) (written : ops (.upsert b)) : stamp b ≤ stamp a := by
  rcases follows.writes b written with older | rfl
  · exact le_of_lt older
  · exact le_refl _

theorem Follows.deletes_le (follows : Follows stamp same ops a gone) {t : τ} (deleted : ops (.delete t)) : t ≤ stamp a := by
  rcases follows.deletes t deleted with older | ⟨rfl, _⟩
  · exact le_of_lt older
  · exact le_refl _

/-- A write newer than all before. -/
theorem follows_write (refl : ∀ a, same a a) (writes : ∀ c, ops (.upsert c) → stamp c < stamp b)
    (deletes : ∀ t, ops (.delete t) → t < stamp b)
    (ties : ∀ c d, ops (.upsert c) → ops (.upsert d) → stamp c = stamp d → c = d) :
    Follows stamp same (also ops (.upsert b)) b gone where
  writes c written := by
    rcases written with early | last
    · exact Or.inl (writes c early)
    · exact Or.inr (Op.upsert.inj last)
  deletes t deleted := by
    rcases deleted with early | last
    · exact Or.inl (deletes t early)
    · cases last
  ties c d first second equal := by
    rcases first with first | first
    · rcases second with second | second
      · exact ties c d first second equal
      · cases second
        exact absurd equal (ne_of_lt (writes c first))
    · cases first
      rcases second with second | second
      · exact absurd equal.symm (ne_of_lt (writes d second))
      · exact (Op.upsert.inj second).symm
  alike c newest := by
    rcases newest.written with early | last
    · exact absurd (writes c early) (not_lt_of_ge (newest.newest b (Or.inr rfl)))
    · cases last
      exact refl _
  shown _ := ⟨b, Newest.overtaken (fun c early => le_of_lt (writes c early)) deletes⟩

theorem Follows.write (follows : Follows stamp same ops a gone) (refl : ∀ a, same a a) (later : stamp a < stamp b) {gone' : Prop} :
    Follows stamp same (also ops (.upsert b)) b gone' :=
  follows_write refl (fun _ early => lt_of_le_of_lt (follows.writes_le early) later)
    (fun _ early => lt_of_le_of_lt (follows.deletes_le early) later) follows.ties

/-- The value is written again as it is. -/
theorem Follows.again (follows : Follows stamp same ops a gone) (refl : ∀ a, same a a) :
    Follows stamp same (also ops (.upsert a)) a gone where
  writes c written := by
    rcases written with early | last
    · exact follows.writes c early
    · exact Or.inr (Op.upsert.inj last)
  deletes t deleted := by
    rcases deleted with early | last
    · exact follows.deletes t early
    · cases last
  ties c d first second equal := by
    rcases first with first | first
    · rcases second with second | second
      · exact follows.ties c d first second equal
      · cases second
        rcases follows.writes c first with older | own
        · exact absurd equal (ne_of_lt older)
        · exact own
    · cases first
      rcases second with second | second
      · rcases follows.writes d second with older | own
        · exact absurd equal.symm (ne_of_lt older)
        · exact own.symm
      · exact (Op.upsert.inj second).symm
  alike c newest := by
    rcases newest.written with early | last
    · exact follows.alike c ⟨early, fun d written => newest.newest d (Or.inl written), fun t deleted => newest.undeleted t (Or.inl deleted)⟩
    · cases last
      exact refl _
  shown stands := by
    refine ⟨a, Newest.overtaken (fun c early => follows.writes_le early) fun t deleted => ?_⟩
    rcases follows.deletes t deleted with older | ⟨_, gone⟩
    · exact older
    · exact absurd gone stands

theorem Follows.delete (follows : Follows stamp same ops a gone) (later : stamp a < stamp b) {gone' : Prop} (marked : gone') :
    Follows stamp same (also ops (.delete (stamp b))) b gone' where
  writes c written := by
    rcases written with early | last
    · exact Or.inl (lt_of_le_of_lt (follows.writes_le early) later)
    · cases last
  deletes t deleted := by
    rcases deleted with early | last
    · exact Or.inl (lt_of_le_of_lt (follows.deletes_le early) later)
    · exact Or.inr ⟨Op.delete.inj last, marked⟩
  ties c d first second :=
    have early : ∀ {c : α}, also ops (.delete (stamp b)) (.upsert c) → ops (.upsert c) := by
      rintro c (early | last)
      · exact early
      · cases last
    follows.ties c d (early first) (early second)
  alike c newest := by
    rcases newest.written with early | last
    · have above := newest.undeleted (stamp b) (Or.inr rfl)
      exact absurd (lt_trans above (lt_of_le_of_lt (follows.writes_le early) later)) (lt_irrefl _)
    · cases last
  shown stands := absurd marked stands

/-- A change that nobody is told of, in what no write says. -/
theorem Follows.touch (follows : Follows stamp same ops a gone) (later : stamp a < stamp b) (alike : ∀ c, same c a → same c b) :
    Follows stamp same ops b gone where
  writes _ early := Or.inl (lt_of_le_of_lt (follows.writes_le early) later)
  deletes _ early := Or.inl (lt_of_le_of_lt (follows.deletes_le early) later)
  ties := follows.ties
  alike c newest := alike c (follows.alike c newest)
  shown := follows.shown

end LastWriter
