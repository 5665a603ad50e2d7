import Marketplace.Payouts.Requests
import Marketplace.ReadCommitted.Invariant

/-! A payout is resolved once, and the seller is told of it once. -/
namespace Marketplace
open ReadCommitted ReadCommitted.Tx

def Mark.payoutStatusOf (payout : Id) : Mark → Option PayoutStatus
  | .outbox (.payoutStatusChanged p _ _ _ status _) => if p = payout then some status else none
  | _ => none

/-- The statuses the outbox has announced of a payout. -/
def announced (journal : List Mark) (payout : Id) : List PayoutStatus :=
  journal.filterMap (Mark.payoutStatusOf payout)

def payoutStatus (d : Db) (payout : Id) : Option PayoutStatus := (d (.payout payout)).map (·.status)

/-- From `s` to `t` a payout stands and nothing of it is announced, or it makes the one transition
its status allows and that one is announced. -/
def ResolvedOnce (payout : Id) (s t : Store (Table Row) Mark) : Prop :=
  payoutStatus t.rows payout = payoutStatus s.rows payout ∧
    announced t.journal payout = announced s.journal payout ∨
  ∃ source target, payoutStatus s.rows payout = some source ∧ payoutStatus t.rows payout = some target ∧
    target ∈ PAYOUT_STATE_MACHINE source ∧ announced t.journal payout = announced s.journal payout ++ [target]

def PayoutsResolvedOnce (s t : Store (Table Row) Mark) : Prop := ∀ p, ResolvedOnce p s t

/-- A payout was loaded in a status it has left by now. -/
def Mark.stalePayout (s : Store (Table Row) Mark) : Mark → Bool
  | .payoutLoaded payout status => payoutStatus s.rows payout != some status
  | _ => false

/-- No payout that the transaction loaded has changed its status since. -/
def Unresolved (s : Store (Table Row) Mark) (log : List Mark) : Prop := ∀ e ∈ log, e.stalePayout s = false

instance (s : Store (Table Row) Mark) (log : List Mark) : Decidable (Unresolved s log) :=
  inferInstanceAs (Decidable (∀ e ∈ log, e.stalePayout s = false))

theorem announced_append (journal marks : List Mark) (p : Id) :
    announced (journal ++ marks) p = announced journal p ++ announced marks p := by
  simp [announced]

/-- Where a transition leads there is none further. -/
theorem payout_terminal {source target : PayoutStatus} (step : target ∈ PAYOUT_STATE_MACHINE source) :
    PAYOUT_STATE_MACHINE target = [] := by
  cases source <;> cases target <;> simp_all [PAYOUT_STATE_MACHINE]

theorem payout_left {source target : PayoutStatus} (step : target ∈ PAYOUT_STATE_MACHINE source) : target ≠ source := by
  rintro rfl
  cases target <;> simp [PAYOUT_STATE_MACHINE] at step

theorem ResolvedOnce.refl (p : Id) (s : Store (Table Row) Mark) : ResolvedOnce p s s := Or.inl ⟨rfl, rfl⟩

theorem ResolvedOnce.trans {p : Id} {s t u : Store (Table Row) Mark} (first : ResolvedOnce p s t)
    (second : ResolvedOnce p t u) : ResolvedOnce p s u := by
  rcases first with ⟨same, silent⟩ | ⟨source, target, before, after, step, told⟩
  · rcases second with ⟨same', silent'⟩ | ⟨source, target, before, after, step, told⟩
    · exact Or.inl ⟨same'.trans same, silent'.trans silent⟩
    · exact Or.inr ⟨source, target, same ▸ before, after, step, silent ▸ told⟩
  · rcases second with ⟨same', silent'⟩ | ⟨source', target', before', after', step', _⟩
    · exact Or.inr ⟨source, target, before, same'.trans after, step, silent'.trans told⟩
    · obtain rfl : target = source' := Option.some.inj (after.symm.trans before')
      rw [payout_terminal step] at step'
      cases step'

/-- A payout that is back in a status with transitions has not left it. -/
theorem ResolvedOnce.unmoved {p : Id} {s t u : Store (Table Row) Mark} {status target : PayoutStatus}
    (first : ResolvedOnce p s t) (second : ResolvedOnce p t u) (before : payoutStatus s.rows p = some status)
    (after : payoutStatus u.rows p = some status) (step : target ∈ PAYOUT_STATE_MACHINE status) :
    payoutStatus t.rows p = some status := by
  rcases first with ⟨same, _⟩ | ⟨source, left, _, moved, transition, _⟩
  · exact same.trans before
  · rcases second with ⟨same, _⟩ | ⟨source', _, before', _, transition', _⟩
    · obtain rfl : status = left := Option.some.inj (after.symm.trans (same.trans moved))
      rw [payout_terminal transition] at step
      cases step
    · obtain rfl : left = source' := Option.some.inj (moved.symm.trans before')
      rw [payout_terminal transition] at transition'
      cases transition'

/-- The row after the save of a resolution. -/
def resolved (resolve : Payout → Payout) (loaded : Payout) (reread current : Option Payout) : Option Payout :=
  match reread with
  | none => some (resolve loaded)
  | some row => current.map (payoutColumns.write (resolve loaded) row)

/-- A resolution reads the payout twice and saves what its columns differ by. -/
theorem wp_resolvePayout {I : Isolation (Table Row) Mark} {E : Err → Prop} {v : View (Table Row) Mark} {p : Id}
    {target : PayoutStatus} {reason : Option String} {resolve : Payout → Payout} {Q : Payout → View (Table Row) Mark → Prop}
    (noErr : ∀ e, E e)
    (h : ∀ d e m₁ m₂ loaded seller name amount w, I.Sees v d m₁ → d (.payout p) = some loaded →
      target ∈ PAYOUT_STATE_MACHINE loaded.status → I.Sees ((v.looking m₁).mark (.payoutLoaded p loaded.status)) e m₂ →
      w.rows = Function.update v.rows (.payout p) (resolved resolve loaded (e (.payout p)) (v.rows (.payout p))) →
      w.log = v.log ++ [.payoutLoaded p loaded.status,
        .outbox (.payoutStatusChanged p seller name amount target reason)] → Q (resolve loaded) w) :
    (resolvePayout p target reason resolve).wp I Q E v := by
  unfold resolvePayout
  simp only [wp_bind]
  rw [wp_select]
  intro d m₁ sees₁
  rw [wp_orFail]
  refine ⟨fun found read => ?_, fun _ => noErr _⟩
  obtain ⟨loaded, loadedShop⟩ := found
  have stands : d (.payout p) = some loaded := by
    obtain ⟨row, stands, same⟩ := Option.map_eq_some_iff.mp read
    cases same
    exact stands
  rw [wp_note, assertPayoutTransition, wp_require]
  refine ⟨fun step => ?_, fun _ => noErr _⟩
  refine wp_save _ _ fun e m₂ sees₂ => ?_
  have rest : ∀ w : View (Table Row) Mark,
      w.rows = Function.update v.rows (.payout p) (resolved resolve loaded (e (.payout p)) (v.rows (.payout p))) →
      w.log = v.log ++ [.payoutLoaded p loaded.status] →
      (orFail .database loadedShop : Action Shop).wp I (fun shop => (do
        note (.outbox (.payoutStatusChanged p shop.seller shop.name loaded.amount target reason))
        return resolve loaded : Action Payout).wp I Q E) E w := by
    intro w rows log
    rw [wp_orFail]
    refine ⟨fun shop _ => ?_, fun _ => noErr _⟩
    rw [wp_bind, wp_note, wp_pure]
    exact h d e m₁ m₂ loaded shop.seller shop.name loaded.amount _ sees₁ stands step sees₂ rows (by simp [log])
  cases found : e (.payout p) with
  | none => exact rest _ (by rw [found]; rfl) rfl
  | some reread =>
    refine ⟨fun same => rest _ ?_ rfl, fun _ => rest _ (by rw [found]; rfl) rfl⟩
    rw [found, resolved, same]
    have unchanged : (v.rows (.payout p)).map (payoutColumns.write reread reread) = v.rows (.payout p) := by
      cases v.rows (.payout p) <;> simp [payoutColumns.same]
    rw [unchanged, Function.update_eq_self]
    rfl

section
variable {h : History (Table Row) Mark} {m : Nat} {p : Id} {target : PayoutStatus} {resolve : Payout → Payout}

/-- The commit of a resolution that found the payout as it was loaded. -/
theorem resolved_commit {loaded reread current : Payout} {w : View (Table Row) Mark}
    (told : ∀ q, announced w.log q = if p = q then [target] else []) (step : target ∈ PAYOUT_STATE_MACHINE loaded.status)
    (sets : (resolve loaded).status = target) (same : reread.status = loaded.status)
    (stands : h.current.rows (.payout p) = some current) (fresh : current.status = loaded.status)
    (written : w.rows = Function.update h.current.rows (.payout p)
      (some (payoutColumns.write (resolve loaded) reread current))) :
    PayoutsResolvedOnce h.current (h.commit w) := by
  intro q
  have journal : announced (h.commit w).journal q = announced h.current.journal q ++ if p = q then [target] else [] := by
    rw [← told q]
    exact announced_append _ _ _
  by_cases own : p = q
  · subst own
    have moved : (payoutColumns.write (resolve loaded) reread current).status = target := by
      have left : target ≠ reread.status := by
        rintro rfl
        rw [same] at step
        exact payout_left step rfl
      change column (resolve loaded).status reread.status current.status = target
      rw [sets, column_diff left]
    have before : payoutStatus h.current.rows p = some loaded.status := by
      rw [payoutStatus, stands, Option.map_some, fresh]
    have after : payoutStatus (h.commit w).rows p = some target := by
      change (w.rows (.payout p)).map _ = _
      rw [written, Function.update_self, Option.map_some, moved]
    rw [if_pos rfl] at journal
    exact Or.inr ⟨loaded.status, target, before, after, step, journal⟩
  · have other : Key.payout q ≠ .payout p := fun no => own (by cases no; rfl)
    rw [if_neg own, List.append_nil] at journal
    refine Or.inl ⟨?_, journal⟩
    change (w.rows (.payout q)).map _ = _
    rw [written, Function.update_of_ne other, payoutStatus]

theorem resolvePayout_keeps (p : Id) (reason : Option String) (sets : ∀ payout, (resolve payout).status = target) :
    (resolvePayout p target reason resolve).Keeps Unresolved (fun _ => True) PayoutsResolvedOnce := by
  intro h m _ ordered _
  refine wp_resolvePayout (fun _ => trivial) fun d e m₁ m₂ loaded seller name amount w sees₁ read step sees₂ rows log => ?_
  intro _ unresolved
  have before : payoutStatus (h.past m₁).rows p = some loaded.status := by
    rw [sees₁.2.2] at read
    exact congrArg (Option.map (·.status)) read
  have after : payoutStatus h.current.rows p = some loaded.status := by
    have fresh := unresolved (.payoutLoaded p loaded.status) (by simp [log])
    simpa [Mark.stalePayout] using fresh
  -- a payout that is not resolved at the commit was not when the save read it again
  have between : payoutStatus (h.past m₂).rows p = some loaded.status :=
    (ordered m₁ m₂ sees₂.1 sees₂.2.1 p).unmoved (ordered m₂ h.now sees₂.2.1 (Nat.le_refl _) p) before after step
  rw [payoutStatus, ← show e (.payout p) = (h.past m₂).rows (.payout p) from congrFun sees₂.2.2 _] at between
  obtain ⟨reread, found, same⟩ := Option.map_eq_some_iff.mp between
  obtain ⟨current, stands, fresh⟩ := Option.map_eq_some_iff.mp after
  refine ⟨trivial, resolved_commit (fun q => ?_) step (sets loaded) same stands fresh ?_⟩
  · rw [log, View.start_log]
    by_cases own : p = q <;> simp [announced, List.filterMap_cons, Mark.payoutStatusOf, own]
  · rw [rows, View.start_rows, found, stands]
    rfl

theorem resolution_keeps (resolution : PayoutResolution) :
    resolution.request.All fun _ body => body.Keeps Unresolved (fun _ => True) PayoutsResolvedOnce := by
  cases resolution with
  | approve p admin now =>
    exact .tx (resolvePayout_keeps p none fun _ => rfl) (fun _ => .done _) fun _ => .done _
  | reject p reason admin now =>
    exact .tx (resolvePayout_keeps p (some reason) fun _ => rfl) (fun _ => .done _) fun _ => .done _

end

/-- One resolution for each thread that has one. -/
def resolutions (calls : Nat → Option PayoutResolution) (i : Nat) : Request :=
  match calls i with
  | some call => call.request
  | none => .done .done

/-- Between any two states of a run in which no payout is resolved between being loaded and its resolution. -/
theorem payouts_resolved_once {calls : Nat → Option PayoutResolution} {fault : Err} {s : Store (Table Row) Mark}
    {c d : Conf (Table Row) Mark Err Answer} (run : Moves Unresolved fault (Conf.start s (resolutions calls)) c)
    (later : Moves Unresolved fault c d) : PayoutsResolvedOnce c.store d.store := by
  have keeps : ∀ i, (resolutions calls i).All fun _ body => body.Keeps Unresolved (fun _ => True) PayoutsResolvedOnce := by
    intro i
    unfold resolutions
    cases calls i with
    | none => exact .done _
    | some call => exact resolution_keeps call
  exact keeps_le (fun s p => .refl p s) (fun first second p => (first p).trans (second p)) trivial keeps run later

/-- A pending payout of the shop of seller 70. -/
def requestedPayout : Db
  | .shop 7 => some ⟨70, "", none, none, false, .active, none⟩
  | .payout 5 => some ⟨some 7, 6000000, 0, .pending, none, ⟨"", "", ""⟩, none, none⟩
  | .payoutsOf 7 => some [5]
  | _ => none

/-- One admin approves the payout, another rejects it. -/
def twoAdmins : Nat → Option PayoutResolution
  | 0 => some (.approve 5 90 1000)
  | 1 => some (.reject 5 "" 91 1000)
  | _ => none

set_option maxRecDepth 4000 in
/-- The rejection comes when the payout is approved, and fails. -/
theorem approved_once :
    ∃ d : Conf (Table Row) Mark Err Answer, payoutStatus d.store.rows 5 = some .completed ∧
      announced d.store.journal 5 = [.completed] ∧ PayoutsResolvedOnce ⟨requestedPayout, []⟩ d.store := by
  have obeys : (Conf.start ⟨requestedPayout, []⟩ (resolutions twoAdmins)).Obeys Unresolved
      (List.replicate 7 0 ++ List.replicate 4 1) := by decide +kernel
  have found : ∃ d ∈ (Conf.start ⟨requestedPayout, []⟩ (resolutions twoAdmins)).play
      (List.replicate 7 0 ++ List.replicate 4 1), payoutStatus d.store.rows 5 = some .completed ∧
        announced d.store.journal 5 = [.completed] := by decide +kernel
  obtain ⟨d, run, approved, told⟩ := Conf.exists_moves Err.database obeys found
  exact ⟨d, approved, told, payouts_resolved_once (.refl _) run⟩

set_option maxRecDepth 4000 in
/-- Both load the payout before either commits: it is approved, and then rejected. -/
theorem not_payouts_resolved_once :
    ¬ ∀ (calls : Nat → Option PayoutResolution) (s : Store (Table Row) Mark) (c d : Conf (Table Row) Mark Err Answer),
      Moves (fun _ _ => True) .database (Conf.start s (resolutions calls)) c →
      Moves (fun _ _ => True) .database c d → PayoutsResolvedOnce c.store d.store := by
  intro claimed
  have found : ∃ c ∈ (Conf.start ⟨requestedPayout, []⟩ (resolutions twoAdmins)).play [0, 0, 0, 1, 1, 1, 0, 0, 0, 0],
      payoutStatus c.store.rows 5 = some .completed ∧
      ∃ d ∈ c.play (List.replicate 4 1), payoutStatus d.store.rows 5 = some .rejected := by decide +kernel
  obtain ⟨c, run, approved, next⟩ := Conf.exists_moves _ (Conf.obeys_any _ _) found
  obtain ⟨d, later, rejected⟩ := Conf.exists_moves _ (Conf.obeys_any _ _) next
  rcases claimed twoAdmins _ c d run later 5 with ⟨same, _⟩ | ⟨source, target, before, _, step, _⟩
  · rw [approved, rejected] at same
    cases same
  · obtain rfl := Option.some.inj (approved.symm.trans before)
    cases step

end Marketplace
