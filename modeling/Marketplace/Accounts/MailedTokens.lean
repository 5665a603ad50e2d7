import Marketplace.Accounts.RefreshReuse

/-! How often a mailed token is used, and how many of them wait for a user. -/
namespace Marketplace.Accounts
open ReadCommitted ReadCommitted.Tx

/-- A verification or a reset authorised by the token. -/
def Mark.consumes (token : Uuid) : Mark → Bool
  | .verified id _ => id = token
  | .reset id _ => id = token
  | _ => false

def consumptions (journal : List Mark) (token : Uuid) : Nat := journal.countP (Mark.consumes token)

/-- The tokens saved so far. -/
def tokensSaved (journal : List Mark) : List Uuid :=
  journal.filterMap fun
    | .tokenSaved token _ _ => some token
    | _ => none

def Mark.clears (user : Uuid) (type : VerificationTokenType) (before : Bool) : Mark → Bool
  | .cleared id kind _ => if id = user ∧ kind = type then true else before
  | .tokenSaved _ id kind => if id = user ∧ kind = type then false else before
  | _ => before

/-- No token of the user and type has been saved since they were last cleared. -/
def clearedLast (journal : List Mark) (user : Uuid) (type : VerificationTokenType) : Bool :=
  journal.foldl (Mark.clears user type) false

/-- A token still stands when its use commits; a clearing has read all tokens that stand when it commits; and between
a clearing and the save that follows it no token of that user and type is saved. Ids are drawn once. -/
def Mark.undisturbed (d₀ : Db) (s : Store (Table Row) Mark) : Mark → Prop
  | .verified token _ => s.rows (.verificationToken token) ≠ none
  | .reset token _ => s.rows (.verificationToken token) ≠ none
  | .cleared user type ids => ∀ id ∈ listed (s.rows (.tokensOf user)),
      (s.rows (.verificationToken id)).any (fun row => row.type = type) → id ∈ ids
  | .tokenSaved token user type =>
      clearedLast s.journal user type ∧ token ∉ tokensSaved s.journal ∧ d₀ (.verificationToken token) = none
  | _ => True

def Undisturbed (d₀ : Db) (s : Store (Table Row) Mark) (log : List Mark) : Prop := ∀ e ∈ log, e.undisturbed d₀ s

/-- At most one token of a user and type has not expired. -/
def OneWaits (now : Time) (d : Db) : Prop :=
  ∀ a b (first second : VerificationToken), d (.verificationToken a) = some first →
    d (.verificationToken b) = some second → first.user = second.user → first.type = second.type →
    now ≤ first.expiresAt → now ≤ second.expiresAt → a = b

/-- A token authorises one verification or reset, and one token of a user and type waits. -/
structure TokensRight (now : Time) (s : Store (Table Row) Mark) : Prop where
  once : ∀ token, consumptions s.journal token ≤ 1
  oneWaits : OneWaits now s.rows

/-- The tokens of a user are those listed. -/
def TokensIndexed (d : Db) : Prop :=
  ∀ user token, token ∈ listed (d (.tokensOf user)) ↔ ∃ row, d (.verificationToken token) = some row ∧ row.user = user

/-- The token stood at the start or was saved since. -/
def Known (d₀ : Db) (journal : List Mark) (token : Uuid) : Prop :=
  d₀ (.verificationToken token) ≠ none ∨ token ∈ tokensSaved journal

structure TokensSound (d₀ : Db) (now : Time) (s : Store (Table Row) Mark) : Prop where
  onList : ∀ token row, s.rows (.verificationToken token) = some row → token ∈ listed (s.rows (.tokensOf row.user))
  known : ∀ user, ∀ token ∈ listed (s.rows (.tokensOf user)), Known d₀ s.journal token
  oneWaits : OneWaits now s.rows
  cleared : ∀ user type, clearedLast s.journal user type →
    ∀ token row, s.rows (.verificationToken token) = some row → ¬ (row.user = user ∧ row.type = type)
  used : ∀ token, consumptions s.journal token ≠ 0 → s.rows (.verificationToken token) = none ∧ Known d₀ s.journal token
  once : ∀ token, consumptions s.journal token ≤ 1

/-- No known token comes back. -/
structure TokensOnward (d₀ : Db) (s t : Store (Table Row) Mark) : Prop where
  journal : ∃ more, t.journal = s.journal ++ more
  stood : ∀ token row, Known d₀ s.journal token → t.rows (.verificationToken token) = some row →
    s.rows (.verificationToken token) = some row

section
variable {d₀ : Db} {now : Time} {s t u : Store (Table Row) Mark} {more : List Mark}

theorem consumptions_append (journal more : List Mark) (token : Uuid) :
    consumptions (journal ++ more) token = consumptions journal token + consumptions more token := List.countP_append

theorem tokensSaved_append (journal more : List Mark) :
    tokensSaved (journal ++ more) = tokensSaved journal ++ tokensSaved more := List.filterMap_append

theorem Known.grow {journal : List Mark} {token : Uuid} (known : Known d₀ journal token) (more : List Mark) :
    Known d₀ (journal ++ more) token := by
  rcases known with first | saved
  · exact Or.inl first
  · apply Or.inr
    rw [tokensSaved_append]
    exact List.mem_append_left _ saved

theorem TokensOnward.refl (s : Store (Table Row) Mark) : TokensOnward d₀ s s :=
  ⟨⟨[], by simp⟩, fun _ _ _ stands => stands⟩

theorem TokensOnward.trans (first : TokensOnward d₀ s t) (second : TokensOnward d₀ t u) : TokensOnward d₀ s u := by
  obtain ⟨⟨early, grown⟩, stood⟩ := first
  obtain ⟨⟨late, again⟩, before⟩ := second
  refine ⟨⟨early ++ late, by rw [again, grown, List.append_assoc]⟩, fun token row known stands => ?_⟩
  have later : Known d₀ t.journal token := by
    rw [grown]
    exact known.grow early
  exact stood token row known (before token row later stands)

/-- Tokens go, and none is saved: one is used if it stood, and a clearing leaves none of its kind. -/
theorem TokensSound.lose (sound : TokensSound d₀ now s) (grown : t.journal = s.journal ++ more)
    (rows : ∀ token row, t.rows (.verificationToken token) = some row → s.rows (.verificationToken token) = some row)
    (lists : ∀ user, t.rows (.tokensOf user) = s.rows (.tokensOf user))
    (cleared : ∀ user type, clearedLast t.journal user type → clearedLast s.journal user type = false →
      ∀ token row, t.rows (.verificationToken token) = some row → ¬ (row.user = user ∧ row.type = type))
    (spent : ∀ token, consumptions more token = 0 ∨ consumptions more token = 1 ∧
      s.rows (.verificationToken token) ≠ none ∧ t.rows (.verificationToken token) = none) :
    TokensSound d₀ now t ∧ TokensOnward d₀ s t := by
  have gone : ∀ token, s.rows (.verificationToken token) = none → t.rows (.verificationToken token) = none := by
    intro token before
    cases after : t.rows (.verificationToken token) with
    | none => rfl
    | some row => exact absurd (rows token row after) (by rw [before]; exact nofun)
  have stood : ∀ token, s.rows (.verificationToken token) ≠ none → Known d₀ s.journal token := by
    intro token stands
    obtain ⟨row, found⟩ := Option.ne_none_iff_exists'.mp stands
    exact sound.known row.user token (sound.onList token row found)
  constructor
  · constructor
    · intro token row stands
      rw [lists]
      exact sound.onList token row (rows token row stands)
    · intro user token member
      rw [lists] at member
      rw [grown]
      exact (sound.known user token member).grow more
    · intro a b first second here there
      exact sound.oneWaits a b first second (rows a first here) (rows b second there)
    · intro user type last token row stands
      cases before : clearedLast s.journal user type with
      | true => exact sound.cleared user type before token row (rows token row stands)
      | false => exact cleared user type last before token row stands
    · intro token consumed
      rw [grown] at consumed ⊢
      rw [consumptions_append] at consumed
      rcases spent token with none_ | ⟨_, stands, after⟩
      · rw [none_, Nat.add_zero] at consumed
        obtain ⟨before, known⟩ := sound.used token consumed
        exact ⟨gone token before, known.grow more⟩
      · exact ⟨after, (stood token stands).grow more⟩
    · intro token
      rw [grown, consumptions_append]
      rcases spent token with none_ | ⟨one, stands, _⟩
      · rw [none_]
        exact sound.once token
      · have unused : consumptions s.journal token = 0 := by
          by_contra consumed
          exact stands (sound.used token consumed).1
        omega
  · exact ⟨⟨more, grown⟩, fun token row _ stands => rows token row stands⟩

/-- A token is saved and listed, and the journal says so. -/
structure TokenSaved (s : Store (Table Row) Mark) (token : Uuid) (row : VerificationToken) (t : Store (Table Row) Mark) :
    Prop where
  grown : t.journal = s.journal ++ [.tokenSaved token row.user row.type]
  stored : t.rows (.verificationToken token) = some row
  others : ∀ id, id ≠ token → t.rows (.verificationToken id) = s.rows (.verificationToken id)
  list : listed (t.rows (.tokensOf row.user)) = listed (s.rows (.tokensOf row.user)) ++ [token]
  lists : ∀ user, user ≠ row.user → t.rows (.tokensOf user) = s.rows (.tokensOf user)

section
variable {token : Uuid} {row : VerificationToken} (saved : TokenSaved s token row t)
include saved

theorem TokenSaved.known : Known d₀ t.journal token := by
  apply Or.inr
  rw [saved.grown, tokensSaved_append]
  exact List.mem_append_right _ (List.mem_singleton.mpr rfl)

theorem TokenSaved.known_before {id : Uuid} (known : Known d₀ s.journal id) : Known d₀ t.journal id := by
  rw [saved.grown]
  exact known.grow _

theorem TokenSaved.uses (id : Uuid) : consumptions t.journal id = consumptions s.journal id := by
  rw [saved.grown, consumptions_append]
  rfl

theorem TokenSaved.clearedLast (user : Uuid) (type : VerificationTokenType) : Accounts.clearedLast t.journal user type =
    if row.user = user ∧ row.type = type then false else Accounts.clearedLast s.journal user type := by
  rw [saved.grown]
  unfold Accounts.clearedLast
  rw [List.foldl_append]
  rfl

/-- A token that stands is the new one or stood before. -/
theorem TokenSaved.old_or_new {id : Uuid} {other : VerificationToken} (stands : t.rows (.verificationToken id) = some other) :
    id = token ∧ other = row ∨ s.rows (.verificationToken id) = some other := by
  by_cases same : id = token
  · subst same
    exact Or.inl ⟨rfl, (Option.some.inj (saved.stored.symm.trans stands)).symm⟩
  · exact Or.inr ((saved.others id same).symm.trans stands)

theorem TokenSaved.mem_list {user id : Uuid} : id ∈ listed (t.rows (.tokensOf user)) ↔
    id ∈ listed (s.rows (.tokensOf user)) ∨ user = row.user ∧ id = token := by
  by_cases own : user = row.user
  · subst own
    rw [saved.list, List.mem_append, List.mem_singleton]
    exact or_congr_right ⟨fun same => ⟨rfl, same⟩, And.right⟩
  · rw [saved.lists user own]
    exact ⟨Or.inl, fun either => either.resolve_right fun mine => own mine.1⟩

/-- It is of a kind that has been cleared, and its id is new. -/
theorem TokensSound.save (sound : TokensSound d₀ now s) (cleared : Accounts.clearedLast s.journal row.user row.type)
    (fresh : ¬ Known d₀ s.journal token) : TokensSound d₀ now t := by
  have apart {id : Uuid} {other : VerificationToken} (before : s.rows (.verificationToken id) = some other) :
      ¬ (other.user = row.user ∧ other.type = row.type) := sound.cleared row.user row.type cleared id other before
  constructor
  case onList =>
    intro id other stands
    rw [saved.mem_list]
    rcases saved.old_or_new stands with ⟨rfl, rfl⟩ | before
    · exact Or.inr ⟨rfl, rfl⟩
    · exact Or.inl (sound.onList id other before)
  case known =>
    intro user id member
    rcases saved.mem_list.mp member with before | ⟨_, rfl⟩
    · exact saved.known_before (sound.known user id before)
    · exact saved.known
  case oneWaits =>
    intro a b first second here there sameUser sameType
    rcases saved.old_or_new here with ⟨rfl, rfl⟩ | before
    · rcases saved.old_or_new there with ⟨rfl, _⟩ | early
      · exact fun _ _ => rfl
      · exact absurd ⟨sameUser.symm, sameType.symm⟩ (apart early)
    · rcases saved.old_or_new there with ⟨rfl, rfl⟩ | early
      · exact absurd ⟨sameUser, sameType⟩ (apart before)
      · exact sound.oneWaits a b first second before early sameUser sameType
  case cleared =>
    intro user type last id other stands
    rw [saved.clearedLast] at last
    split at last
    · cases last
    · rename_i otherKind
      rcases saved.old_or_new stands with ⟨rfl, rfl⟩ | before
      · exact otherKind
      · exact sound.cleared user type last id other before
  case used =>
    intro id consumed
    rw [saved.uses] at consumed
    obtain ⟨before, known⟩ := sound.used id consumed
    have other : id ≠ token := by
      rintro rfl
      exact fresh known
    rw [saved.others id other]
    exact ⟨before, saved.known_before known⟩
  case once =>
    intro id
    rw [saved.uses]
    exact sound.once id

theorem TokensOnward.save (fresh : ¬ Known d₀ s.journal token) : TokensOnward d₀ s t := by
  refine ⟨⟨_, saved.grown⟩, fun id other known stands => ?_⟩
  rcases saved.old_or_new stands with ⟨rfl, _⟩ | before
  · exact absurd known fresh
  · exact before

end

end

/-- Rows that are no mailed tokens and no lists of them. -/
def ApartTokens (k : Key) : Prop := (∀ id, k ≠ .verificationToken id) ∧ ∀ user, k ≠ .tokensOf user

/-- Marks that neither save, clear nor use a mailed token. -/
def Mark.Unmailed : Mark → Prop
  | .verified .. => False
  | .reset .. => False
  | .tokenSaved .. => False
  | .cleared .. => False
  | _ => True

section
variable {cfg : AuthConfig} {d₀ : Db} {now : Time} {more : List Mark}

theorem consumptions_unmailed (unmailed : ∀ e ∈ more, e.Unmailed) (token : Uuid) : consumptions more token = 0 := by
  unfold consumptions
  rw [List.countP_eq_zero]
  intro e member
  have quiet := unmailed e member
  cases e with
  | verified => exact quiet.elim
  | reset => exact quiet.elim
  | _ => exact Bool.false_ne_true

theorem clearedLast_unmailed (unmailed : ∀ e ∈ more, e.Unmailed) (journal : List Mark) (user : Uuid)
    (type : VerificationTokenType) : clearedLast (journal ++ more) user type = clearedLast journal user type := by
  unfold clearedLast
  rw [List.foldl_append]
  generalize journal.foldl (Mark.clears user type) false = before
  induction more with
  | nil => rfl
  | cons e rest ih =>
    have quiet := unmailed e List.mem_cons_self
    have kept : Mark.clears user type before e = before := by
      cases e with
      | tokenSaved => exact quiet.elim
      | cleared => exact quiet.elim
      | _ => rfl
    rw [List.foldl_cons, kept]
    exact ih fun e member => unmailed e (List.mem_cons_of_mem _ member)

/-- Every body of the run keeps the tokens sound. -/
abbrev KeepsTokens (d₀ : Db) (now : Time) {α : Type} (body : Action α) : Prop :=
  body.Keeps (Undisturbed d₀) (TokensSound d₀ now) (TokensOnward d₀)

theorem keepsTokens_of {α : Type} {body : Action α}
    (kept : ∀ (h : History (Table Row) Mark) (m : Nat), body.wp h.isolation
      (fun _ w => Undisturbed d₀ h.current w.log → TokensSound d₀ now h.current →
        TokensSound d₀ now (h.commit w) ∧ TokensOnward d₀ h.current (h.commit w)) (fun _ => True)
      (View.start h.current.rows m)) : KeepsTokens d₀ now body := by
  intro h m sound _ _
  refine wp_mono _ (kept h m) (fun _ w next _ admitted => ?_) fun _ e => e
  exact next admitted (sound h.now (Nat.le_refl _))

theorem keepsTokens_apart {α : Type} {body : Action α} (h : body.Within ApartTokens Mark.Unmailed) :
    KeepsTokens d₀ now body := by
  refine keepsTokens_of fun h' m => wp_of_within h (fun a w more _ sound => ?_) fun _ => trivial
  obtain ⟨marks, log, unmailed⟩ := more.log
  have kept : ∀ k, ¬ ApartTokens k → w.rows k = h'.current.rows k := more.rows
  have grown : (h'.commit w).journal = h'.current.journal ++ marks := congrArg (h'.current.journal ++ ·) log
  apply sound.lose grown
  · intro token row stands
    exact (kept (.verificationToken token) fun apart => apart.1 token rfl).symm.trans stands
  · intro user
    exact kept (.tokensOf user) fun apart => apart.2 user rfl
  · intro user type last before
    rw [grown, clearedLast_unmailed unmailed, before] at last
    cases last
  · intro token
    exact Or.inl (consumptions_unmailed unmailed token)

/-- A token is dropped between steps that touch no other token. -/
theorem wp_dropToken {α β : Type} {first : Action β} {rest : Action α} {token : Uuid} {I : Isolation (Table Row) Mark}
    {v : View (Table Row) Mark} {Q : α → View (Table Row) Mark → Prop} {E : Err → Prop}
    (before : first.Within ApartTokens Mark.Unmailed) (after : rest.Within ApartTokens Mark.Unmailed)
    (h : ∀ a w, w.rows (.verificationToken token) = none →
      v.Continues (fun k => ApartTokens k ∨ k = .verificationToken token) Mark.Unmailed w → Q a w) (err : ∀ e, E e) :
    (first >>= fun _ => (modify (.verificationToken token) fun _ => none) >>= fun _ => rest).wp I Q E v := by
  rw [wp_bind]
  refine wp_of_within before (fun _ u early => ?_) err
  rw [wp_bind, wp_modify]
  refine wp_of_within after (fun a w late => h a w ?_ ?_) err
  · rw [late.rows _ fun apart => apart.1 token rfl]
    exact View.put_rows_self _ _ _
  · have wider : ∀ {x y : View (Table Row) Mark}, x.Continues ApartTokens Mark.Unmailed y →
        x.Continues (fun k => ApartTokens k ∨ k = .verificationToken token) Mark.Unmailed y :=
      fun more => more.mono (fun _ apart => Or.inl apart) fun _ quiet => quiet
    exact ((wider early).trans (.put (Or.inr rfl))).trans (wider late)

/-- The commit of a use of the token. -/
theorem TokensSound.spend {h : History (Table Row) Mark} {v w : View (Table Row) Mark} {token : Uuid} {e : Mark}
    (sound : TokensSound d₀ now h.current) (rows : v.rows = h.current.rows) (log : v.log = [e])
    (uses : ∀ id, consumptions [e] id = if id = token then 1 else 0)
    (clears : ∀ journal user type, clearedLast (journal ++ [e]) user type = clearedLast journal user type)
    (stands : h.current.rows (.verificationToken token) ≠ none) (gone : w.rows (.verificationToken token) = none)
    (more : v.Continues (fun k => ApartTokens k ∨ k = .verificationToken token) Mark.Unmailed w) :
    TokensSound d₀ now (h.commit w) ∧ TokensOnward d₀ h.current (h.commit w) := by
  obtain ⟨marks, grown, unmailed⟩ := more.log
  have journal : (h.commit w).journal = h.current.journal ++ ([e] ++ marks) := by
    show h.current.journal ++ w.log = _
    rw [grown, log]
  apply sound.lose journal
  · intro id row after
    by_cases same : id = token
    · subst same
      exact absurd (gone.symm.trans after).symm (Option.some_ne_none row)
    · have kept := more.rows (.verificationToken id) (by
        rintro (apart | other)
        · exact apart.1 id rfl
        · exact same (Key.verificationToken.inj other))
      rw [← rows, ← kept]
      exact after
  · intro user
    have kept := more.rows (.tokensOf user) (by
      rintro (apart | other)
      · exact apart.2 user rfl
      · cases other)
    exact kept.trans (congrFun rows _)
  · intro user type last before
    rw [journal, ← List.append_assoc, clearedLast_unmailed unmailed, clears, before] at last
    cases last
  · intro id
    rw [consumptions_append, uses, consumptions_unmailed unmailed]
    by_cases same : id = token
    · subst same
      exact Or.inr ⟨by simp, stands, gone⟩
    · exact Or.inl (by simp [same])

theorem keepsTokens_resetPassword {token : Uuid} {newPassword : Base64Url.Bytes} {draw : Draw} :
    KeepsTokens d₀ now (resetPassword cfg token newPassword draw) := by
  refine keepsTokens_of fun h m => ?_
  unfold resetPassword
  rw [wp_bind]
  refine wp_reads (within_select _) (fun found w rows log => ?_) fun _ => trivial
  rw [wp_bind]
  refine wp_reads (within_orFail _ _) (fun found w' rows' log' => ?_) fun _ => trivial
  obtain ⟨row, user⟩ := found
  dsimp only
  rw [wp_bind, wp_require]
  refine ⟨fun _ => ?_, fun _ => trivial⟩
  rw [wp_bind, wp_note, wp_bind, wp_note]
  have start : w'.rows = h.current.rows := rows'.trans rows
  have unmarked : w'.log = [] := log'.trans log
  refine wp_dropToken (within_saveUser ⟨fun _ => nofun, fun _ => nofun⟩ fun r e member => ?_)
    (within_deleteSessionsOf (fun _ => ⟨fun _ => nofun, fun _ => nofun⟩) fun _ => trivial)
    (fun _ x gone more admitted sound => ?_) fun _ => trivial
  · obtain rfl := List.mem_singleton.mp member
    trivial
  · have marked : View.Continues (fun k => ApartTokens k ∨ k = .verificationToken token) Mark.Unmailed
        (w'.mark (.reset token row.user)) x := (View.Continues.mark trivial).trans more
    have used : .reset token row.user ∈ x.log := by
      obtain ⟨marks, grown, _⟩ := marked.log
      rw [grown, View.mark_log, unmarked]
      exact List.mem_cons_self
    refine sound.spend (v := w'.mark (.reset token row.user)) (e := .reset token row.user) start ?_ (fun id => ?_) (fun journal user type => ?_)
      (admitted _ used) gone marked
    · rw [View.mark_log, unmarked, List.nil_append]
    · simp [consumptions, Mark.consumes, eq_comm]
    · simp [clearedLast, Mark.clears]

theorem keepsTokens_verifyEmail {token : Uuid} {draw : Draw} :
    KeepsTokens d₀ now (verifyEmailAndActivateUser cfg token draw) := by
  refine keepsTokens_of fun h m => ?_
  unfold verifyEmailAndActivateUser
  rw [wp_bind]
  refine wp_reads (within_select _) (fun found w rows log => ?_) fun _ => trivial
  rw [wp_bind]
  refine wp_reads (within_orFail _ _) (fun found w' rows' log' => ?_) fun _ => trivial
  obtain ⟨row, user⟩ := found
  dsimp only
  rw [wp_bind, wp_require]
  refine ⟨fun _ => ?_, fun _ => trivial⟩
  rw [wp_bind, wp_require]
  refine ⟨fun _ => ?_, fun _ => trivial⟩
  rw [wp_bind, wp_note]
  have start : w'.rows = h.current.rows := rows'.trans rows
  have unmarked : w'.log = [] := log'.trans log
  refine wp_dropToken (within_saveUser ⟨fun _ => nofun, fun _ => nofun⟩ fun r e member => ?_) ?_
    (fun _ x gone more admitted sound => ?_) fun _ => trivial
  · obtain rfl := List.mem_singleton.mp member
    trivial
  · refine within_bind (within_deleteSessionsOf (fun _ => ⟨fun _ => nofun, fun _ => nofun⟩) fun _ => trivial) fun _ => ?_
    exact within_saveSession ⟨fun _ => nofun, fun _ => nofun⟩ ⟨fun _ => nofun, fun _ => nofun⟩ (fun _ _ => trivial) trivial
  · have used : .verified token row.user ∈ x.log := by
      obtain ⟨marks, grown, _⟩ := more.log
      rw [grown, View.mark_log, unmarked]
      exact List.mem_cons_self
    refine sound.spend (v := w'.mark (.verified token row.user)) (e := .verified token row.user) start ?_ (fun id => ?_) (fun journal user type => ?_)
      (admitted _ used) gone more
    · rw [View.mark_log, unmarked, List.nil_append]
    · simp [consumptions, Mark.consumes, eq_comm]
    · simp [clearedLast, Mark.clears]

theorem keepsTokens_saveToken {user : Uuid} {type : VerificationTokenType} {draw : Draw} {ttl : Nat} :
    KeepsTokens d₀ now (saveToken user type draw ttl) := by
  refine keepsTokens_of fun h m => ?_
  unfold saveToken
  rw [wp_bind, wp_note, wp_bind]
  refine wp_insert (fun _ => trivial) fun w more _ _ stored => ?_
  rw [wp_modify]
  intro admitted sound
  have log : w.log = [.tokenSaved draw.id user type] := more.log_same
  have other : ∀ k, k ≠ .verificationToken draw.id → k ≠ .tokensOf user →
      (w.put (.tokensOf user) fun ids => some (Marketplace.listed ids ++ [draw.id])).rows k = h.current.rows k := by
    intro k apart unlisted
    rw [View.put_rows_other _ _ unlisted]
    exact more.rows k apart
  obtain ⟨cleared, unsaved, new⟩ := admitted (.tokenSaved draw.id user type) (by
    rw [View.put_log, log]
    exact List.mem_singleton.mpr rfl)
  have row : (w.put (.tokensOf user) fun ids => some (Marketplace.listed ids ++ [draw.id])).rows (.verificationToken draw.id) =
      some ⟨user, type, draw.now + ttl⟩ := (View.put_rows_other w _ (by simp)).trans stored
  have list : (w.put (.tokensOf user) fun ids => some (Marketplace.listed ids ++ [draw.id])).rows (.tokensOf user) =
      some (Marketplace.listed (h.current.rows (.tokensOf user)) ++ [draw.id]) := by
    rw [View.put_rows_self, more.rows _ (by simp)]
    rfl
  have saved : TokenSaved h.current draw.id ⟨user, type, draw.now + ttl⟩
      (h.commit (w.put (.tokensOf user) fun ids => some (Marketplace.listed ids ++ [draw.id]))) := by
    refine ⟨congrArg (h.current.journal ++ ·) log, row, fun id apart => ?_, congrArg Marketplace.listed list,
      fun id apart => ?_⟩
    · exact other (.verificationToken id) (by simpa using apart) (by simp)
    · exact other (.tokensOf id) (by simp) (by simpa using apart)
  have fresh : ¬ Known d₀ h.current.journal draw.id := by
    rintro (first | saved)
    · exact first new
    · exact unsaved saved
  exact ⟨TokensSound.save saved sound cleared fresh, TokensOnward.save saved fresh⟩

/-- A clearing has gone over the tokens it has read but `rest`: those of the type are gone. -/
structure Clearing (h : History (Table Row) Mark) (v : View (Table Row) Mark) (type : VerificationTokenType)
    (ids rest : List Uuid) (w : View (Table Row) Mark) : Prop where
  inside : ∀ id ∈ rest, id ∈ ids
  log : w.log = v.log
  later : v.seen ≤ w.seen
  others : ∀ k, (∀ id, k ≠ .verificationToken id) → w.rows k = h.current.rows k
  less : ∀ id, w.rows (.verificationToken id) = h.current.rows (.verificationToken id) ∨
    w.rows (.verificationToken id) = none
  gone : ∀ id, w.held (.verificationToken id) = true → w.rows (.verificationToken id) = none
  cleared : ∀ id ∈ ids, id ∈ rest ∨ ∀ row, w.rows (.verificationToken id) = some row → row.type ≠ type

section
variable {h : History (Table Row) Mark} {v w : View (Table Row) Mark} {type : VerificationTokenType}
variable {ids rest : List Uuid} {id : Uuid} {m : Nat}

theorem Clearing.start (rows : v.rows = h.current.rows) (held : ∀ k, v.held k = false) :
    Clearing h v type ids ids v := by
  refine ⟨fun _ member => member, rfl, Nat.le_refl _, fun k _ => congrFun rows k, fun id => Or.inl (congrFun rows _),
    fun id mine => ?_, fun id member => Or.inl member⟩
  rw [held] at mine
  cases mine

theorem Clearing.current (clearing : Clearing h v type ids rest w) {row : VerificationToken}
    (stands : w.rows (.verificationToken id) = some row) : h.current.rows (.verificationToken id) = some row := by
  rcases clearing.less id with same | lost
  · exact same.symm.trans stands
  · exact absurd (lost.symm.trans stands).symm (Option.some_ne_none row)

/-- No token comes back: what stands has been found. -/
theorem Clearing.found (clearing : Clearing h v type ids (id :: rest) w)
    (ordered : ∀ j k, j ≤ k → k ≤ h.now → TokensOnward d₀ (h.past j) (h.past k))
    (known : ∀ id ∈ ids, ∀ j, v.seen ≤ j → j ≤ h.now → Known d₀ (h.past j).journal id)
    (forward : w.seen ≤ m) (small : m ≤ h.now) {row : VerificationToken}
    (stands : w.rows (.verificationToken id) = some row) :
    (if w.held (.verificationToken id) = true then w.rows (.verificationToken id)
      else (h.past m).rows (.verificationToken id)) = some row := by
  have unheld : ¬ w.held (.verificationToken id) = true := fun mine =>
    absurd ((clearing.gone id mine).symm.trans stands).symm (Option.some_ne_none row)
  have past : Known d₀ (h.past m).journal id :=
    known id (clearing.inside id List.mem_cons_self) m (Nat.le_trans clearing.later forward) small
  rw [if_neg unheld]
  exact (ordered m h.now small (Nat.le_refl _)).stood id row past (clearing.current stands)

theorem Clearing.kept (clearing : Clearing h v type ids (id :: rest) w) (forward : w.seen ≤ m)
    (unmatched : ∀ row, w.rows (.verificationToken id) = some row → row.type ≠ type) :
    Clearing h v type ids rest (w.looking m) := by
  refine ⟨fun x member => clearing.inside x (List.mem_cons_of_mem _ member), clearing.log,
    Nat.le_trans clearing.later forward, clearing.others, clearing.less, clearing.gone, fun x member => ?_⟩
  by_cases same : x = id
  · subst same
    exact Or.inr unmatched
  · exact (clearing.cleared x member).imp (fun waiting => (List.mem_cons.mp waiting).resolve_left same) fun typed => typed

theorem Clearing.deleted (clearing : Clearing h v type ids (id :: rest) w) (forward : w.seen ≤ m)
    (matched : ∀ row, w.rows (.verificationToken id) = some row → row.type = type) :
    Clearing h v type ids rest
      ((w.looking m).put (.verificationToken id) (Option.filter fun row => !decide (row.type = type))) := by
  have none_ : ((w.looking m).put (Key.verificationToken id) (Option.filter fun row => !decide (row.type = type))).rows
      (.verificationToken id) = none := by
    rw [View.put_rows_self, View.looking_rows]
    cases stands : w.rows (.verificationToken id) with
    | none => rfl
    | some row => simp [matched row stands]
  have other (k : Key) (apart : k ≠ .verificationToken id) :
      ((w.looking m).put (Key.verificationToken id) (Option.filter fun row => !decide (row.type = type))).rows k =
        w.rows k := View.put_rows_other _ _ apart
  refine ⟨fun x member => clearing.inside x (List.mem_cons_of_mem _ member), clearing.log,
    Nat.le_trans clearing.later forward, fun k apart => ?_, fun x => ?_, fun x mine => ?_, fun x member => ?_⟩
  · exact (other k (apart id)).trans (clearing.others k apart)
  · by_cases same : x = id
    · subst same
      exact Or.inr none_
    · rw [other _ (by simpa using same)]
      exact clearing.less x
  · by_cases same : x = id
    · subst same
      exact none_
    · have apart : Key.verificationToken x ≠ .verificationToken id := by simpa using same
      rw [other _ apart]
      apply clearing.gone x
      simpa [View.put, apart] using mine
  · by_cases same : x = id
    · subst same
      refine Or.inr fun row stands => ?_
      exact absurd (none_.symm.trans stands).symm (Option.some_ne_none row)
    · rw [other _ (by simpa using same)]
      exact (clearing.cleared x member).imp (fun waiting => (List.mem_cons.mp waiting).resolve_left same) fun typed => typed

/-- The loop of a clearing over the tokens it has read: each goes if it is of the type, whenever it is looked at. -/
theorem wp_clearing {Q : Unit → View (Table Row) Mark → Prop} {E : Err → Prop}
    (ordered : ∀ j k, j ≤ k → k ≤ h.now → TokensOnward d₀ (h.past j) (h.past k))
    (known : ∀ id ∈ ids, ∀ j, v.seen ≤ j → j ≤ h.now → Known d₀ (h.past j).journal id)
    (rows : v.rows = h.current.rows) (held : ∀ k, v.held k = false)
    (done : ∀ w, w.log = v.log → (∀ k, (∀ id, k ≠ .verificationToken id) → w.rows k = h.current.rows k) →
      (∀ id row, w.rows (.verificationToken id) = some row → h.current.rows (.verificationToken id) = some row ∧
        (id ∈ ids → row.type ≠ type)) → Q () w) :
    (forM ids fun id => deleteWhere (.verificationToken id) fun row => row.type = type : Action Unit).wp h.isolation Q E v := by
  refine wp_mono _ (wp_forM (Clearing h v type ids) _ (fun id rest w clearing => ?_) ids (.start rows held))
    (fun _ w clearing => ?_) fun _ e => e
  · unfold deleteWhere
    rw [wp_bind, wp_select]
    rintro d m ⟨forward, small, snapshot⟩
    have found_standing : ∀ row, w.rows (.verificationToken id) = some row → d (.verificationToken id) = some row := by
      intro row stands
      rw [snapshot]
      exact clearing.found ordered known forward small stands
    rw [wp_ite]
    refine ⟨fun found => ?_, fun unmatched => ?_⟩
    · rw [wp_modify]
      refine clearing.deleted forward fun row stands => ?_
      rw [found_standing row stands] at found
      simpa using found
    · refine clearing.kept forward fun row stands typed => unmatched ?_
      rw [found_standing row stands]
      simpa using typed
  · refine done w clearing.log clearing.others fun id row stands => ⟨clearing.current stands, fun member => ?_⟩
    exact (clearing.cleared id member).resolve_left List.not_mem_nil row stands

end

/-- A clearing leaves no token of its kind. -/
theorem keepsTokens_deleteTokensOf {user : Uuid} {type : VerificationTokenType} :
    KeepsTokens d₀ now (deleteTokensOf user type) := by
  intro h m sound ordered small
  unfold deleteTokensOf
  rw [wp_bind, wp_select]
  rintro d m' ⟨forward, recent, rfl⟩
  rw [wp_bind, wp_note]
  refine wp_clearing ordered (fun id member j later past => ?_) rfl (fun _ => rfl) fun w log others less _ admitted => ?_
  · have before : Known d₀ (h.past m').journal id := (sound m' recent).known user id member
    obtain ⟨more, grown⟩ := (ordered m' j later past).journal
    rw [grown]
    exact before.grow more
  · have current : TokensSound d₀ now h.current := sound h.now (Nat.le_refl _)
    have unread := admitted (.cleared user type (Marketplace.listed ((h.past m').rows (.tokensOf user)))) (by
      rw [log]
      exact List.mem_singleton.mpr rfl)
    have journal : (h.commit w).journal = h.current.journal ++
        [.cleared user type (Marketplace.listed ((h.past m').rows (.tokensOf user)))] :=
      congrArg (h.current.journal ++ ·) log
    apply current.lose journal
    · intro id row stands
      exact (less id row stands).1
    · intro other
      exact others _ fun _ => nofun
    · intro u kind last before id row stands same
      have mine : user = u ∧ type = kind := by
        by_contra foreign
        have step : clearedLast (h.commit w).journal u kind = clearedLast h.current.journal u kind := by
          rw [journal]
          unfold clearedLast
          rw [List.foldl_append, List.foldl_cons, List.foldl_nil, Mark.clears, if_neg foreign]
        rw [step, before] at last
        cases last
      obtain ⟨rfl, rfl⟩ := mine
      obtain ⟨stood, typed⟩ := less id row stands
      have member : id ∈ Marketplace.listed (h.current.rows (.tokensOf user)) := same.1 ▸ current.onList id row stood
      exact typed (unread id member (by simp [stood, same.2])) same.2
    · intro id
      exact Or.inl rfl

/-- The calls that mail a token or use one. -/
def MailCall : AuthCall → Prop
  | .forgotPassword .. => True
  | .resetPassword .. => True
  | .resendVerification .. => True
  | .verifyEmail .. => True
  | _ => False

theorem mailCalls_keepTokens {calls : Nat → Option AuthCall} (kinds : ∀ i, ∀ call ∈ calls i, MailCall call) (i : Nat) :
    (authCalls cfg calls i).All fun _ body => KeepsTokens d₀ now body := by
  have mails : ∀ {user type draw ttl}, (Req.tx (deleteTokensOf user type)
      (fun _ => single (saveToken user type draw ttl) fun _ => .done) fun e => .done (.failed e)).All
        fun _ body => KeepsTokens d₀ now body := fun {_ _ _ _} =>
    .tx keepsTokens_deleteTokensOf (fun _ => .tx keepsTokens_saveToken (fun _ => .done _) fun _ => .done _) fun _ => .done _
  unfold authCalls
  cases found : calls i with
  | none => exact .done _
  | some call =>
    have kind := kinds i call found
    cases call with
    | forgotPassword email draw =>
      refine .tx (keepsTokens_apart (within_select _)) (fun found => ?_) fun _ => .done _
      cases found with
      | none => exact .done _
      | some user => exact mails
    | resetPassword token new draw => exact .tx keepsTokens_resetPassword (fun _ => .done _) fun _ => .done _
    | resendVerification email draw =>
      refine .tx (keepsTokens_apart ?_) (fun _ => mails) fun _ => .done _
      refine within_bind (within_select _) fun _ => within_bind (within_orFail _ _) fun _ => ?_
      exact within_bind (within_require _ _) fun _ => within_pure _
    | verifyEmail token draw => exact .tx keepsTokens_verifyEmail (fun _ => .done _) fun _ => .done _
    | _ => exact kind.elim

end

/-- In every run whose commits are undisturbed a token is used once, and one token of a user and type waits. -/
theorem mailed_tokens_right {cfg : AuthConfig} {calls : Nat → Option AuthCall} {d₀ : Db} {fault : Err} {now : Time}
    {c : Conf (Table Row) Mark Err Answer} (kinds : ∀ i, ∀ call ∈ calls i, MailCall call) (indexed : TokensIndexed d₀)
    (oneWaits : OneWaits now d₀)
    (run : Moves (Undisturbed d₀) fault (Conf.start ⟨d₀, []⟩ (authCalls cfg calls)) c) : TokensRight now c.store := by
  have start : TokensSound d₀ now ⟨d₀, []⟩ := by
    refine ⟨fun token row stands => ?_, fun user token member => ?_, oneWaits, fun _ _ => nofun,
      fun _ consumed => absurd rfl consumed, fun _ => Nat.zero_le _⟩
    · exact (indexed row.user token).mpr ⟨row, stands, rfl⟩
    · obtain ⟨row, stands, _⟩ := (indexed user token).mp member
      exact Or.inl (Option.ne_none_iff_exists'.mpr ⟨row, stands⟩)
  have sound : TokensSound d₀ now c.store :=
    keeps_safe TokensOnward.refl (fun first second => first.trans second) start (mailCalls_keepTokens kinds) run
  exact ⟨sound.once, sound.oneWaits⟩

instance decideUndisturbed (d₀ : Db) (s : Store (Table Row) Mark) : ∀ e : Mark, Decidable (e.undisturbed d₀ s)
  | .verified token _ => inferInstanceAs (Decidable (s.rows (.verificationToken token) ≠ none))
  | .reset token _ => inferInstanceAs (Decidable (s.rows (.verificationToken token) ≠ none))
  | .cleared user type ids => inferInstanceAs (Decidable (∀ id ∈ listed (s.rows (.tokensOf user)),
      (s.rows (.verificationToken id)).any (fun row => row.type = type) → id ∈ ids))
  | .tokenSaved token user type => inferInstanceAs (Decidable (clearedLast s.journal user type ∧
      token ∉ tokensSaved s.journal ∧ d₀ (.verificationToken token) = none))
  | .shopRegistered .. => isTrue trivial
  | .issued .. => isTrue trivial
  | .reuse .. => isTrue trivial
  | .opened .. => isTrue trivial
  | .passwordSet .. => isTrue trivial
  | .purged .. => isTrue trivial
  | .userSaved .. => isTrue trivial
  | .statusSet .. => isTrue trivial
  | .adminSet .. => isTrue trivial

instance (d₀ : Db) (s : Store (Table Row) Mark) (log : List Mark) : Decidable (Undisturbed d₀ s log) :=
  inferInstanceAs (Decidable (∀ e ∈ log, e.undisturbed d₀ s))

/-- Two mails for a forgotten password, and two resets with the second. -/
def forgotten : Nat → Option AuthCall
  | 0 => some (.forgotPassword "lan@example.com" ⟨sampleUuid 2, [], 60000⟩)
  | 1 => some (.forgotPassword "lan@example.com" ⟨sampleUuid 3, [], 120000⟩)
  | 2 => some (.resetPassword (sampleUuid 3) (Base64Url.ascii "Password2") ⟨sampleUuid 4, [], 180000⟩)
  | 3 => some (.resetPassword (sampleUuid 3) (Base64Url.ascii "Password3") ⟨sampleUuid 5, [], 180000⟩)
  | _ => none

theorem forgotten_mail (i : Nat) : ∀ call ∈ forgotten i, MailCall call := by
  match i with
  | 0 => rintro _ ⟨⟩; trivial
  | 1 => rintro _ ⟨⟩; trivial
  | 2 => rintro _ ⟨⟩; trivial
  | 3 => rintro _ ⟨⟩; trivial
  | _ + 4 => rintro _ ⟨⟩

theorem oneCustomer_indexed : TokensIndexed oneCustomer := by
  intro user token
  constructor
  · exact fun member => absurd member List.not_mem_nil
  · rintro ⟨row, stands, _⟩
    cases stands

theorem oneCustomer_oneWaits (now : Time) : OneWaits now oneCustomer := by
  intro a b first second stands
  cases stands

set_option maxRecDepth 4000 in
/-- The second mail replaces the first, and one of the resets goes through. -/
theorem forgotten_right :
    ∃ c : Conf (Table Row) Mark Err Answer, consumptions c.store.journal (sampleUuid 3) = 1 ∧
      c.thread 3 = .idle (.done (.failed (.badRequest "Đường dẫn khôi phục không hợp lệ hoặc đã được sử dụng."))) ∧
      TokensRight 200000 c.store := by
  let start : Conf (Table Row) Mark Err Answer := .start ⟨oneCustomer, []⟩ (authCalls sampleConfig forgotten)
  let schedule := List.replicate 14 0 ++ List.replicate 16 1 ++ List.replicate 11 2 ++ List.replicate 3 3
  have obeys : start.Obeys (Undisturbed oneCustomer) schedule := by decide +kernel
  have found : ∃ c ∈ start.play schedule, consumptions c.store.journal (sampleUuid 3) = 1 ∧ c.thread 3 =
      .idle (.done (.failed (.badRequest "Đường dẫn khôi phục không hợp lệ hoặc đã được sử dụng."))) := by
    refine ⟨_, rfl, ?_, rfl⟩
    decide +kernel
  obtain ⟨c, run, used, refused⟩ := Conf.exists_moves Err.database obeys found
  exact ⟨c, used, refused, mailed_tokens_right forgotten_mail oneCustomer_indexed (oneCustomer_oneWaits _) run⟩

set_option maxRecDepth 4000 in
/-- Both resets read the token before the first of them commits. -/
theorem not_mailed_tokens_right :
    ¬ ∀ (cfg : AuthConfig) (calls : Nat → Option AuthCall) (d₀ : Db) (now : Time) (c : Conf (Table Row) Mark Err Answer),
      (∀ i, ∀ call ∈ calls i, MailCall call) → TokensIndexed d₀ → OneWaits now d₀ →
      Moves (fun _ _ => True) .database (Conf.start ⟨d₀, []⟩ (authCalls cfg calls)) c → TokensRight now c.store := by
  intro claimed
  have found : ∃ c ∈ (Conf.start ⟨oneCustomer, []⟩ (authCalls sampleConfig forgotten)).play
      (List.replicate 14 0 ++ List.replicate 16 1 ++ List.replicate 2 2 ++ List.replicate 11 3 ++ List.replicate 9 2),
      consumptions c.store.journal (sampleUuid 3) = 2 := by
    decide +kernel
  obtain ⟨c, run, twice⟩ := Conf.exists_moves _ (Conf.obeys_any _ _) found
  have once := (claimed sampleConfig forgotten oneCustomer 0 c forgotten_mail oneCustomer_indexed
    (oneCustomer_oneWaits 0) run).once (sampleUuid 3)
  omega

end Marketplace.Accounts
