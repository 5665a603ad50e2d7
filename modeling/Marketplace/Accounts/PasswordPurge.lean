import Marketplace.Accounts.RefreshReuse

/-! Which sessions outlive a change of the password. -/
namespace Marketplace.Accounts
open ReadCommitted ReadCommitted.Tx Base64Url

/-- The hash that the login of a session has compared its password with. -/
def verifiedHash (journal : List Mark) (session : Uuid) : Option Bytes :=
  (journal.reverse.findSome? fun
    | .opened id _ verified => if id = session then some verified else none
    | _ => none).join

/-- The passwords that a user is given, oldest first. -/
def hashesSet (journal : List Mark) (user : Uuid) : List Bytes :=
  journal.filterMap fun
    | .passwordSet id hash => if id = user then some hash else none
    | _ => none

/-- The password in force, and those in force since the last purge of the user's sessions. -/
structure Passwords where
  current : Option Bytes
  sincePurge : Option (List Bytes)

def Passwords.mark (user : Uuid) (p : Passwords) : Mark → Passwords
  | .passwordSet id hash => if id = user then ⟨some hash, p.sincePurge.map (· ++ [hash])⟩ else p
  | .purged id _ => if id = user then ⟨p.current, p.current.map fun hash => [hash]⟩ else p
  | _ => p

def passwords (journal : List Mark) (user : Uuid) : Passwords := journal.foldl (Passwords.mark user) ⟨none, none⟩

/-- A session is opened with a password that is in force or was so since the last purge, and a purge has read all
sessions of logins but those that verified the password in force. -/
def Mark.inForce (s : Store (Table Row) Mark) (log : List Mark) : Mark → Prop
  | .opened _ user (some hash) => ∀ hashes ∈ (passwords s.journal user).sincePurge, hash ∈ hashes
  | .purged user sessions => ∀ id ∈ listed (s.rows (.sessionsOf user)), id ∈ sessions ∨ s.rows (.session id) = none ∨
      ∀ hash ∈ verifiedHash s.journal id, ∀ current ∈ (passwords (s.journal ++ log) user).current, hash = current
  | _ => True

def InForce (s : Store (Table Row) Mark) (log : List Mark) : Prop := ∀ e ∈ log, e.inForce s log

/-- A password stands that was set with `hash` or later, for every login whose session lives. -/
def PurgedSince (s : Store (Table Row) Mark) (user : Uuid) (hash : Bytes) : Prop :=
  ∃ before after, s.journal = before ++ .passwordSet user hash :: after ∧
    ∀ id session verified, s.rows (.session id) = some session → session.user = user →
      verifiedHash s.journal id = some verified → verified ∈ hash :: hashesSet after user

section
variable {user : Uuid} {journal more : List Mark}

theorem hashesSet_append : hashesSet (journal ++ more) user = hashesSet journal user ++ hashesSet more user :=
  List.filterMap_append

theorem passwords_append : passwords (journal ++ more) user = more.foldl (Passwords.mark user) (passwords journal user) :=
  List.foldl_append

/-- The password in force is in `set`. -/
def Passwords.Current (p : Passwords) (set : List Bytes) : Prop := ∃ hash ∈ set, p.current = some hash

/-- The sessions have been purged, and every password in force since is in `set`. -/
structure Passwords.Purged (p : Passwords) (set : List Bytes) : Prop where
  current : p.Current set
  sincePurge : ∃ hashes, p.sincePurge = some hashes ∧ ∀ hash ∈ hashes, hash ∈ set

theorem Passwords.Current.mark {p : Passwords} {set : List Bytes} (current : p.Current set) (e : Mark) :
    (p.mark user e).Current (set ++ hashesSet [e] user) := by
  obtain ⟨hash, member, stands⟩ := current
  have same : p.Current (set ++ hashesSet [e] user) := ⟨hash, List.mem_append_left _ member, stands⟩
  cases e with
  | passwordSet id new =>
    by_cases own : id = user
    · subst own
      have set_ : hashesSet [.passwordSet id new] id = [new] := by simp [hashesSet]
      rw [set_, Passwords.mark, if_pos rfl]
      exact ⟨new, List.mem_append_right _ (List.mem_singleton.mpr rfl), rfl⟩
    · rw [Passwords.mark, if_neg own]
      exact same
  | purged id sessions =>
    by_cases own : id = user
    · rw [Passwords.mark, if_pos own]
      exact same
    · rw [Passwords.mark, if_neg own]
      exact same
  | _ => exact same

theorem Passwords.Current.purge {p : Passwords} {set : List Bytes} (current : p.Current set) (sessions : List Uuid) :
    (p.mark user (.purged user sessions)).Purged set := by
  obtain ⟨hash, member, stands⟩ := current
  rw [Passwords.mark, if_pos rfl]
  refine ⟨⟨hash, member, stands⟩, [hash], by rw [stands]; rfl, fun x x_in => ?_⟩
  obtain rfl := List.mem_singleton.mp x_in
  exact member

theorem Passwords.Purged.mark {p : Passwords} {set : List Bytes} (purged : p.Purged set) (e : Mark) :
    (p.mark user e).Purged (set ++ hashesSet [e] user) := by
  obtain ⟨current, hashes, found, since⟩ := purged
  have same : p.Purged (set ++ hashesSet [e] user) := by
    obtain ⟨hash, member, stands⟩ := current
    exact ⟨⟨hash, List.mem_append_left _ member, stands⟩, hashes, found, fun x x_in => List.mem_append_left _ (since x x_in)⟩
  refine ⟨current.mark e, ?_⟩
  cases e with
  | passwordSet id new =>
    by_cases own : id = user
    · subst own
      have set_ : hashesSet [.passwordSet id new] id = [new] := by simp [hashesSet]
      rw [set_, Passwords.mark, if_pos rfl]
      refine ⟨hashes ++ [new], by rw [found]; rfl, fun x x_in => ?_⟩
      rcases List.mem_append.mp x_in with early | last
      · exact List.mem_append_left _ (since x early)
      · exact List.mem_append_right _ last
    · rw [Passwords.mark, if_neg own]
      exact same.sincePurge
  | purged id sessions =>
    by_cases own : id = user
    · subst own
      exact (same.current.purge sessions).sincePurge
    · rw [Passwords.mark, if_neg own]
      exact same.sincePurge
  | _ => exact same.sincePurge

theorem hashesSet_cons (e : Mark) : hashesSet (e :: more) user = hashesSet [e] user ++ hashesSet more user := by
  rw [← List.singleton_append, hashesSet_append]

theorem Passwords.Current.marks {p : Passwords} {set : List Bytes} (current : p.Current set) :
    (more.foldl (Passwords.mark user) p).Current (set ++ hashesSet more user) := by
  induction more generalizing p set with
  | nil => simpa [hashesSet] using current
  | cons e rest ih =>
    rw [hashesSet_cons, ← List.append_assoc]
    exact ih (current.mark e)

theorem Passwords.Purged.marks {p : Passwords} {set : List Bytes} (purged : p.Purged set) :
    (more.foldl (Passwords.mark user) p).Purged (set ++ hashesSet more user) := by
  induction more generalizing p set with
  | nil => simpa [hashesSet] using purged
  | cons e rest ih =>
    rw [hashesSet_cons, ← List.append_assoc]
    exact ih (purged.mark e)

/-- Once a password is set, it is in force or a later one is. -/
theorem current_split {before after : List Mark} {hash : Bytes} :
    (passwords (before ++ .passwordSet user hash :: after) user).Current (hash :: hashesSet after user) := by
  rw [passwords_append, List.foldl_cons]
  have first : ((passwords before user).mark user (.passwordSet user hash)).Current [hash] := by
    rw [Passwords.mark, if_pos rfl]
    exact ⟨hash, List.mem_singleton.mpr rfl, rfl⟩
  exact first.marks

end

/-- The password has been set. -/
def SetIn (s : Store (Table Row) Mark) (user : Uuid) (hash : Bytes) : Prop :=
  ∃ before after, s.journal = before ++ .passwordSet user hash :: after

/-- The password has been set, and the sessions purged since. -/
def Replaced (s : Store (Table Row) Mark) (user : Uuid) (hash : Bytes) : Prop :=
  ∃ before after, s.journal = before ++ .passwordSet user hash :: after ∧
    (passwords s.journal user).Purged (hash :: hashesSet after user)

section
variable {s t : Store (Table Row) Mark} {user : Uuid} {hash : Bytes} {more : List Mark}

theorem SetIn.grow (set : SetIn s user hash) (grown : t.journal = s.journal ++ more) : SetIn t user hash := by
  obtain ⟨before, after, split⟩ := set
  exact ⟨before, after ++ more, by rw [grown, split, List.append_assoc, List.cons_append]⟩

theorem Replaced.grow (replaced : Replaced s user hash) (grown : t.journal = s.journal ++ more) : Replaced t user hash := by
  obtain ⟨before, after, split, purged⟩ := replaced
  refine ⟨before, after ++ more, by rw [grown, split, List.append_assoc, List.cons_append], ?_⟩
  rw [grown, passwords_append, hashesSet_append]
  exact purged.marks

/-- A purge after the password was set. -/
theorem SetIn.purge {sessions : List Uuid} (set : SetIn s user hash) (grown : t.journal = s.journal ++ [.purged user sessions]) :
    Replaced t user hash := by
  obtain ⟨before, after, split⟩ := set
  have later : t.journal = before ++ .passwordSet user hash :: (after ++ [.purged user sessions]) := by
    rw [grown, split, List.append_assoc, List.cons_append]
  refine ⟨before, _, later, ?_⟩
  have none_ : hashesSet [.purged user sessions] user = [] := rfl
  rw [grown, split, passwords_append, hashesSet_append, none_, List.append_nil]
  exact current_split.purge sessions

end

/-- A living session is on the list of its user, and its login verified a password in force since the last purge. -/
structure SessionsInForce (s : Store (Table Row) Mark) : Prop where
  onList : ∀ id session, s.rows (.session id) = some session → id ∈ listed (s.rows (.sessionsOf session.user))
  inForce : ∀ id session verified, s.rows (.session id) = some session → verifiedHash s.journal id = some verified →
    ∀ hashes ∈ (passwords s.journal session.user).sincePurge, verified ∈ hashes

theorem Replaced.purgedSince {s : Store (Table Row) Mark} {user : Uuid} {hash : Bytes} (replaced : Replaced s user hash)
    (sound : SessionsInForce s) : PurgedSince s user hash := by
  obtain ⟨before, after, split, purged⟩ := replaced
  refine ⟨before, after, split, fun id session verified stands own login => ?_⟩
  obtain ⟨hashes, found, among⟩ := purged.sincePurge
  subst own
  exact among verified (sound.inForce id session verified stands login hashes found)

/-- Marks that neither open nor purge sessions. -/
def Mark.Aside : Mark → Prop
  | .opened _ _ _ => False
  | .purged _ _ => False
  | _ => True

theorem verifiedHash_aside {journal more : List Mark} (aside : ∀ e ∈ more, e.Aside) (id : Uuid) :
    verifiedHash (journal ++ more) id = verifiedHash journal id := by
  unfold verifiedHash
  rw [List.reverse_append, List.findSome?_append]
  have none_ : more.reverse.findSome? (fun
      | .opened id' _ verified => if id' = id then some verified else none
      | _ => none) = none := by
    rw [List.findSome?_eq_none_iff]
    intro e member
    have quiet := aside e (List.mem_reverse.mp member)
    cases e with
    | opened => exact quiet.elim
    | _ => rfl
  rw [none_, Option.none_or]

/-- Without a purge the passwords only get more. -/
theorem sincePurge_aside {user : Uuid} {more : List Mark} (aside : ∀ e ∈ more, e.Aside) {p : Passwords} {hashes : List Bytes}
    (found : hashes ∈ (more.foldl (Passwords.mark user) p).sincePurge) :
    ∃ before ∈ p.sincePurge, ∀ hash ∈ before, hash ∈ hashes := by
  induction more generalizing p with
  | nil => exact ⟨hashes, found, fun _ member => member⟩
  | cons e rest ih =>
    obtain ⟨later, there, among⟩ := ih (fun e member => aside e (List.mem_cons_of_mem _ member)) found
    have quiet := aside e List.mem_cons_self
    cases e with
    | purged => exact quiet.elim
    | passwordSet id new =>
      by_cases own : id = user
      · rw [Passwords.mark, if_pos own] at there
        obtain ⟨old, before, rfl⟩ := Option.map_eq_some_iff.mp there
        exact ⟨old, before, fun hash member => among hash (List.mem_append_left _ member)⟩
      · rw [Passwords.mark, if_neg own] at there
        exact ⟨later, there, among⟩
    | _ => exact ⟨later, there, among⟩

/-- The sessions after a commit are sessions of the same users before it. -/
structure Fewer (s t : Store (Table Row) Mark) : Prop where
  sessions : ∀ id session, t.rows (.session id) = some session →
    ∃ before, s.rows (.session id) = some before ∧ before.user = session.user
  lists : ∀ user, t.rows (.sessionsOf user) = s.rows (.sessionsOf user)

section
variable {s t : Store (Table Row) Mark} {log : List Mark}

theorem SessionsInForce.aside (sound : SessionsInForce s) (fewer : Fewer s t) (grown : t.journal = s.journal ++ log)
    (aside : ∀ e ∈ log, e.Aside) : SessionsInForce t where
  onList id session stands := by
    obtain ⟨before, stood, own⟩ := fewer.sessions id session stands
    rw [fewer.lists, ← own]
    exact sound.onList id before stood
  inForce id session verified stands login hashes found := by
    obtain ⟨before, stood, own⟩ := fewer.sessions id session stands
    rw [grown, verifiedHash_aside aside] at login
    rw [grown, passwords_append, ← own] at found
    obtain ⟨old, there, among⟩ := sincePurge_aside aside found
    exact among verified (sound.inForce id before verified stood login old there)

/-- A purge leaves only sessions it has not read. -/
theorem SessionsInForce.purge {user : Uuid} {sessions : List Uuid} (sound : SessionsInForce s) (fewer : Fewer s t)
    (grown : t.journal = s.journal ++ (log ++ [.purged user sessions])) (aside : ∀ e ∈ log, e.Aside)
    (deleted : ∀ id ∈ sessions, t.rows (.session id) = none) (admitted : InForce s (log ++ [.purged user sessions])) :
    SessionsInForce t where
  onList id session stands := by
    obtain ⟨before, stood, own⟩ := fewer.sessions id session stands
    rw [fewer.lists, ← own]
    exact sound.onList id before stood
  inForce id session verified stands login hashes found := by
    obtain ⟨before, stood, own⟩ := fewer.sessions id session stands
    have login_before : verifiedHash s.journal id = some verified := by
      have same : verifiedHash (s.journal ++ log ++ [.purged user sessions]) id = verifiedHash (s.journal ++ log) id := by
        unfold verifiedHash
        rw [List.reverse_append]
        rfl
      rw [grown, ← List.append_assoc, same, verifiedHash_aside aside] at login
      exact login
    rw [grown, ← List.append_assoc, passwords_append] at found
    by_cases mine : user = session.user
    · subst mine
      change hashes ∈ ((passwords (s.journal ++ log) session.user).mark session.user (.purged session.user sessions)).sincePurge at found
      rw [Passwords.mark, if_pos rfl] at found
      obtain ⟨current, now, rfl⟩ := Option.map_eq_some_iff.mp found
      have unread : id ∉ sessions := by
        intro read
        rw [deleted id read] at stands
        cases stands
      have member : id ∈ listed (s.rows (.sessionsOf session.user)) := own ▸ sound.onList id before stood
      have allowed := admitted _ (List.mem_append_right _ (List.mem_singleton.mpr rfl)) id member
      rcases allowed with read | gone | same
      · exact absurd read unread
      · rw [gone] at stood
        cases stood
      · refine List.mem_singleton.mpr (same verified login_before current ?_)
        rw [← List.append_assoc, passwords_append]
        change current ∈ ((passwords (s.journal ++ log) session.user).mark session.user
          (.purged session.user sessions)).current
        rw [Passwords.mark, if_pos rfl]
        exact now
    · change hashes ∈ ((passwords (s.journal ++ log) session.user).mark session.user (.purged user sessions)).sincePurge at found
      rw [Passwords.mark, if_neg mine, passwords_append] at found
      obtain ⟨old, there, among⟩ := sincePurge_aside aside found
      rw [← own] at there
      exact among verified (sound.inForce id before verified stood login_before old there)

end

section
variable {cfg : AuthConfig}

/-- The journal only grows. -/
def Grows (s t : Store (Table Row) Mark) : Prop := ∃ more, t.journal = s.journal ++ more

theorem Grows.refl (s : Store (Table Row) Mark) : Grows s s := ⟨[], (List.append_nil _).symm⟩

theorem Grows.trans {s t u : Store (Table Row) Mark} : Grows s t → Grows t u → Grows s u := by
  rintro ⟨early, grown⟩ ⟨late, again⟩
  exact ⟨early ++ late, by rw [again, grown, List.append_assoc]⟩

/-- Rows that are no sessions and no lists of them. -/
def ApartSessions (k : Key) : Prop := (∀ id, k ≠ .session id) ∧ ∀ user, k ≠ .sessionsOf user

/-- A commit after a view that begins at the current rows. -/
theorem keeps_of {α : Type} {body : Action α}
    (kept : ∀ (h : History (Table Row) Mark) (m : Nat), body.wp h.isolation
      (fun _ w => InForce h.current w.log → SessionsInForce h.current → SessionsInForce (h.commit w)) (fun _ => True)
      (View.start h.current.rows m)) : body.Keeps InForce SessionsInForce Grows := by
  intro h m sound _ _
  refine wp_mono _ (kept h m) (fun _ w next _ admitted => ?_) fun _ e => e
  exact ⟨next admitted (sound h.now (Nat.le_refl _)), w.log, rfl⟩

theorem keeps_apart {α : Type} {body : Action α} (h : body.Within ApartSessions Mark.Aside) :
    body.Keeps InForce SessionsInForce Grows := by
  refine keeps_of fun h' m => wp_of_within h (fun a w more _ sound => ?_) fun _ => trivial
  obtain ⟨marks, log, aside⟩ := more.log
  have kept : ∀ k, ¬ ApartSessions k → w.rows k = h'.current.rows k := more.rows
  refine sound.aside ⟨fun id session stands => ?_, fun user => ?_⟩ rfl (log ▸ aside)
  · have same := kept (.session id) fun out => out.1 id rfl
    exact ⟨session, same.symm.trans stands, rfl⟩
  · exact kept (.sessionsOf user) fun out => out.2 user rfl

theorem keeps_deleteSession {id : Uuid} : (deleteSession id).Keeps InForce SessionsInForce Grows := by
  refine keeps_of fun h m => ?_
  unfold deleteSession
  rw [wp_modify]
  have own : ((View.start h.current.rows m : View (Table Row) Mark).put (Key.session id) fun _ => none).rows (.session id) =
      none := View.put_rows_self _ _ _
  have other : ∀ k, k ≠ .session id →
      ((View.start h.current.rows m : View (Table Row) Mark).put (Key.session id) fun _ => none).rows k = h.current.rows k :=
    fun k apart => View.put_rows_other _ _ apart
  intro _ sound
  refine sound.aside ⟨fun id' session stands => ?_, fun user => other (.sessionsOf user) nofun⟩ rfl
    fun e no => absurd no List.not_mem_nil
  by_cases same : id' = id
  · subst same
    exact absurd (own.symm.trans stands).symm (Option.some_ne_none session)
  · exact ⟨session, (other (.session id') (by simpa using same)).symm.trans stands, rfl⟩

theorem keeps_rotate {token : RefreshToken} {draw : Draw} : (rotate cfg token draw).Keeps InForce SessionsInForce Grows := by
  refine keeps_of fun h m => ?_
  have same : ∀ w : View (Table Row) Mark, w.rows = h.current.rows → (∀ e ∈ w.log, e.Aside) →
      InForce h.current w.log → SessionsInForce h.current → SessionsInForce (h.commit w) := by
    intro w rows aside _ sound
    refine sound.aside ⟨fun id session stands => ⟨session, ?_, rfl⟩, fun user => ?_⟩ rfl aside
    · exact (congrFun rows _).symm.trans stands
    · exact congrFun rows _
  have unmarked : ∀ w : View (Table Row) Mark, w.log = [] → ∀ e ∈ w.log, e.Aside := by
    intro w log e member
    rw [log] at member
    exact absurd member List.not_mem_nil
  refine wp_rotateBy (fun _ w rows log => same w rows (unmarked w log)) (fun session w _ _ rows log => ?_)
    fun session viaGrace w new stood _ _ _ more log stored => ?_
  · cases judgeBy (compareHashedDataHelper cfg) session (token.text cfg.sign) draw.now with
    | reuseDetected =>
      refine same (w.mark (.reuse token.sessionId)) rows fun e member => ?_
      rw [View.mark_log, log] at member
      obtain rfl := List.mem_singleton.mp member
      trivial
    | _ => exact same w rows (unmarked w log)
  · intro _ sound
    refine sound.aside ⟨fun id other stands => ?_, fun user => more.rows _ nofun⟩ rfl fun e member => ?_
    · by_cases own : id = token.sessionId
      · subst own
        obtain rfl := Option.some.inj (stored.symm.trans stands)
        exact ⟨session, stood, rfl⟩
      · exact ⟨other, (more.rows (.session id) (by simpa using own)).symm.trans stands, rfl⟩
    · rw [log] at member
      obtain rfl := List.mem_singleton.mp member
      trivial

theorem verifiedHash_opened (journal : List Mark) (token : RefreshToken) (issuedAt : Time) (id user other : Uuid)
    (verified : Option Bytes) :
    verifiedHash (journal ++ [.issued token issuedAt, .opened id user verified]) other =
      if id = other then verified else verifiedHash journal other := by
  by_cases same : id = other
  · simp [verifiedHash, same]
  · simp [verifiedHash, same]

theorem keeps_saveSession {user : Uuid} {verified : Option Bytes} {draw : Draw} :
    (generateAndSaveSession cfg user verified draw).Keeps InForce SessionsInForce Grows := by
  refine keeps_of fun h m => ?_
  unfold generateAndSaveSession
  rw [wp_bind, wp_note, wp_bind, wp_note, wp_bind]
  refine wp_insert (fun _ => trivial) fun w more _ free stored => ?_
  rw [wp_bind, wp_modify, wp_pure]
  intro admitted sound
  have log : w.log = [.issued (createTokens cfg user draw.id draw.now) draw.now, .opened draw.id user verified] := more.log_same
  have lists : ∀ u, w.rows (.sessionsOf u) = h.current.rows (.sessionsOf u) := fun u => more.rows (.sessionsOf u) nofun
  let row : Session := ⟨user, some (hashToken cfg draw.salt (createTokens cfg user draw.id draw.now)), none, none,
    some (draw.now + cfg.refreshTokenExpiration)⟩
  -- a session afterwards is the new one or was there before
  have old_or_new : ∀ id session, w.rows (.session id) = some session →
      id = draw.id ∧ session = row ∨ id ≠ draw.id ∧ h.current.rows (.session id) = some session := by
    intro id session stands
    by_cases own : id = draw.id
    · subst own
      exact Or.inl ⟨rfl, (Option.some.inj (stored.symm.trans stands)).symm⟩
    · exact Or.inr ⟨own, (more.rows (.session id) (by simpa using own)).symm.trans stands⟩
  have put_session : ∀ id, (w.put (.sessionsOf user) fun ids => some (Marketplace.listed ids ++ [draw.id])).rows (.session id) =
      w.rows (.session id) := fun id => View.put_rows_other _ _ nofun
  have put_list : ∀ u, Marketplace.listed (h.current.rows (.sessionsOf u)) ⊆ Marketplace.listed
      ((w.put (.sessionsOf user) fun ids => some (Marketplace.listed ids ++ [draw.id])).rows (.sessionsOf u)) := by
    intro u id member
    by_cases same : u = user
    · subst same
      rw [View.put_rows_self, lists]
      exact List.mem_append_left _ member
    · rw [View.put_rows_other _ _ (by simpa using same), lists]
      exact member
  refine ⟨fun id session stands => ?_, fun id session hash stands login hashes found => ?_⟩
  · rcases old_or_new id session ((put_session id).symm.trans stands) with ⟨rfl, rfl⟩ | ⟨_, before⟩
    · show draw.id ∈ Marketplace.listed ((w.put (.sessionsOf user) fun ids =>
        some (Marketplace.listed ids ++ [draw.id])).rows (.sessionsOf user))
      rw [View.put_rows_self]
      exact List.mem_append_right _ (List.mem_singleton.mpr rfl)
    · exact put_list session.user (sound.onList id session before)
  · change verifiedHash (h.current.journal ++ w.log) id = some hash at login
    change hashes ∈ (passwords (h.current.journal ++ w.log) session.user).sincePurge at found
    rw [log, verifiedHash_opened] at login
    rw [log, passwords_append] at found
    rcases old_or_new id session ((put_session id).symm.trans stands) with ⟨rfl, rfl⟩ | ⟨other, before⟩
    · rw [if_pos rfl] at login
      have allowed := admitted (.opened draw.id user verified) (by rw [View.put_log, log]; simp)
      rw [login] at allowed
      exact allowed hashes found
    · rw [if_neg (Ne.symm other)] at login
      exact sound.inForce id session hash before login hashes found

/-- Exactly the sessions that were listed when they were looked up are gone. -/
theorem wp_deleteSessionsOf {I : Isolation (Table Row) Mark} {v : View (Table Row) Mark} {user : Uuid}
    {Q : Unit → View (Table Row) Mark → Prop} {E : Err → Prop}
    (h : ∀ d m ids w, I.Sees v d m → ids = Marketplace.listed (d (.sessionsOf user)) →
      (∀ k, (∀ id, k ≠ .session id) → w.rows k = v.rows k) →
      (∀ id, w.rows (.session id) = if id ∈ ids then none else v.rows (.session id)) →
      w.log = v.log ++ [.purged user ids] → Q () w) : (deleteSessionsOf user).wp I Q E v := by
  unfold deleteSessionsOf
  rw [wp_bind, wp_select]
  intro d m sees
  rw [wp_bind, wp_note]
  generalize read : Marketplace.listed (d (.sessionsOf user)) = ids
  refine wp_mono _ (wp_forM (fun rest w => (∀ k, (∀ id, k ≠ .session id) → w.rows k = v.rows k) ∧
      (∀ id, id ∈ ids ∨ w.rows (.session id) = v.rows (.session id)) ∧
      (∀ id ∈ ids, id ∈ rest ∨ w.rows (.session id) = none) ∧ (∀ id ∈ rest, id ∈ ids) ∧
      w.log = v.log ++ [.purged user ids])
    deleteSession ?_ ids ?_) (fun _ w done => ?_) fun _ e => e
  · rintro id rest w ⟨others, spared, gone, inside, log⟩
    have other : ∀ k, k ≠ .session id → (w.put (Key.session id) fun _ => none).rows k = w.rows k :=
      fun k apart => View.put_rows_other _ _ apart
    unfold deleteSession
    rw [wp_modify]
    refine ⟨fun k apart => (other k (apart id)).trans (others k apart), fun x => ?_, fun x member => ?_,
      fun x member => inside x (List.mem_cons_of_mem _ member), log⟩
    · by_cases same : x = id
      · exact Or.inl (inside x (same ▸ List.mem_cons_self))
      · rw [other _ (by simpa using same)]
        exact spared x
    · by_cases same : x = id
      · subst same
        exact Or.inr (View.put_rows_self _ _ _)
      · rw [other _ (by simpa using same)]
        exact (gone x member).imp_left fun waits => (List.mem_cons.mp waits).resolve_left same
  · exact ⟨fun _ _ => rfl, fun _ => Or.inr rfl, fun _ member => Or.inl member, fun _ member => member, rfl⟩
  · obtain ⟨others, spared, gone, _, log⟩ := done
    refine h d m ids w sees read.symm others (fun id => ?_) log
    by_cases member : id ∈ ids
    · rw [if_pos member]
      exact (gone id member).resolve_left List.not_mem_nil
    · rw [if_neg member]
      exact (spared id).resolve_left member

/-- A session that outlives a purge was not listed. -/
theorem purge_spares {v w : Db} {ids : List Uuid}
    (sessions : ∀ id, w (.session id) = if id ∈ ids then none else v (.session id)) {id : Uuid} {session : Session}
    (stands : w (.session id) = some session) : id ∉ ids ∧ v (.session id) = some session := by
  rw [sessions] at stands
  by_cases member : id ∈ ids
  · rw [if_pos member] at stands
    cases stands
  · rw [if_neg member] at stands
    exact ⟨member, stands⟩

/-- The new password is set, and no session is touched. -/
theorem wp_changeUserPassword {I : Isolation (Table Row) Mark} {d : Db} {m : Nat} {id : Uuid}
    {oldPassword newPassword salt : Bytes} {now : Time} {Q : Unit → View (Table Row) Mark → Prop} {E : Err → Prop}
    (h : ∀ w more, w.log = .passwordSet id (cfg.bcrypt.hash salt newPassword) :: more → (∀ e ∈ more, e.Aside) →
      (∀ k, ¬ ApartSessions k → w.rows k = d k) → Q () w) (err : ∀ e, E e) :
    (changeUserPassword cfg id oldPassword newPassword salt now).wp I Q E (View.start d m) := by
  unfold changeUserPassword
  rw [wp_bind]
  refine wp_reads within_findUserOrFail (fun user w rows log => ?_) err
  simp only [wp_bind, wp_require]
  refine ⟨fun _ => ⟨fun _ => ⟨fun _ => ?_, fun _ => err _⟩, fun _ => err _⟩, fun _ => err _⟩
  rw [wp_note]
  refine wp_of_within (K := ApartSessions) (L := Mark.Aside) ?_ (fun _ w' more => ?_) err
  · exact within_saveUser ⟨fun _ => by rintro ⟨⟩, fun _ => by rintro ⟨⟩⟩ fun r e member => by
      obtain rfl := List.mem_singleton.mp member
      trivial
  · obtain ⟨marks, grown, aside⟩ := more.log
    refine h w' marks ?_ aside fun k out => (more.rows k out).trans (congrFun rows k)
    rw [grown, View.mark_log, log]
    rfl

/-- The new password of a token's user is set and the user's sessions are purged. -/
theorem wp_resetPassword {I : Isolation (Table Row) Mark} {d : Db} {m : Nat} {token : Uuid} {newPassword : Bytes} {draw : Draw}
    {Q : Unit → View (Table Row) Mark → Prop} {E : Err → Prop}
    (h : ∀ w user more ids v d' m', I.Sees v d' m' → v.rows (.sessionsOf user) = d (.sessionsOf user) →
      ids = Marketplace.listed (d' (.sessionsOf user)) →
      w.log = [.reset token user, .passwordSet user (cfg.bcrypt.hash draw.salt newPassword)] ++ more ++ [.purged user ids] →
      (∀ e ∈ more, e.Aside) → (∀ u, w.rows (.sessionsOf u) = d (.sessionsOf u)) →
      (∀ id, w.rows (.session id) = if id ∈ ids then none else d (.session id)) → Q () w)
    (err : ∀ e, E e) : (resetPassword cfg token newPassword draw).wp I Q E (View.start d m) := by
  unfold resetPassword
  rw [wp_bind]
  refine wp_reads (within_select _) (fun found w rows log => ?_) err
  rw [wp_bind]
  refine wp_reads (within_orFail _ _) (fun found w' rows' log' => ?_) err
  obtain ⟨row, user⟩ := found
  simp only [wp_bind, wp_require]
  refine ⟨fun _ => ?_, fun _ => err _⟩
  rw [wp_note, wp_note]
  refine wp_of_within (K := ApartSessions) (L := Mark.Aside) ?_ (fun _ u more => ?_) err
  · exact within_saveUser ⟨fun _ => by rintro ⟨⟩, fun _ => by rintro ⟨⟩⟩ fun r e member => by
      obtain rfl := List.mem_singleton.mp member
      trivial
  · rw [wp_modify]
    refine wp_deleteSessionsOf fun d' m' ids x sees read others sessions purged => ?_
    obtain ⟨marks, grown, aside⟩ := more.log
    have kept : ∀ k, ¬ ApartSessions k → (u.put (.verificationToken token) fun _ => none).rows k = d k := by
      intro k out
      have other : k ≠ .verificationToken token := by
        rintro rfl
        exact out ⟨fun _ => by rintro ⟨⟩, fun _ => by rintro ⟨⟩⟩
      rw [View.put_rows_other _ _ other, more.rows k out, View.mark_rows, View.mark_rows, rows', rows]
      rfl
    refine h x row.user marks ids _ d' m' sees (kept _ fun apart => apart.2 row.user rfl) read ?_ aside (fun u' => ?_)
      fun id => ?_
    · have start : w'.log = [] := log'.trans log
      rw [purged, View.put_log, grown, View.mark_log, View.mark_log, start]
      rfl
    · exact (others (.sessionsOf u') fun _ => by rintro ⟨⟩).trans (kept _ fun apart => apart.2 u' rfl)
    · rw [sessions id, kept (.session id) fun apart => apart.1 id rfl]

end

/-- The calls of the run: logins, refreshes, logouts and the two ways to change a password. -/
def PasswordCall : AuthCall → Prop
  | .login .. => True
  | .refresh .. => True
  | .logout .. => True
  | .changePassword .. => True
  | .resetPassword .. => True
  | _ => False

/-- Where a call stands, and what it has committed. -/
inductive PasswordTurn (cfg : AuthConfig) (s : Store (Table Row) Mark) : Option AuthCall → Request → Prop
  | none : PasswordTurn cfg s none (.done .done)
  | plain {call : AuthCall} {r : Request} (other : ∀ user old new draw, call ≠ .changePassword user old new draw)
      (another : ∀ token new draw, call ≠ .resetPassword token new draw)
      (all : r.All fun _ body => body.Keeps InForce SessionsInForce Grows) : PasswordTurn cfg s (some call) r
  | signed {user : IUser} {old new : Bytes} {draw : Draw} : PasswordTurn cfg s (some (.changePassword user old new draw))
      (signedIn user (Accounts.changePassword cfg user.sub old new draw))
  | change {user : IUser} {old new : Bytes} {draw : Draw} : PasswordTurn cfg s (some (.changePassword user old new draw))
      (Accounts.changePassword cfg user.sub old new draw)
  | purge {user : IUser} {old new : Bytes} {draw : Draw} (set : SetIn s user.sub (cfg.bcrypt.hash draw.salt new)) :
      PasswordTurn cfg s (some (.changePassword user old new draw)) (single (deleteSessionsOf user.sub) fun _ => .done)
  | changed {user : IUser} {old new : Bytes} {draw : Draw} (replaced : Replaced s user.sub (cfg.bcrypt.hash draw.salt new)) :
      PasswordTurn cfg s (some (.changePassword user old new draw)) (.done .done)
  | reset {token : Uuid} {new : Bytes} {draw : Draw} : PasswordTurn cfg s (some (.resetPassword token new draw))
      (.tx (Accounts.resetPassword cfg token new draw) (fun _ => .done .done)
        fun e => .done (.failed (masked "Lỗi hệ thống khi đặt lại mật khẩu." e)))
  | wasReset {token : Uuid} {new : Bytes} {draw : Draw} (user : Uuid) (named : .reset token user ∈ s.journal)
      (replaced : Replaced s user (cfg.bcrypt.hash draw.salt new)) :
      PasswordTurn cfg s (some (.resetPassword token new draw)) (.done .done)
  | failed (call : AuthCall) (e : Err) : PasswordTurn cfg s (some call) (.done (.failed e))

section
variable {cfg : AuthConfig} {s t : Store (Table Row) Mark} {call : Option AuthCall} {r : Request}

theorem PasswordTurn.grow (turn : PasswordTurn cfg s call r) (grows : Grows s t) : PasswordTurn cfg t call r := by
  obtain ⟨more, grown⟩ := grows
  cases turn with
  | none => exact .none
  | plain other another all => exact .plain other another all
  | signed => exact .signed
  | change => exact .change
  | purge set => exact .purge (set.grow grown)
  | changed replaced => exact .changed (replaced.grow grown)
  | reset => exact .reset
  | wasReset user named replaced =>
    exact .wasReset user (by rw [grown]; exact List.mem_append_left _ named) (replaced.grow grown)
  | failed call e => exact .failed call e

theorem keeps_validateUser {username : String} {password : Bytes} :
    (validateUser cfg username password).Keeps InForce SessionsInForce Grows :=
  keeps_apart (within_bind (within_select _) fun _ => within_bind (within_orFail _ _) fun _ =>
    within_bind (within_require _ _) fun _ => within_bind (within_require _ _) fun _ => within_pure _)

theorem keeps_saveToken {user : Uuid} {type : VerificationTokenType} {draw : Draw} {ttl : Nat} :
    (saveToken user type draw ttl).Keeps InForce SessionsInForce Grows :=
  keeps_apart (within_saveToken ⟨fun _ => nofun, fun _ => nofun⟩ ⟨fun _ => nofun, fun _ => nofun⟩ trivial)

theorem keeps_login (username : String) (password : Bytes) (old : Option RefreshToken) (mailed draw : Draw) :
    (login cfg username password old mailed draw).All fun _ body => body.Keeps InForce SessionsInForce Grows := by
  refine .tx keeps_validateUser (fun user => ?_) fun _ => .done _
  have fresh : (single (generateAndSaveSession cfg user.1 user.2.password draw) .tokens).All fun _ body =>
      body.Keeps InForce SessionsInForce Grows := .tx keeps_saveSession (fun _ => .done _) fun _ => .done _
  split
  · exact .tx keeps_saveToken (fun _ => .done _) fun _ => .done _
  · cases old with
    | none => exact fresh
    | some token => exact .tx keeps_deleteSession (fun _ => fresh) fun _ => fresh

theorem keeps_refresh (token : RefreshToken) (draw : Draw) :
    (handleRefreshToken cfg token draw).All fun _ body => body.Keeps InForce SessionsInForce Grows := by
  have revoke : ∀ id e, (revokeSession id e).All fun _ body => body.Keeps InForce SessionsInForce Grows := fun id e =>
    .tx keeps_deleteSession (fun _ => .done _) fun _ => .done _
  unfold handleRefreshToken handleRefreshTokenBy
  split
  · exact .done _
  · refine .tx keeps_rotate (fun outcome => ?_) fun _ => .done _
    cases outcome with
    | ok new => exact .done _
    | error verdict =>
      cases verdict with
      | reuseDetected => exact revoke _ _
      | expired => exact revoke _ _
      | notFound => exact .done _
      | userGone => exact .done _

theorem keeps_logout (token : RefreshToken) (now : Time) :
    (handleLogout token now).All fun _ body => body.Keeps InForce SessionsInForce Grows := by
  unfold handleLogout
  split
  · exact .done _
  · exact .tx keeps_deleteSession (fun _ => .done _) fun _ => .done _

theorem passwordTurn_start {calls : Nat → Option AuthCall} (kinds : ∀ i, ∀ call ∈ calls i, PasswordCall call) (i : Nat) :
    PasswordTurn cfg s (calls i) (authCalls cfg calls i) := by
  unfold authCalls
  cases found : calls i with
  | none => exact .none
  | some call =>
    have kind := kinds i call found
    cases call with
    | login username password old mailed draw => exact .plain (fun _ _ _ _ => nofun) (fun _ _ _ => nofun) (keeps_login ..)
    | refresh token draw => exact .plain (fun _ _ _ _ => nofun) (fun _ _ _ => nofun) (keeps_refresh ..)
    | logout token now => exact .plain (fun _ _ _ _ => nofun) (fun _ _ _ => nofun) (keeps_logout ..)
    | changePassword user old new draw => exact .signed
    | resetPassword token new draw => exact .reset
    | _ => exact kind.elim

/-- Sessions stay in force, and a password that is replaced stays so. -/
def purgeInvariant (cfg : AuthConfig) (calls : Nat → Option AuthCall) (fault : Err) :
    Invariant (Table Row) Mark Err Answer InForce fault where
  Inv := SessionsInForce
  Le := Grows
  Ready i s r := PasswordTurn cfg s (calls i) r
  le_refl := Grows.refl
  le_trans := Grows.trans
  ready_le grows turn := turn.grow grows
  aborted := by
    intro i s α body ok err turn
    generalize calls i = call at turn ⊢
    cases turn with
    | plain other another all =>
      cases all with
      | tx _ _ failed => exact .plain other another (failed _)
    | signed => exact .failed _ _
    | change => exact .failed _ _
    | purge set => exact .failed _ _
    | reset => exact .failed _ _
  commits := by
    intro i α body ok err h m sound ordered small turn
    have now : SessionsInForce h.current := sound h.now (Nat.le_refl _)
    have grows : ∀ w : View (Table Row) Mark, Grows h.current (h.commit w) := fun w => ⟨w.log, rfl⟩
    generalize calls i = call at turn ⊢
    cases turn with
    | plain other another all =>
      cases all with
      | tx keeps next failed =>
        refine wp_mono _ (keeps h m sound ordered small) (fun a w kept free admitted => ?_) fun e _ =>
          .plain other another (failed e)
        exact ⟨(kept free admitted).1, grows w, .plain other another (next a)⟩
    | signed =>
      refine wp_mono _ (keeps_apart within_validate h m sound ordered small) (fun a w kept free admitted => ?_) fun e _ =>
        .failed _ e
      exact ⟨(kept free admitted).1, grows w, .change⟩
    | change =>
      refine wp_changeUserPassword (fun w more log aside same _ _ => ?_) fun e => .failed _ e
      refine ⟨now.aside ⟨fun id session stands => ⟨session, ?_, rfl⟩, fun user => ?_⟩ rfl ?_, grows w, .purge ?_⟩
      · exact (same _ fun apart => apart.1 id rfl).symm.trans stands
      · exact same _ fun apart => apart.2 user rfl
      · intro e member
        rw [log] at member
        rcases List.mem_cons.mp member with rfl | later
        · trivial
        · exact aside e later
      · exact ⟨h.current.journal, more, congrArg (h.current.journal ++ ·) log⟩
    | @purge user old new draw set =>
      have before := set.grow (ordered m h.now small (Nat.le_refl _)).choose_spec
      refine wp_deleteSessionsOf fun _ _ ids w _ _ others sessions log _ admitted => ?_
      have grown : (h.commit w).journal = h.current.journal ++ ([] ++ [.purged user.sub ids]) :=
        congrArg (h.current.journal ++ ·) log
      refine ⟨now.purge ⟨fun id session stands => ?_, fun u => others _ fun _ => nofun⟩ grown
        (fun e no => absurd no List.not_mem_nil) (fun id read => ?_) (log ▸ admitted), grows w, .changed (before.purge grown)⟩
      · exact ⟨session, (purge_spares sessions stands).2, rfl⟩
      · exact (sessions id).trans (if_pos read)
    | @reset token new draw =>
      refine wp_resetPassword (fun w user more ids _ _ _ _ _ _ log aside lists sessions _ admitted => ?_) fun e => .failed _ _
      let hash := cfg.bcrypt.hash draw.salt new
      let before : Store (Table Row) Mark := ⟨w.rows, h.current.journal ++ ([.reset token user, .passwordSet user hash] ++ more)⟩
      have grown : (h.commit w).journal = h.current.journal ++ (([.reset token user, .passwordSet user hash] ++ more) ++
        [.purged user ids]) := congrArg (h.current.journal ++ ·) log
      have named : .reset token user ∈ (h.commit w).journal := by simp [grown]
      have set : SetIn before user hash := ⟨h.current.journal ++ [.reset token user], more, by simp [before]⟩
      refine ⟨now.purge ⟨fun id session stands => ?_, lists⟩ grown ?_ (fun id read => ?_) (log ▸ admitted), grows w,
        .wasReset user named (set.purge (grown.trans (List.append_assoc _ _ _).symm))⟩
      · exact ⟨session, (purge_spares sessions stands).2, rfl⟩
      · intro e member
        rcases List.mem_append.mp member with first | later
        · rcases List.mem_cons.mp first with rfl | second
          · trivial
          · obtain rfl := List.mem_singleton.mp second
            trivial
        · exact aside e later
      · exact (sessions id).trans (if_pos read)

end

/-- What a change or a reset of the password promises once it has returned. -/
def AuthCall.Purges (cfg : AuthConfig) (s : Store (Table Row) Mark) : AuthCall → Prop
  | .changePassword user _ new draw => PurgedSince s user.sub (cfg.bcrypt.hash draw.salt new)
  | .resetPassword token new draw =>
    ∃ user, .reset token user ∈ s.journal ∧ PurgedSince s user (cfg.bcrypt.hash draw.salt new)
  | _ => True

/-- Once a change or a reset of the password has returned, no session lives that was opened with an older one. -/
theorem password_change_purges {cfg : AuthConfig} {calls : Nat → Option AuthCall} {d₀ : Db} {fault : Err}
    {c : Conf (Table Row) Mark Err Answer} (kinds : ∀ i, ∀ call ∈ calls i, PasswordCall call)
    (fresh : ∀ id, d₀ (.session id) = none)
    (run : Moves InForce fault (Conf.start ⟨d₀, []⟩ (authCalls cfg calls)) c) (i : Nat) {call : AuthCall}
    (called : calls i = some call) (returned : c.thread i = .idle (.done .done)) : call.Purges cfg c.store := by
  have start : SessionsInForce (⟨d₀, []⟩ : Store (Table Row) Mark) := by
    refine ⟨fun id session stands => ?_, fun id session _ stands => ?_⟩
    · exact absurd ((fresh id).symm.trans stands).symm (Option.some_ne_none session)
    · exact absurd ((fresh id).symm.trans stands).symm (Option.some_ne_none session)
  obtain ⟨sound, threads⟩ := (purgeInvariant cfg calls fault).run_safe start (passwordTurn_start kinds) run
  have turn : PasswordTurn cfg c.store (calls i) (.done .done) := threads i _ returned
  rw [called] at turn
  cases turn with
  | plain other another _ =>
    cases call with
    | changePassword user old new draw => exact absurd rfl (other user old new draw)
    | resetPassword token new draw => exact absurd rfl (another token new draw)
    | _ => trivial
  | changed replaced => exact replaced.purgedSince sound
  | wasReset user named replaced => exact ⟨user, named, replaced.purgedSince sound⟩

instance decideInForce (s : Store (Table Row) Mark) (log : List Mark) : ∀ e : Mark, Decidable (e.inForce s log)
  | .opened _ user (some hash) =>
    inferInstanceAs (Decidable (∀ hashes ∈ (passwords s.journal user).sincePurge, hash ∈ hashes))
  | .purged user sessions =>
    inferInstanceAs (Decidable (∀ id ∈ listed (s.rows (.sessionsOf user)),
      id ∈ sessions ∨ s.rows (.session id) = none ∨ ∀ hash ∈ verifiedHash s.journal id,
        ∀ current ∈ (passwords (s.journal ++ log) user).current, hash = current))
  | .opened _ _ none => isTrue trivial
  | .shopRegistered .. => isTrue trivial
  | .issued .. => isTrue trivial
  | .reuse .. => isTrue trivial
  | .reset .. => isTrue trivial
  | .verified .. => isTrue trivial
  | .tokenSaved .. => isTrue trivial
  | .cleared .. => isTrue trivial
  | .passwordSet .. => isTrue trivial
  | .userSaved .. => isTrue trivial
  | .statusSet .. => isTrue trivial
  | .adminSet .. => isTrue trivial

instance (s : Store (Table Row) Mark) (log : List Mark) : Decidable (InForce s log) :=
  inferInstanceAs (Decidable (∀ e ∈ log, e.inForce s log))

def newPassword : Bytes := ascii "Password2"

/-- A login before the change of the password, and one after it. -/
def logins : Nat → Option AuthCall
  | 0 => some (.login "lan" customerPassword none (sampleDraw 1) (sampleDraw 1))
  | 1 => some (.changePassword ⟨customer, 60⟩ customerPassword newPassword (sampleDraw 2))
  | 2 => some (.login "lan" newPassword none (sampleDraw 3) ⟨sampleUuid 2, [], 180000⟩)
  | _ => none

theorem logins_password (i : Nat) : ∀ call ∈ logins i, PasswordCall call := by
  match i with
  | 0 => rintro _ ⟨⟩; trivial
  | 1 => rintro _ ⟨⟩; trivial
  | 2 => rintro _ ⟨⟩; trivial
  | _ + 3 => rintro _ ⟨⟩

set_option maxRecDepth 4000 in
/-- The session of the first login goes with the change. -/
theorem first_login_purged :
    ∃ c : Conf (Table Row) Mark Err Answer, c.store.rows (.session (sampleUuid 1)) = none ∧
      c.store.rows (.session (sampleUuid 2)) ≠ none ∧
      PurgedSince c.store customer (sampleConfig.bcrypt.hash [] newPassword) := by
  let start : Conf (Table Row) Mark Err Answer := .start ⟨oneCustomer, []⟩ (authCalls sampleConfig logins)
  let schedule := List.replicate 11 0 ++ List.replicate 15 1 ++ List.replicate 11 2
  have obeys : start.Obeys InForce schedule := by decide +kernel
  have found : ∃ c ∈ start.play schedule, c.thread 1 = .idle (.done .done) ∧
      c.store.rows (.session (sampleUuid 1)) = none ∧ c.store.rows (.session (sampleUuid 2)) ≠ none := by
    refine ⟨_, rfl, rfl, ?_⟩
    decide +kernel
  obtain ⟨c, run, returned, purged, stands⟩ := Conf.exists_moves Err.database obeys found
  exact ⟨c, purged, stands, password_change_purges logins_password (fun _ => rfl) run 1 rfl returned⟩

set_option maxRecDepth 4000 in
/-- The first login verifies the old password before the change and saves its session after the purge. -/
theorem not_password_change_purges :
    ¬ ∀ (cfg : AuthConfig) (calls : Nat → Option AuthCall) (d₀ : Db) (c : Conf (Table Row) Mark Err Answer) (i : Nat)
      (call : AuthCall), (∀ i, ∀ call ∈ calls i, PasswordCall call) → (∀ id, d₀ (.session id) = none) →
      Moves (fun _ _ => True) .database (Conf.start ⟨d₀, []⟩ (authCalls cfg calls)) c → calls i = some call →
      c.thread i = .idle (.done .done) → call.Purges cfg c.store := by
  intro claimed
  let hash := sampleConfig.bcrypt.hash [] newPassword
  let old := sampleConfig.bcrypt.hash [] customerPassword
  have found : ∃ c ∈ (Conf.start ⟨oneCustomer, []⟩ (authCalls sampleConfig logins)).play
      (List.replicate 3 0 ++ List.replicate 14 1 ++ List.replicate 8 0), c.thread 1 = .idle (.done .done) ∧
      (c.store.rows (.session (sampleUuid 1))).map (·.user) = some customer ∧
      verifiedHash c.store.journal (sampleUuid 1) = some old ∧ hashesSet c.store.journal customer = [hash] := by
    refine ⟨_, rfl, rfl, ?_⟩
    decide +kernel
  obtain ⟨c, run, returned, stands, verified, set⟩ := Conf.exists_moves Err.database (Conf.obeys_any _ _) found
  obtain ⟨session, stored, own⟩ := Option.map_eq_some_iff.mp stands
  obtain ⟨before, after, split, among⟩ : PurgedSince c.store customer hash :=
    claimed sampleConfig logins oneCustomer c 1 _ logins_password (fun _ => rfl) run rfl returned
  have later : hashesSet (.passwordSet customer hash :: after) customer = hash :: hashesSet after customer := by
    simp [hashesSet]
  rw [split, hashesSet_append, later] at set
  have member := List.mem_append_right (hashesSet before customer) (among (sampleUuid 1) session old stored own verified)
  rw [set] at member
  exact absurd (List.mem_singleton.mp member) (by decide +kernel)

end Marketplace.Accounts
