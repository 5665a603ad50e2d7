import Marketplace.Chat.Store

/-! Who is let into a direct conversation, and as what. -/
namespace Marketplace.Chat.ChatStore

/-- The buyer and the owner of the shop, as the shop service reported it, and no one else. -/
def Access.Correct (s : ChatStore) (a : Access) : Prop :=
  ∃ c, s.conversations a.conversation = some c ∧
    (a.allowed = true ↔ a.user = c.owner ∨ a.viewerShop = some c.shop)

/-- Where a participant row decides, the buyer has one and no one else. -/
def SeatTells (s : ChatStore) : Statement → Prop
  | .checking conversation user _ _ => ∀ c ∈ s.conversations conversation,
    (s.participants conversation user).isSome = true ↔ user = c.owner
  | _ => True

def SeatsTell (s : ChatStore) : Move → Prop
  | .advance request => SeatTells s (s.requests request)
  | _ => True

/-- A request gets to the participant rows when the reported shop is another. -/
def Checked (s : ChatStore) : Statement → Prop
  | .checking conversation _ viewerShop _ => ∃ c, s.conversations conversation = some c ∧ viewerShop ≠ some c.shop
  | _ => True

structure Judged (s : ChatStore) : Prop where
  accesses : ∀ a ∈ s.accesses, Access.Correct s a
  checked : ∀ request, Checked s (s.requests request)

theorem Access.Correct.grow {s t : ChatStore} {a : Access} (correct : Access.Correct s a) (grows : Grows s t) :
    Access.Correct t a := by
  obtain ⟨c, found, allowed⟩ := correct
  obtain ⟨d, later, owner, shop⟩ := grows.conversations _ _ found
  exact ⟨d, later, by rw [owner, shop]; exact allowed⟩

theorem Checked.grow {s t : ChatStore} {statement : Statement} (checked : Checked s statement) (grows : Grows s t) :
    Checked t statement := by
  cases statement with
  | checking conversation user viewerShop purpose =>
    obtain ⟨c, found, other⟩ := checked
    obtain ⟨d, later, _, shop⟩ := grows.conversations _ _ found
    exact ⟨d, later, by rw [shop]; exact other⟩
  | _ => trivial

@[simp] theorem seated_accesses (s : ChatStore) (request conversation user participant : Nat) (purpose : Purpose) :
    (s.seated request conversation user participant purpose).accesses = s.accesses := by
  cases purpose <;> rfl

/-- No answer but right ones. -/
def Answers (s t : ChatStore) : Prop :=
  ∃ answers, t.accesses = s.accesses ++ answers ∧ ∀ a ∈ answers, Access.Correct t a

theorem Answers.none {s t : ChatStore} (same : t.accesses = s.accesses) : Answers s t :=
  ⟨[], by rw [same, List.append_nil], nofun⟩

theorem Answers.one {s t : ChatStore} {a : Access} (answered : t.accesses = s.accesses ++ [a])
    (correct : Access.Correct t a) : Answers s t := by
  refine ⟨[a], answered, fun b mem => ?_⟩
  rw [List.mem_singleton.mp mem]
  exact correct

theorem opened_answers {s t : ChatStore} {id buyer : Nat} (answered : t.accesses = s.accesses ++ [⟨id, buyer, .none, true⟩])
    (opened : ∃ c, t.conversations id = some c ∧ c.owner = buyer) : Answers s t := by
  obtain ⟨c, found, owner⟩ := opened
  exact Answers.one answered ⟨c, found, fun _ => .inl owner.symm, fun _ => rfl⟩

theorem authorized_answers {s : ChatStore} {conversation user : Nat} {viewerShop : Option Nat} {c : Conversation}
    (found : s.conversations conversation = some c) (entitled : user = c.owner ∨ viewerShop = some c.shop)
    (request : Nat) (purpose : Purpose) :
    Answers s ((s.answer conversation user viewerShop true).authorized request conversation user c purpose) := by
  cases purpose <;> exact Answers.one rfl ⟨c, found, fun _ => entitled, fun _ => rfl⟩

theorem advance_answers {s : ChatStore} {request : Nat} (sound : Sound s) (checked : Checked s (s.requests request))
    (tell : SeatsTell s (.advance request)) : Answers s (s.advance request) := by
  unfold ChatStore.advance
  cases stands : s.requests request <;> dsimp only <;> try exact Answers.none rfl
  case finding buyer shop body =>
    cases index : s.direct buyer shop with
    | none => exact Answers.none rfl
    | some id =>
      obtain ⟨c, found, owner, _⟩ := sound.direct buyer shop id index
      exact opened_answers rfl ⟨c, found, owner⟩
  case creating buyer shop body =>
    cases s.direct buyer shop with
    | some id => exact Answers.none rfl
    | none =>
      obtain ⟨c, found, owner, _⟩ := (sound.createConversation buyer shop).direct buyer shop s.nextId
        (by simp [createConversation])
      exact opened_answers rfl ⟨c, found, owner⟩
  case refinding buyer shop body =>
    cases index : s.direct buyer shop with
    | none => exact Answers.none rfl
    | some id =>
      obtain ⟨c, found, owner, _⟩ := sound.direct buyer shop id index
      exact opened_answers rfl ⟨c, found, owner⟩
  case asking conversation user viewerShop purpose =>
    cases found : s.conversations conversation with
    | none => exact Answers.none rfl
    | some c =>
      dsimp only
      split
      · rename_i reported
        exact authorized_answers found (.inr reported) request purpose
      · exact Answers.none rfl
  case checking conversation user viewerShop purpose =>
    rw [stands] at checked
    obtain ⟨c, found, other⟩ := checked
    have tells : (s.participants conversation user).isSome ↔ user = c.owner := by
      rw [SeatsTell, stands] at tell
      exact tell c found
    rw [found]
    cases row : s.participants conversation user with
    | some p => exact authorized_answers found (.inl (tells.mp (by rw [row]; rfl))) request purpose
    | none =>
      have stranger : user ≠ c.owner := by
        intro owner
        have seated := tells.mpr owner
        rw [row] at seated
        cases seated
      refine Answers.one rfl ⟨c, found, (by rintro ⟨⟩), ?_⟩
      rintro (owner | reported)
      · exact absurd owner stranger
      · exact absurd reported other
  case looking conversation user role purpose =>
    cases s.participants conversation user
    · exact Answers.none rfl
    · exact Answers.none (seated_accesses ..)
  case adding conversation user role purpose =>
    cases s.participants conversation user
    · exact Answers.none (seated_accesses ..)
    · exact Answers.none rfl
  case relooking conversation user role purpose =>
    cases s.participants conversation user
    · exact Answers.none rfl
    · exact Answers.none (seated_accesses ..)
  case touching m => cases s.locks m.conversation <;> exact Answers.none rfl

theorem seated_checked (s t : ChatStore) (request conversation user participant : Nat) (purpose : Purpose) :
    Checked t ((s.seated request conversation user participant purpose).requests request) := by
  cases purpose <;> simp [seated, Checked]

theorem authorized_checked (s t : ChatStore) (request conversation user : Nat) (c : Conversation) (purpose : Purpose) :
    Checked t ((s.authorized request conversation user c purpose).requests request) := by
  cases purpose <;> simp [ChatStore.authorized, Checked]

theorem advance_checked (s : ChatStore) (request : Nat) :
    Checked (s.advance request) ((s.advance request).requests request) := by
  unfold ChatStore.advance
  cases stands : s.requests request <;> dsimp only
  case finding buyer shop body => cases s.direct buyer shop <;> simp [Checked]
  case creating buyer shop body => cases s.direct buyer shop <;> simp [Checked]
  case refinding buyer shop body => cases s.direct buyer shop <;> simp [Checked]
  case asking conversation user viewerShop purpose =>
    cases found : s.conversations conversation with
    | none => simp [Checked]
    | some c =>
      dsimp only
      split
      · exact authorized_checked ..
      · rename_i other
        rw [become_self]
        exact ⟨c, found, other⟩
  case checking conversation user viewerShop purpose =>
    cases s.conversations conversation with
    | none => simp [Checked]
    | some c =>
      cases s.participants conversation user with
      | none => simp [Checked]
      | some p => exact authorized_checked ..
  case looking conversation user role purpose =>
    cases s.participants conversation user
    · simp [Checked]
    · exact seated_checked ..
  case adding conversation user role purpose =>
    cases s.participants conversation user
    · exact seated_checked ..
    · simp [Checked]
  case relooking conversation user role purpose =>
    cases s.participants conversation user
    · simp [Checked]
    · exact seated_checked ..
  case touching m => cases s.locks m.conversation <;> simp [Checked, stands]
  all_goals simp [Checked, stands]

theorem Judged.of_grows {s t : ChatStore} (judged : Judged s) (grows : Grows s t) (answers : Answers s t)
    (checked : ∀ request, t.requests request = s.requests request ∨ Checked t (t.requests request)) : Judged t where
  accesses := by
    obtain ⟨new, same, right⟩ := answers
    intro a mem
    rw [same] at mem
    rcases List.mem_append.mp mem with old | new
    · exact (judged.accesses a old).grow grows
    · exact right a new
  checked request := by
    rcases checked request with same | checked
    · rw [same]
      exact (judged.checked request).grow grows
    · exact checked

theorem start_accesses (s : ChatStore) (request : Nat) (statement : Statement) :
    (s.start request statement).accesses = s.accesses := by
  unfold ChatStore.start
  split <;> rfl

theorem Judged.start {s : ChatStore} (judged : Judged s) (request : Nat) {statement : Statement}
    (unchecked : ∀ t, Checked t statement) : Judged (s.start request statement) := by
  apply judged.of_grows (start_grows s request statement) (Answers.none (start_accesses s request statement))
  intro other
  rcases start_requests s request statement other with same | ⟨_, started⟩
  · exact .inl same
  · exact .inr (by rw [started]; exact unchecked _)

theorem Judged.act {s : ChatStore} {m : Move} (sound : Sound s) (judged : Judged s) (tell : SeatsTell s m) :
    Judged (s.act m) := by
  cases m with
  | tick now => exact ⟨judged.accesses, judged.checked⟩
  | openWith request buyer shop viewerShop body =>
    unfold ChatStore.act
    dsimp only
    split <;> exact judged.start request fun _ => trivial
  | read request conversation user viewerShop => exact judged.start request fun _ => trivial
  | send request conversation user viewerShop body => exact judged.start request fun _ => trivial
  | mark request conversation user viewerShop => exact judged.start request fun _ => trivial
  | advance request =>
    apply judged.of_grows (advance_grows sound request) (advance_answers sound (judged.checked request) tell)
    intro other
    by_cases eq : other = request
    · exact .inr (by rw [eq]; exact advance_checked s request)
    · exact .inl (advance_other s eq)
  | fail request =>
    have grows := act_grows sound (.fail request)
    have same : (s.act (.fail request)).accesses = s.accesses := by
      show (s.fail request).accesses = s.accesses
      unfold ChatStore.fail
      cases s.requests request <;> rfl
    apply judged.of_grows grows (Answers.none same)
    intro other
    rcases fail_requests s request other with same | failed
    · exact .inl same
    · exact .inr (by rw [show (s.act (.fail request)).requests other = .failed from failed]; trivial)

instance (s : ChatStore) (statement : Statement) : Decidable (SeatTells s statement) :=
  match statement with
  | .checking conversation user _ _ => inferInstanceAs (Decidable (∀ c ∈ s.conversations conversation,
    (s.participants conversation user).isSome = true ↔ user = c.owner))
  | .idle | .finding .. | .creating .. | .refinding .. | .asking .. | .looking .. | .adding .. | .relooking ..
  | .appending .. | .beginning _ | .inserting _ | .touching _ | .committing _ | .markingRead .. | .finished
  | .failed => .isTrue trivial

instance (s : ChatStore) (m : Move) : Decidable (SeatsTell s m) :=
  match m with
  | .advance request => inferInstanceAs (Decidable (SeatTells s (s.requests request)))
  | .tick _ | .openWith .. | .read .. | .send .. | .mark .. | .fail _ => .isTrue trivial

/-- Buyer 1 writes to shop 5, whose owner 2 answers. -/
def answered : List Move :=
  [.openWith 0 1 5 none "con hang khong?", .advance 0, .advance 0, .advance 0, .advance 0, .advance 0, .advance 0,
    .advance 0, .advance 0, .advance 0,
    .send 1 0 2 (some 5) "con", .advance 1, .advance 1, .advance 1, .advance 1, .advance 1, .advance 1, .advance 1,
    .advance 1,
    .read 2 0 1 none, .advance 2, .advance 2, .read 3 0 3 none, .advance 3, .advance 3]

/-- User 2 has sold the shop after the answer, and reads on. -/
def sold : List Move := answered ++ [.read 4 0 2 none, .advance 4, .advance 4]

end Marketplace.Chat.ChatStore
