import Marketplace.Chat.Store

/-! The last message that a conversation shows in the inbox. -/
namespace Marketplace.Chat.ChatStore

def preview (m : Message) : String := truncateRunes m.body previewRuneLimit

def Shows (c : Conversation) (last : Option Message) : Prop :=
  c.lastMessageAt = last.map Message.createdAt ∧ c.lastMessagePreview = last.map preview

/-- The newest message in the order in which they are listed. -/
def Newest (s : ChatStore) (conversation : Nat) (m : Message) : Prop :=
  m ∈ s.messagesOf conversation ∧ ∀ other ∈ s.messagesOf conversation, other.id ≤ m.id

instance (s : ChatStore) (conversation : Nat) (m : Message) : Decidable (Newest s conversation m) :=
  inferInstanceAs (Decidable (_ ∧ _))

/-- Each conversation shows the message whose transaction committed last. -/
def ShowsLast (s : ChatStore) : Prop :=
  ∀ id c, s.conversations id = some c → Shows c (s.messagesOf id).getLast?

theorem messagesOf_committed {s t : ChatStore} {m : Message} (same : t.messages = s.messages ++ [m]) (id : Nat) :
    t.messagesOf id = s.messagesOf id ++ if m.conversation = id then [m] else [] := by
  unfold messagesOf
  rw [same, List.filter_append]
  by_cases eq : m.conversation = id <;> simp [eq]

/-- No message is older than its conversation. -/
theorem messagesOf_fresh {s : ChatStore} (sound : Sound s) : s.messagesOf s.nextId = [] := by
  apply List.filter_eq_nil_iff.mpr
  intro m sent same
  obtain ⟨p, row, _⟩ := sound.sent m sent
  obtain ⟨c, found, _⟩ := (sound.seated _ _ p row).2
  have lt := sound.fresh _ c found
  rw [of_decide_eq_true same] at lt
  exact absurd lt (Nat.lt_irrefl _)

theorem ShowsLast.act {s : ChatStore} (sound : Sound s) (shows_ : ShowsLast s) (m : Move) : ShowsLast (s.act m) := by
  intro id c found
  rcases act_writes s m with ⟨conversations, _, messages, _⟩ | ⟨buyer, shop, conversations, _, messages, _⟩ |
    ⟨_, _, _, _, _, conversations, messages, _⟩ | ⟨_, message, _, _, conversations, messages, _, _⟩ |
    ⟨_, _, _, _, _, _, _, _, _, _, conversations, messages⟩
  · rw [conversations] at found
    rw [messagesOf_congr messages]
    exact shows_ id c found
  · rw [conversations] at found
    rw [messagesOf_congr messages]
    by_cases eq : id = s.nextId
    · subst eq
      have found : Function.update s.conversations s.nextId _ s.nextId = some c := found
      rw [Function.update_self] at found
      cases found
      rw [messagesOf_fresh sound]
      exact ⟨rfl, rfl⟩
    · have found : Function.update s.conversations s.nextId _ id = some c := found
      rw [Function.update_of_ne eq] at found
      exact shows_ id c found
  · rw [conversations] at found
    rw [messagesOf_congr messages]
    exact shows_ id c found
  · rw [conversations] at found
    rw [messagesOf_committed messages]
    have found : Function.update s.conversations message.conversation _ id = some c := found
    by_cases eq : message.conversation = id
    · subst eq
      rw [Function.update_self] at found
      obtain ⟨before, _, same⟩ := Option.map_eq_some_iff.mp found
      rw [if_pos rfl, List.getLast?_append, ← same]
      exact ⟨rfl, rfl⟩
    · rw [Function.update_of_ne (Ne.symm eq)] at found
      rw [if_neg eq, List.append_nil]
      exact shows_ id c found
  · rw [conversations] at found
    rw [messagesOf_congr messages]
    exact shows_ id c found

theorem showsLast_reached {guard : ChatStore → Move → Prop} {s : ChatStore} (reached : Reached guard s) :
    ShowsLast s := by
  have both : Sound s ∧ ShowsLast s := by
    refine reached.invariant (P := fun s => Sound s ∧ ShowsLast s) ⟨sound_start, nofun⟩ ?_
    intro s m before _
    exact ⟨before.1.act m, before.2.act before.1 m⟩
  exact both.2

/-- A conversation shows its newest message where that is also the last to commit, or looks the same. -/
theorem newest_shown {s : ChatStore} (reached : Reached (fun _ _ => True) s) {id : Nat} {c : Conversation}
    (found : s.conversations id = some c) {newest : Message} (isNewest : Newest s id newest) :
    Shows c (some newest) ↔ ∃ last, (s.messagesOf id).getLast? = some last ∧
      last.createdAt = newest.createdAt ∧ preview last = preview newest := by
  obtain ⟨at_, text⟩ := showsLast_reached reached id c found
  have nonempty : s.messagesOf id ≠ [] := List.ne_nil_of_mem isNewest.1
  obtain ⟨last, committed⟩ := Option.isSome_iff_exists.mp (List.getLast?_isSome.mpr nonempty)
  rw [committed] at at_ text
  constructor
  · rintro ⟨sameAt, sameText⟩
    rw [at_] at sameAt
    rw [text] at sameText
    exact ⟨last, committed, Option.some.inj sameAt, Option.some.inj sameText⟩
  · rintro ⟨other, same, sameAt, sameText⟩
    rw [committed] at same
    cases same
    exact ⟨by rw [at_]; exact congrArg some sameAt, by rw [text]; exact congrArg some sameText⟩

/-- Buyer 1 opens a conversation with shop 5, and sends two more messages at once. -/
def twoAtOnce : List Move :=
  [.openWith 0 1 5 none "a", .advance 0, .advance 0, .advance 0, .advance 0, .advance 0, .advance 0, .advance 0,
    .advance 0, .advance 0,
    .send 1 0 1 none "b", .advance 1, .advance 1, .advance 1, .advance 1, .tick 1, .advance 1,
    .send 2 0 1 none "c", .advance 2, .advance 2, .advance 2, .advance 2, .tick 2, .advance 2]

/-- The message with the greater id is the last to commit. -/
def inOrder : List Move :=
  twoAtOnce ++ [.advance 1, .advance 1, .advance 1, .advance 2, .advance 2, .advance 2]

/-- The message with the smaller id is the last to commit. -/
def overtaken : List Move :=
  twoAtOnce ++ [.advance 2, .advance 2, .advance 2, .advance 1, .advance 1, .advance 1]

def secondMessage : Message := { id := 4, conversation := 0, sender := 1, sentBy := 1, body := "c", createdAt := 2 }

def shownRow (lastMessageAt : Nat) (lastMessagePreview : String) : Conversation :=
  { owner := 1, shop := 5, lastMessageAt := some lastMessageAt, lastMessagePreview := some lastMessagePreview }

theorem inOrder_shown : Shows (shownRow 2 "c") (some secondMessage) :=
  (newest_shown (s := Machine.run act {} inOrder) (Machine.Reached.start.run (Machine.canRun_free inOrder))
    (by decide : _ = some (shownRow 2 "c")) (by decide : Newest _ 0 secondMessage)).mpr
    ⟨secondMessage, by decide, rfl, rfl⟩

theorem not_newest_shown : ¬ ∀ s : ChatStore, Reached (fun _ _ => True) s → ∀ id c newest,
    s.conversations id = some c → Newest s id newest → Shows c (some newest) := by
  intro all
  have reached : Reached (fun _ _ => True) (Machine.run act {} overtaken) :=
    Machine.Reached.start.run (Machine.canRun_free overtaken)
  obtain ⟨at_, _⟩ := all _ reached 0 (shownRow 1 "b") secondMessage (by decide) (by decide)
  exact absurd at_ (by decide)

end Marketplace.Chat.ChatStore
