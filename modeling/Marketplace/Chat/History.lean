import Marketplace.Machine
import Mathlib.Data.List.Sort
import Mathlib.Logic.Function.Basic

/-! The history that the bot is asked with: what of a flat list of messages is a question and its answer. -/
namespace Marketplace.Chat

inductive TurnRole where
  | user | model
deriving DecidableEq

structure Turn where
  role : TurnRole
  text : String
deriving DecidableEq

/-- A message of a bot conversation, with the request that wrote it. -/
structure BotMessage where
  id : Nat
  fromBot : Bool
  body : String
  run : Nat
deriving DecidableEq

def historyLimit : Nat := 12

def maxHistoryTurns : Nat := 6

/-- What follows an `appendMessage`. -/
inductive After where
  | ask (question : String) (history : List Turn)
  | reply (answer : String)
  | done

/-- Where a request on the conversation is; `remembered` says that it has the conversation's ids. -/
inductive Stage where
  | idle
  | ensuring (question : String) (cached : Option String)
  | reading (question : String)
  | appending (fromBot : Bool) (body : String) (after : After)
  | inserting (message : BotMessage) (after : After)
  | asking (question : String) (history : List Turn) (remembered : Bool)
  | waiting (remembered : Bool)
  | finished

/-- The history that the request has read. -/
def Stage.history : Stage → Option (List Turn)
  | .appending _ _ (.ask _ history) => some history
  | .inserting _ (.ask _ history) => some history
  | .asking _ history _ => some history
  | _ => none

/-- What the model is asked. -/
structure Prompt where
  history : List Turn
  question : String
deriving DecidableEq

/-- The committed messages in the order of their commits, and what the model was asked. -/
structure BotLog where
  nextId : Nat := 0
  messages : List BotMessage := []
  stages : Nat → Stage := fun _ => .idle
  prompts : List Prompt := []

section
variable {α β : Type}

/-- A question counts if the very next message is an answer. -/
def answered (role : α → TurnRole) : List α → List α
  | question :: answer :: rest =>
    if role question = .user ∧ role answer = .model then question :: answer :: answered role rest
    else answered role (answer :: rest)
  | _ => []

def flatten (pairs : List (α × α)) : List α := pairs.flatMap fun pair => [pair.1, pair.2]

theorem answered_map (f : α → β) (role : β → TurnRole) (l : List α) :
    answered role (l.map f) = (answered (role ∘ f) l).map f := by
  fun_induction answered (role ∘ f) l with
  | case1 question answer rest both ih =>
    have both : role (f question) = .user ∧ role (f answer) = .model := both
    rw [List.map_cons, List.map_cons, answered, if_pos both, ih]
    rfl
  | case2 question answer rest both ih =>
    have both : ¬(role (f question) = .user ∧ role (f answer) = .model) := both
    rw [List.map_cons, List.map_cons, answered, if_neg both]
    exact ih
  | case3 l short =>
    match l with
    | [] => rfl
    | [_] => rfl
    | question :: answer :: rest => exact absurd rfl (short question answer rest)

theorem answered_sublist (role : α → TurnRole) (l : List α) : (answered role l).Sublist l := by
  fun_induction answered role l with
  | case1 question answer rest both ih => exact (ih.cons_cons answer).cons_cons question
  | case2 question answer rest both ih => exact ih.cons question
  | case3 => exact List.nil_sublist _

theorem answered_pairs (role : α → TurnRole) (l : List α) :
    ∃ pairs, answered role l = flatten pairs ∧
      ∀ pair ∈ pairs, role pair.1 = .user ∧ role pair.2 = .model ∧ [pair.1, pair.2] <:+: l := by
  fun_induction answered role l with
  | case1 question answer rest both ih =>
    obtain ⟨pairs, same, adjacent⟩ := ih
    refine ⟨(question, answer) :: pairs, by rw [same]; rfl, ?_⟩
    intro pair mem
    rcases List.mem_cons.mp mem with rfl | mem
    · exact ⟨both.1, both.2, [], rest, rfl⟩
    · obtain ⟨user, model, infix_⟩ := adjacent pair mem
      exact ⟨user, model, infix_.trans (List.suffix_append [question, answer] rest).isInfix⟩
  | case2 question answer rest both ih =>
    obtain ⟨pairs, same, adjacent⟩ := ih
    refine ⟨pairs, same, fun pair mem => ?_⟩
    obtain ⟨user, model, infix_⟩ := adjacent pair mem
    exact ⟨user, model, infix_.trans (List.suffix_cons question (answer :: rest)).isInfix⟩
  | case3 => exact ⟨[], rfl, nofun⟩

@[simp] theorem flatten_length (pairs : List (α × α)) : (flatten pairs).length = 2 * pairs.length := by
  induction pairs with
  | nil => rfl
  | cons pair rest ih =>
    show (flatten rest).length + 1 + 1 = 2 * (rest.length + 1)
    omega

theorem flatten_drop (pairs : List (α × α)) (n : Nat) : (flatten pairs).drop (2 * n) = flatten (pairs.drop n) := by
  induction n generalizing pairs with
  | zero => rfl
  | succ n ih =>
    cases pairs with
    | nil => simp [flatten]
    | cons pair rest => exact ih rest

end

def answeredTurns (turns : List Turn) : List Turn := answered Turn.role turns

def trimHistory (history : List Turn) : List Turn :=
  if history.length ≤ maxHistoryTurns then history else history.drop (history.length - maxHistoryTurns)

/-- The trimming keeps whole pairs. -/
theorem trimHistory_pairs {α : Type} {pairs : List (α × α)} (turn : α → Turn) :
    trimHistory ((flatten pairs).map turn) = (flatten (pairs.drop (pairs.length - 3))).map turn := by
  unfold trimHistory maxHistoryTurns
  rw [List.length_map, flatten_length]
  split
  · rw [Nat.sub_eq_zero_of_le (by omega), List.drop_zero]
  · rw [← List.map_drop, ← flatten_drop]
    congr 2
    omega

theorem trimHistory_bounded (history : List Turn) : (trimHistory history).length ≤ maxHistoryTurns := by
  unfold trimHistory
  split
  · assumption
  · rw [List.length_drop]
    omega

def BotMessage.turn (m : BotMessage) : Turn := ⟨if m.fromBot then .model else .user, m.body⟩

namespace BotLog

def become (s : BotLog) (run : Nat) (stage : Stage) : BotLog :=
  { s with stages := Function.update s.stages run stage }

/-- `ListMessagesBefore` and the turning around, oldest first. -/
def recentMessages (s : BotLog) (limit : Nat) : List BotMessage :=
  ((s.messages.insertionSort fun a b => b.id ≤ a.id).take limit).reverse

def historyFor (s : BotLog) : List Turn := answeredTurns ((s.recentMessages historyLimit).map BotMessage.turn)

def resume : After → Stage
  | .ask question history => .asking question history true
  | .reply answer => .appending true answer .done
  | .done => .finished

def advance (s : BotLog) (run : Nat) : BotLog :=
  match s.stages run with
  | .ensuring question none => s.become run (.reading question)
  | .ensuring question (some answer) => s.become run (.appending false question (.reply answer))
  | .reading question => s.become run (.appending false question (.ask question s.historyFor))
  | .appending fromBot body after =>
    if body = "" then s.become run (resume after)
    else { s with nextId := s.nextId + 1 }.become run (.inserting ⟨s.nextId, fromBot, body, run⟩ after)
  | .inserting message after => { s with messages := s.messages ++ [message] }.become run (resume after)
  | .asking question history remembered =>
    { s with prompts := s.prompts ++ [(⟨trimHistory history, question⟩ : Prompt)] }.become run (.waiting remembered)
  | _ => s

/-- The database or the model fails the request, or its client is gone. -/
def fail (s : BotLog) (run : Nat) : BotLog :=
  match s.stages run with
  | .ensuring question none => s.become run (.asking question [] false)
  | .ensuring _ (some _) => s.become run .finished
  | .reading question => s.become run (.appending false question (.ask question []))
  | .inserting _ after => s.become run (resume after)
  | .asking .. => s.become run .finished
  | .waiting _ => s.become run .finished
  | _ => s

inductive Move where
  | begin (run : Nat) (question : String) (cached : Option String)
  | advance (run : Nat)
  | reply (run : Nat) (text : String)
  | fail (run : Nat)

def act (s : BotLog) : Move → BotLog
  | .begin run question cached =>
    match s.stages run with
    | .idle => s.become run (.ensuring question cached)
    | _ => s
  | .advance run => s.advance run
  | .reply run text =>
    match s.stages run with
    | .waiting true => s.become run (.appending true text .done)
    | .waiting false => s.become run .finished
    | _ => s
  | .fail run => s.fail run

abbrev Reached (guard : BotLog → Move → Prop) : BotLog → Prop := Machine.Reached act guard {}

/-- No message stands between the two. -/
def Follows (messages : List BotMessage) (a b : BotMessage) : Prop :=
  a.id < b.id ∧ ∀ m ∈ messages, ¬(a.id < m.id ∧ m.id < b.id)

/-- The history is of stored questions and answers in turn, the oldest first, each two of them related. -/
def Paired (related : BotMessage → BotMessage → Prop) (s : BotLog) (history : List Turn) : Prop :=
  ∃ pairs : List (BotMessage × BotMessage), history = (flatten pairs).map BotMessage.turn ∧
    (∀ pair ∈ pairs, pair.1 ∈ s.messages ∧ pair.2 ∈ s.messages ∧ pair.1.fromBot = false ∧ pair.2.fromBot = true ∧
      related pair.1 pair.2) ∧
    (flatten pairs).Pairwise fun a b => a.id < b.id

def SameRun (question answer : BotMessage) : Prop := question.run = answer.run

structure HistoryRight (s : BotLog) (history : List Turn) : Prop where
  paired : Paired SameRun s history
  bounded : history.length ≤ maxHistoryTurns

/-- At its commit no message comes between a question and an answer that are not related. -/
def CommitFine (related : BotMessage → BotMessage → Prop) (s : BotLog) : Stage → Prop
  | .inserting message _ => ∀ other ∈ s.messages,
    (other.fromBot = false → message.fromBot = true → Follows s.messages other message → related other message) ∧
    (message.fromBot = false → other.fromBot = true → Follows s.messages message other → related message other)
  | _ => True

def Fine (related : BotMessage → BotMessage → Prop) (s : BotLog) : Move → Prop
  | .advance run => CommitFine related s (s.stages run)
  | _ => True

/-- Every two messages have different ids. -/
def Distinct (messages : List BotMessage) : Prop := messages.Pairwise fun a b => a.id ≠ b.id

theorem newestFirst {messages : List BotMessage} (distinct : Distinct messages) :
    (messages.insertionSort fun a b => b.id ≤ a.id).Pairwise fun a b => b.id < a.id := by
  have sorted := List.pairwise_insertionSort (fun a b : BotMessage => b.id ≤ a.id) messages
  have perm := List.perm_insertionSort (fun a b : BotMessage => b.id ≤ a.id) messages
  have apart : (messages.insertionSort fun a b => b.id ≤ a.id).Pairwise fun a b => a.id ≠ b.id :=
    (perm.pairwise_iff fun ne => Ne.symm ne).mpr distinct
  exact (sorted.and apart).imp fun both => Nat.lt_of_le_of_ne both.1 both.2.symm

theorem recent_sorted {s : BotLog} (distinct : Distinct s.messages) (limit : Nat) :
    (s.recentMessages limit).Pairwise fun a b => a.id < b.id := by
  unfold recentMessages
  rw [List.pairwise_reverse]
  exact (newestFirst distinct).sublist (List.take_sublist ..)

theorem recent_mem {s : BotLog} {limit : Nat} {m : BotMessage} (mem : m ∈ s.recentMessages limit) : m ∈ s.messages := by
  unfold recentMessages at mem
  exact (List.mem_insertionSort _).mp (List.mem_of_mem_take (List.mem_reverse.mp mem))

/-- The recent messages leave out only older ones. -/
theorem recent_newer {s : BotLog} {limit : Nat} {a m : BotMessage} (distinct : Distinct s.messages)
    (recent : a ∈ s.recentMessages limit) (mem : m ∈ s.messages) (newer : a.id < m.id) : m ∈ s.recentMessages limit := by
  unfold recentMessages at recent ⊢
  rw [List.mem_reverse] at recent ⊢
  have sorted := newestFirst distinct
  have mem := (List.mem_insertionSort fun a b : BotMessage => b.id ≤ a.id).mpr mem
  rw [← List.take_append_drop limit (List.insertionSort _ _)] at sorted mem
  rcases List.mem_append.mp mem with taken | dropped
  · exact taken
  · have older := (List.pairwise_append.mp sorted).2.2 a recent m dropped
    omega

theorem follows_of_adjacent {s : BotLog} {limit : Nat} {a b : BotMessage} (distinct : Distinct s.messages)
    (adjacent : [a, b] <:+: s.recentMessages limit) : Follows s.messages a b := by
  have sorted := recent_sorted distinct limit
  have recent : a ∈ s.recentMessages limit := adjacent.subset (List.mem_cons_self ..)
  have whole : ∀ m ∈ s.messages, a.id < m.id → m ∈ s.recentMessages limit :=
    fun m mem newer => recent_newer distinct recent mem newer
  obtain ⟨before, after, split_⟩ := adjacent
  rw [← split_] at sorted whole
  rw [List.pairwise_append, List.pairwise_append] at sorted
  obtain ⟨⟨_, two, first⟩, _, last⟩ := sorted
  refine ⟨List.rel_of_pairwise_cons two (List.mem_singleton.mpr rfl), fun m mem between => ?_⟩
  rcases List.mem_append.mp (whole m mem between.1) with early | late
  · rcases List.mem_append.mp early with older | either
    · have older := first m older a (List.mem_cons_self ..)
      omega
    · simp only [List.mem_cons, List.not_mem_nil, or_false] at either
      rcases either with rfl | rfl
      · exact Nat.lt_irrefl _ between.1
      · exact Nat.lt_irrefl _ between.2
  · have newer := last b (by simp) m late
    omega

/-- Each stored answer right after a stored question is related to it. -/
def Kept (related : BotMessage → BotMessage → Prop) (messages : List BotMessage) : Prop :=
  ∀ question ∈ messages, ∀ answer ∈ messages, question.fromBot = false → answer.fromBot = true →
    Follows messages question answer → related question answer

structure Faithful (related : BotMessage → BotMessage → Prop) (s : BotLog) : Prop where
  distinct : Distinct s.messages
  fresh : ∀ m ∈ s.messages, m.id < s.nextId
  drawn : ∀ run m after, s.stages run = .inserting m after → m.id < s.nextId ∧ ∀ other ∈ s.messages, other.id ≠ m.id
  apart : ∀ run other m n after later, s.stages run = .inserting m after → s.stages other = .inserting n later →
    m.id = n.id → run = other
  kept : Kept related s.messages
  held : ∀ run history, Stage.history (s.stages run) = some history → Paired related s history
  prompts : ∀ prompt ∈ s.prompts, Paired related s prompt.history ∧ prompt.history.length ≤ maxHistoryTurns

variable {related : BotMessage → BotMessage → Prop} {s t : BotLog}

theorem Paired.grow {history : List Turn} (paired : Paired related s history)
    (grows : ∀ m ∈ s.messages, m ∈ t.messages) : Paired related t history := by
  obtain ⟨pairs, same, stored, sorted⟩ := paired
  refine ⟨pairs, same, fun pair mem => ?_, sorted⟩
  obtain ⟨question, answer, rest⟩ := stored pair mem
  exact ⟨grows _ question, grows _ answer, rest⟩

theorem Paired.none : Paired related s [] := ⟨[], rfl, nofun, List.Pairwise.nil⟩

theorem Paired.trim {history : List Turn} (paired : Paired related s history) :
    Paired related s (trimHistory history) := by
  obtain ⟨pairs, same, stored, sorted⟩ := paired
  refine ⟨pairs.drop (pairs.length - 3), by rw [same]; exact trimHistory_pairs _, ?_, ?_⟩
  · exact fun pair mem => stored pair (List.mem_of_mem_drop mem)
  · rw [← flatten_drop]
    exact sorted.sublist (List.drop_sublist ..)

theorem historyFor_paired (distinct : Distinct s.messages) (kept : Kept related s.messages) :
    Paired related s s.historyFor := by
  unfold historyFor answeredTurns
  rw [answered_map]
  obtain ⟨pairs, same, adjacent⟩ := answered_pairs (Turn.role ∘ BotMessage.turn) (s.recentMessages historyLimit)
  refine ⟨pairs, by rw [same], ?_, ?_⟩
  · intro pair mem
    obtain ⟨user, model, infix_⟩ := adjacent pair mem
    have question := recent_mem (infix_.subset (List.mem_cons_self ..))
    have answer := recent_mem (infix_.subset (List.mem_cons_of_mem _ (List.mem_cons_self ..)))
    have asks : pair.1.fromBot = false := by
      cases sender : pair.1.fromBot
      · rfl
      · simp [BotMessage.turn, sender] at user
    have replies : pair.2.fromBot = true := by
      cases sender : pair.2.fromBot
      · simp [BotMessage.turn, sender] at model
      · rfl
    exact ⟨question, answer, asks, replies, kept _ question _ answer asks replies (follows_of_adjacent distinct infix_)⟩
  · rw [← same]
    exact (recent_sorted distinct historyLimit).sublist (answered_sublist ..)

theorem Faithful.become (faithful : Faithful related s) (run : Nat) (stage : Stage)
    (history : ∀ history, stage.history = some history → Paired related s history)
    (outside : ∀ m after, stage ≠ .inserting m after) : Faithful related (s.become run stage) := by
  have stays : ∀ other m after, (s.become run stage).stages other = .inserting m after →
      s.stages other = .inserting m after := by
    intro other m after stands
    by_cases same : other = run
    · subst same
      have stands : Function.update s.stages other stage other = .inserting m after := stands
      rw [Function.update_self] at stands
      exact absurd stands (outside m after)
    · have stands : Function.update s.stages run stage other = .inserting m after := stands
      rwa [Function.update_of_ne same] at stands
  refine ⟨faithful.distinct, faithful.fresh, fun other m after stands => faithful.drawn other m after (stays _ _ _ stands),
    fun r o m n after later first second => faithful.apart r o m n after later (stays _ _ _ first) (stays _ _ _ second),
    faithful.kept, ?_, faithful.prompts⟩
  intro other h holds
  by_cases same : other = run
  · subst same
    have holds : Stage.history (Function.update s.stages other stage other) = some h := holds
    rw [Function.update_self] at holds
    exact history h holds
  · have holds : Stage.history (Function.update s.stages run stage other) = some h := holds
    rw [Function.update_of_ne same] at holds
    exact faithful.held other h holds

theorem resume_history (after : After) (m : BotMessage) :
    (resume after).history = (Stage.inserting m after).history := by
  cases after <;> rfl

theorem Faithful.draw (faithful : Faithful related s) {run : Nat} {fromBot : Bool} {body : String} {after : After}
    (stands : s.stages run = .appending fromBot body after) :
    Faithful related ({ s with nextId := s.nextId + 1 }.become run (.inserting ⟨s.nextId, fromBot, body, run⟩ after)) := by
  have others : ∀ other, other ≠ run →
      ({ s with nextId := s.nextId + 1 }.become run (.inserting ⟨s.nextId, fromBot, body, run⟩ after)).stages other =
        s.stages other := fun other ne => Function.update_of_ne ne ..
  have own : ({ s with nextId := s.nextId + 1 }.become run (.inserting ⟨s.nextId, fromBot, body, run⟩ after)).stages run =
      .inserting ⟨s.nextId, fromBot, body, run⟩ after := Function.update_self ..
  have last : ∀ other m later, other ≠ run → ({ s with nextId := s.nextId + 1 }.become run
      (.inserting ⟨s.nextId, fromBot, body, run⟩ after)).stages other = .inserting m later → m.id < s.nextId := by
    intro other m later ne inserting
    rw [others other ne] at inserting
    exact (faithful.drawn other m later inserting).1
  refine ⟨faithful.distinct, fun m mem => Nat.lt_succ_of_lt (faithful.fresh m mem), ?_, ?_, faithful.kept, ?_,
    faithful.prompts⟩
  · intro other m later inserting
    by_cases same : other = run
    · subst same
      rw [own] at inserting
      cases inserting
      exact ⟨Nat.lt_succ_self _, fun x mem => Nat.ne_of_lt (faithful.fresh x mem)⟩
    · rw [others other same] at inserting
      obtain ⟨lt, ne⟩ := faithful.drawn other m later inserting
      exact ⟨Nat.lt_succ_of_lt lt, ne⟩
  · intro one two m n later latest first second id
    by_cases eq : one = run
    · subst eq
      by_cases same : two = one
      · exact same.symm
      · have lt := last two n latest same second
        rw [own] at first
        cases first
        rw [← id] at lt
        exact absurd lt (Nat.lt_irrefl _)
    · by_cases same : two = run
      · subst same
        have lt := last one m later eq first
        rw [own] at second
        cases second
        rw [id] at lt
        exact absurd lt (Nat.lt_irrefl _)
      · rw [others one eq] at first
        rw [others two same] at second
        exact faithful.apart one two m n later latest first second id
  · intro other h holds
    by_cases same : other = run
    · subst same
      rw [own] at holds
      apply faithful.held other h
      rw [stands]
      cases after <;> exact holds
    · rw [others other same] at holds
      exact faithful.held other h holds

theorem follows_fewer {messages : List BotMessage} {m question answer : BotMessage}
    (follows : Follows (messages ++ [m]) question answer) : Follows messages question answer :=
  ⟨follows.1, fun x mem => follows.2 x (List.mem_append_left _ mem)⟩

theorem Kept.commit {messages : List BotMessage} {m : BotMessage} (kept : Kept related messages)
    (fine : ∀ other ∈ messages,
      (other.fromBot = false → m.fromBot = true → Follows messages other m → related other m) ∧
      (m.fromBot = false → other.fromBot = true → Follows messages m other → related m other)) :
    Kept related (messages ++ [m]) := by
  intro question questionMem answer answerMem asks replies follows
  have follows := follows_fewer follows
  rcases List.mem_append.mp questionMem with questionMem | questionNew
  · rcases List.mem_append.mp answerMem with answerMem | answerNew
    · exact kept question questionMem answer answerMem asks replies follows
    · rw [List.mem_singleton.mp answerNew] at replies follows ⊢
      exact (fine question questionMem).1 asks replies follows
  · rw [List.mem_singleton.mp questionNew] at asks follows ⊢
    rcases List.mem_append.mp answerMem with answerMem | answerNew
    · exact (fine answer answerMem).2 asks replies follows
    · rw [List.mem_singleton.mp answerNew] at replies
      rw [asks] at replies
      cases replies

theorem Faithful.commit (faithful : Faithful related s) {run : Nat} {m : BotMessage} {after : After}
    (stands : s.stages run = .inserting m after) (fine : CommitFine related s (s.stages run)) :
    Faithful related ({ s with messages := s.messages ++ [m] }.become run (resume after)) := by
  rw [stands] at fine
  obtain ⟨lt, ne⟩ := faithful.drawn run m after stands
  have grows : ∀ x ∈ s.messages, x ∈ s.messages ++ [m] := fun x mem => List.mem_append_left _ mem
  have others : ∀ other, other ≠ run →
      ({ s with messages := s.messages ++ [m] }.become run (resume after)).stages other = s.stages other :=
    fun other ne => Function.update_of_ne ne ..
  have own : ({ s with messages := s.messages ++ [m] }.become run (resume after)).stages run = resume after :=
    Function.update_self ..
  have outside : ∀ other x later, ({ s with messages := s.messages ++ [m] }.become run (resume after)).stages other =
      .inserting x later → other ≠ run ∧ s.stages other = .inserting x later := by
    intro other x later inserting
    by_cases same : other = run
    · subst same
      rw [own] at inserting
      cases after <;> cases inserting
    · rw [others other same] at inserting
      exact ⟨same, inserting⟩
  refine ⟨?_, ?_, ?_, ?_, Kept.commit faithful.kept fine, ?_, ?_⟩
  · refine List.pairwise_append.mpr ⟨faithful.distinct, List.pairwise_singleton .., fun x mem y last => ?_⟩
    rw [List.mem_singleton.mp last]
    exact ne x mem
  · intro x mem
    rcases List.mem_append.mp mem with old | new
    · exact faithful.fresh x old
    · rw [List.mem_singleton.mp new]
      exact lt
  · intro other x later inserting
    obtain ⟨apart, inserting⟩ := outside other x later inserting
    obtain ⟨below, distinct⟩ := faithful.drawn other x later inserting
    refine ⟨below, fun y mem => ?_⟩
    rcases List.mem_append.mp mem with old | new
    · exact distinct y old
    · rw [List.mem_singleton.mp new]
      exact fun same => apart (faithful.apart run other m x after later stands inserting same).symm
  · intro one two x y later latest first second
    exact faithful.apart one two x y later latest (outside one x later first).2 (outside two y latest second).2
  · intro other h holds
    apply Paired.grow _ grows
    by_cases same : other = run
    · subst same
      rw [own, resume_history after m, ← stands] at holds
      exact faithful.held other h holds
    · rw [others other same] at holds
      exact faithful.held other h holds
  · intro h mem
    obtain ⟨paired, bounded⟩ := faithful.prompts h mem
    exact ⟨paired.grow grows, bounded⟩

theorem resume_outside (after : After) (m : BotMessage) (later : After) : resume after ≠ .inserting m later := by
  cases after <;> exact nofun

theorem Faithful.resume (faithful : Faithful related s) {run : Nat} {after : After}
    (history : ∀ history, (resume after).history = some history → Paired related s history) :
    Faithful related (s.become run (resume after)) :=
  faithful.become run _ history (resume_outside after)

theorem Faithful.advance (faithful : Faithful related s) (run : Nat) (fine : CommitFine related s (s.stages run)) :
    Faithful related (s.advance run) := by
  have held := faithful.held run
  unfold BotLog.advance
  cases stands : s.stages run <;> try dsimp only
  case ensuring question cached =>
    cases cached with
    | none => exact faithful.become run _ nofun nofun
    | some answer => exact faithful.become run _ nofun nofun
  case reading question =>
    refine faithful.become run _ ?_ nofun
    intro history same
    cases same
    exact historyFor_paired faithful.distinct faithful.kept
  case appending fromBot body after =>
    split
    · apply faithful.resume
      intro history same
      apply held history
      rw [stands]
      cases after <;> exact same
    · exact faithful.draw stands
  case inserting m after => exact faithful.commit stands fine
  case asking question history remembered =>
    have paired : Paired related s history := held history (by rw [stands]; rfl)
    have asked := faithful.become run (.waiting remembered) nofun nofun
    refine { asked with prompts := fun h mem => ?_ }
    rcases List.mem_append.mp mem with old | new
    · exact faithful.prompts h old
    · rw [List.mem_singleton.mp new]
      exact ⟨paired.trim, trimHistory_bounded history⟩
  all_goals exact faithful

theorem Faithful.fail (faithful : Faithful related s) (run : Nat) : Faithful related (s.fail run) := by
  have held := faithful.held run
  unfold BotLog.fail
  cases stands : s.stages run <;> try dsimp only
  case ensuring question cached =>
    cases cached with
    | none =>
      refine faithful.become run _ ?_ nofun
      intro history same
      cases same
      exact Paired.none
    | some answer => exact faithful.become run _ nofun nofun
  case reading question =>
    refine faithful.become run _ ?_ nofun
    intro history same
    cases same
    exact Paired.none
  case inserting m after =>
    apply faithful.resume
    intro history same
    rw [resume_history after m, ← stands] at same
    exact held history same
  case asking => exact faithful.become run _ nofun nofun
  case waiting => exact faithful.become run _ nofun nofun
  all_goals exact faithful

theorem Faithful.act (faithful : Faithful related s) (m : Move) (fine : Fine related s m) :
    Faithful related (s.act m) := by
  cases m with
  | begin run question cached =>
    unfold BotLog.act
    dsimp only
    cases s.stages run <;> try dsimp only
    case idle => exact faithful.become run _ nofun nofun
    all_goals exact faithful
  | advance run => exact faithful.advance run fine
  | reply run text =>
    unfold BotLog.act
    dsimp only
    cases s.stages run <;> try dsimp only
    case waiting remembered =>
      cases remembered
      · exact faithful.become run _ nofun nofun
      · exact faithful.become run _ nofun nofun
    all_goals exact faithful
  | fail run => exact faithful.fail run

theorem faithful_reached {guard : BotLog → Move → Prop} (reached : Reached guard s)
    (fine : ∀ s m, guard s m → Fine related s m) : Faithful related s :=
  reached.invariant ⟨List.Pairwise.nil, nofun, nofun, nofun, nofun, nofun, nofun⟩ fun s m before may =>
    before.act m (fine s m may)

/-- Whatever fails and however requests overlap, the history is of complete pairs, in order and short enough. -/
theorem history_shape (reached : Reached (fun _ _ => True) s) :
    ∀ prompt ∈ s.prompts, Paired (fun _ _ => True) s prompt.history ∧ prompt.history.length ≤ maxHistoryTurns := by
  apply (faithful_reached reached _).prompts
  intro s m _
  cases m with
  | advance run =>
    show CommitFine _ s (s.stages run)
    cases s.stages run with
    | inserting m after => exact fun other mem => ⟨fun _ _ _ => trivial, fun _ _ _ => trivial⟩
    | _ => trivial
  | _ => trivial

theorem history_right (reached : Reached (Fine SameRun) s) :
    ∀ prompt ∈ s.prompts, HistoryRight s prompt.history := by
  intro prompt mem
  obtain ⟨paired, bounded⟩ := (faithful_reached reached fun _ _ fine => fine).prompts prompt mem
  exact ⟨paired, bounded⟩

instance (messages : List BotMessage) (a b : BotMessage) : Decidable (Follows messages a b) :=
  inferInstanceAs (Decidable (_ ∧ _))

instance (question answer : BotMessage) : Decidable (SameRun question answer) := inferInstanceAs (Decidable (_ = _))

instance (s : BotLog) : ∀ stage : Stage, Decidable (CommitFine SameRun s stage)
  | .inserting .. => inferInstanceAs (Decidable (∀ other ∈ s.messages, _ ∧ _))
  | .idle => .isTrue trivial
  | .ensuring .. => .isTrue trivial
  | .reading _ => .isTrue trivial
  | .appending .. => .isTrue trivial
  | .asking .. => .isTrue trivial
  | .waiting _ => .isTrue trivial
  | .finished => .isTrue trivial

instance (s : BotLog) : ∀ m : Move, Decidable (Fine SameRun s m)
  | .advance run => inferInstanceAs (Decidable (CommitFine SameRun s (s.stages run)))
  | .begin .. => .isTrue trivial
  | .reply .. => .isTrue trivial
  | .fail _ => .isTrue trivial

/-- A question that is answered, and one more. -/
def answeredTwice : List Move := [
  .begin 0 "Which shoes are light?" none, .advance 0, .advance 0, .advance 0, .advance 0, .advance 0,
  .reply 0 "The runners.", .advance 0, .advance 0,
  .begin 1 "In red?" none, .advance 1, .advance 1, .advance 1, .advance 1, .advance 1]

theorem answeredTwice_right : ∃ prompt ∈ (Machine.run act {} answeredTwice).prompts,
    prompt = ⟨[⟨.user, "Which shoes are light?"⟩, ⟨.model, "The runners."⟩], "In red?"⟩ ∧
      HistoryRight (Machine.run act {} answeredTwice) prompt.history :=
  ⟨⟨[⟨.user, "Which shoes are light?"⟩, ⟨.model, "The runners."⟩], "In red?"⟩, by decide, rfl,
    history_right (Machine.Reached.run .start (by decide)) _ (by decide)⟩

/-- The first question is not answered, the second not stored, and its answer is. -/
def answerLeft : List Move := [
  .begin 0 "Which shoes are light?" none, .advance 0, .advance 0, .advance 0, .advance 0, .fail 0,
  .begin 1 "How long is delivery?" none, .advance 1, .advance 1, .advance 1, .fail 1, .advance 1,
  .reply 1 "Three days.", .advance 1, .advance 1,
  .begin 2 "Thanks" none, .advance 2, .advance 2, .advance 2, .advance 2, .advance 2]

theorem not_history_right : ¬∀ s, Reached (fun _ _ => True) s →
    ∀ prompt ∈ s.prompts, HistoryRight s prompt.history := by
  intro right
  have reached : Reached (fun _ _ => True) (Machine.run act {} answerLeft) :=
    Machine.Reached.run .start (Machine.canRun_free answerLeft)
  have history := right _ reached ⟨[⟨.user, "Which shoes are light?"⟩, ⟨.model, "Three days."⟩], "Thanks"⟩ (by decide)
  obtain ⟨pairs, same, stored, _⟩ := history.paired
  cases pairs with
  | nil => cases same
  | cons pair rest =>
    obtain ⟨question, answer, asks, replies, run⟩ := stored pair (List.mem_cons_self ..)
    have apart : ∀ question ∈ (Machine.run act {} answerLeft).messages,
        ∀ answer ∈ (Machine.run act {} answerLeft).messages,
          question.fromBot = false → answer.fromBot = true → ¬SameRun question answer := by decide
    exact apart _ question _ answer asks replies run

end BotLog

end Marketplace.Chat
