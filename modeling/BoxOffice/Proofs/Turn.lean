import BoxOffice.Release

/-!
# Dialogues in turns

A dialogue takes a turn when its next question is answered. Carrying it out is taking turns until it
is done, so a dialogue whose turns are taken between those of others does nothing but what it would
do if it were carried out in one go on a partner that changes by itself.
-/
namespace BoxOffice

namespace Dialogue

variable {Question : Type} {Answer : Question → Type} {α σ : Type}

/-- A question and its answer. -/
structure Exchange (Question : Type) (Answer : Question → Type) where
  /-- The question. -/
  question : Question
  /-- The answer. -/
  answer : Answer question

/-- Takes one turn; a dialogue that is done stays so. -/
def turn (answer : (question : Question) → σ → Answer question × σ) :
    Dialogue Question Answer α → σ → Dialogue Question Answer α × σ
  | .done value, partner => (.done value, partner)
  | .ask question next, partner =>
    let given := answer question partner
    (next given.1, given.2)

/-- What is asked and answered in the next turn, unless a dialogue is done. -/
def exchange? (answer : (question : Question) → σ → Answer question × σ) :
    Dialogue Question Answer α → σ → Option (Exchange Question Answer)
  | .done _, _ => none
  | .ask question _, partner => some ⟨question, (answer question partner).1⟩

/-- A dialogue is carried out by taking a turn and carrying out the rest. -/
theorem run_turn (answer : (question : Question) → σ → Answer question × σ)
    (dialogue : Dialogue Question Answer α) (partner : σ) :
    (dialogue.turn answer partner).1.run answer (dialogue.turn answer partner).2 =
      dialogue.run answer partner := by
  cases dialogue <;> rfl

/-- What a dialogue asks next, unless it is done. -/
def question? : Dialogue Question Answer α → Option Question
  | .done _ => none
  | .ask question _ => some question

/-- Whether a dialogue only asks such questions, whatever it is answered. -/
def AsksOnly (Allowed : Question → Prop) : Dialogue Question Answer α → Prop
  | .done _ => True
  | .ask question next => Allowed question ∧ ∀ answer, (next answer).AsksOnly Allowed

/-- A dialogue that goes on only asks such questions if both of its parts do. -/
theorem AsksOnly.bind {β : Type} {Allowed : Question → Prop}
    {dialogue : Dialogue Question Answer α} {next : α → Dialogue Question Answer β}
    (asks : dialogue.AsksOnly Allowed) (asksOn : ∀ value, (next value).AsksOnly Allowed) :
    (dialogue >>= next).AsksOnly Allowed := by
  induction dialogue with
  | done value => exact asksOn value
  | ask question rest ih => exact ⟨asks.1, fun answer => ih answer (asks.2 answer)⟩

/-- Whether something holds of a dialogue and its past now and after all turns that it can take,
whatever it is answered. -/
def Always (Holds : List (Exchange Question Answer) → Dialogue Question Answer α → Prop) :
    List (Exchange Question Answer) → Dialogue Question Answer α → Prop
  | past, .done value => Holds past (.done value)
  | past, .ask question next => Holds past (.ask question next) ∧
    ∀ answer, (next answer).Always Holds (past ++ [⟨question, answer⟩])

section

variable {Holds : List (Exchange Question Answer) → Dialogue Question Answer α → Prop}
  {past : List (Exchange Question Answer)} {dialogue : Dialogue Question Answer α}

/-- What holds always holds now. -/
theorem Always.now (always : dialogue.Always Holds past) : Holds past dialogue := by
  cases dialogue with
  | done value => exact always
  | ask question next => exact always.1

/-- What holds always does so after the next turn. -/
theorem Always.turn (always : dialogue.Always Holds past)
    (answer : (question : Question) → σ → Answer question × σ) (partner : σ) :
    (dialogue.turn answer partner).1.Always Holds
      (past ++ (dialogue.exchange? answer partner).toList) := by
  cases dialogue with
  | done value =>
    simp only [exchange?, Option.toList_none, List.append_nil]
    exact always
  | ask question next => exact always.2 _

/-- What is asked in the next turn is answered by the partner. -/
theorem exchange?_eq_some {answer : (question : Question) → σ → Answer question × σ} {partner : σ}
    {exchange : Exchange Question Answer}
    (asked : dialogue.exchange? answer partner = some exchange) :
    dialogue.question? = some exchange.question ∧
      exchange = ⟨exchange.question, (answer exchange.question partner).1⟩ ∧
        (dialogue.turn answer partner).2 = (answer exchange.question partner).2 := by
  cases dialogue with
  | done value => contradiction
  | ask question next =>
    cases asked
    exact ⟨rfl, rfl, rfl⟩

end

/-- Dialogues that follow one another can be grouped at will, and what is done at once adds nothing.
-/
instance : LawfulMonad (Dialogue Question Answer) :=
  .mk' _
    (fun dialogue => by
      induction dialogue with
      | done value => rfl
      | ask question next ih => exact congrArg (Dialogue.ask question) (funext ih))
    (fun _ _ => rfl)
    (fun dialogue _ _ => by
      induction dialogue with
      | done value => rfl
      | ask question rest ih => exact congrArg (Dialogue.ask question) (funext ih))

end Dialogue

namespace Release

/-- What a timer does about the outcome of a release, which it keeps. -/
def report (id : TrackingId) (outcome : Except Abort ReapOutcome) :
    Program (Except Abort ReapOutcome) :=
  afterReap id outcome >>= fun _ => pure outcome

/-- What the timer of a reservation does when it fires, with what came of it. -/
def watch (id : TrackingId) : Program (Except Abort ReapOutcome) := reap id >>= report id

/-- A timer does the same whether or not what came of it is kept. -/
theorem fire_eq_watch (id : TrackingId) : fire id = watch id >>= fun _ => pure () := by
  simp only [fire, watch, report, bind_assoc, pure_bind, bind_pure_unit]

end Release

end BoxOffice
