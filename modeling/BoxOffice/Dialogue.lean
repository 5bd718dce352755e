/-!
# Dialogues

A dialogue either is done with a value or asks a question and goes on with the answer. What a
service does is written as a dialogue with the things around it, so it can be carried out on any
of them, in one go or question by question between those of others. Every dialogue ends.
`Dialogue.run_bind` says that a dialogue that goes on is carried out piece by piece.
-/
namespace BoxOffice

/-- A computation that asks questions. -/
inductive Dialogue (Question : Type) (Answer : Question → Type) (α : Type) : Type where
  /-- The end, with a value. -/
  | done (value : α)
  /-- A question, and how to go on with the answer. -/
  | ask (question : Question) (next : Answer question → Dialogue Question Answer α)

namespace Dialogue

variable {Question : Type} {Answer : Question → Type} {α β σ : Type}

/-- Goes on with the value of a dialogue. -/
def andThen (dialogue : Dialogue Question Answer α) (next : α → Dialogue Question Answer β) :
    Dialogue Question Answer β :=
  match dialogue with
  | .done value => next value
  | .ask question rest => .ask question fun answer => (rest answer).andThen next

instance : Monad (Dialogue Question Answer) where
  pure := .done
  bind := andThen

/-- Carries out a dialogue with a partner that changes with every answer. -/
def run (answer : (question : Question) → σ → Answer question × σ) :
    Dialogue Question Answer α → σ → α × σ
  | .done value, partner => (value, partner)
  | .ask question next, partner =>
    let given := answer question partner
    (next given.1).run answer given.2

/-- What is done is carried out at once. -/
@[simp]
theorem run_pure (answer : (question : Question) → σ → Answer question × σ) (value : α)
    (partner : σ) :
    (pure value : Dialogue Question Answer α).run answer partner = (value, partner) :=
  rfl

/-- A dialogue that goes on is carried out piece by piece. -/
@[simp]
theorem run_bind (answer : (question : Question) → σ → Answer question × σ)
    (dialogue : Dialogue Question Answer α) (next : α → Dialogue Question Answer β)
    (partner : σ) :
    (dialogue >>= next).run answer partner =
      (next (dialogue.run answer partner).1).run answer (dialogue.run answer partner).2 := by
  induction dialogue generalizing partner with
  | done value => rfl
  | ask question rest ih => exact ih (answer question partner).1 (answer question partner).2

end Dialogue

end BoxOffice
