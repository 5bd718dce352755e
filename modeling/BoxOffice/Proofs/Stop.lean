import BoxOffice.Dialogue
import BoxOffice.Refusal

/-!
# Dialogues that stop at a failure

A dialogue that may end early stops at a failure if an answer that tells of one is the last it
hears, and the failure is what it ends with. Of such an answer nothing matters but the failure. So
two partners that answer alike as long as nothing fails are asked alike, and they are told apart by
what is noted of their answers: `StopsAt.run_alike` compares two dialogues that leave the same
notes, and `StopsAt.run_failed` says what a note of a failure means.
-/
namespace BoxOffice

/-- Whether something ended early because of a fault of the ledger. -/
def Abort.IsFault (abort : Abort) : Prop := ∃ fault, abort = .refused (.persistence fault)

/-- Whether a result is a fault of the ledger. -/
def HasFailed {α : Type} (result : Except Abort α) : Prop :=
  ∃ abort, result = .error abort ∧ abort.IsFault

/-- Whether two results are the same, unless both are faults of the ledger. -/
def EndsAlike {α : Type} (first second : Except Abort α) : Prop :=
  first = second ∨ HasFailed first ∧ HasFailed second

namespace Dialogue

variable {Question : Type} {Answer : Question → Type} {α β ν σ τ : Type}

/-- Whether a dialogue ends with the first failure that an answer tells of. -/
def StopsAt (failure? : (question : Question) → Answer question → Option Abort) :
    Dialogue Question Answer (Except Abort α) → Prop
  | .done _ => True
  | .ask question next =>
    (∀ answer abort, failure? question answer = some abort →
      next answer = .done (.error abort)) ∧
    ∀ answer, (next answer).StopsAt failure?

/-- What is noted of a dialogue that is carried out, question by question. -/
def noted (answer : (question : Question) → σ → Answer question × σ)
    (note : (question : Question) → σ → List ν) : Dialogue Question Answer α → σ → List ν
  | .done _, _ => []
  | .ask question next, partner =>
    note question partner ++
      (next (answer question partner).1).noted answer note (answer question partner).2

/-- Whoever notes what a partner is asked and changes nothing about its answers has noted a dialogue
when it has been carried out. -/
theorem run_noting {answer : (question : Question) → σ → Answer question × σ}
    {answerToo : (question : Question) → τ → Answer question × τ}
    {note : (question : Question) → σ → List ν} {noting : List ν → σ → τ}
    (notes : ∀ question earlier partner, answerToo question (noting earlier partner) =
      ((answer question partner).1,
        noting (earlier ++ note question partner) (answer question partner).2))
    (dialogue : Dialogue Question Answer α) (earlier : List ν) (partner : σ) :
    dialogue.run answerToo (noting earlier partner) =
      ((dialogue.run answer partner).1,
        noting (earlier ++ dialogue.noted answer note partner)
          (dialogue.run answer partner).2) := by
  induction dialogue generalizing earlier partner with
  | done value => simp only [run, noted, List.append_nil]
  | ask question next ih =>
    simp only [run, noted, notes, ih, List.append_assoc]

section

variable {failure? : (question : Question) → Answer question → Option Abort}

/-- Whether the answer to a question tells of a fault of the ledger. -/
def TellsOfFault (failure? : (question : Question) → Answer question → Option Abort)
    (question : Question) (answer : Answer question) : Prop :=
  ∃ abort, failure? question answer = some abort ∧ abort.IsFault

/-- A dialogue that goes on when nothing has failed stops at a failure if both of its parts do. -/
theorem StopsAt.bind {dialogue : Dialogue Question Answer (Except Abort α)}
    {next : Except Abort α → Dialogue Question Answer (Except Abort β)}
    (stops : dialogue.StopsAt failure?) (stopsOn : ∀ value, (next (.ok value)).StopsAt failure?)
    (ends : ∀ abort, next (.error abort) = .done (.error abort)) :
    (dialogue >>= next).StopsAt failure? := by
  induction dialogue with
  | done result =>
    cases result with
    | ok value => exact stopsOn value
    | error abort =>
      change (next (.error abort)).StopsAt failure?
      rw [ends abort]
      trivial
  | ask question rest ih =>
    refine ⟨fun answer abort told => ?_, fun answer => ih answer (stops.2 answer)⟩
    have stopped : rest answer = .done (.error abort) := stops.1 answer abort told
    change rest answer >>= next = .done (.error abort)
    rw [stopped]
    exact ends abort

variable {answer : (question : Question) → σ → Answer question × σ}
  {note : (question : Question) → σ → List ν}
  {dialogue : Dialogue Question Answer (Except Abort α)}

/-- A dialogue that stops at a failure has failed if a fault has been noted. -/
theorem StopsAt.run_failed {IsFaulty : ν → Prop}
    (shows : ∀ question partner entry, entry ∈ note question partner → IsFaulty entry →
      TellsOfFault failure? question (answer question partner).1)
    (stops : dialogue.StopsAt failure?) {partner : σ} {entry : ν}
    (member : entry ∈ dialogue.noted answer note partner) (faulty : IsFaulty entry) :
    HasFailed (dialogue.run answer partner).1 := by
  induction dialogue generalizing partner with
  | done result => cases member
  | ask question next ih =>
    rcases List.mem_append.mp member with now | later
    · obtain ⟨abort, told, fault⟩ := shows question partner entry now faulty
      have stopped := stops.1 _ abort told
      refine ⟨abort, ?_, fault⟩
      rw [run, stopped]
      rfl
    · exact ih _ (stops.2 _) later

variable {answerToo : (question : Question) → τ → Answer question × τ}
  {noteToo : (question : Question) → τ → List ν} {Twins : σ → τ → Prop}

/-- Two partners that are alike end a dialogue that stops at a failure alike, and stay alike, if the
same has been noted of both. What is noted of anything that follows is the same, too: so the notes
of one dialogue after the other can be compared. -/
theorem StopsAt.run_alike
    (tells : ∀ question first second rest restToo, Twins first second →
      note question first ++ rest = noteToo question second ++ restToo →
        ((answer question first).1 = (answerToo question second).1 ∨
          TellsOfFault failure? question (answer question first).1 ∧
          TellsOfFault failure? question (answerToo question second).1) ∧
        Twins (answer question first).2 (answerToo question second).2 ∧ rest = restToo)
    (stops : dialogue.StopsAt failure?) {first : σ} {second : τ} {rest restToo : List ν}
    (twins : Twins first second)
    (same : dialogue.noted answer note first ++ rest =
      dialogue.noted answerToo noteToo second ++ restToo) :
    EndsAlike (dialogue.run answer first).1 (dialogue.run answerToo second).1 ∧
      Twins (dialogue.run answer first).2 (dialogue.run answerToo second).2 ∧
        rest = restToo := by
  induction dialogue generalizing first second with
  | done result => exact ⟨.inl rfl, twins, same⟩
  | ask question next ih =>
    simp only [noted, List.append_assoc] at same
    obtain ⟨alike, twins, same⟩ := tells question first second _ _ twins same
    simp only [run]
    rcases alike with equal | ⟨⟨abort, told, fault⟩, abortToo, toldToo, faultToo⟩
    -- after equal answers the same is asked next; after two faults nothing is, and they may differ
    · rw [equal] at same ⊢
      exact ih _ (stops.2 _) twins same
    · rw [stops.1 _ abort told, stops.1 _ abortToo toldToo] at same ⊢
      exact ⟨.inr ⟨⟨abort, rfl, fault⟩, abortToo, rfl, faultToo⟩, twins, same⟩

end

end Dialogue

end BoxOffice
