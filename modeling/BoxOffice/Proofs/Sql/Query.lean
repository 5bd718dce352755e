import BoxOffice.Proofs.Sql.Discipline

/-!
# Queries that keep to the discipline

What is done within a transaction is told by a precondition and a postcondition on the statements of
the transaction so far. `Keeps` is about anything that is done with a session at hand, and is put
together piece by piece; `sends_answer` says it of the queries of a ledger. A query leaves all
statements met, except that tickets which were to be held or sold have to be counted afterwards.
-/
namespace BoxOffice.Sql

/-- Whether all statements of a transaction are met. -/
def AllMet (past : List Exchange) : Prop := ∀ exchange ∈ past, exchange.IsMet

section Keeps

variable {σ ε α β : Type} {session : σ → Session} {before : List Exchange → Prop}

/-- Whether something that is done in a transaction keeps to the discipline, and the transaction
goes on if it gives a value: where the precondition held, the postcondition holds. -/
def Keeps (session : σ → Session) (before : List Exchange → Prop) (act : σ → Except ε α × σ)
    (after : α → List Exchange → Prop) : Prop :=
  ∀ state past, (session state).IsWorking past → before past →
    IsDisciplined (session (act state).2).log ∧
      ∀ value, (act state).1 = .ok value →
        ∃ later, (session (act state).2).IsWorking later ∧ after value later

variable {between after : α → List Exchange → Prop} {act : σ → Except ε α × σ}

/-- What gives a value at once keeps to the discipline. -/
theorem keeps_done {value : α} (holds : ∀ past, before past → after value past) :
    Keeps (ε := ε) session before (fun state => (.ok value, state)) after := by
  intro state past working was
  refine ⟨working.disciplined, fun found given => ?_⟩
  cases given
  exact ⟨past, working, holds past was⟩

/-- What ends early keeps to the discipline. -/
theorem keeps_stop {error : ε} :
    Keeps (α := α) session before (fun state => (.error error, state)) after := by
  intro state past working was
  exact ⟨working.disciplined, nofun⟩

/-- What is done one after the other keeps to the discipline if both do. -/
theorem Keeps.andThen {next : α → σ → Except ε β × σ} {whole : σ → Except ε β × σ}
    {last : β → List Exchange → Prop} (first : Keeps session before act between)
    (rest : ∀ value, Keeps session (between value) (next value) last)
    (joined : ∀ state, whole state =
      match act state with
      | (.ok value, later) => next value later
      | (.error error, later) => (.error error, later)) :
    Keeps session before whole last := by
  intro state past working was
  obtain ⟨disciplined, goes⟩ := first state past working was
  rw [joined]
  generalize act state = acted at disciplined goes ⊢
  obtain ⟨result, place⟩ := acted
  cases result with
  | error error => exact ⟨disciplined, nofun⟩
  | ok value =>
    obtain ⟨middle, still, holds⟩ := goes value rfl
    exact rest value place middle still holds

/-- What keeps to the discipline does so under a stronger precondition, for a weaker postcondition.
-/
theorem Keeps.mono {stronger : List Exchange → Prop} {weaker : α → List Exchange → Prop}
    (keeps : Keeps session before act after) (strong : ∀ past, stronger past → before past)
    (weak : ∀ value past, after value past → weaker value past) :
    Keeps session stronger act weaker := by
  intro state past working was
  obtain ⟨disciplined, goes⟩ := keeps state past working (strong past was)
  refine ⟨disciplined, fun value given => ?_⟩
  obtain ⟨later, still, holds⟩ := goes value given
  exact ⟨later, still, weak value later holds⟩

end Keeps

/-- Two statuses with the same name are the same. -/
theorem name_injective {first second : TicketStatus} (same : first.name = second.name) :
    first = second := by
  have read := TicketStatus.ofName?_name first
  rw [same, TicketStatus.ofName?_name] at read
  exact (Option.some.inj read).symm

end BoxOffice.Sql

namespace BoxOffice.Database

open Sql

variable {α β : Type} {before : List Exchange → Prop} {between after : α → List Exchange → Prop}

/-- Whether queries keep to the discipline. -/
def Sends (before : List Exchange → Prop) (queries : Exchanging α)
    (after : α → List Exchange → Prop) : Prop :=
  Keeps (fun session : Session => session) before queries.run.run after

/-- A value is given at once. -/
theorem sends_pure {value : α} (holds : ∀ past, before past → after value past) :
    Sends before (pure value) after :=
  keeps_done holds

/-- A fault ends the queries. -/
theorem sends_throw {fault : Fault} : Sends before (throw fault : Exchanging α) after :=
  keeps_stop

/-- A result that is at hand is given at once, or it ends the queries. -/
theorem sends_result (result : Except Fault α) :
    Sends before (ExceptT.mk (pure result)) fun _ => before := by
  cases result with
  | error fault => exact keeps_stop
  | ok value => exact keeps_done fun _ holds => holds

/-- Queries that go on keep to the discipline if all do. -/
theorem sends_bind {queries : Exchanging α} {next : α → Exchanging β}
    {last : β → List Exchange → Prop} (first : Sends before queries between)
    (rest : ∀ value, Sends (between value) (next value) last) :
    Sends before (queries >>= next) last := by
  refine Keeps.andThen first rest fun session => ?_
  rw [ExceptT.run_bind, StateT.run_bind]
  generalize queries.run.run session = asked
  obtain ⟨result, later⟩ := asked
  cases result <;> rfl

/-- A query that asks for no move that is not allowed is sent and noted. -/
theorem sends_send {text : String} {parameters : List Parameter}
    (lawful : (Statement.query text parameters).IsLawful) :
    Sends before (send text parameters) fun reply later =>
      ∃ past, before past ∧ later = past ++ [⟨.query text parameters, .ok reply⟩] := by
  intro session past working was
  obtain ⟨disciplined, goes⟩ := working.ask lawful
  refine ⟨disciplined, fun reply given => ?_⟩
  exact ⟨_, goes reply given, past, was, rfl⟩

/-- A query that writes no tickets leaves all statements met. -/
theorem sends_other {text : String} (parameters : List Parameter)
    (other : (Statement.query text []).updatesTickets = false) :
    Sends AllMet (send text parameters) fun _ => AllMet := by
  have lawful := isLawful_of_other parameters other
  refine (sends_send lawful).mono (fun _ met => met) fun reply later noted => ?_
  obtain ⟨past, met, rfl⟩ := noted
  intro exchange member
  rcases List.mem_append.mp member with old | new
  · exact met exchange old
  · rw [List.mem_singleton.mp new]
    refine ⟨reply, rfl, fun current next tickets _ asks => ?_⟩
    have updates : (Statement.query text []).updatesTickets = true := asks.1
    rw [other] at updates
    contradiction

/-- A query that moves tickets leaves all statements met, if they are given back or as many rows
were affected as there are tickets. -/
theorem sends_move {current next : TicketStatus} (tickets : List Uuid)
    (allowed : current.canBecome next = true) :
    Sends AllMet (send updateTickets [.text next.name, .uuids tickets, .text current.name])
      fun reply past => next = .available ∨ reply.affected = tickets.length → AllMet past := by
  have updates : (Statement.query updateTickets []).updatesTickets = true := by decide +kernel
  have asked : (Statement.query updateTickets
      [.text next.name, .uuids tickets, .text current.name]).Moves current next tickets :=
    ⟨updates, updateTickets, rfl⟩
  have lawful : (Statement.query updateTickets
      [.text next.name, .uuids tickets, .text current.name]).IsLawful := fun _ =>
    ⟨current, next, tickets, mem_moves.mpr allowed, asked⟩
  refine (sends_send lawful).mono (fun _ met => met) fun reply later noted counted => ?_
  obtain ⟨past, met, rfl⟩ := noted
  intro exchange member
  rcases List.mem_append.mp member with old | new
  · exact met exchange old
  · rw [List.mem_singleton.mp new]
    refine ⟨reply, rfl, fun other reached others held asks => ?_⟩
    obtain ⟨-, text, same⟩ := asks
    simp only [Statement.query.injEq, List.cons.injEq, Parameter.text.injEq,
      Parameter.uuids.injEq] at same
    obtain ⟨-, name, own, -⟩ := same
    rw [← name_injective name] at held
    rw [← own]
    exact counted.resolve_left held

/-- What holds of the statements of a transaction after a query. -/
def expects : (query : Query) → query.Answer → List Exchange → Prop
  | .changeStatus tickets _ next, changed, past =>
    next = .available ∨ changed = tickets.length → AllMet past
  | _, _, past => AllMet past

/-- A change of status keeps to the discipline: a move that is not allowed is refused before
anything is sent. -/
theorem sends_changeStatus (tickets : List Uuid) (current next : TicketStatus) :
    Sends AllMet (answer (.changeStatus tickets current next))
      (expects (.changeStatus tickets current next)) := by
  unfold answer
  by_cases allowed : current.canBecome next = true
  · simp only [allowed, Bool.not_true, Bool.false_eq_true, ↓reduceIte]
    by_cases none : tickets.isEmpty = true
    · rw [if_pos none]
      exact sends_pure fun _ met _ => met
    · rw [if_neg none]
      exact sends_bind (sends_move tickets allowed) fun reply => sends_pure fun _ holds => holds
  · simp only [allowed, Bool.not_false, ↓reduceIte]
    exact sends_throw

/-- Every query of a ledger keeps to the discipline. -/
theorem sends_answer (query : Query) : Sends AllMet (answer query) (expects query) := by
  cases query with
  | availableTickets event name limit =>
    exact sends_bind (sends_other _ (by decide +kernel)) fun reply => sends_result _
  | changeStatus tickets current next => exact sends_changeStatus tickets current next
  | referralCode code =>
    refine sends_bind (sends_other _ (by decide +kernel)) fun reply => ?_
    cases reply.rows with
    | nil => exact sends_pure fun _ met => met
    | cons row rest =>
      exact sends_bind (sends_result (codeOf row)) fun referral => sends_pure fun _ met => met
  | usageCount code =>
    refine sends_bind (sends_other _ (by decide +kernel)) fun reply => ?_
    exact sends_bind (sends_result (firstRow reply)) fun row => sends_result _
  | recordUsage code id =>
    refine sends_bind (sends_other _ (by decide +kernel)) fun _ => ?_
    exact sends_bind (sends_other _ (by decide +kernel)) fun _ => sends_pure fun _ met => met
  | releaseUsage id =>
    refine sends_bind (sends_other _ (by decide +kernel)) fun reply => ?_
    cases reply.rows with
    | nil => exact sends_pure fun _ met => met
    | cons row rest =>
      refine sends_bind (sends_result (uuidIn "referral_code_id" row)) fun code => ?_
      exact sends_bind (sends_other _ (by decide +kernel)) fun _ => sends_pure fun _ met => met
  | paymentExists id =>
    refine sends_bind (sends_other _ (by decide +kernel)) fun reply => ?_
    exact sends_bind (sends_result (firstRow reply)) fun row => sends_result _
  | insertPayment record =>
    exact sends_bind (sends_other _ (by decide +kernel)) fun _ => sends_pure fun _ met => met
  | insertAttendance attendance =>
    exact sends_bind (sends_other _ (by decide +kernel)) fun _ => sends_pure fun _ met => met

end BoxOffice.Database
