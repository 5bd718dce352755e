import BoxOffice.Ledger.Database

/-!
# Discipline of statements

Which statements may be sent to a database follows from what was sent before and what came back.
Rows are written within transactions only, tickets only go over where a move is allowed, after a
failure nothing is sent but the command that undoes the transaction, and a transaction is committed
only when all of it was answered and as many tickets were held or sold as there should be. The log
of a session alone tells whether it has kept to this.
-/
namespace BoxOffice.Sql

namespace Statement

/-- Whether it is a query whose text begins with some words. -/
def begins (words : String) : Statement → Bool
  | .query text _ => words.toList.isPrefixOf text.toList
  | .opening | .commit | .rollback => false

/-- Whether it writes rows. -/
def isWrite (statement : Statement) : Bool :=
  statement.begins "INSERT" || statement.begins "UPDATE" || statement.begins "DELETE"

/-- Whether it writes tickets. -/
def updatesTickets (statement : Statement) : Bool := statement.begins "UPDATE tickets"

/-- Whether it asks for some tickets to go over from one status to another. -/
def Moves (statement : Statement) (current next : TicketStatus) (tickets : List Uuid) : Prop :=
  statement.updatesTickets = true ∧
    ∃ text, statement = .query text [.text next.name, .uuids tickets, .text current.name]

end Statement

/-- The moves of a ticket: it is held, it is sold, and it is given back. -/
def moves : List (TicketStatus × TicketStatus) :=
  [(.available, .pending), (.pending, .sold), (.pending, .available)]

/-- A ticket may take on what a move leads to. -/
theorem mem_moves {current next : TicketStatus} :
    (current, next) ∈ moves ↔ current.canBecome next = true := by
  cases current <;> cases next <;> decide

/-- Whether a statement asks for no move of tickets but the allowed ones. -/
def Statement.IsLawful (statement : Statement) : Prop :=
  statement.updatesTickets = true →
    ∃ current next tickets, (current, next) ∈ moves ∧ statement.Moves current next tickets

/-- A query whose text is not about tickets asks for no move of tickets. -/
theorem isLawful_of_other {text : String} (parameters : List Parameter)
    (other : (Statement.query text []).updatesTickets = false) :
    (Statement.query text parameters).IsLawful := by
  intro updates
  have same : (Statement.query text parameters).updatesTickets =
      (Statement.query text []).updatesTickets := rfl
  rw [same, other] at updates
  contradiction

namespace Exchange

/-- Whether the peer has answered. -/
def IsAnswered (exchange : Exchange) : Prop := ∃ reply, exchange.reply = .ok reply

/-- Whether the peer has answered, and if tickets were to be held or sold, as many rows were
affected as there are tickets. -/
def IsMet (exchange : Exchange) : Prop :=
  ∃ reply, exchange.reply = .ok reply ∧ ∀ current next tickets, next ≠ .available →
    exchange.statement.Moves current next tickets → reply.affected = tickets.length

/-- What is met is answered. -/
theorem IsMet.isAnswered {exchange : Exchange} (met : exchange.IsMet) : exchange.IsAnswered := by
  obtain ⟨reply, given, -⟩ := met
  exact ⟨reply, given⟩

end Exchange

/-- Where a log has come to. -/
inductive Stage where
  /-- No transaction is open. -/
  | outside
  /-- A transaction is open in which some statements were sent, the oldest first. -/
  | inside (past : List Exchange)

/-- Where a log comes to by an exchange. A transaction ends with a commit that is accepted, and with
every rollback. -/
def Stage.next : Stage → Exchange → Stage
  | .outside, ⟨.opening, .ok _⟩ => .inside []
  | .outside, _ => .outside
  | .inside _, ⟨.rollback, _⟩ => .outside
  | .inside _, ⟨.commit, .ok _⟩ => .outside
  | .inside past, exchange => .inside (past ++ [exchange])

/-- Where a log has come to. -/
def stageOf (log : List Exchange) : Stage := log.foldl Stage.next .outside

/-- Whether a statement may be sent. -/
structure Stage.Admits (stage : Stage) (statement : Statement) : Prop where
  /-- Rows are written within transactions. -/
  enclosed : statement.isWrite = true → ∃ past, stage = .inside past
  /-- Tickets go over where a move is allowed. -/
  lawful : statement.IsLawful
  /-- After a failure nothing is sent but the rollback. -/
  halted : ∀ past, stage = .inside past → (∃ exchange ∈ past, ¬exchange.IsAnswered) →
    statement = .rollback
  /-- A transaction is committed if all of it was answered, with as many tickets held or sold as
  there should be. -/
  concluded : statement = .commit →
    ∃ past, stage = .inside past ∧ ∀ exchange ∈ past, exchange.IsMet
  /-- No transaction begins within another. -/
  apart : statement = .opening → stage = .outside

/-- Whether each statement of a log could be sent when it was. -/
def IsDisciplined (log : List Exchange) : Prop :=
  ∀ before exchange rest, log = before ++ exchange :: rest →
    (stageOf before).Admits exchange.statement

section Log

variable {log : List Exchange} {exchange : Exchange} {past : List Exchange}

/-- Where a log comes to by its last exchange. -/
theorem stageOf_append (log : List Exchange) (exchange : Exchange) :
    stageOf (log ++ [exchange]) = (stageOf log).next exchange := by
  unfold stageOf
  rw [List.foldl_append]
  rfl

/-- A log without entries is disciplined. -/
theorem isDisciplined_nil : IsDisciplined [] := by
  intro before exchange rest split
  exact absurd (congrArg List.length split) (by simp)

/-- A log stays disciplined by a statement that may be sent. -/
theorem IsDisciplined.append (disciplined : IsDisciplined log)
    (admits : (stageOf log).Admits exchange.statement) : IsDisciplined (log ++ [exchange]) := by
  intro before present rest split
  rcases List.eq_nil_or_concat rest with rfl | ⟨init, last, rfl⟩
  · obtain ⟨rfl, same⟩ := List.append_inj' split rfl
    rw [List.cons.inj same |>.1] at admits
    exact admits
  · have whole : log ++ [exchange] = (before ++ present :: init) ++ [last] := by
      rw [split, List.concat_eq_append, List.append_assoc, List.cons_append]
    obtain ⟨early, -⟩ := List.append_inj' whole rfl
    exact disciplined before present init early

/-- A transaction can be undone at any time. -/
theorem Stage.admits_rollback (stage : Stage) : stage.Admits .rollback :=
  ⟨nofun, nofun, fun _ _ _ => rfl, nofun, nofun⟩

/-- A transaction can begin where none is open. -/
theorem Stage.admits_opening : Stage.outside.Admits .opening :=
  ⟨nofun, nofun, nofun, nofun, fun _ => rfl⟩

/-- A transaction all of which is met can be committed. -/
theorem Stage.admits_commit (met : ∀ exchange ∈ past, exchange.IsMet) :
    (Stage.inside past).Admits .commit := by
  refine ⟨nofun, nofun, ?_, fun _ => ⟨past, rfl, met⟩, nofun⟩
  intro others same failed
  obtain ⟨exchange, member, unanswered⟩ := failed
  cases same
  exact absurd (met exchange member).isAnswered unanswered

/-- A query can be sent within a transaction all of which was answered, if it asks for no move that
is not allowed. -/
theorem Stage.admits_query {text : String} {parameters : List Parameter}
    (answered : ∀ exchange ∈ past, exchange.IsAnswered)
    (lawful : (Statement.query text parameters).IsLawful) :
    (Stage.inside past).Admits (.query text parameters) := by
  refine ⟨fun _ => ⟨past, rfl⟩, lawful, ?_, nofun, nofun⟩
  intro others same failed
  obtain ⟨exchange, member, unanswered⟩ := failed
  cases same
  exact absurd (answered exchange member) unanswered

/-- A query that only reads can be sent where no transaction is open. -/
theorem Stage.admits_reading {text : String} (parameters : List Parameter)
    (reads : (Statement.query text []).isWrite = false)
    (other : (Statement.query text []).updatesTickets = false) :
    Stage.outside.Admits (.query text parameters) := by
  refine ⟨fun writes => ?_, isLawful_of_other parameters other, nofun, nofun, nofun⟩
  have writes : (Statement.query text []).isWrite = true := writes
  rw [reads] at writes
  contradiction

end Log

namespace Session

variable {session begun : Session} {past : List Exchange}

/-- Whether a session has kept to the discipline and no transaction is open. -/
structure IsIdle (session : Session) : Prop where
  /-- It has kept to the discipline. -/
  disciplined : IsDisciplined session.log
  /-- No transaction is open. -/
  outside : stageOf session.log = .outside
  /-- The session knows. -/
  phase : session.phase = .idle

/-- Whether a session has kept to the discipline and is in a transaction that was answered so
far. -/
structure IsWorking (session : Session) (past : List Exchange) : Prop where
  /-- It has kept to the discipline. -/
  disciplined : IsDisciplined session.log
  /-- It is in a transaction. -/
  inside : stageOf session.log = .inside past
  /-- The session knows. -/
  phase : session.phase = .working
  /-- All was answered. -/
  answered : ∀ exchange ∈ past, exchange.IsAnswered

/-- Whether one session goes on where another one has come to; the peer may have changed. -/
structure Continues (begun session : Session) : Prop where
  /-- It stands at the same place. -/
  phase : begun.phase = session.phase
  /-- The same was sent. -/
  log : begun.log = session.log

/-- A session goes on from itself. -/
theorem Continues.refl (session : Session) : session.Continues session := ⟨rfl, rfl⟩

/-- A session that is idle goes on so. -/
theorem IsIdle.continued (idle : session.IsIdle) (continues : begun.Continues session) :
    begun.IsIdle := by
  constructor
  · rw [continues.log]
    exact idle.disciplined
  · rw [continues.log]
    exact idle.outside
  · rw [continues.phase]
    exact idle.phase

/-- A session that is in a transaction goes on so. -/
theorem IsWorking.continued (working : session.IsWorking past)
    (continues : begun.Continues session) : begun.IsWorking past := by
  constructor
  · rw [continues.log]
    exact working.disciplined
  · rw [continues.log]
    exact working.inside
  · rw [continues.phase]
    exact working.phase
  · exact working.answered

/-- A session that has not begun is idle. -/
theorem isIdle_start (connection : Connection) (commandFaults : CommandFaults)
    (script : List (Except String Reply)) : (start connection commandFaults script).IsIdle :=
  ⟨isDisciplined_nil, rfl, rfl⟩

/-- Every rollback ends the transaction. -/
theorem stageOf_rollback (log : List Exchange) (reply : Except Fault Reply) :
    stageOf (log ++ [⟨.rollback, reply⟩]) = .outside := by
  rw [stageOf_append]
  cases stageOf log <;> rfl

/-- A session is idle after it has undone a transaction. -/
theorem isIdle_undo (disciplined : IsDisciplined session.log) : session.undo.IsIdle := by
  unfold undo command
  cases session.commandFaults.rollback with
  | none => exact ⟨disciplined.append (Stage.admits_rollback _), stageOf_rollback _ _, rfl⟩
  | some report => exact ⟨disciplined.append (Stage.admits_rollback _), stageOf_rollback _ _, rfl⟩

/-- A session is idle after it was told to undo a transaction. -/
theorem isIdle_rollBack (disciplined : IsDisciplined session.log) :
    session.rollBack.2.IsIdle := by
  unfold rollBack command
  cases session.commandFaults.rollback with
  | none => exact ⟨disciplined.append (Stage.admits_rollback _), stageOf_rollback _ _, rfl⟩
  | some report => exact isIdle_undo (disciplined.append (Stage.admits_rollback _))

/-- A session that was to begin a transaction is in it, or it is idle. -/
theorem IsIdle.openTransaction (idle : session.IsIdle) :
    (session.openTransaction.1 = .ok () → session.openTransaction.2.IsWorking []) ∧
      ∀ fault, session.openTransaction.1 = .error fault → session.openTransaction.2.IsIdle := by
  have admits : (stageOf session.log).Admits .opening := idle.outside ▸ Stage.admits_opening
  unfold Session.openTransaction command
  cases session.connectionFault? with
  | some fault => exact ⟨nofun, fun _ _ => idle⟩
  | none =>
    cases session.commandFaults.opening with
    | none =>
      refine ⟨fun _ => ⟨idle.disciplined.append admits, ?_, rfl, nofun⟩, nofun⟩
      show stageOf (session.log ++ _) = _
      rw [stageOf_append, idle.outside]
      rfl
    | some report =>
      refine ⟨nofun, fun _ _ => ⟨idle.disciplined.append admits, ?_, idle.phase⟩⟩
      show stageOf (session.log ++ _) = _
      rw [stageOf_append, idle.outside]
      rfl

/-- A session is idle after a transaction all of which is met was to be committed. -/
theorem IsWorking.commit (working : session.IsWorking past)
    (met : ∀ exchange ∈ past, exchange.IsMet) : session.commit.2.IsIdle := by
  have admits : (stageOf session.log).Admits .commit := working.inside ▸ Stage.admits_commit met
  unfold Session.commit command
  cases session.commandFaults.commit with
  | none =>
    refine ⟨working.disciplined.append admits, ?_, rfl⟩
    show stageOf (session.log ++ _) = _
    rw [stageOf_append, working.inside]
    rfl
  | some report => exact isIdle_undo (working.disciplined.append admits)

/-- A query in a transaction that was answered is answered in turn, or the session has to undo the
transaction. -/
theorem IsWorking.ask (working : session.IsWorking past) {text : String}
    {parameters : List Parameter} (lawful : (Statement.query text parameters).IsLawful) :
    IsDisciplined (session.ask text parameters).2.log ∧
      ∀ reply, (session.ask text parameters).1 = .ok reply →
        (session.ask text parameters).2.IsWorking
          (past ++ [⟨.query text parameters, .ok reply⟩]) := by
  have admits : (stageOf session.log).Admits (.query text parameters) :=
    working.inside ▸ Stage.admits_query working.answered lawful
  have sent (reply : Except Fault Reply) :
      IsDisciplined (session.log ++ [⟨.query text parameters, reply⟩]) :=
    working.disciplined.append admits
  have inside (reply : Reply) : stageOf (session.log ++ [⟨.query text parameters, .ok reply⟩]) =
      .inside (past ++ [⟨.query text parameters, .ok reply⟩]) := by
    rw [stageOf_append, working.inside]
    rfl
  have answered (reply : Reply) :
      ∀ exchange ∈ past ++ [⟨.query text parameters, .ok reply⟩], exchange.IsAnswered := by
    intro exchange member
    rcases List.mem_append.mp member with old | new
    · exact working.answered exchange old
    · rw [List.mem_singleton.mp new]
      exact ⟨reply, rfl⟩
  unfold Session.ask
  rw [working.phase]
  cases session.script with
  | nil =>
    refine ⟨sent _, fun reply given => ?_⟩
    cases given
    exact ⟨sent _, inside _, working.phase, answered _⟩
  | cons first rest =>
    cases first with
    | error report => exact ⟨sent _, nofun⟩
    | ok found =>
      refine ⟨sent _, fun reply given => ?_⟩
      cases given
      exact ⟨sent _, inside _, rfl, answered _⟩

/-- A session stays idle when it is asked outside transactions by a query that only reads. -/
theorem IsIdle.askAlone (idle : session.IsIdle) {text : String} (parameters : List Parameter)
    (reads : (Statement.query text []).isWrite = false)
    (other : (Statement.query text []).updatesTickets = false) :
    (session.askAlone text parameters).2.IsIdle := by
  have admits : (stageOf session.log).Admits (.query text parameters) :=
    idle.outside ▸ Stage.admits_reading parameters reads other
  have sent (reply : Except Fault Reply) :
      IsDisciplined (session.log ++ [⟨.query text parameters, reply⟩]) :=
    idle.disciplined.append admits
  have outside (reply : Except Fault Reply) :
      stageOf (session.log ++ [⟨.query text parameters, reply⟩]) = .outside := by
    rw [stageOf_append, idle.outside]
    rfl
  unfold Session.askAlone Session.ask
  rw [idle.phase]
  cases session.connectionFault? with
  | some fault => exact idle
  | none =>
    cases session.script with
    | nil => exact ⟨sent _, outside _, idle.phase⟩
    | cons first rest =>
      cases first with
      | error report => exact ⟨sent _, outside _, rfl⟩
      | ok found => exact ⟨sent _, outside _, rfl⟩

end Session

end BoxOffice.Sql
