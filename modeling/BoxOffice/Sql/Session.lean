import BoxOffice.Ledger.Fault
import BoxOffice.Sql.Statement

/-!
# Sessions with a database

A session sends statements over one connection to a peer whose replies are given beforehand, and
keeps a log of what was sent and what came back. A query that fails within a transaction leaves
it failed: all later queries fail without a reply being taken, until the transaction ends. A
transaction that was not ended is undone by the session itself.
-/
namespace BoxOffice.Sql

/-- A reply to a query. -/
structure Reply where
  /-- The rows of the result. -/
  rows : List Row
  /-- The number of rows affected. -/
  affected : Nat

/-- A reply without rows. -/
def Reply.empty : Reply := ⟨[], 0⟩

/-- Whether there is a connection. -/
inductive Connection where
  /-- There is one. -/
  | established
  /-- The database refuses it with a report. -/
  | refused (report : String)
  /-- Nothing answers. -/
  | absent

/-- The reports with which the peer refuses commands, if it does. -/
structure CommandFaults where
  /-- Of transactions to be opened. -/
  opening : Option String
  /-- Of commits. -/
  commit : Option String
  /-- Of rollbacks. -/
  rollback : Option String

/-- Where a session stands. -/
inductive Phase where
  /-- Outside transactions. -/
  | idle
  /-- In a transaction. -/
  | working
  /-- In a transaction that has failed. -/
  | failed
deriving DecidableEq

/-- A statement that was sent, and what came back. -/
structure Exchange where
  /-- The statement. -/
  statement : Statement
  /-- The reply, or why there was none. -/
  reply : Except Fault Reply

/-- A session with a database. -/
structure Session where
  /-- Whether there is a connection. -/
  connection : Connection
  /-- The commands that the peer refuses. -/
  commandFaults : CommandFaults
  /-- The replies that are left; a report instead of a reply is the failure of a query. -/
  script : List (Except String Reply)
  /-- Where the session stands. -/
  phase : Phase
  /-- What was sent and what came back, in order. -/
  log : List Exchange

namespace Session

/-- The report about a query in a transaction that has failed. -/
def abortedReport : String :=
  "current transaction is aborted, commands ignored until end of transaction block"

/-- A session that has not begun. -/
def start (connection : Connection) (commandFaults : CommandFaults)
    (script : List (Except String Reply)) : Session :=
  ⟨connection, commandFaults, script, .idle, []⟩

/-- The session after an exchange. -/
def noted (session : Session) (statement : Statement) (reply : Except Fault Reply) : Session :=
  { session with log := session.log ++ [⟨statement, reply⟩] }

/-- Why nothing can be sent, if so. -/
def connectionFault? (session : Session) : Option Fault :=
  match session.connection with
  | .established => none
  | .refused report => some (.database report)
  | .absent => some .noConnection

/-- Where a session stands after a query failed. -/
def afterFailure : Phase → Phase
  | .idle => .idle
  | _ => .failed

/-- Sends a query. -/
def ask (text : String) (parameters : List Parameter) (session : Session) :
    Except Fault Reply × Session :=
  let statement := .query text parameters
  match session.phase, session.script with
  | .failed, _ =>
    let reply := .error (.database abortedReport)
    (reply, session.noted statement reply)
  | _, [] => (.ok .empty, session.noted statement (.ok .empty))
  | _, .ok reply :: rest => (.ok reply, { session with script := rest }.noted statement (.ok reply))
  | phase, .error report :: rest =>
    let reply := .error (.database report)
    (reply, { session with script := rest, phase := afterFailure phase }.noted statement reply)

/-- Sends a command that ends in a phase unless the peer refuses it. -/
def command (statement : Statement) (refusal : Option String) (phase : Phase)
    (session : Session) : Except Fault Unit × Session :=
  match refusal with
  | some report =>
    (.error (.database report), session.noted statement (.error (.database report)))
  | none => (.ok (), { session with phase }.noted statement (.ok .empty))

/-- Undoes a transaction that was not ended; whether the peer refuses makes no difference. -/
def undo (session : Session) : Session :=
  { (session.command .rollback session.commandFaults.rollback .idle).2 with phase := .idle }

/-- Begins a transaction. -/
def openTransaction (session : Session) : Except Fault Unit × Session :=
  match session.connectionFault? with
  | some fault => (.error fault, session)
  | none => session.command .opening session.commandFaults.opening .working

/-- Ends a transaction and keeps its changes; if the peer refuses, the transaction is undone. -/
def commit (session : Session) : Except Fault Unit × Session :=
  match session.command .commit session.commandFaults.commit .idle with
  | (.ok _, session) => (.ok (), session)
  | (.error fault, session) => (.error fault, session.undo)

/-- Ends a transaction and undoes its changes; if the peer refuses, it is undone once more. -/
def rollBack (session : Session) : Except Fault Unit × Session :=
  match session.command .rollback session.commandFaults.rollback .idle with
  | (.ok _, session) => (.ok (), session)
  | (.error fault, session) => (.error fault, session.undo)

/-- Sends a query outside transactions. -/
def askAlone (text : String) (parameters : List Parameter) (session : Session) :
    Except Fault Reply × Session :=
  match session.connectionFault? with
  | some fault => (.error fault, session)
  | none => session.ask text parameters

end Session

end BoxOffice.Sql
