import BoxOffice.Reservation

/-!
# The reaper

The reaper keeps the timers of open reservations: one deadline for each, and a queue of all
deadlines ever set, in ascending order of time and identifier. Arming a timer again or disarming
it leaves its former place in the queue; when such a place comes up it is passed over, since the
deadline is no longer the one that stands there. Waking up fires the timers whose deadline has
come, each once.
-/
namespace BoxOffice

/-- What the reaper is told. -/
inductive Reaper.Command where
  /-- The timer of a reservation is armed. -/
  | schedule (id : TrackingId) (due : Nat)
  /-- The timer of a reservation is disarmed. -/
  | resolve (id : TrackingId)
deriving DecidableEq, Repr

/-- The timers of open reservations. -/
structure Reaper where
  /-- The deadline of each armed timer, in milliseconds. -/
  deadlines : Register TrackingId Nat
  /-- All deadlines set and not yet come up, in ascending order. -/
  queue : List (Nat × TrackingId)

namespace Reaper

/-- A reaper without timers. -/
def empty : Reaper := ⟨.empty, []⟩

/-- Whether one place in the queue stands before another. -/
def isAhead (first second : Nat × TrackingId) : Bool :=
  decide (first.1 < second.1) ||
    decide (first.1 = second.1) && KeyOrder.before first.2 second.2

/-- Puts a deadline in its place in a queue. -/
def enqueue (place : Nat × TrackingId) : List (Nat × TrackingId) → List (Nat × TrackingId)
  | [] => [place]
  | first :: rest =>
    if isAhead first place then first :: enqueue place rest else place :: first :: rest

/-- Follows a command. -/
def follow : Command → Reaper → Reaper
  | .schedule id due, reaper =>
    ⟨reaper.deadlines.insert id due, enqueue (due, id) reaper.queue⟩
  | .resolve id, reaper => { reaper with deadlines := reaper.deadlines.erase id }

/-- Fires the timers at the front of a queue whose deadline has come: the reservations whose time
ran out, in the order of the queue, and what is left. -/
def fireDue (now : Nat) :
    Register TrackingId Nat → List (Nat × TrackingId) → List TrackingId × Reaper
  | deadlines, [] => ([], ⟨deadlines, []⟩)
  | deadlines, (due, id) :: rest =>
    if now < due then ([], ⟨deadlines, (due, id) :: rest⟩)
    else if deadlines.get? id = some due then
      let fired := fireDue now (deadlines.erase id) rest
      (id :: fired.1, fired.2)
    else fireDue now deadlines rest

/-- Wakes up at some time. -/
def wake (now : Nat) (reaper : Reaper) : List TrackingId × Reaper :=
  fireDue now reaper.deadlines reaper.queue

/-- When the reaper has to wake up next. -/
def nextWake? (reaper : Reaper) : Option Nat := reaper.queue.head?.map (·.1)

end Reaper

end BoxOffice
