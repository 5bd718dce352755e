import BoxOffice.Proofs.Reaper
import Mathlib.Data.List.Induction

/-!
# Timetables

A timetable is the plain account of armed timers: one deadline for each reservation, and no queue.
Waking up reads off the entries that are due, in ascending order of time and number, and strikes
them out. A reaper also has its queue, in which the places of timers that were armed again or
disarmed stay behind. Whatever a reaper is told and whenever it wakes up, it fires what the
timetable fires.
-/
namespace BoxOffice

/-- What happens to a reaper. -/
inductive Reaper.Occurrence where
  /-- It is told something. -/
  | told (order : Command)
  /-- It wakes up at some time. -/
  | woken (now : Nat)

/-- The deadline of each armed timer. -/
abbrev Timetable := Register TrackingId Nat

namespace Timetable

/-- Whether a deadline comes no later than another; of two at one time the smaller number comes
first. -/
def precedes (first second : Nat × TrackingId) : Bool :=
  decide (first.1 < second.1) ||
    decide (first.1 = second.1) && decide (first.2.number ≤ second.2.number)

/-- Enters what a command arms and strikes out what it disarms. -/
def follow : Reaper.Command → Timetable → Timetable
  | .schedule id due, timetable => timetable.insert id due
  | .resolve id, timetable => timetable.erase id

/-- The deadlines that have come, in ascending order. -/
def come (now : Nat) (timetable : Timetable) : List (Nat × TrackingId) :=
  ((timetable.entries.filter fun entry => entry.2 ≤ now).map Prod.swap).mergeSort precedes

/-- The deadlines that are still to come. -/
def toCome (now : Nat) (timetable : Timetable) : Timetable :=
  ⟨timetable.entries.filter fun entry => now < entry.2, timetable.ascending.filter _⟩

/-- Fires the timers whose deadline has come and strikes them out. -/
def wake (now : Nat) (timetable : Timetable) : List TrackingId × Timetable :=
  ((timetable.come now).map (·.2), timetable.toCome now)

/-- What the timetable fires at an occurrence, and what it is then. -/
def meet : Reaper.Occurrence → Timetable → List TrackingId × Timetable
  | .told order, timetable => ([], timetable.follow order)
  | .woken now, timetable => timetable.wake now

end Timetable

namespace Reaper

/-- What a reaper fires at an occurrence, and what it is then. -/
def meet : Occurrence → Reaper → List TrackingId × Reaper
  | .told order, reaper => ([], reaper.follow order)
  | .woken now, reaper => reaper.wake now

/-- What is fired at each occurrence of a history, the earliest first, and what is there in the
end. -/
def course {ρ : Type} (meet : Occurrence → ρ → List TrackingId × ρ) :
    List Occurrence → ρ → List (List TrackingId) × ρ
  | [], state => ([], state)
  | occurrence :: rest, state =>
    let met := meet occurrence state
    let later := course meet rest met.2
    (met.1 :: later.1, later.2)

section Course

variable {ρ τ : Type} {meet : Occurrence → ρ → List TrackingId × ρ}
  {meetToo : Occurrence → τ → List TrackingId × τ}

/-- The last occurrence of a history meets what the others have left. -/
theorem course_concat (history : List Occurrence) (last : Occurrence) (state : ρ) :
    (course meet (history ++ [last]) state).2 = (meet last (course meet history state).2).2 := by
  induction history generalizing state with
  | nil => rfl
  | cons occurrence rest ih => exact ih (meet occurrence state).2

/-- Where related states fire the same at each occurrence and stay related, they fire the same in
each history. -/
theorem course_agrees (related : ρ → τ → Prop)
    (step : ∀ occurrence {state other}, related state other →
      (meet occurrence state).1 = (meetToo occurrence other).1 ∧
        related (meet occurrence state).2 (meetToo occurrence other).2)
    (history : List Occurrence) {state : ρ} {other : τ} (start : related state other) :
    (course meet history state).1 = (course meetToo history other).1 ∧
      related (course meet history state).2 (course meetToo history other).2 := by
  induction history generalizing state other with
  | nil => exact ⟨rfl, start⟩
  | cons occurrence rest ih =>
    obtain ⟨fired, stays⟩ := step occurrence start
    obtain ⟨firedLater, staysLater⟩ := ih stays
    refine ⟨?_, staysLater⟩
    show (meet occurrence state).1 :: _ = (meetToo occurrence other).1 :: _
    rw [fired, firedLater]

end Course

end Reaper

namespace Timetable

open Reaper

section Order

/-- Order of deadlines goes on through a third. -/
theorem precedes_trans (first second third : Nat × TrackingId) (before : precedes first second)
    (after : precedes second third) : precedes first third := by
  simp only [precedes, Bool.or_eq_true, Bool.and_eq_true, decide_eq_true_eq] at before after ⊢
  rcases before with sooner | ⟨same, smaller⟩
  · rcases after with soonerToo | ⟨sameToo, -⟩
    · exact .inl (Nat.lt_trans sooner soonerToo)
    · exact .inl (sameToo ▸ sooner)
  · rcases after with soonerToo | ⟨sameToo, smallerToo⟩
    · exact .inl (same ▸ soonerToo)
    · exact .inr ⟨same.trans sameToo, Int64.le_trans smaller smallerToo⟩

/-- Of two deadlines one comes no later than the other. -/
theorem precedes_total (first second : Nat × TrackingId) :
    (precedes first second || precedes second first) = true := by
  simp only [precedes, Bool.or_eq_true, Bool.and_eq_true, decide_eq_true_eq]
  rcases Nat.lt_trichotomy first.1 second.1 with sooner | same | later
  · exact .inl (.inl sooner)
  · exact (Int64.le_total first.2.number second.2.number).imp (fun smaller => .inr ⟨same, smaller⟩)
      fun smaller => .inr ⟨same.symm, smaller⟩
  · exact .inr (.inl later)

/-- Two deadlines of which each comes no later than the other are one. -/
theorem precedes_antisymm {first second : Nat × TrackingId} (before : precedes first second)
    (after : precedes second first) : first = second := by
  simp only [precedes, Bool.or_eq_true, Bool.and_eq_true, decide_eq_true_eq] at before after
  have same : first.1 = second.1 := by omega
  have smaller : first.2.number ≤ second.2.number := by
    rcases before with sooner | found
    · omega
    · exact found.2
  have smallerToo : second.2.number ≤ first.2.number := by
    rcases after with sooner | found
    · omega
    · exact found.2
  exact Prod.ext same (congrArg TrackingId.mk (Int64.le_antisymm smaller smallerToo))

/-- A deadline comes no later than those of its place or after it. -/
theorem le_of_precedes {first second : Nat × TrackingId} (before : precedes first second) :
    first.1 ≤ second.1 := by
  simp only [precedes, Bool.or_eq_true, Bool.and_eq_true, decide_eq_true_eq] at before
  omega

/-- A queue keeps its deadlines in ascending order when one is put in. -/
theorem enqueue_ascending (place : Nat × TrackingId) {queue : List (Nat × TrackingId)}
    (ordered : queue.Pairwise fun first second => precedes first second) :
    (enqueue place queue).Pairwise fun first second => precedes first second := by
  refine enqueue_pairwise (fun first second => precedes first second = true)
    (precedes_trans _ _ _) (fun ahead => ?_) (fun notAhead => ?_) place ordered
  · simp only [isAhead, KeyOrder.before, Bool.or_eq_true, Bool.and_eq_true,
      decide_eq_true_eq] at ahead
    simp only [precedes, Bool.or_eq_true, Bool.and_eq_true, decide_eq_true_eq]
    exact ahead.imp_right fun found => ⟨found.1, Int64.le_of_lt found.2⟩
  · simp only [isAhead, KeyOrder.before, Bool.or_eq_true, Bool.and_eq_true, decide_eq_true_eq,
      not_or, not_and, Int64.not_lt] at notAhead
    simp only [precedes, Bool.or_eq_true, Bool.and_eq_true, decide_eq_true_eq]
    rcases Nat.lt_or_ge _ _ with sooner | notSooner
    · exact .inl sooner
    · have same := Nat.le_antisymm notSooner (Nat.le_of_not_lt notAhead.1)
      exact .inr ⟨same.symm, notAhead.2 same⟩

end Order

section Entries

variable {timetable : Timetable} {id : TrackingId} {due now : Nat}

/-- The deadlines that have come are those that are entered for a time that has come. -/
theorem mem_come {place : Nat × TrackingId} :
    place ∈ timetable.come now ↔ place.1 ≤ now ∧ timetable.get? place.2 = some place.1 := by
  simp only [come, List.mem_mergeSort, List.mem_map, List.mem_filter, decide_eq_true_eq,
    Register.get?_eq_some]
  constructor
  · rintro ⟨entry, ⟨entered, early⟩, rfl⟩
    exact ⟨early, entered⟩
  · rintro ⟨early, entered⟩
    exact ⟨place.swap, ⟨entered, early⟩, Prod.swap_swap place⟩

/-- No timer fires twice when the timetable wakes up. -/
theorem wake_nodup (now : Nat) (timetable : Timetable) : (timetable.wake now).1.Nodup := by
  let entries := timetable.entries.filter fun entry => entry.2 ≤ now
  have sorted : (timetable.come now).Perm (entries.map Prod.swap) := List.mergeSort_perm _ _
  have ids : ((timetable.come now).map (·.2)).Perm ((entries.map Prod.swap).map (·.2)) :=
    sorted.map _
  have some : (entries.map (·.1)).Sublist (timetable.entries.map (·.1)) :=
    List.filter_sublist.map _
  have once : (entries.map (·.1)).Nodup := timetable.keys_nodup.sublist some
  rw [List.map_map] at ids
  exact ids.nodup_iff.mpr once

/-- A timer fires if its deadline has come. -/
theorem mem_wake : id ∈ (timetable.wake now).1 ↔ ∃ due ≤ now, timetable.get? id = some due := by
  simp only [wake, List.mem_map, mem_come]
  constructor
  · rintro ⟨place, found, rfl⟩
    exact ⟨place.1, found⟩
  · rintro ⟨due, found⟩
    exact ⟨(due, id), found, rfl⟩

/-- The deadlines that are still to come are those that are entered for a later time. -/
theorem get?_toCome :
    (timetable.toCome now).get? id = some due ↔ timetable.get? id = some due ∧ now < due := by
  simp only [Register.get?_eq_some, toCome, List.mem_filter, decide_eq_true_eq]

/-- Where nothing has come all deadlines are still to come. -/
theorem toCome_eq_self (later : ∀ {id due}, timetable.get? id = some due → now < due) :
    timetable.toCome now = timetable := by
  apply Register.ext_get?
  funext id
  ext due
  rw [get?_toCome]
  exact and_iff_left_of_imp later

/-- A deadline that has come makes no difference to those that are still to come. -/
theorem toCome_erase (set : timetable.get? id = some due) (come : due ≤ now) :
    Timetable.toCome now (timetable.erase id) = timetable.toCome now := by
  apply Register.ext_get?
  funext other
  ext time
  rw [get?_toCome, get?_toCome, Register.get?_erase_eq_some, and_assoc, and_iff_right_iff_imp]
  rintro ⟨given, late⟩ rfl
  have same : due = time := Option.some.inj (set.symm.trans given)
  omega

/-- Deadlines in ascending order are those that have come if each of these is among them once. -/
theorem eq_come {places : List (Nat × TrackingId)}
    (ascending : places.Pairwise fun first second => precedes first second) (once : places.Nodup)
    (all : ∀ place, place ∈ places ↔ place.1 ≤ now ∧ timetable.get? place.2 = some place.1) :
    places = timetable.come now := by
  have onceToo : (timetable.come now).Nodup := (timetable.wake_nodup now).of_map
  have perm : places.Perm (timetable.come now) :=
    (List.perm_ext_iff_of_nodup once onceToo).mpr fun place => (all place).trans mem_come.symm
  have ascendingToo : (timetable.come now).Pairwise fun first second => precedes first second :=
    List.pairwise_mergeSort precedes_trans precedes_total _
  exact perm.eq_of_pairwise (fun _ _ _ _ => precedes_antisymm) ascending ascendingToo

end Entries

end Timetable

namespace Reaper

open Timetable

section Queue

variable {reaper : Reaper} {deadlines : Timetable} {queue : List (Nat × TrackingId)} {now : Nat}

/-- Whether the queue has a place for each timer that is armed, in ascending order. -/
structure IsComplete (deadlines : Timetable) (queue : List (Nat × TrackingId)) : Prop where
  /-- The queue goes by time, and by number at one time. -/
  ascending : queue.Pairwise fun first second => precedes first second
  /-- Each deadline has its place. -/
  queued : ∀ {id due}, deadlines.get? id = some due → (due, id) ∈ queue

/-- Nothing is due in a complete queue whose first place is still to come. -/
theorem IsComplete.later {first : Nat × TrackingId}
    (complete : IsComplete deadlines (first :: queue)) (early : now < first.1) {id : TrackingId}
    {due : Nat} (set : deadlines.get? id = some due) : now < due := by
  rcases List.mem_cons.mp (complete.queued set) with rfl | behind
  · exact early
  · exact Nat.lt_of_lt_of_le early
      (le_of_precedes (List.rel_of_pairwise_cons complete.ascending behind))

/-- A complete queue stays so when the timer of its first place has fired. -/
theorem IsComplete.fired {first : Nat × TrackingId}
    (complete : IsComplete deadlines (first :: queue)) :
    IsComplete (deadlines.erase first.2) queue := by
  refine ⟨complete.ascending.of_cons, fun {id due} set => ?_⟩
  obtain ⟨apart, old⟩ := Register.get?_erase_eq_some.mp set
  refine (List.mem_cons.mp (complete.queued old)).resolve_left fun among => apart ?_
  exact congrArg Prod.snd among

/-- A complete queue stays so when its first place is passed over. -/
theorem IsComplete.passed {first : Nat × TrackingId}
    (complete : IsComplete deadlines (first :: queue))
    (stale : deadlines.get? first.2 ≠ some first.1) : IsComplete deadlines queue := by
  refine ⟨complete.ascending.of_cons, fun {id due} set => ?_⟩
  refine (List.mem_cons.mp (complete.queued set)).resolve_left fun among => stale ?_
  rw [← among]
  exact set

/-- A reaper whose queue is complete fires places of its queue, and these are the deadlines that
have come. -/
theorem IsComplete.fireDue_places (complete : IsComplete deadlines queue) (now : Nat) :
    ∃ places : List (Nat × TrackingId),
      (fireDue now deadlines queue).1 = places.map (·.2) ∧
        places.Sublist queue ∧
          ∀ place, place ∈ places ↔ place.1 ≤ now ∧ deadlines.get? place.2 = some place.1 := by
  induction queue generalizing deadlines with
  | nil =>
    refine ⟨[], rfl, .slnil, fun place => ⟨nofun, fun found => ?_⟩⟩
    exact absurd (complete.queued found.2) List.not_mem_nil
  | cons first rest ih =>
    obtain ⟨due, id⟩ := first
    simp only [fireDue]
    by_cases early : now < due
    · rw [if_pos early]
      refine ⟨[], rfl, List.nil_sublist _, fun place => ⟨nofun, fun found => ?_⟩⟩
      have later := complete.later early found.2
      omega
    rw [if_neg early]
    by_cases current : deadlines.get? id = some due
    · rw [if_pos current]
      obtain ⟨places, fired, among, all⟩ := ih complete.fired
      refine ⟨(due, id) :: places, ?_, among.cons_cons _, fun place => ?_⟩
      · show id :: _ = id :: _
        rw [fired]
      · rw [List.mem_cons, all]
        by_cases own : place.2 = id
        · rw [own, Register.get?_erase_self, current]
          constructor
          · rintro (rfl | ⟨-, absent⟩)
            · exact ⟨Nat.le_of_not_lt early, rfl⟩
            · contradiction
          · rintro ⟨-, same⟩
            exact .inl (Prod.ext (Option.some.inj same).symm own)
        · rw [Register.get?_erase_of_ne _ own]
          exact or_iff_right fun same => own (congrArg Prod.snd same)
    · rw [if_neg current]
      obtain ⟨places, fired, among, found⟩ := ih (complete.passed current)
      exact ⟨places, fired, among.cons _, found⟩

/-- A reaper whose queue is complete keeps the deadlines that are still to come, and its queue stays
complete. -/
theorem IsComplete.fireDue_left (complete : IsComplete deadlines queue) (now : Nat) :
    let left := (fireDue now deadlines queue).2
    left.deadlines = deadlines.toCome now ∧ IsComplete left.deadlines left.queue := by
  induction queue generalizing deadlines with
  | nil =>
    have nothing : deadlines.toCome now = deadlines :=
      toCome_eq_self fun set => absurd (complete.queued set) List.not_mem_nil
    exact ⟨nothing.symm, complete⟩
  | cons first rest ih =>
    obtain ⟨due, id⟩ := first
    simp only [fireDue]
    by_cases early : now < due
    · rw [if_pos early]
      exact ⟨(toCome_eq_self (complete.later early)).symm, complete⟩
    rw [if_neg early]
    by_cases current : deadlines.get? id = some due
    · rw [if_pos current]
      obtain ⟨left, stays⟩ := ih complete.fired
      exact ⟨left.trans (toCome_erase current (Nat.le_of_not_lt early)), stays⟩
    · rw [if_neg current]
      exact ih (complete.passed current)

end Queue

section Timetable

variable {reaper : Reaper} {timetable : Timetable}

/-- Whether a reaper has the deadlines of a timetable, and a place in its queue for each. -/
def Keeps (reaper : Reaper) (timetable : Timetable) : Prop :=
  reaper.deadlines = timetable ∧ IsComplete timetable reaper.queue

/-- A reaper that keeps a timetable keeps it whatever it is told. -/
theorem Keeps.follow (keeps : reaper.Keeps timetable) (order : Command) :
    (reaper.follow order).Keeps (timetable.follow order) := by
  obtain ⟨rfl, ascending, queued⟩ := keeps
  cases order with
  | schedule id due =>
    refine ⟨rfl, enqueue_ascending _ ascending, fun {other time} set => mem_enqueue.mpr ?_⟩
    have set : (reaper.deadlines.insert id due).get? other = some time := set
    rcases Register.get?_insert_eq_some.mp set with ⟨rfl, rfl⟩ | ⟨-, old⟩
    · exact .inl rfl
    · exact .inr (queued old)
  | resolve id =>
    refine ⟨rfl, ascending, fun {other time} set => ?_⟩
    exact queued (Register.get?_erase_eq_some.mp set).2

/-- A reaper that keeps a timetable fires what the timetable fires when it wakes up, and keeps what
is left of it. -/
theorem Keeps.wake (keeps : reaper.Keeps timetable) (now : Nat) :
    (reaper.wake now).1 = (timetable.wake now).1 ∧
      (reaper.wake now).2.Keeps (timetable.wake now).2 := by
  obtain ⟨rfl, complete⟩ := keeps
  obtain ⟨places, fired, among, all⟩ := complete.fireDue_places now
  obtain ⟨left, stays⟩ := complete.fireDue_left now
  have once : (places.map (·.2)).Nodup := fired ▸ fireDue_nodup now reaper.deadlines reaper.queue
  have same := eq_come (complete.ascending.sublist among) once.of_map all
  rw [left] at stays
  refine ⟨?_, left, stays⟩
  show (fireDue now reaper.deadlines reaper.queue).1 = (come now reaper.deadlines).map (·.2)
  rw [fired, same]

/-- A reaper that keeps a timetable fires what the timetable fires at each occurrence. -/
theorem Keeps.meet (occurrence : Occurrence) (keeps : reaper.Keeps timetable) :
    (reaper.meet occurrence).1 = (timetable.meet occurrence).1 ∧
      (reaper.meet occurrence).2.Keeps (timetable.meet occurrence).2 := by
  cases occurrence with
  | told order => exact ⟨rfl, keeps.follow order⟩
  | woken now => exact keeps.wake now

/-- A reaper that keeps a timetable has to wake up by the first of its deadlines. -/
theorem Keeps.nextWake (keeps : reaper.Keeps timetable) {id : TrackingId} {due : Nat}
    (set : timetable.get? id = some due) : ∃ top, reaper.nextWake? = some top ∧ top ≤ due := by
  have queued := keeps.2.queued set
  have ascending := keeps.2.ascending
  unfold nextWake?
  cases places : reaper.queue with
  | nil =>
    rw [places] at queued
    contradiction
  | cons first rest =>
    rw [places] at queued ascending
    refine ⟨first.1, rfl, ?_⟩
    rcases List.mem_cons.mp queued with rfl | behind
    · exact Nat.le_refl _
    · exact le_of_precedes (List.rel_of_pairwise_cons ascending behind)

end Timetable

section History

variable {id : TrackingId} {due : Nat} {history : List Occurrence}

/-- Whether an occurrence lets a timer be that is armed for a time: nothing is said of the timer,
and the time has not come. -/
def Occurrence.Spares (id : TrackingId) (due : Nat) : Occurrence → Prop
  | .told order => order.target ≠ id
  | .woken now => now < due

/-- Whether a timer was armed for a time in the course of a history and has been let be since. -/
def IsInForce (history : List Occurrence) (id : TrackingId) (due : Nat) : Prop :=
  ∃ early late, history = early ++ .told (.schedule id due) :: late ∧
    ∀ occurrence ∈ late, occurrence.Spares id due

/-- A timer is in force after an occurrence that arms it or after one that lets it be. -/
theorem isInForce_concat {last : Occurrence} :
    IsInForce (history ++ [last]) id due ↔
      last = .told (.schedule id due) ∨ IsInForce history id due ∧ last.Spares id due := by
  constructor
  · rintro ⟨early, late, parts, spared⟩
    rcases List.eq_nil_or_concat late with rfl | ⟨before, final, rfl⟩
    · exact .inl (List.singleton_inj.mp (List.append_inj' parts rfl).2)
    · rw [List.concat_eq_append, ← List.cons_append, ← List.append_assoc] at parts
      obtain ⟨same, sameLast⟩ := List.append_inj' parts rfl
      cases sameLast
      rw [List.concat_eq_append] at spared
      refine .inr ⟨⟨early, before, same, fun occurrence among => ?_⟩, ?_⟩
      · exact spared occurrence (List.mem_append_left _ among)
      · exact spared last (List.mem_append_right _ List.mem_cons_self)
  · rintro (rfl | ⟨⟨early, late, rfl, spared⟩, spares⟩)
    · exact ⟨history, [], rfl, nofun⟩
    · refine ⟨early, late ++ [last], ?_, fun occurrence among => ?_⟩
      · rw [List.append_assoc, List.cons_append]
      · rcases List.mem_append.mp among with old | new
        · exact spared occurrence old
        · exact List.mem_singleton.mp new ▸ spares

/-- A timetable has a deadline after an occurrence that enters it, or if it had it before one that
lets it be. -/
theorem get?_meet (timetable : Timetable) (occurrence : Occurrence) :
    (timetable.meet occurrence).2.get? id = some due ↔
      occurrence = .told (.schedule id due) ∨
        timetable.get? id = some due ∧ occurrence.Spares id due := by
  cases occurrence with
  | woken now =>
    refine get?_toCome.trans ⟨.inr, fun found => found.resolve_left nofun⟩
  | told order =>
    cases order with
    | schedule other time =>
      refine Register.get?_insert_eq_some.trans ⟨?_, ?_⟩
      · rintro (⟨rfl, rfl⟩ | ⟨apart, old⟩)
        · exact .inl rfl
        · exact .inr ⟨old, apart.symm⟩
      · rintro (same | ⟨old, apart⟩)
        · cases same
          exact .inl ⟨rfl, rfl⟩
        · exact .inr ⟨Ne.symm apart, old⟩
    | resolve other =>
      refine Register.get?_erase_eq_some.trans ⟨?_, ?_⟩
      · rintro ⟨apart, old⟩
        exact .inr ⟨old, apart.symm⟩
      · rintro (same | ⟨old, apart⟩)
        · cases same
        · exact ⟨Ne.symm apart, old⟩

/-- The deadlines of a timetable are those in force in its history. -/
theorem get?_course (history : List Occurrence) :
    (course Timetable.meet history Register.empty).2.get? id = some due ↔
      IsInForce history id due := by
  induction history using List.reverseRecOn with
  | nil =>
    refine ⟨nofun, fun ⟨early, late, parts, _⟩ => ?_⟩
    exact absurd parts.symm (List.append_ne_nil_of_right_ne_nil _ (List.cons_ne_nil _ _))
  | append_singleton history last ih => rw [course_concat, get?_meet, ih, isInForce_concat]

end History

/-- Whatever a reaper is told and whenever it wakes up, it fires at each occurrence what the
timetable fires, in the same order. While a timer is armed the reaper has to wake up by its deadline
at the latest. And when it wakes up after that, it fires each timer once at most, and it fires those
that were armed for a time that has come and have neither been armed again nor disarmed nor met a
wake-up at that time or later since. -/
theorem keeps_timetable (history : List Occurrence) :
    let reaper := course Reaper.meet history Reaper.empty
    let timetable := course Timetable.meet history Register.empty
    reaper.1 = timetable.1 ∧
      (∀ id due, timetable.2.get? id = some due →
        ∃ top, reaper.2.nextWake? = some top ∧ top ≤ due) ∧
      ∀ now, (reaper.2.wake now).1 = (timetable.2.wake now).1 ∧ (reaper.2.wake now).1.Nodup ∧
        ∀ id, id ∈ (reaper.2.wake now).1 ↔ ∃ due ≤ now, IsInForce history id due := by
  intro reaper timetable
  have start : Reaper.empty.Keeps Register.empty := ⟨rfl, .nil, nofun⟩
  obtain ⟨fired, keeps⟩ := course_agrees Keeps (fun occurrence _ _ => Keeps.meet occurrence)
    history start
  refine ⟨fired, fun id due set => keeps.nextWake set, fun now => ?_⟩
  have woken : (reaper.2.wake now).1 = (timetable.2.wake now).1 := (keeps.wake now).1
  refine ⟨woken, woken ▸ timetable.2.wake_nodup now, fun id => ?_⟩
  rw [woken, mem_wake]
  exact exists_congr fun due => and_congr_right fun _ => get?_course history

/-- A timer that is armed again for the time it had has two places in the queue and fires once. -/
example :
    (course Reaper.meet [.told (.schedule ⟨7⟩ 5), .told (.resolve ⟨7⟩), .told (.schedule ⟨7⟩ 5),
      .woken 4, .woken 5, .woken 6] Reaper.empty).1 = [[], [], [], [], [⟨7⟩], []] := by
  decide

end Reaper

end BoxOffice
