import BoxOffice.Proofs.Engine.Outcome

/-!
# Purchases that are taken back

A purchase that is followed by a release of its reservation leaves nothing behind. The tickets that
it held are available again, the counter of its code goes down by the one it went up, the last use
on record is taken off, and its reservation was the only one under its number. So it is for each of
the ways to release: a notification that does not tell of a payment, a release on demand, and the
timer that fires when the time has run out.
-/
namespace BoxOffice

namespace Clearing

/-- Whether a clearing cannot sell anything. -/
def OnlyReleases : Clearing → Prop
  | .settle notification => notification.status ≠ "SUCCESSFUL"
  | .reap _ | .expire _ => True

/-- The outcome of a clearing by which so many tickets are available again. -/
def released (tickets : Nat) : (clearing : Clearing) → clearing.Result
  | .settle _ => SettlementOutcome.released tickets
  | .reap _ | .expire _ => ReapOutcome.released tickets

variable {γ : Type} [Gateway γ] {desk : Desk MemoryLedger γ} {clearing : Clearing}

/-- At the desk a clearing that cannot sell releases all pending tickets of the reservation, if
nothing is made to fail, uses can be returned, and nobody paid. -/
theorem judge_released (releases : clearing.OnlyReleases) (smooth : desk.ledger.failing = [])
    (returnable : desk.books.CanReturn)
    (unpaid : desk.books.paymentExists clearing.id = false) (reservation : Reservation) :
    (clearing.judge (some reservation) desk).1 =
        .ok (clearing.released (desk.books.countAmong reservation.tickets .pending)) ∧
      (clearing.judge (some reservation) desk).2.books =
        desk.books.freed reservation.tickets reservation.id := by
  have faithful : desk.IsFaithful := trivial
  have reclaimed := Desk.perform_reclaim smooth returnable reservation
  have release (id : TrackingId) (unpaid : desk.books.paymentExists id = false) :
      judgeRelease id (some reservation) desk =
        ((desk.perform (.reclaim reservation)).1.map .released,
          (desk.perform (.reclaim reservation)).2) := by
    show judgeChecked (.ok (desk.books.paymentExists id)) (some reservation) desk = _
    rw [unpaid]
    rfl
  cases clearing with
  | settle notification =>
    have other : ¬notification.isPaid = true := fun paid =>
      releases (notification.isPaid_iff.mp paid)
    have freed := Desk.perform_release smooth returnable reservation
    simp only [judge, judgeSettlement, if_neg other, freed]
    exact ⟨rfl, Desk.perform_deed faithful freed⟩
  | reap id =>
    simp only [judge, release id unpaid, reclaimed]
    exact ⟨rfl, Desk.perform_deed faithful reclaimed⟩
  | expire id =>
    simp only [judge, release id unpaid, reclaimed]
    exact ⟨rfl, Desk.perform_deed faithful reclaimed⟩

end Clearing

namespace Engine

variable {γ : Type}

/-- Whether the books and the open reservations are at a later moment what they were. -/
structure IsBack (engine later : Engine MemoryLedger γ) : Prop where
  /-- The books are the same. -/
  books : later.desk.books = engine.desk.books
  /-- The same reservations are open. -/
  store : later.store = engine.store

/-- Whether all that has happened between two moments is taken back when the reservation of a
receipt is released. -/
structure IsReversible (engine later : Engine MemoryLedger γ) (receipt : Receipt) : Prop where
  /-- The store can be relied on. -/
  tidy : later.IsTidy
  /-- Nothing is made to fail. -/
  smooth : later.desk.ledger.failing = []
  /-- The uses on record can be returned. -/
  returnable : later.desk.books.CanReturn
  /-- Nobody has paid. -/
  unpaid : later.desk.books.paymentExists receipt.id = false
  /-- The reservation is open, its tickets are all pending, and to release them takes all back. -/
  found : ∃ reservation, later.store.get? receipt.id = some reservation ∧
    later.desk.books.countAmong reservation.tickets .pending = receipt.tickets.length ∧
      later.desk.books.freed reservation.tickets reservation.id = engine.desk.books
  /-- No other reservation has been opened or closed. -/
  store : later.store.erase receipt.id = engine.store

variable {engine later waiting : Engine MemoryLedger γ} {receipt : Receipt}

/-- What can be taken back can be so at other times and with other timers. -/
theorem IsReversible.congr (reversible : engine.IsReversible later receipt)
    (desk : waiting.desk = later.desk) (store : waiting.store = later.store) :
    engine.IsReversible waiting receipt := by
  constructor
  · exact ⟨store ▸ reversible.tidy.keyed⟩
  · rw [desk]
    exact reversible.smooth
  · rw [desk]
    exact reversible.returnable
  · rw [desk]
    exact reversible.unpaid
  · rw [desk, store]
    exact reversible.found
  · rw [store]
    exact reversible.store

variable [Gateway γ]

/-- A clearing that cannot sell takes back what can be taken back. -/
theorem IsReversible.handle (reversible : engine.IsReversible later receipt) {clearing : Clearing}
    (own : clearing.id = receipt.id) (releases : clearing.OnlyReleases) :
    (later.handle clearing.program).1 = .ok (clearing.released receipt.tickets.length) ∧
      engine.IsBack (later.handle clearing.program).2 ∧
        (later.handle clearing.program).2.events = later.events ++
          clearing.reports (.ok (clearing.released receipt.tickets.length)) := by
  obtain ⟨reservation, found, counted, back⟩ := reversible.found
  have unpaid := reversible.unpaid
  rw [← own] at found unpaid
  obtain ⟨outcome, freed⟩ :=
    Clearing.judge_released releases reversible.smooth reversible.returnable unpaid reservation
  rw [counted, ← found] at outcome
  rw [back, ← found] at freed
  have outcome : (later.judge clearing).1 = .ok (clearing.released receipt.tickets.length) :=
    outcome
  have taken : clearing.isTaken (.ok (clearing.released receipt.tickets.length)) = true := by
    cases clearing <;> rfl
  rw [reversible.tidy.handle_clearing clearing]
  refine ⟨outcome, ⟨freed, ?_⟩, ?_⟩
  · show (if clearing.isTaken (later.judge clearing).1 then later.store.erase clearing.id
      else later.store) = engine.store
    rw [outcome, if_pos taken, own]
    exact reversible.store
  · show later.events ++ clearing.reports (later.judge clearing).1 = _
    rw [outcome]

/-- An engine that is idle at rest stays so. -/
theorem IsIdle.rest (idle : engine.IsIdle) (positive : 0 < engine.delay) :
    engine.rest = engine := by
  unfold Engine.rest
  rw [followCommands_of_quiet idle.quiet, fireDue_of_waits (idle.waits positive),
    followCommands_of_quiet idle.quiet]

/-- Nothing happens at an idle engine while no time passes. -/
theorem IsIdle.advanceTo_clock (idle : engine.IsIdle) (positive : 0 < engine.delay)
    (stops : Nat) : engine.advanceTo engine.clock stops = engine := by
  have rests : Engine.rest { engine with clock := engine.clock } = engine := idle.rest positive
  cases stops with
  | zero => exact rests
  | succ stops =>
    unfold Engine.advanceTo
    split
    · exact rests
    · rename_i due next
      have late : ¬due ≤ engine.clock := by
        obtain ⟨place, first, rfl⟩ := Option.map_eq_some_iff.mp next
        have waits := idle.waits positive place (List.mem_of_head? first)
        omega
      rw [if_neg late]
      exact rests

/-- An engine that has told its reaper nothing comes to rest by letting the timers fire that are
due. -/
theorem rest_of_wake (quiet : engine.commands = []) {ids : List TrackingId}
    (fires : (engine.reaper.wake engine.clock).1 = ids) :
    engine.rest = followCommands (ids.foldl (fun engine id => (engine.run (Release.fire id)).2)
      { engine with reaper := (engine.reaper.wake engine.clock).2 }) := by
  unfold Engine.rest
  rw [followCommands_of_quiet quiet, ← fires]
  rfl

omit [Gateway γ] in
/-- Whether of all timers that are armed the first to come is that of some reservation, and no other
comes at the same time. -/
structure AwaitsOnly (engine : Engine MemoryLedger γ) (id : TrackingId) (due : Nat) : Prop where
  /-- The reaper has followed its commands. -/
  quiet : engine.commands = []
  /-- Its queue goes by time. -/
  ordered : engine.reaper.IsOrdered
  /-- The timer is armed. -/
  set : engine.reaper.IsSet id due
  /-- All others come later. -/
  alone : ∀ other time, engine.reaper.deadlines.get? other = some time → other ≠ id → due < time

namespace AwaitsOnly

variable {id : TrackingId} {due : Nat}

omit [Gateway γ] in
/-- The timer is awaited at any time. -/
theorem clocked (awaits : engine.AwaitsOnly id due) (clock : Nat) :
    AwaitsOnly { engine with clock } id due :=
  ⟨awaits.quiet, awaits.ordered, awaits.set, awaits.alone⟩

/-- At rest no timer fires before the one that is awaited, and it goes on to be awaited. -/
theorem rest_early (awaits : engine.AwaitsOnly id due) (early : engine.clock < due) :
    engine.rest = { engine with reaper := (engine.reaper.wake engine.clock).2 } ∧
      engine.rest.AwaitsOnly id due := by
  have none : (engine.reaper.wake engine.clock).1 = [] := by
    rw [List.eq_nil_iff_forall_not_mem]
    intro other fires
    obtain ⟨time, come, armed⟩ := Reaper.due_of_mem_fireDue fires
    by_cases own : other = id
    · rw [own, awaits.set.1] at armed
      have same : due = time := Option.some.inj armed
      omega
    · have late := awaits.alone other time armed own
      omega
  have rests : engine.rest = { engine with reaper := (engine.reaper.wake engine.clock).2 } :=
    (rest_of_wake awaits.quiet none).trans (followCommands_of_quiet awaits.quiet)
  rw [rests]
  refine ⟨rfl, awaits.quiet, (awaits.ordered.wake engine.clock).1, ?_, ?_⟩
  · rcases Reaper.fireDue_set engine.clock awaits.set.1 awaits.set.2 with fires | still
    · have fires : id ∈ (engine.reaper.wake engine.clock).1 := fires
      rw [none] at fires
      contradiction
    · exact still
  · have same : (engine.reaper.wake engine.clock).2.deadlines = engine.reaper.deadlines :=
      Reaper.fireDue_deadlines none
    show ∀ other time, (engine.reaper.wake engine.clock).2.deadlines.get? other = some time → _
    rw [same]
    exact awaits.alone

/-- At its time the timer that is awaited fires alone. -/
theorem rest_due (awaits : engine.AwaitsOnly id due) (come : engine.clock = due) :
    engine.rest = ({ engine with
      reaper := (engine.reaper.wake engine.clock).2 }.handle (Clearing.expire id).program).2 := by
  have fires : id ∈ (engine.reaper.wake engine.clock).1 := by
    rcases Reaper.fireDue_set engine.clock awaits.set.1 awaits.set.2 with fired | still
    · exact fired
    · have late := (awaits.ordered.wake engine.clock).2 _ still.2
      have late : engine.clock < due := late
      omega
  have only : (engine.reaper.wake engine.clock).1 = [id] := by
    have once : (engine.reaper.wake engine.clock).1.Nodup := Reaper.fireDue_nodup _ _ _
    have same : (engine.reaper.wake engine.clock).1.Perm [id] := by
      rw [List.perm_ext_iff_of_nodup once (List.nodup_singleton _)]
      intro other
      rw [List.mem_singleton]
      refine ⟨fun fired => ?_, fun own => own ▸ fires⟩
      obtain ⟨time, early, armed⟩ := Reaper.due_of_mem_fireDue fired
      by_contra apart
      have late := awaits.alone other time armed apart
      omega
    exact List.perm_singleton.mp same
  rw [rest_of_wake awaits.quiet only, List.foldl_cons, List.foldl_nil, run_fire]
  rfl

end AwaitsOnly

/-- What can be taken back is taken back when the engine comes to rest at the time at which the
timer of the reservation is awaited. -/
theorem IsReversible.rest (reversible : engine.IsReversible later receipt) {due : Nat}
    (awaits : later.AwaitsOnly receipt.id due) :
    engine.IsBack (Engine.rest { later with clock := due }) ∧
      (Engine.rest { later with clock := due }).events =
        later.events ++ [⟨receipt.id, .ok (.released receipt.tickets.length)⟩] := by
  let waiting : Engine MemoryLedger γ :=
    { later with clock := due, reaper := (later.reaper.wake due).2 }
  have still : engine.IsReversible waiting receipt := reversible.congr rfl rfl
  have releases : (Clearing.expire receipt.id).OnlyReleases := trivial
  obtain ⟨-, back, events⟩ := still.handle rfl releases
  rw [(awaits.clocked due).rest_due rfl]
  exact ⟨back, events⟩

/-- What can be taken back is taken back while the time of the reservation runs out, if no other
timer comes in the meantime. -/
theorem IsReversible.advanceTo (reversible : engine.IsReversible later receipt)
    (positive : 0 < later.delay) {due : Nat} (awaits : later.AwaitsOnly receipt.id due)
    (early : later.clock ≤ due) (stops : Nat) :
    engine.IsBack (later.advanceTo due stops) ∧ (later.advanceTo due stops).events =
      later.events ++ [⟨receipt.id, .ok (.released receipt.tickets.length)⟩] := by
  induction stops generalizing later with
  | zero => exact reversible.rest awaits
  | succ stops ih =>
    have ends := reversible.rest awaits
    unfold Engine.advanceTo
    split
    · exact ends
    rename_i stop next
    by_cases come : stop ≤ due
    · rw [if_pos come]
      by_cases last : max later.clock stop = due
      · -- The timer fires at this stop, and nothing comes up between it and the time.
        obtain ⟨idle, clock, delay⟩ := rest_isIdle { later with clock := due } awaits.ordered
        have positive : 0 < (Engine.rest { later with clock := due }).delay := by
          rw [delay]
          exact positive
        have rests := idle.advanceTo_clock positive stops
        rw [clock] at rests
        rw [last, rests]
        exact ends
      · have before : max later.clock stop < due := by omega
        obtain ⟨rests, awaits⟩ := (awaits.clocked (max later.clock stop)).rest_early before
        have still : engine.IsReversible (Engine.rest { later with clock := max later.clock stop })
            receipt := by
          rw [rests]
          exact reversible.congr rfl rfl
        rw [rests] at still awaits ⊢
        exact ih still positive awaits (Nat.le_of_lt before)
    · rw [if_neg come]
      exact ends

/-- A purchase can be taken back if its number is that of no receipt before. It holds as many
tickets as were asked for, and tells the reaper to arm their timer. -/
theorem IsVouchedFor.reversible {receipts : List Receipt} (vouched : engine.IsVouchedFor receipts)
    (smooth : engine.desk.ledger.failing = []) {settings : CheckoutSettings} {event : Uuid}
    {request : PurchaseRequest}
    (bought : (engine.run (Checkout.buy settings event request)).1 = .ok receipt)
    (fresh : receipt.id ∉ receipts.map (·.id)) :
    engine.IsReversible (engine.run (Checkout.buy settings event request)).2 receipt ∧
      (receipt.tickets.length : Int) = request.amount.toInt ∧
        (engine.run (Checkout.buy settings event request)).2.commands =
          engine.commands ++ [.schedule receipt.id (engine.clock + engine.delay)] := by
  have sound := vouched.sound.run_buy settings event request
  have smoothly : engine.IsSmooth := ⟨vouched.sound.regular, smooth⟩
  have smoothLater := smoothly.run (Checkout.buy settings event request)
  have purchased := vouched.sound.run_purchase settings event request
  generalize engine.run (Checkout.buy settings event request) = ran at *
  cases purchased with
  | failed abort desk same => contradiction
  | bought hold desk checked serves held redeemed absent =>
    obtain rfl : Checkout.receiptOf event request hold = receipt := Except.ok.inj bought
    have unused : hold.id ∉ engine.desk.books.uses.map (·.id) := fun used =>
      fresh (vouched.vouched.used used)
    have unpaid : desk.books.paymentExists hold.id = false := by
      rw [Bool.eq_false_iff, ne_eq, Books.paymentExists_iff, held.payments]
      exact fun paid => fresh (vouched.vouched.paid paid)
    have back : desk.books.freed hold.ticketIds hold.id = engine.desk.books :=
      held.freed redeemed vouched.sound.custody.distinct vouched.sound.tallied unused
    let reservation := Checkout.reservationOf event request hold desk.now
    have found : (engine.store.insert hold.id reservation).get? hold.id = some reservation :=
      Register.get?_insert_self _ _ _
    refine ⟨⟨sound.tidy, smoothLater.sound, smoothLater.regular.returnable, unpaid, ?_, ?_⟩, ?_,
      rfl⟩
    · exact ⟨reservation, found, sound.counted found, back⟩
    · exact Register.erase_insert reservation absent
    · show ((hold.tickets.map (·.id)).length : Int) = request.amount.toInt
      rw [List.length_map]
      exact serves.count

omit [Gateway γ] in
/-- When the reaper of an idle engine has been told of one timer more, and all others come later,
that timer is awaited. -/
theorem IsIdle.awaitsOnly (idle : engine.IsIdle) {id : TrackingId} {due : Nat}
    (told : later.commands = engine.commands ++ [.schedule id due])
    (reaper : later.reaper = engine.reaper)
    (alone : ∀ other time, engine.reaper.deadlines.get? other = some time → other ≠ id →
      due < time) : later.followCommands.AwaitsOnly id due := by
  rw [idle.quiet] at told
  have follows : later.followCommands.reaper = engine.reaper.follow (.schedule id due) := by
    simp only [followCommands, told, reaper, List.nil_append, List.foldl_cons, List.foldl_nil]
  refine ⟨rfl, ?_, ?_, fun other time set apart => ?_⟩
  · rw [follows]
    exact idle.ordered.follow _
  · rw [follows]
    exact engine.reaper.isSet_schedule id due
  · rw [follows, Reaper.get?_follow_of_ne _ (Ne.symm apart)] at set
    exact alone other time set apart

end Engine

/-- A release undoes a purchase. Whatever has happened at an engine, if its ledger in memory is not
made to fail and a purchase succeeds under a number that no receipt has: a notification with any
other status than that of a payment, a release on demand and the timer of the reservation each
release as many tickets as were asked for, and leave all of the books and the open reservations as
they were before the purchase. If reservations stay open for any time at all, coming to rest after
these services changes nothing; and when that time passes, and no other timer comes in the meantime,
the timer of the reservation does the same. -/
theorem Checkout.release_undoes_purchase {γ : Type} [Gateway γ] {engine : Engine MemoryLedger γ}
    {receipts : List Receipt} (reached : engine.ReachedWith receipts)
    (smooth : engine.desk.ledger.failing = []) (settings : CheckoutSettings) (event : Uuid)
    (request : PurchaseRequest) {receipt : Receipt}
    (bought : (engine.handle (buy settings event request)).1 = .ok receipt)
    (fresh : receipt.id ∉ receipts.map (·.id)) :
    let later := (engine.handle (buy settings event request)).2
    ∃ tickets : Nat, (tickets : Int) = request.amount.toInt ∧
      (∀ notification, notification.trackingId = receipt.id → notification.status ≠ "SUCCESSFUL" →
        (later.handle (Settlement.settle notification)).1 = .ok (.released tickets) ∧
          engine.IsBack (later.handle (Settlement.settle notification)).2) ∧
      ((later.handle (Release.reap receipt.id)).1 = .ok (.released tickets) ∧
        engine.IsBack (later.handle (Release.reap receipt.id)).2) ∧
      ((later.handle (Release.fire receipt.id)).2.events =
          later.events ++ [⟨receipt.id, .ok (.released tickets)⟩] ∧
        engine.IsBack (later.handle (Release.fire receipt.id)).2) ∧
      (0 < engine.delay →
        engine.buy settings event request = engine.handle (buy settings event request) ∧
        (∀ {α : Type} (program : Program α), later.perform program = later.handle program) ∧
        ((∀ other due, engine.reaper.deadlines.get? other = some due → other ≠ receipt.id →
            engine.clock + engine.delay < due) →
          (later.advance engine.delay).events =
              later.events ++ [⟨receipt.id, .ok (.released tickets)⟩] ∧
            engine.IsBack (later.advance engine.delay))) := by
  intro later
  obtain ⟨-, idle⟩ := reached.reached.sound_idle
  obtain ⟨begun, count, told⟩ := reached.vouched.reversible smooth bought fresh
  have reversible : engine.IsReversible later receipt := begun.congr rfl rfl
  refine ⟨receipt.tickets.length, count, fun notification own other => ?_, ?_, ?_,
    fun positive => ?_⟩
  · have own : (Clearing.settle notification).id = receipt.id := own
    have onlyReleases : (Clearing.settle notification).OnlyReleases := other
    obtain ⟨outcome, back, -⟩ := reversible.handle own onlyReleases
    exact ⟨outcome, back⟩
  · have onlyReleases : (Clearing.reap receipt.id).OnlyReleases := trivial
    obtain ⟨outcome, back, -⟩ := reversible.handle rfl onlyReleases
    exact ⟨outcome, back⟩
  · have onlyReleases : (Clearing.expire receipt.id).OnlyReleases := trivial
    obtain ⟨-, back, events⟩ := reversible.handle rfl onlyReleases
    rw [Engine.handle_fire]
    exact ⟨events, back⟩
  · obtain ⟨performed, idleLater, delay⟩ := idle.perform positive (buy settings event request)
    have positiveLater : 0 < later.delay := Nat.lt_of_lt_of_eq positive delay.symm
    refine ⟨performed, fun program => (idleLater.perform positiveLater program).1, fun alone => ?_⟩
    obtain ⟨reaper, clock, -⟩ := Engine.run_frame (buy settings event request) engine
    have awaits := idle.awaitsOnly told reaper alone
    have clock : later.clock = engine.clock := clock
    have early : later.clock ≤ engine.clock + engine.delay := by omega
    obtain ⟨back, events⟩ :=
      reversible.advanceTo positiveLater awaits early (engine.delay + 1)
    rw [← clock] at back events
    exact ⟨events, ⟨back.books, back.store⟩⟩

namespace Matinee

/-- A season in which two tickets are put on sale and a code is issued. -/
def quietSeason : Season ScriptedGateway :=
  { relaxedSeason with
    steps := [.stock event "A" 100 [(.ofNat 1, "A1"), (.ofNat 2, "A2")], .issue code] }

end Matinee

/-- A ticket is bought at the price of a code and released on demand or when its time runs out, and
the code has not been used. -/
theorem Checkout.release_undoes_purchase_matinee :
    let office := Matinee.quietSeason.ending
    let later := (office.buy ⟨0, 30, ""⟩ Matinee.event Matinee.discounted).2
    later.desk.books.uses.length = 1 ∧ office.desk.books.uses.length = 0 ∧
      (later.reap ⟨7⟩).1 = .ok (.released 1) ∧ office.IsBack (later.reap ⟨7⟩).2 ∧
        office.IsBack (later.advance 10) := by
  intro office later
  have opened : Matinee.quietSeason.beginning.ReachedWith [] := .start _ _ _
  have stocked := opened.step
    (.stock Matinee.event "A" 100 [(.ofNat 1, "A1"), (.ofNat 2, "A2")]) (by decide)
  have reached : office.ReachedWith [] := stocked.step (.issue Matinee.code) (by decide)
  have numbered : ((office.handle (buy ⟨0, 30, ""⟩ Matinee.event Matinee.discounted)).1.toOption.map
      Receipt.id) = some ⟨7⟩ := by
    decide
  cases bought : (office.handle (buy ⟨0, 30, ""⟩ Matinee.event Matinee.discounted)).1 with
  | error abort =>
    rw [bought] at numbered
    contradiction
  | ok receipt =>
    rw [bought] at numbered
    have own : receipt.id = ⟨7⟩ := Option.some.inj numbered
    obtain ⟨tickets, count, -, ⟨outcome, back⟩, -, rests⟩ :=
      release_undoes_purchase reached rfl _ _ _ bought List.not_mem_nil
    obtain ⟨performed, settled, passes⟩ := rests (by decide)
    obtain rfl : tickets = 1 := Int.ofNat.inj count
    have alone : ∀ other due, office.reaper.deadlines.get? other = some due →
        other ≠ receipt.id → office.clock + office.delay < due := nofun
    obtain ⟨-, passed⟩ := passes alone
    have rested := settled (Release.reap receipt.id)
    rw [← rested, own] at outcome back
    rw [← performed] at outcome back passed
    exact ⟨by decide, by decide, outcome, back, passed⟩

end BoxOffice
