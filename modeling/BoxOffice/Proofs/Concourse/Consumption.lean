import BoxOffice.Proofs.Concourse.Order

/-!
# Reservations are consumed once

If the gateway never repeats a number, at most one call sells or releases the tickets held under a
number. Whoever comes later finds that out and changes nothing: a settlement finds nothing to
settle, and a release finds the payment or nothing to release. In the end each purchase with a
receipt is open, sold or released.
-/
namespace BoxOffice

/-- What a release that comes too late is told. -/
def Fate.afterwards : Fate → ReapOutcome
  | .sold => .alreadySettled
  | .released => .alreadyConsumed

namespace Call

/-- The reservation that a settlement, a release or a timer is about. -/
def id? : Call → Option TrackingId
  | .purchase _ => none
  | .settlement id _ | .release id _ | .timer id _ => some id

/-- Whether a call has ended with a receipt. -/
def isBought : Call → Bool
  | .purchase (.done (.ok _)) => true
  | _ => false

/-- Whether a call has ended by bringing a reservation to its fate. -/
def brings (fate : Fate) : Call → Bool
  | .settlement _ (.done (.ok (.sold _))) => fate = .sold
  | .settlement _ (.done (.ok (.released _))) => fate = .released
  | .release _ (.done (.ok (.released _))) => fate = .released
  | .timer _ (.done (.ok (.released _))) => fate = .released
  | _ => false

/-- Whether a call has ended by telling that it came too late. -/
inductive EndedLate (id : TrackingId) (fate : Fate) : Call → Prop
  /-- A settlement tells that there was nothing to settle. -/
  | settlement : EndedLate id fate (.settlement id (.done (.ok .duplicate)))
  /-- A release tells what became of the reservation. -/
  | release : EndedLate id fate (.release id (.done (.ok fate.afterwards)))
  /-- A timer does so as well. -/
  | timer : EndedLate id fate (.timer id (.done (.ok fate.afterwards)))

/-- What can be left of a call that came too late, and how many turns it takes at most. -/
inductive ComesLate (id : TrackingId) (fate : Fate) : Nat → Call → Prop
  /-- A settlement asks for the reservation. -/
  | settle (notification : PaymentNotification) (own : notification.trackingId = id) :
    ComesLate id fate 1 (.settlement id (Settlement.settle notification))
  /-- A release asks for the payment. -/
  | reap : ComesLate id fate 2 (.release id (Release.reap id))
  /-- A release asks for the reservation. -/
  | seek (unpaid : fate = .released) :
    ComesLate id fate 1 (.release id (Release.afterPaymentCheck id (.ok false)))
  /-- A timer asks for the payment. -/
  | fire : ComesLate id fate 3 (.timer id (Release.watch id))
  /-- A timer asks for the reservation. -/
  | fireSeek (unpaid : fate = .released) : ComesLate id fate 2
    (.timer id (Release.afterPaymentCheck id (.ok false) >>= Release.report id))
  /-- A timer makes its report. -/
  | report (turns : Nat) :
    ComesLate id fate (turns + 1) (.timer id (Release.report id (.ok fate.afterwards)))
  /-- The call has ended. -/
  | ended (turns : Nat) {call : Call} (late : call.EndedLate id fate) :
    ComesLate id fate turns call

end Call

/-- Whether something that happens is a turn of some call. -/
def Action.isTurnOf {σ : Type} [Ledger σ] [Bookkeeping σ] (caller : Nat) : Action σ → Bool
  | .go other => other == caller
  | _ => false

/-- Whether the reservation under a number is gone: nothing is in the store, and there is a payment
if its tickets were sold. -/
structure Engine.IsSpent {γ : Type} (engine : Engine MemoryLedger γ) (id : TrackingId)
    (fate : Fate) : Prop where
  /-- No reservation is open. -/
  absent : engine.store.get? id = none
  /-- There is a payment if the tickets were sold. -/
  paid : engine.desk.books.paymentExists id = decide (fate = .sold)

section

variable {γ : Type} [Gateway γ] {id : TrackingId} {fate : Fate}

/-- A call that takes a turn stays with its reservation. -/
theorem Call.id?_turn {σ : Type} [Ledger σ] (call : Call) (engine : Engine σ γ) :
    (call.turn engine).1.id? = call.id? := by
  cases call <;> rfl

/-- A call that has ended stays as it is. -/
theorem Call.EndedLate.turn {σ : Type} [Ledger σ] {call : Call} (late : call.EndedLate id fate)
    (engine : Engine σ γ) : call.turn engine = (call, engine) := by
  cases late <;> rfl

/-- Each turn brings a call that came too late nearer to its end, and changes neither the ledger nor
the store. -/
theorem Call.ComesLate.turn {turns : Nat} {call : Call} {engine : Engine MemoryLedger γ}
    (late : call.ComesLate id fate turns) (spent : engine.IsSpent id fate) :
    (call.turn engine).1.ComesLate id fate (turns - 1) ∧
      (call.turn engine).2.desk = engine.desk ∧ (call.turn engine).2.store = engine.store := by
  have asked : Engine.answer (.paymentExists id) engine =
      (.ok (decide (fate = .sold)), engine) := by
    rw [← spent.paid]
    rfl
  have taken : Engine.answer (.takeReservation id) engine = (none, engine) :=
    Engine.answer_take_of_absent spent.absent
  cases late with
  | settle notification own =>
    rw [← own] at taken
    have turned : (Settlement.settle notification).turn Engine.answer engine =
        (.done (.ok .duplicate), engine) := by
      simp only [Settlement.settle, Dialogue.turn, taken, Settlement.afterTake]
    simp only [Call.turn, turned]
    exact ⟨.ended _ .settlement, trivial, trivial⟩
  | reap =>
    have turned : (Release.reap id).turn Engine.answer engine =
        (Release.afterPaymentCheck id (.ok (decide (fate = .sold))), engine) := by
      simp only [Release.reap, Dialogue.turn, asked]
    simp only [Call.turn, turned]
    cases fate with
    | sold => exact ⟨.ended _ .release, trivial, trivial⟩
    | released => exact ⟨.seek rfl, trivial, trivial⟩
  | seek unpaid =>
    have turned : (Release.afterPaymentCheck id (.ok false)).turn Engine.answer engine =
        (.done (.ok .alreadyConsumed), engine) := by
      simp only [Release.afterPaymentCheck, Dialogue.turn, taken, Release.afterTake]
    simp only [Call.turn, turned, unpaid]
    exact ⟨.ended _ .release, trivial, trivial⟩
  | fire =>
    have turned : (Release.watch id).turn Engine.answer engine =
        (Release.afterPaymentCheck id (.ok (decide (fate = .sold))) >>= Release.report id,
          engine) := by
      simp only [Release.watch, Release.reap, Bind.bind, Dialogue.andThen, Dialogue.turn, asked]
    simp only [Call.turn, turned]
    cases fate with
    | sold => exact ⟨.report 1, trivial, trivial⟩
    | released => exact ⟨.fireSeek rfl, trivial, trivial⟩
  | fireSeek unpaid =>
    have turned : (Release.afterPaymentCheck id (.ok false) >>= Release.report id).turn
        Engine.answer engine = (Release.report id (.ok .alreadyConsumed), engine) := by
      simp only [Release.afterPaymentCheck, Bind.bind, Dialogue.andThen, Dialogue.turn, taken,
        Release.afterTake]
    simp only [Call.turn, turned, unpaid]
    exact ⟨.report 0, trivial, trivial⟩
  | report turns => exact ⟨.ended turns .timer, rfl, rfl⟩
  | ended turns late =>
    rw [late.turn engine]
    exact ⟨.ended _ late, rfl, rfl⟩

/-- A call that came too late and has no turn left, or is over, has ended. -/
theorem Call.ComesLate.endedLate {turns : Nat} {call : Call}
    (late : call.ComesLate id fate turns) (last : turns = 0 ∨ call.isOver = true) :
    call.EndedLate id fate := by
  cases late with
  | ended turns late => exact late
  | _ => rcases last with none | finished <;> contradiction

end

namespace Concourse

section

variable {σ γ : Type} [Ledger σ] [Bookkeeping σ] [Gateway γ] {concourse : Concourse σ γ}

/-- Only its own turns change what is left of a call. -/
theorem getElem?_step {caller : Nat} {call : Call}
    (present : concourse.calls[caller]? = some call) (action : Action σ) :
    (concourse.step action).calls[caller]? =
      some (if action.isTurnOf caller then (call.turn concourse.engine).1 else call) := by
  have grown (more : List Call) : (concourse.calls ++ more)[caller]? = some call := by
    obtain ⟨inside, -⟩ := List.getElem?_eq_some_iff.mp present
    rw [List.getElem?_append_left inside, present]
  cases action with
  | go other =>
    simp only [step, go, Action.isTurnOf, beq_iff_eq]
    by_cases own : other = caller
    · rw [own, present, if_pos rfl]
      obtain ⟨inside, -⟩ := List.getElem?_eq_some_iff.mp present
      exact List.getElem?_set_self inside
    · rw [if_neg own]
      split
      · exact present
      · simp only [List.getElem?_set_ne own]
        exact present
  | buy settings event request => exact grown _
  | settle notification => exact grown _
  | reap id => exact grown _
  | wake => exact grown _
  | follow =>
    simp only [step, follow]
    split <;> exact present
  | _ => exact present

/-- A call that begins about some reservation comes late if the reservation is gone. -/
theorem comesLate_step {caller : Nat} {call : Call} {action : Action σ} {id : TrackingId}
    (begun : (concourse.step action).calls[caller]? = some call)
    (fresh : concourse.calls.length ≤ caller) (about : call.id? = some id) (fate : Fate) :
    ∃ turns ≤ 3, call.ComesLate id fate turns := by
  have among (more : List Call) (present : (concourse.calls ++ more)[caller]? = some call) :
      call ∈ more := by
    rw [List.getElem?_append_right fresh] at present
    exact List.mem_of_getElem? present
  have absent : concourse.calls[caller]? ≠ some call := by
    rw [List.getElem?_eq_none fresh]
    nofun
  cases action with
  | buy settings event request =>
    rw [List.mem_singleton.mp (among _ begun)] at about
    contradiction
  | settle notification =>
    rw [List.mem_singleton.mp (among _ begun)] at about ⊢
    cases about
    exact ⟨1, by omega, .settle notification rfl⟩
  | reap other =>
    rw [List.mem_singleton.mp (among _ begun)] at about ⊢
    cases about
    exact ⟨2, by omega, .reap⟩
  | wake =>
    obtain ⟨other, -, rfl⟩ := List.mem_map.mp (among _ begun)
    cases about
    exact ⟨3, by omega, .fire⟩
  | go other =>
    simp only [step, go] at begun
    split at begun
    · contradiction
    · rw [List.getElem?_eq_none (by rw [List.length_set]; exact fresh)] at begun
      contradiction
  | follow =>
    simp only [step, follow] at begun
    split at begun <;> contradiction
  | _ => contradiction

end

section

variable {γ : Type} [Gateway γ] {concourse : Concourse MemoryLedger γ} {id : TrackingId}
  {fate : Fate} {first : Nat}

/-- In order nothing is left of a reservation whose tickets have been sold or released. -/
theorem IsRegular.isSpent (regular : concourse.IsRegular)
    (orderly : concourse.scene.InOrder) (consumed : (id, fate) ∈ concourse.consumptions) :
    concourse.engine.IsSpent id fate := by
  have order := orderly.order
  have gone := consumed
  rw [← consumptions_scene] at gone
  constructor
  · by_contra present
    obtain ⟨reservation, found⟩ := Option.ne_none_iff_exists'.mp present
    exact (orderly.of_open regular.engine.keyed found).2 (List.mem_map.mpr ⟨_, gone, rfl⟩)
  · rw [Bool.eq_iff_iff, decide_eq_true_eq]
    refine (order.paid id).trans ⟨fun sold => ?_, fun sold => sold ▸ gone⟩
    have once := (List.nodup_append.mp order.ids_nodup).2.1
    exact congrArg Prod.snd (List.inj_on_of_nodup_map once gone sold rfl)

/-- Whether all calls from some number on that are about a reservation come too late. -/
def AllLate (concourse : Concourse MemoryLedger γ) (id : TrackingId) (fate : Fate)
    (first : Nat) : Prop :=
  ∀ caller call, first ≤ caller → concourse.calls[caller]? = some call → call.id? = some id →
    ∃ turns ≤ 3, call.ComesLate id fate turns

/-- Calls that come too late do so after every step. -/
theorem AllLate.step (late : concourse.AllLate id fate first)
    (spent : concourse.engine.IsSpent id fate) (action : Action MemoryLedger) :
    (concourse.step action).AllLate id fate first := by
  intro caller call beyond present about
  by_cases old : caller < concourse.calls.length
  · have was := List.getElem?_eq_getElem old
    have now := getElem?_step was action
    rw [present] at now
    by_cases own : action.isTurnOf caller = true
    · rw [if_pos own] at now
      obtain rfl := Option.some.inj now
      rw [Call.id?_turn] at about
      obtain ⟨turns, few, coming⟩ := late caller _ beyond was about
      exact ⟨turns - 1, by omega, (coming.turn spent).1⟩
    · rw [if_neg own] at now
      obtain rfl := Option.some.inj now
      exact late caller _ beyond was about
  · exact comesLate_step present (by omega) about fate

end

end Concourse

section

variable {γ : Type} [Gateway γ] {opening : Opening MemoryLedger γ} {id : TrackingId} {fate : Fate}
  {actions : List (Action MemoryLedger)}

/-- Nothing is ever left of a reservation whose tickets have been sold or released. -/
theorem Opening.isSpent_after (fresh : Gateway.NeverRepeats opening.gateway)
    (consumed : (id, fate) ∈ (opening.after actions).consumptions)
    (more : List (Action MemoryLedger)) :
    (opening.after (actions ++ more)).engine.IsSpent id fate := by
  refine (opening.after_regular (actions ++ more)).isSpent (opening.inOrder_after fresh _) ?_
  rw [opening.after_append]
  exact (opening.after_regular actions).consumptions_run consumed more

/-- All calls about a reservation that begin when its tickets have been sold or released come too
late. -/
theorem Opening.allLate_after (fresh : Gateway.NeverRepeats opening.gateway)
    (consumed : (id, fate) ∈ (opening.after actions).consumptions)
    (more : List (Action MemoryLedger)) :
    (opening.after (actions ++ more)).AllLate id fate (opening.after actions).calls.length := by
  induction more using List.reverseRecOn with
  | nil =>
    intro caller call beyond present
    rw [List.append_nil, List.getElem?_eq_none beyond] at present
    contradiction
  | append_singleton more action ih =>
    rw [← List.append_assoc, opening.after_append]
    exact ih.step (opening.isSpent_after fresh consumed more) action

/-- A call that came too late is nearer to its end after each of its turns. -/
theorem Opening.comesLate_after {turns caller : Nat} {call : Call}
    (fresh : Gateway.NeverRepeats opening.gateway)
    (consumed : (id, fate) ∈ (opening.after actions).consumptions)
    (present : (opening.after actions).calls[caller]? = some call)
    (coming : call.ComesLate id fate turns) (late : List (Action MemoryLedger)) :
    ∃ last, (opening.after (actions ++ late)).calls[caller]? = some last ∧
      last.ComesLate id fate (turns - late.countP (Action.isTurnOf caller)) := by
  induction late using List.reverseRecOn with
  | nil =>
    rw [List.append_nil]
    exact ⟨call, present, coming⟩
  | append_singleton late action ih =>
    obtain ⟨last, was, nearer⟩ := ih
    have spent := opening.isSpent_after fresh consumed late
    rw [← List.append_assoc, opening.after_append, List.countP_append, List.countP_singleton]
    refine ⟨_, Concourse.getElem?_step was action, ?_⟩
    by_cases own : action.isTurnOf caller = true
    · rw [if_pos own, if_pos own, ← Nat.sub_sub]
      exact (nearer.turn spent).1
    · rw [if_neg own, if_neg own]
      exact nearer

end

/-- A call that is over has brought a reservation to its fate if it has sold or released it. -/
theorem Call.brings_iff {call : Call} (finished : call.isOver = true) (fate : Fate) :
    call.brings fate = true ↔ ∃ id, call.phase.consumption? = some (id, fate) := by
  rcases call.eq_done_of_isOver finished with
    ⟨result, rfl⟩ | ⟨id, result, rfl⟩ | ⟨id, result, rfl⟩ | ⟨id, result, rfl⟩
  · cases result <;> simp [brings, phase, phaseOf, purchaseEnd, Phase.consumption?]
  · rcases result with abort | (tickets | tickets | _) <;>
      simp [brings, phase, phaseOf, settlementEnd, Phase.consumption?, eq_comm]
  · rcases result with abort | (tickets | _ | _) <;>
      simp [brings, phase, phaseOf, releaseEnd, Phase.consumption?, eq_comm]
  · rcases result with abort | (tickets | _ | _) <;>
      simp [brings, phase, phaseOf, releaseEnd, Phase.consumption?, eq_comm]

/-- A call that is over has ended with a receipt if it has bought something. -/
theorem Call.isBought_of_isOver {call : Call} (finished : call.isOver = true) :
    call.isBought = (call.role.bought? call.phase).isSome := by
  rcases call.eq_done_of_isOver finished with
    ⟨result, rfl⟩ | ⟨id, result, rfl⟩ | ⟨id, result, rfl⟩ | ⟨id, result, rfl⟩
  · cases result <;> rfl
  · rfl
  · rfl
  · rfl

namespace Concourse

variable {γ : Type} {concourse : Concourse MemoryLedger γ}

/-- When no call is running, whatever has been sold or released is the outcome of a call. -/
theorem consumptions_of_over (finished : ∀ call ∈ concourse.calls, call.isOver = true) :
    concourse.consumptions.length =
      concourse.calls.countP (·.brings .sold) + concourse.calls.countP (·.brings .released) := by
  have among (fate : Fate) : concourse.consumptions.countP (fun gone => gone.2 = fate) =
      concourse.calls.countP (·.brings fate) := by
    rw [consumptions, List.countP_filterMap]
    refine List.countP_congr fun call member => ?_
    rw [call.brings_iff (finished call member)]
    cases call.phase.consumption? <;> simp [Prod.ext_iff]
  rw [← among .sold, ← among .released, List.length_eq_countP_add_countP fun gone => gone.2 = .sold]
  congr 1
  refine List.countP_congr fun gone _ => ?_
  cases gone.2 <;> simp

/-- In order, when no call is running, each purchase with a receipt is open, sold or released. -/
theorem bought_of_over [Gateway γ] (orderly : concourse.scene.InOrder)
    (finished : ∀ call ∈ concourse.calls, call.isOver = true) :
    concourse.calls.countP (·.isBought) = concourse.engine.store.size +
      concourse.calls.countP (·.brings .sold) + concourse.calls.countP (·.brings .released) := by
  have bought : concourse.scene.bought.length = concourse.calls.countP (·.isBought) := by
    simp only [Scene.bought, scene, List.filterMap_map, List.length_filterMap_eq_countP]
    refine List.countP_congr fun call member => ?_
    rw [call.isBought_of_isOver (finished call member)]
    rfl
  have accounted := orderly.bought.symm.trans orderly.order.accounted
  have lengths := accounted.length_eq
  rw [live_scene, consumptions_scene, live_of_over finished, List.length_append, List.length_map,
    List.length_map, List.length_map, consumptions_of_over finished, bought] at lengths
  rw [lengths, Nat.add_assoc]
  congr 1
  exact List.length_map _

end Concourse

/-- Each reservation is consumed once if the gateway never repeats a number. Whatever has happened,
no number has been sold or released twice. Once it has been, a call about it that begins later
changes neither the ledger nor the store in any of its turns, and ends after three of them at most,
telling that it came too late. And when no call is running, the purchases with a receipt are as many
as there are reservations in the store and calls that ended with tickets sold or released. -/
theorem Opening.consumed_once {γ : Type} [Gateway γ] (opening : Opening MemoryLedger γ)
    (fresh : Gateway.NeverRepeats opening.gateway) (actions : List (Action MemoryLedger)) :
    ((opening.after actions).consumptions.map (·.1)).Nodup ∧
      (∀ id fate, (id, fate) ∈ (opening.after actions).consumptions →
        ∀ more caller call, (opening.after actions).calls.length ≤ caller →
          (opening.after (actions ++ more)).calls[caller]? = some call → call.id? = some id →
            (call.turn (opening.after (actions ++ more)).engine).2.desk =
                (opening.after (actions ++ more)).engine.desk ∧
              (call.turn (opening.after (actions ++ more)).engine).2.store =
                (opening.after (actions ++ more)).engine.store ∧
              (call.isOver = true → call.EndedLate id fate) ∧
              ∀ late, 3 ≤ late.countP (Action.isTurnOf caller) →
                ∃ last, (opening.after (actions ++ more ++ late)).calls[caller]? = some last ∧
                  last.EndedLate id fate) ∧
      ((∀ call ∈ (opening.after actions).calls, call.isOver = true) →
        (opening.after actions).calls.countP (·.isBought) =
          (opening.after actions).engine.store.size +
            (opening.after actions).calls.countP (·.brings .sold) +
            (opening.after actions).calls.countP (·.brings .released)) := by
  have orderly := opening.inOrder_after fresh actions
  have order := orderly.order
  rw [Concourse.live_scene, Concourse.consumptions_scene] at order
  have once := (List.nodup_append.mp order.ids_nodup).2.1
  refine ⟨once, fun id fate consumed more caller call beyond present about => ?_,
    Concourse.bought_of_over orderly⟩
  obtain ⟨turns, few, coming⟩ :=
    opening.allLate_after fresh consumed more caller call beyond present about
  obtain ⟨-, desk, store⟩ := coming.turn (opening.isSpent_after fresh consumed more)
  refine ⟨desk, store, fun finished => coming.endedLate (.inr finished), fun late enough => ?_⟩
  have stays : (id, fate) ∈ (opening.after (actions ++ more)).consumptions := by
    rw [opening.after_append]
    exact (opening.after_regular actions).consumptions_run consumed more
  obtain ⟨last, found, nearer⟩ := opening.comesLate_after fresh stays present coming late
  exact ⟨last, found, nearer.endedLate (.inl (by omega))⟩

namespace Matinee

/-- The gateway tells that the first bill has been paid. -/
def notification : PaymentNotification := ⟨"", "", 7, "A", "", "", "", 100, "SUCCESSFUL", "", ""⟩

/-- Someone buys the ticket and pays for it. -/
def sale : List (Action MemoryLedger) :=
  purchase 4 ++ .settle notification :: List.replicate 3 (.go 1)

end Matinee

/-- After a sale both the second notification and the timer come too late. -/
theorem Opening.consumed_once_matinee :
    (Matinee.opening.after Matinee.sale).consumptions = [(⟨7⟩, .sold)] ∧
      (Matinee.opening.after Matinee.sale).calls.countP (·.isBought) = 1 ∧
      (∃ last, (Matinee.opening.after (Matinee.sale ++ [.settle Matinee.notification] ++
          [.go 2, .go 2, .go 2])).calls[2]? = some last ∧ last.EndedLate ⟨7⟩ .sold) ∧
      ∃ last, (Matinee.opening.after (Matinee.sale ++ [.reap ⟨7⟩] ++
          [.go 2, .go 2, .go 2])).calls[2]? = some last ∧ last.EndedLate ⟨7⟩ .sold := by
  obtain ⟨-, tooLate, bought⟩ :=
    Matinee.opening.consumed_once Matinee.neverRepeats Matinee.sale
  have sold : (⟨7⟩, .sold) ∈ (Matinee.opening.after Matinee.sale).consumptions := by decide
  have finished : ∀ call ∈ (Matinee.opening.after Matinee.sale).calls, call.isOver = true := by
    decide
  have second := tooLate _ _ sold [.settle Matinee.notification] 2 _ (by decide) rfl rfl
  have third := tooLate _ _ sold [.reap ⟨7⟩] 2 _ (by decide) rfl rfl
  exact ⟨by decide, (bought finished).trans (by decide), second.2.2.2 _ (by decide),
    third.2.2.2 _ (by decide)⟩

end BoxOffice
