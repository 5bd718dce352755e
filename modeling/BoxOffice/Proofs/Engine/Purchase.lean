import BoxOffice.Proofs.Engine.Decision

/-!
# What a purchase does

A purchase that ends with a receipt has done all that it can: the first tickets that could be held
are pending, the code that was entered counts one use more, one bill was asked for and made, and
the reservation is open under its number and has a timer. `Checkout.Effect` says for all that an
engine consists of what it is afterwards.
-/
namespace BoxOffice

namespace Books

variable {books : Books} {event : Uuid} {request : PurchaseRequest}

/-- Whether of some codes the first with an identifier counts one use more afterwards, and nothing
else is different about any. -/
def CountsOneMore (code : Uuid) (codes later : List ReferralCode) : Prop :=
  ∃ before counted after, codes = before ++ counted :: after ∧
    (∀ other ∈ before, other.id ≠ code) ∧ counted.id = code ∧
      later = before ++ { counted with currentUses := counted.currentUses + 1 } :: after ∧
        (counted.currentUses + 1).toInt = counted.currentUses.toInt + 1

/-- A code that counts one use more does so where it is found, and all others stay. -/
theorem countsOneMore_changeFirst {code : Uuid} (room : books.HasRoom code) :
    CountsOneMore code books.codes (changeFirst code addUse books.codes) := by
  obtain ⟨counted, found, below⟩ := room
  have counts := addUse_toInt (room_of_ne below)
  generalize books.codes = codes at found
  induction codes with
  | nil => contradiction
  | cons first rest ih =>
    by_cases own : first.id = code
    · simp only [List.find?_cons, own, decide_true, Option.some.injEq] at found
      obtain rfl := found
      refine ⟨[], first, rest, rfl, nofun, own, ?_, counts⟩
      rw [changeFirst, if_pos own]
      rfl
    · simp only [List.find?_cons, own, decide_false] at found
      obtain ⟨before, counted, after, split, apart, same, changed, exact⟩ := ih found
      refine ⟨first :: before, counted, after, congrArg _ split, ?_, same, ?_, exact⟩
      · exact List.forall_mem_cons.mpr ⟨own, apart⟩
      · rw [changeFirst, if_neg own, changed]
        rfl

/-- The first code with the identifier of some code is that code, unless two have one identifier. -/
theorem changeFirst_of_unique {codes : List ReferralCode} {referral : ReferralCode}
    (unique : (codes.map (·.id)).Nodup) (issued : referral ∈ codes)
    (change : ReferralCode → ReferralCode) :
    changeFirst referral.id change codes =
      codes.map fun other => if other = referral then change other else other := by
  rw [changeFirst_eq_map _ _ unique]
  refine List.map_congr_left fun other present => ?_
  by_cases same : other = referral
  · rw [if_pos same, if_pos (congrArg ReferralCode.id same)]
  · have apart : other.id ≠ referral.id := fun again =>
      same (List.inj_on_of_nodup_map unique present issued again)
    rw [if_neg same, if_neg apart]

/-- A ticket that is allotted is on record and available. -/
theorem mem_allotment {ticket : Ticket} (allotted : ticket ∈ books.allotment event request) :
    ticket ∈ books.tickets ∧ ticket.status = .available := by
  obtain ⟨present, available⟩ := List.mem_filter.mp (List.mem_of_mem_take allotted)
  simp only [isAvailable, Bool.and_eq_true, decide_eq_true_eq] at available
  exact ⟨present, available.2⟩

/-- Tickets that are held become pending, and all others stay as they are. -/
theorem withStatus_allotment (distinct : books.ticketIds.Nodup) :
    (books.withStatus ((books.allotment event request).map (·.id)) .available .pending).tickets =
      books.tickets.map fun ticket =>
        if ticket ∈ books.allotment event request then ticket.held else ticket := by
  refine List.map_congr_left fun ticket present => ?_
  by_cases allotted : ticket ∈ books.allotment event request
  · have among := isAmong_iff.mpr ⟨List.mem_map_of_mem allotted, (mem_allotment allotted).2⟩
    rw [if_pos among, if_pos allotted]
    rfl
  · rw [if_neg allotted, if_neg]
    intro among
    obtain ⟨other, held, same⟩ := List.mem_map.mp (isAmong_iff.mp among).1
    have alike := List.inj_on_of_nodup_map distinct (mem_allotment held).1 present same
    exact allotted (alike ▸ held)

variable {after : Books} {hold : Hold}

/-- A hold without a discount uses no code. -/
theorem Held.unredeemed (held : books.Held hold after) (redeemed : books.Redeemed hold after)
    (plain : hold.discount = none) : after.uses = books.uses ∧ after.codes = books.codes := by
  have uses := held.uses
  rw [Hold.use?, plain] at uses
  refine ⟨uses.trans (List.append_nil _), ?_⟩
  cases redeemed with
  | plain _ codes => exact codes
  | redeemed _ granted =>
    rw [plain] at granted
    contradiction

/-- A hold with the discount of a code uses that code. -/
theorem Held.redeemed (held : books.Held hold after) (redeemed : books.Redeemed hold after)
    {referral : ReferralCode} (granted : hold.discount = some referral.snapshot) :
    after.uses = books.uses ++ [⟨referral.id, hold.id⟩] ∧ books.HasRoom referral.id ∧
      after.codes = changeFirst referral.id addUse books.codes := by
  have uses := held.uses
  rw [Hold.use?, granted] at uses
  refine ⟨uses, ?_⟩
  cases redeemed with
  | plain none codes =>
    rw [none] at granted
    contradiction
  | @redeemed other issued grantedToo free first room codes =>
    have same : other.snapshot = referral.snapshot :=
      Option.some.inj (grantedToo.symm.trans granted)
    have own : other.id = referral.id := congrArg DiscountSnapshot.referral same
    rw [← own]
    exact ⟨room, codes⟩

end Books

/-- Whether an instant comes so many minutes after another. A whole minute leads from a leap second
to an ordinary one, and counts it as a second of its own. -/
structure Instant.IsMinutesAfter (instant : Instant) (minutes : Int) (later : Instant) : Prop where
  /-- No minutes lead nowhere. -/
  still : minutes = 0 → later = instant
  /-- From an ordinary second the minutes are counted by their seconds. -/
  ordinary : instant.isLeap = false →
    later.second = instant.second + 60 * minutes ∧ later.nano = instant.nano
  /-- A leap second lies between the second before it and the one that follows. -/
  leap : instant.isLeap = true → minutes ≠ 0 → later.isLeap = false ∧
    later.second = instant.second + (if minutes < 0 then 1 else 0) + 60 * minutes ∧
      later.nano + 1000000000 = instant.nano

/-- The instant some minutes later comes so many minutes after. -/
theorem Instant.isMinutesAfter_of_addMinutes {instant later : Instant} {minutes : Int}
    (added : instant.addMinutes minutes = .ok later) : instant.IsMinutesAfter minutes later := by
  simp only [addMinutes] at added
  split at added
  · split at added
    · rename_i still
      obtain rfl := Except.ok.inj added
      refine ⟨fun _ => rfl, fun _ => ⟨by omega, rfl⟩, fun _ goes => absurd still goes⟩
    · rename_i goes
      obtain rfl := Except.ok.inj added
      refine ⟨fun still => absurd still goes, fun ordinary => ?_, fun leap _ => ?_⟩
      · have low : instant.nano < 1000000000 := Nat.lt_of_not_le (of_decide_eq_false ordinary)
        simp only [minuteOrigin, ordinary, Bool.false_and, Bool.false_eq_true, ↓reduceIte]
        exact ⟨trivial, Nat.mod_eq_of_lt low⟩
      · have high : 1000000000 ≤ instant.nano := of_decide_eq_true leap
        have bounded := instant.bounded
        have low : instant.nano % 1000000000 < 1000000000 := Nat.mod_lt _ (by decide)
        simp only [minuteOrigin, leap, Bool.true_and, decide_eq_true_eq]
        refine ⟨decide_eq_false (Nat.not_le_of_lt low), ?_, by omega⟩
        split <;> omega
  · contradiction

namespace Desk

/-- The clock stands still during a transaction. -/
theorem perform_now {σ γ : Type} [Ledger σ] [Gateway γ] (transaction : Transaction)
    (desk : Desk σ γ) : (desk.perform transaction).2.now = desk.now := by
  have worked (work : Work (Except Abort transaction.Result)) (desk : Desk σ γ) :
      (Dialogue.run answer work desk).2.now = desk.now := by
    induction work generalizing desk with
    | done value => rfl
    | ask inquiry next ih =>
      refine (ih _ _).trans ?_
      cases inquiry <;> rfl
  have closed (result : Except Abort transaction.Result) (desk : Desk σ γ) :
      (close transaction.isRolledBack result desk).2.now = desk.now := by
    cases result <;> rfl
  simp only [perform]
  cases (Ledger.openTransaction desk.ledger).1 with
  | error fault => rfl
  | ok _ => exact (closed _ _).trans (worked _ _)

variable {γ : Type} [Gateway γ] {desk : Desk MemoryLedger γ} {settings : CheckoutSettings}
  {event : Uuid} {request : PurchaseRequest}

/-- A hold that is committed is that of its draft, with the bill that the gateway made. -/
theorem perform_hold_ok {hold : Hold} (distinct : desk.books.ticketIds.Nodup)
    (positive : 0 < request.amount.toInt)
    (done : (desk.perform (.hold settings event request)).1 = .ok hold) :
    ∃ draft, desk.books.draft settings desk.now event request = .ok draft ∧
      hold = ⟨draft.tickets, draft.discount, draft.price, hold.bill⟩ ∧
        Gateway.createBill (draft.billRequest settings request) desk.gateway =
          (.ok hold.bill, (desk.perform (.hold settings event request)).2.gateway) := by
  obtain ⟨passes, -⟩ := sound_of_hold done
  cases drafted : desk.books.draft settings desk.now event request with
  | error abort =>
    obtain ⟨ends, -⟩ := perform_hold_undrafted passes distinct positive drafted
    exact nomatch done.symm.trans ends
  | ok draft =>
    obtain ⟨later, silent, -, bills⟩ := perform_hold passes distinct positive
    let worked := later.attempt (draft.bill settings request)
    have faithful : worked.2.IsFaithful := trivial
    rw [bills draft drafted] at done ⊢
    rw [close_gateway]
    have given : later.Gives (draft.bill settings request) hold worked.2 :=
      Prod.ext (close_ok faithful done).1 rfl
    obtain ⟨bill, asked, billed, given⟩ := gives_bind given
    obtain ⟨made, -⟩ := gives_createBill billed
    obtain ⟨_, recorded, used, given⟩ := gives_bind given
    obtain ⟨rfl, same⟩ := gives_pure given
    have kept := (Transaction.isQuiet_recordUse draft.discount bill).gateway asked
    rw [used, same] at kept
    have kept : worked.2.gateway = asked.gateway := kept
    refine ⟨draft, rfl, rfl, ?_⟩
    rw [kept]
    exact silent ▸ made

/-- A hold that is committed holds the tickets that are allotted, as many as were asked for. -/
theorem tickets_of_hold {hold : Hold} (distinct : desk.books.ticketIds.Nodup)
    (positive : 0 < request.amount.toInt)
    (done : (desk.perform (.hold settings event request)).1 = .ok hold) :
    hold.tickets = (desk.books.allotment event request).map Ticket.held ∧
      ((desk.books.allotment event request).length : Int) = request.amount.toInt := by
  obtain ⟨draft, drafted, same, -⟩ := perform_hold_ok distinct positive done
  obtain ⟨-, offered, -⟩ := Books.draft_eq_ok.mp drafted
  have tickets : hold.tickets = (desk.books.allotment event request).map Ticket.held :=
    (congrArg Hold.tickets same).trans (Books.held_of_offer offered)
  obtain ⟨-, -, serves⟩ := perform_deed trivial done
  have count := serves.count
  rw [tickets, List.length_map] at count
  exact ⟨tickets, count⟩

end Desk

/-- What a purchase that succeeds has done. Whatever is not mentioned is as it was. -/
structure Checkout.Effect {γ : Type} [Gateway γ] (settings : CheckoutSettings) (event : Uuid)
    (request : PurchaseRequest) (engine later : Engine MemoryLedger γ) (receipt : Receipt)
    (price : PriceQuote) (expiry : Instant) (bills : List BillRequest) : Prop where
  /-- As many tickets are held as were asked for. -/
  count : ((engine.desk.books.allotment event request).length : Int) = request.amount.toInt
  /-- They are pending, and all other tickets are as they were. -/
  tickets : later.desk.books.tickets = engine.desk.books.tickets.map fun ticket =>
    if ticket ∈ engine.desk.books.allotment event request then ticket.held else ticket
  /-- Without a code none is used. -/
  plain : request.referralCode = none → later.desk.books.uses = engine.desk.books.uses ∧
    later.desk.books.codes = engine.desk.books.codes
  /-- The code that was entered is used under the number of the bill, and the first code with its
  identifier counts one use more. -/
  redeemed (code : String) : request.referralCode = some code →
    ∃ referral, engine.desk.books.referralCode code = some referral ∧
      later.desk.books.uses = engine.desk.books.uses ++ [⟨referral.id, receipt.id⟩] ∧
        Books.CountsOneMore referral.id engine.desk.books.codes later.desk.books.codes
  /-- This is the code that was entered, unless two codes have one identifier. -/
  own (referral : ReferralCode) : engine.desk.books.entered? request = some referral →
    (engine.desk.books.codes.map (·.id)).Nodup →
      later.desk.books.codes = engine.desk.books.codes.map fun other =>
        if other = referral then { other with currentUses := other.currentUses + 1 } else other
  /-- Nobody has paid. -/
  payments : later.desk.books.payments = engine.desk.books.payments
  /-- Nobody is to come. -/
  attendances : later.desk.books.attendances = engine.desk.books.attendances
  /-- The price is quoted for the price of the first ticket held. -/
  quoted : ∃ first ∈ (engine.desk.books.allotment event request).head?,
    PriceQuote.compute first.price request.amount
      ((engine.desk.books.entered? request).map (·.discountPercentage))
      settings.feePerTicket = .ok price
  /-- The bill can be paid for as long as was decided. -/
  dated : engine.desk.now.IsMinutesAfter settings.billMinutes expiry
  /-- One bill was asked for, over the price, and its date is as a clock seven hours ahead shows it.
  -/
  billed : bills = [{
    title := request.ticketName
    amount := price.total
    kind := "SINGLE"
    expiry := ⟨expiry, 7 * 3600⟩
    redirectUrl := settings.redirectUrl
    isAddressRequired := false
    isPhoneNumberRequired := false }]
  /-- The bill is what the gateway made of it. -/
  answered : bills.map (fun bill => Gateway.createBill bill engine.desk.gateway) =
    [(.ok receipt.bill, later.desk.gateway)]
  /-- The buyer gets the tickets and the bill. -/
  received : receipt = {
    event
    amount := request.amount
    tickets := (engine.desk.books.allotment event request).map (·.id)
    visitors := request.visitors
    bill := receipt.bill }
  /-- No reservation was open under the number of the bill. -/
  absent : engine.store.get? receipt.id = none
  /-- One is open now. -/
  store : later.store = engine.store.insert receipt.id {
    id := receipt.id
    event
    tickets := (engine.desk.books.allotment event request).map (·.id)
    hashes := (engine.desk.books.allotment event request).map (·.hash)
    visitors := request.visitors
    discount := (engine.desk.books.entered? request).map (·.snapshot)
    billedAmount := price.total
    createdAt := engine.desk.now }
  /-- The reaper is told to arm its timer. -/
  told : later.commands =
    engine.commands ++ [.schedule receipt.id (engine.clock + engine.delay)]
  /-- Nothing else has happened. -/
  frame : later = { engine with
    desk := later.desk, store := later.store, commands := later.commands }
  /-- The ledger fails where it did, and the clock has stood still. -/
  desk : later.desk.ledger.failing = engine.desk.ledger.failing ∧ later.desk.now = engine.desk.now

namespace Engine

variable {γ : Type} [Gateway γ] {engine : Engine MemoryLedger γ} {settings : CheckoutSettings}
  {event : Uuid} {request : PurchaseRequest} {receipt : Receipt}

/-- A purchase that succeeds has passed the check, its hold is committed, and no reservation was
open under its number. -/
theorem run_bought (bought : (engine.run (Checkout.buy settings event request)).1 = .ok receipt) :
    ∃ hold, Checkout.check request = .ok () ∧
      (engine.desk.perform (.hold settings event request)).1 = .ok hold ∧
        engine.store.get? hold.id = none ∧
          receipt = Checkout.receiptOf event request hold ∧
            (engine.run (Checkout.buy settings event request)).2 = { engine with
              desk := (engine.desk.perform (.hold settings event request)).2
              store := engine.store.insert hold.id
                (Checkout.reservationOf event request hold engine.desk.now)
              commands := engine.commands ++
                [.schedule hold.id (engine.clock + engine.delay)] } := by
  cases checked : Checkout.check request with
  | error refusal =>
    rw [Checkout.buy, checked] at bought
    contradiction
  | ok _ =>
    rw [Checkout.buy_of_checked checked, run_ask, answer_transact] at bought ⊢
    cases done : (engine.desk.perform (.hold settings event request)).1 with
    | error abort =>
      rw [done] at bought
      contradiction
    | ok hold =>
      rw [done] at bought
      have now := Desk.perform_now (.hold settings event request) engine.desk
      generalize (engine.desk.perform (.hold settings event request)).2 = desk at *
      let middle : Engine MemoryLedger γ := { engine with desk }
      let reservation := Checkout.reservationOf event request hold desk.now
      have puts : middle.run (Checkout.afterHold event request (.ok hold)) =
        (answer (.putReservation reservation) middle).2.run (Checkout.afterPut event request hold
          (answer (.putReservation reservation) middle).1) := rfl
      have bought : (middle.run (Checkout.afterHold event request (.ok hold))).1 = .ok receipt :=
        bought
      rw [puts] at bought
      cases present : engine.store.get? hold.id with
      | none =>
        have absent : middle.store.get? reservation.id = none := present
        rw [answer_put_absent absent] at bought puts
        refine ⟨hold, rfl, rfl, present, (Except.ok.inj bought).symm, ?_⟩
        rw [← now]
        exact congrArg Prod.snd puts
      | some other =>
        -- the hold is undone, and the purchase fails whatever comes of that
        have found : middle.store.get? reservation.id = some other := present
        rw [answer_put_present found] at bought
        have undoes : (middle.run (Checkout.afterPut event request hold false)).1 =
            ((desk.perform (.undoHold hold.id hold.ticketIds hold.discount.isSome)).1 >>=
              fun _ => .error (.ofFault (.reservationOpen hold.id))) :=
          rfl
        rw [undoes] at bought
        cases undone : (desk.perform (.undoHold hold.id hold.ticketIds
            hold.discount.isSome)).1 with
        | error abort =>
          rw [undone] at bought
          contradiction
        | ok _ =>
          rw [undone] at bought
          contradiction

/-- A purchase that succeeds does what a purchase does. -/
theorem IsSound.effect (sound : engine.IsSound)
    (bought : (engine.buy settings event request).1 = .ok receipt) :
    ∃ price expiry, Checkout.Effect settings event request engine
      (engine.run (Checkout.buy settings event request)).2 receipt price expiry
      (engine.billsOf (Checkout.buy settings event request)) := by
  obtain ⟨hold, checked, done, absent, rfl, ran⟩ := run_bought bought
  have formed := Checkout.check_eq_ok.mp checked
  have positive := PurchaseRequest.positive_of_formed formed
  have distinct := sound.custody.distinct
  obtain ⟨draft, drafted, same, made⟩ := Desk.perform_hold_ok distinct positive done
  obtain ⟨held, redeemed, -⟩ := Desk.perform_deed sound.regular.faithful done
  obtain ⟨granted, -, quoted, dated⟩ := Books.draft_eq_ok.mp drafted
  have granted := Books.discount_of_grant granted
  have discount : hold.discount = (engine.desk.books.entered? request).map (·.snapshot) :=
    (congrArg Hold.discount same).trans granted.1
  obtain ⟨tickets, count⟩ := Desk.tickets_of_hold distinct positive done
  have ids : hold.tickets.map (·.id) = (engine.desk.books.allotment event request).map (·.id) := by
    rw [tickets, Ticket.map_id_held]
  have hashes : hold.tickets.map (·.hash) =
      (engine.desk.books.allotment event request).map (·.hash) := by
    rw [tickets, List.map_map]
    rfl
  refine ⟨draft.price, draft.expiry, ?_⟩
  constructor
  case count => exact count
  case tickets =>
    rw [ran, ← Books.withStatus_allotment distinct, ← ids]
    exact held.tickets
  case plain =>
    intro plain
    rw [ran]
    have none : hold.discount = none := by
      rw [discount, Books.entered?, plain]
      rfl
    exact held.unredeemed redeemed none
  case redeemed =>
    intro code entered
    rw [ran]
    cases found : engine.desk.books.entered? request with
    | none =>
      rw [found, entered] at granted
      exact absurd granted.2 Bool.false_ne_true
    | some referral =>
      rw [found] at discount
      obtain ⟨uses, room, codes⟩ := held.redeemed redeemed discount
      refine ⟨referral, ?_, uses, codes ▸ Books.countsOneMore_changeFirst room⟩
      rw [Books.entered?, entered] at found
      exact found
  case own =>
    intro referral entered unique
    rw [entered] at discount
    obtain ⟨-, -, codes⟩ := held.redeemed redeemed discount
    obtain ⟨code, -, found⟩ := Option.bind_eq_some_iff.mp entered
    have issued : referral ∈ engine.desk.books.codes := List.mem_of_find?_eq_some found
    rw [ran, codes]
    exact Books.changeFirst_of_unique unique issued Books.addUse
  case payments =>
    rw [ran]
    exact held.payments
  case attendances =>
    rw [ran]
    exact held.attendances
  case quoted => exact Books.compute_of_quote positive (Int.le_of_eq count.symm) quoted
  case dated => exact Instant.isMinutesAfter_of_addMinutes dated
  case billed =>
    obtain ⟨passes, -⟩ := Desk.sound_of_hold done
    exact billsOf_drafted passes distinct formed drafted
  case answered =>
    obtain ⟨passes, -⟩ := Desk.sound_of_hold done
    rw [billsOf_drafted passes distinct formed drafted, ran, List.map_singleton, made]
    rfl
  case received =>
    rw [← ids]
    rfl
  case absent => exact absent
  case store =>
    have price : hold.price = draft.price := congrArg Hold.price same
    rw [ran, Checkout.reservationOf, ids, hashes, discount, price]
    rfl
  case told =>
    rw [ran]
    rfl
  case frame => rw [ran]
  case desk =>
    rw [ran]
    exact ⟨Desk.perform_failing _ _, Desk.perform_now _ _⟩

end Engine

/-- A purchase takes effect as a whole. Whatever has happened at an engine, whatever its gateway
answers and wherever its ledger is made to fail, a purchase that ends with a receipt has held the
first tickets that could be held, and no other ticket is different; it has used the code that was
entered, and nothing else about codes and uses is different; it has asked for one bill, over the
quoted price; and it has opened one reservation, for these tickets and this price, whose timer the
reaper is told to arm. If reservations stay open for any time at all, the engine that comes to rest
after it has armed that timer, and nothing else happens meanwhile. -/
theorem Checkout.purchase_takes_effect {γ : Type} [Gateway γ] {engine : Engine MemoryLedger γ}
    (reached : engine.Reached) (settings : CheckoutSettings) (event : Uuid)
    (request : PurchaseRequest) {receipt : Receipt}
    (bought : (engine.buy settings event request).1 = .ok receipt) :
    let later := (engine.run (buy settings event request)).2
    let rested := (engine.buy settings event request).2
    (∃ price expiry, Effect settings event request engine later receipt price expiry
      (engine.billsOf (buy settings event request))) ∧
    (0 < engine.delay →
      rested = { later with reaper := rested.reaper, commands := [] } ∧
        rested.reaper = engine.reaper.follow (.schedule receipt.id (engine.clock + engine.delay)) ∧
          rested.reaper.IsSet receipt.id (engine.clock + engine.delay)) := by
  intro later rested
  obtain ⟨sound, idle⟩ := reached.sound_idle
  obtain ⟨price, expiry, effect⟩ := sound.effect bought
  refine ⟨⟨price, expiry, effect⟩, fun positive => ?_⟩
  obtain ⟨performed, -, -⟩ := idle.perform positive (buy settings event request)
  have same : rested = later.followCommands := congrArg Prod.snd performed
  obtain ⟨reaper, -, -⟩ := Engine.run_frame (buy settings event request) engine
  have told : later.commands =
      [.schedule receipt.id (engine.clock + engine.delay)] := by
    rw [effect.told, idle.quiet, List.nil_append]
  have follows : rested.reaper =
      engine.reaper.follow (.schedule receipt.id (engine.clock + engine.delay)) := by
    rw [same]
    show later.commands.foldl _ later.reaper = _
    rw [told, reaper]
    rfl
  refine ⟨?_, follows, ?_⟩
  · rw [same]
    rfl
  · rw [follows]
    exact engine.reaper.isSet_schedule _ _

namespace Matinee

/-- It can come to that office. -/
theorem quietOffice_reached : quietOffice.Reached := by
  have opened : quietSeason.beginning.Reached := .start _ _ _
  have stocked :=
    opened.step (.stock event "A" 100 [(.ofNat 1, "A1"), (.ofNat 2, "A2")]) (by decide)
  exact stocked.step (.issue code) (by decide)

/-- A ticket is bought there at the price of the code. -/
theorem discounted_bought :
    ∃ receipt, (quietOffice.buy ⟨0, 30, ""⟩ event discounted).1 = .ok receipt ∧
      receipt.id = ⟨7⟩ :=
  ⟨_, rfl, rfl⟩

end Matinee

/-- One of two tickets is bought at the price of the code: it is pending, the code has been used,
one bill was asked for, and the timer is armed. -/
theorem Checkout.purchase_takes_effect_matinee :
    let later := (Matinee.quietOffice.buy ⟨0, 30, ""⟩ Matinee.event Matinee.discounted).2
    later.desk.books.tickets.map (·.status) = [.pending, .available] ∧
      later.desk.books.uses = [⟨.ofNat 5, ⟨7⟩⟩] ∧
        (Matinee.quietOffice.billsOf
          (buy ⟨0, 30, ""⟩ Matinee.event Matinee.discounted)).length = 1 ∧
            later.reaper.IsSet ⟨7⟩ 10 := by
  intro later
  obtain ⟨receipt, bought, own⟩ := Matinee.discounted_bought
  obtain ⟨⟨price, expiry, effect⟩, rests⟩ :=
    purchase_takes_effect Matinee.quietOffice_reached _ _ _ bought
  obtain ⟨same, -, set⟩ := rests (by decide)
  have books : later.desk.books = _ := congrArg (fun engine => engine.desk.books) same
  rw [books, effect.tickets, effect.billed, ← own]
  obtain ⟨referral, found, uses, -⟩ := effect.redeemed "HALF" (by decide)
  obtain rfl : Matinee.code = referral := Option.some.inj (Eq.trans (by decide) found)
  exact ⟨by decide, uses, rfl, set⟩

end BoxOffice
