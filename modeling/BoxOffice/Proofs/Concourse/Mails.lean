import BoxOffice.Proofs.Concourse.Sales

/-!
# Mails about sales

A sale to a payer who has told an address makes one mail due, and the call that made the sale hands
it over before it is over. Nothing else makes a mail due, and no other mail is handed over. Whether
mails are accepted changes nothing but the note that is taken of it.
-/
namespace BoxOffice

/-- The mail that was handed over in an exchange, if one was. -/
def Exchange.mail? : Exchange → Option ConfirmationMail
  | ⟨.deliver mail, _⟩ => some mail
  | _ => none

/-- The mail that an exchange makes due: one about a sale, if the payer has told an address. -/
def Exchange.due? : Exchange → Option ConfirmationMail
  | ⟨.transact (.sell reservation notification), .ok (.sold _)⟩ =>
    if notification.senderEmail.isEmpty then none
    else some (Settlement.mailOf reservation notification)
  | _ => none

/-- Whether a question neither hands over a mail nor makes one due. -/
def Request.IsSilent : Request → Prop
  | .deliver _ | .transact (.sell ..) => False
  | _ => True

/-- No mail is handed over or made due in an exchange with a silent question. -/
theorem Request.IsSilent.none {request : Request} (silent : request.IsSilent)
    (answer : request.Answer) :
    Exchange.mail? ⟨request, answer⟩ = none ∧ Exchange.due? ⟨request, answer⟩ = none := by
  cases request with
  | deliver mail => cases silent
  | transact transaction =>
    cases transaction with
    | sell reservation notification => cases silent
    | _ => exact ⟨rfl, rfl⟩
  | _ => exact ⟨rfl, rfl⟩

/-- The mails that a program is about to hand over whatever it is answered. -/
def mailsAhead {α : Type} : Program α → List ConfirmationMail
  | .ask (.resolve _) next => mailsAhead (next ())
  | .ask (.deliver mail) next => mail :: mailsAhead (next ())
  | _ => []

/-- Whether the mails that a program has handed over or is about to hand over are those that its
past has made due. -/
def IsPosting {α : Type} (past : List Exchange) (program : Program α) : Prop :=
  past.filterMap Exchange.mail? ++ mailsAhead program = past.filterMap Exchange.due?

section

variable {α : Type} {past : List Exchange} {program : Program α}

/-- A program that only asks silent questions is about to hand over no mail. -/
theorem mailsAhead_of_silent (silent : program.AsksOnly Request.IsSilent) :
    mailsAhead program = [] := by
  induction program with
  | done value => rfl
  | ask request next ih =>
    cases request with
    | deliver mail => cases silent.1
    | resolve id => exact ih () (silent.2 ())
    | _ => rfl

/-- A program that only asks silent questions owes what it owed. -/
theorem posting_of_silent (silent : program.AsksOnly Request.IsSilent)
    (posting : IsPosting past program) : program.Always IsPosting past := by
  induction program generalizing past with
  | done value => exact posting
  | ask request next ih =>
    refine ⟨posting, fun answer => ih answer (silent.2 answer) ?_⟩
    obtain ⟨unsent, undue⟩ := silent.1.none answer
    simp only [IsPosting, mailsAhead_of_silent silent, mailsAhead_of_silent (silent.2 answer),
      List.filterMap_append, List.filterMap_cons, unsent, undue, List.filterMap_nil,
      List.append_nil] at posting ⊢
    exact posting

end

/-- A purchase hands over no mail and makes none due. -/
theorem Checkout.silent_buy (settings : CheckoutSettings) (event : Uuid)
    (request : PurchaseRequest) : (buy settings event request).AsksOnly Request.IsSilent := by
  simp only [buy]
  split
  · trivial
  · refine ⟨trivial, fun held => ?_⟩
    cases held with
    | error abort => trivial
    | ok hold =>
      refine ⟨trivial, fun now => ⟨trivial, fun isOpened => ?_⟩⟩
      cases isOpened with
      | true => exact ⟨trivial, fun _ => trivial⟩
      | false => exact ⟨trivial, fun _ => trivial⟩

/-- A release hands over no mail and makes none due. -/
theorem Release.silent_reap (id : TrackingId) : (reap id).AsksOnly Request.IsSilent := by
  refine ⟨trivial, fun isPaid => ?_⟩
  rcases isPaid with fault | _ | _
  · trivial
  · refine ⟨trivial, fun taken => ?_⟩
    cases taken with
    | none => trivial
    | some reservation =>
      refine ⟨trivial, fun result => ?_⟩
      rcases result with (refusal | overflow) | tickets
      · exact ⟨trivial, fun _ => trivial⟩
      · trivial
      · trivial
  · trivial

/-- A timer hands over no mail and makes none due. -/
theorem Release.silent_watch (id : TrackingId) : (watch id).AsksOnly Request.IsSilent := by
  refine Dialogue.AsksOnly.bind (silent_reap id) fun outcome => ?_
  rcases outcome with (refusal | overflow) | outcome
  · exact ⟨trivial, fun _ => ⟨trivial, fun _ => trivial⟩⟩
  · trivial
  · exact ⟨trivial, fun _ => trivial⟩

namespace Settlement

variable {reservation : Reservation} {notification : PaymentNotification}
  {past : List Exchange}

/-- A settlement whose timer has been disarmed hands over the mail that is due. -/
theorem posting_afterResolve {outcome : SettlementOutcome}
    (posting : IsPosting past (afterResolve reservation notification outcome)) :
    (afterResolve reservation notification outcome).Always IsPosting past := by
  cases outcome with
  | sold tickets =>
    by_cases unknown : notification.senderEmail.isEmpty = true
    · simp only [afterResolve, unknown, ↓reduceIte] at posting ⊢
      exact posting
    · simp only [afterResolve, unknown, Bool.false_eq_true, ↓reduceIte] at posting ⊢
      refine ⟨posting, fun _ => ?_⟩
      simp only [IsPosting, mailsAhead] at posting
      simp only [Dialogue.Always, IsPosting, mailsAhead, List.append_nil, List.filterMap_append,
        List.filterMap_cons, Exchange.mail?, Exchange.due?, List.filterMap_nil]
      exact posting
  | released tickets => exact posting
  | duplicate => exact posting

/-- A settlement whose transaction has ended well hands over the mail that is due, and one whose
transaction failed hands over none. -/
theorem posting_afterTransaction {result : Except Abort SettlementOutcome}
    (posting : IsPosting past (afterTransaction reservation notification result)) :
    (afterTransaction reservation notification result).Always IsPosting past := by
  cases result with
  | ok outcome =>
    refine ⟨posting, fun _ => posting_afterResolve ?_⟩
    simp only [IsPosting, List.filterMap_append, List.filterMap_cons, Exchange.mail?,
      Exchange.due?, List.filterMap_nil, List.append_nil]
    exact posting
  | error abort =>
    cases abort with
    | refused refusal =>
      refine posting_of_silent ⟨trivial, fun isOpened => ?_⟩ posting
      cases isOpened with
      | true => exact ⟨trivial, fun _ => trivial⟩
      | false => trivial
    | overflowed overflow => exact posting

/-- A settlement owes a mail if it has sold tickets to a payer with an address, and hands it over.
-/
theorem posting_settle (notification : PaymentNotification) :
    (settle notification).Always IsPosting [] := by
  refine ⟨rfl, fun taken => ?_⟩
  cases taken with
  | none => exact rfl
  | some reservation =>
    simp only [afterTake]
    split
    · refine ⟨rfl, fun result => posting_afterTransaction ?_⟩
      rcases result with (refusal | overflow) | (tickets | tickets | _)
      · rfl
      · rfl
      · simp only [IsPosting, afterTransaction, afterResolve, mailsAhead, List.nil_append,
          List.filterMap_append, List.filterMap_cons, Exchange.mail?, Exchange.due?,
          List.filterMap_nil]
        split <;> rfl
      · rfl
      · rfl
    · refine ⟨rfl, fun released => posting_afterTransaction ?_⟩
      rcases released with (refusal | overflow) | tickets <;> rfl

end Settlement

namespace Call

/-- The mails that a call is about to hand over. -/
def mailsAhead : Call → List ConfirmationMail
  | .purchase program => BoxOffice.mailsAhead program
  | .settlement _ program => BoxOffice.mailsAhead program
  | .release _ program => BoxOffice.mailsAhead program
  | .timer _ program => BoxOffice.mailsAhead program

/-- Whether a call with some past always hands over what is due. -/
def IsPosting (past : List Exchange) : Call → Prop
  | .purchase program => program.Always BoxOffice.IsPosting past
  | .settlement _ program => program.Always BoxOffice.IsPosting past
  | .release _ program => program.Always BoxOffice.IsPosting past
  | .timer _ program => program.Always BoxOffice.IsPosting past

variable {past : List Exchange} {call : Call}

/-- A call that is over is about to hand over no mail. -/
theorem mailsAhead_of_isOver (finished : call.isOver = true) : call.mailsAhead = [] := by
  rcases call.eq_done_of_isOver finished with
    ⟨result, rfl⟩ | ⟨id, result, rfl⟩ | ⟨id, result, rfl⟩ | ⟨id, result, rfl⟩ <;> rfl

/-- What a call has handed over or is about to hand over is what is due. -/
theorem IsPosting.now (posting : call.IsPosting past) :
    past.filterMap Exchange.mail? ++ call.mailsAhead = past.filterMap Exchange.due? := by
  cases call with
  | purchase program => exact Dialogue.Always.now posting
  | settlement id program => exact Dialogue.Always.now posting
  | release id program => exact Dialogue.Always.now posting
  | timer id program => exact Dialogue.Always.now posting

/-- A call goes on to hand over what is due. -/
theorem IsPosting.turn {σ γ : Type} [Ledger σ] [Gateway γ] (posting : call.IsPosting past)
    (engine : Engine σ γ) :
    (call.turn engine).1.IsPosting (past ++ (call.exchange? engine).toList) := by
  cases call with
  | purchase program => exact Dialogue.Always.turn posting Engine.answer engine
  | settlement id program => exact Dialogue.Always.turn posting Engine.answer engine
  | release id program => exact Dialogue.Always.turn posting Engine.answer engine
  | timer id program => exact Dialogue.Always.turn posting Engine.answer engine

end Call

/-- Every call hands over what is due from its beginning. -/
theorem Errand.posting_call (errand : Errand) : errand.call.IsPosting [] := by
  cases errand with
  | buy settings event request =>
    have silent := Checkout.silent_buy settings event request
    exact posting_of_silent silent (mailsAhead_of_silent silent)
  | settle notification => exact Settlement.posting_settle notification
  | reap id => exact posting_of_silent (Release.silent_reap id) rfl
  | fire id => exact posting_of_silent (Release.silent_watch id) rfl

/-- Of several kinds one is the kind of an entry, if any is. -/
theorem flatMap_kind {κ α : Type} [DecidableEq κ] (kind : κ) (item : α) {kinds : List κ}
    (once : kinds.Nodup) :
    (kinds.flatMap fun other => if kind = other then [item] else []) =
      if kind ∈ kinds then [item] else [] := by
  induction kinds with
  | nil => rfl
  | cons first rest ih =>
    obtain ⟨absent, onceMore⟩ := List.nodup_cons.mp once
    rw [List.flatMap_cons, ih onceMore]
    by_cases own : kind = first
    · rw [if_pos own, if_neg (own ▸ absent), if_pos (own ▸ List.mem_cons_self), List.append_nil]
    · simp only [own, ↓reduceIte, List.nil_append, List.mem_cons, false_or]

/-- Entries of several kinds are those of each kind, one kind after the other, up to their order. -/
theorem perm_flatMap_kinds {κ α : Type} [DecidableEq κ] {entries : List (κ × α)} {kinds : List κ}
    (once : kinds.Nodup) (all : ∀ entry ∈ entries, entry.1 ∈ kinds) :
    (entries.map (·.2)).Perm (kinds.flatMap fun kind =>
      entries.filterMap fun entry => if entry.1 = kind then some entry.2 else none) := by
  induction entries with
  | nil => simp
  | cons first rest ih =>
    have later := ih fun entry member => all entry (List.mem_cons_of_mem _ member)
    have joined := List.flatMap_append_perm kinds
      (fun kind => if first.1 = kind then [first.2] else [])
      (fun kind => rest.filterMap fun entry => if entry.1 = kind then some entry.2 else none)
    rw [flatMap_kind _ _ once, if_pos (all first List.mem_cons_self)] at joined
    have apart : (fun kind => (if first.1 = kind then [first.2] else []) ++
        rest.filterMap fun entry => if entry.1 = kind then some entry.2 else none) =
        fun kind => (first :: rest).filterMap fun entry =>
          if entry.1 = kind then some entry.2 else none := by
      funext kind
      by_cases own : first.1 = kind <;> simp [own]
    rw [apart] at joined
    exact (later.cons first.2).trans joined

section

variable {σ γ : Type} [Ledger σ] [Gateway γ]

/-- The mails that have been handed over to an engine. -/
def Engine.mails (engine : Engine σ γ) : List ConfirmationMail := engine.deliveries.map (·.mail)

/-- An engine keeps a mail that is handed over and gets no other. -/
theorem Engine.mails_answer (request : Request) (engine : Engine σ γ) :
    (Engine.answer request engine).2.mails =
      engine.mails ++ (Exchange.mail? ⟨request, (Engine.answer request engine).1⟩).toList := by
  cases request with
  | putReservation reservation =>
    simp only [answer, put]
    split <;> exact (List.append_nil _).symm
  | deliver mail => exact List.map_append
  | _ => exact (List.append_nil _).symm

/-- The engine as it would be if each mail had been accepted. -/
def Engine.accepting (engine : Engine σ γ) : Engine σ γ :=
  { engine with
    acceptsMail := true
    deliveries := engine.mails.map fun mail => ⟨mail, true⟩ }

/-- An engine answers alike whether or not mails are accepted. -/
theorem Engine.answer_accepting (request : Request) (engine : Engine σ γ) :
    Engine.answer request engine.accepting =
      ((Engine.answer request engine).1, (Engine.answer request engine).2.accepting) := by
  have placed (reservation : Reservation) (engine : Engine σ γ) :
      engine.accepting.put reservation =
        ((engine.put reservation).1, (engine.put reservation).2.accepting) := by
    have same : engine.accepting.store = engine.store := rfl
    simp only [put, same]
    split <;> rfl
  cases request with
  | putReservation reservation => exact placed reservation engine
  | deliver mail =>
    simp only [answer, accepting, mails, List.map_append, List.map_singleton]
  | _ => rfl

/-- A call takes the same turn and has the same exchange whether or not mails are accepted. -/
theorem Call.turn_accepting (call : Call) (engine : Engine σ γ) :
    call.turn engine.accepting = ((call.turn engine).1, (call.turn engine).2.accepting) ∧
      call.exchange? engine.accepting = call.exchange? engine := by
  have alike {α : Type} (program : Program α) :
      program.turn Engine.answer engine.accepting = ((program.turn Engine.answer engine).1,
          (program.turn Engine.answer engine).2.accepting) ∧
        program.exchange? Engine.answer engine.accepting =
          program.exchange? Engine.answer engine := by
    cases program with
    | done value => exact ⟨rfl, rfl⟩
    | ask request next =>
      simp only [Dialogue.turn, Dialogue.exchange?, Engine.answer_accepting, and_self]
  cases call with
  | purchase program => simp only [turn, exchange?, alike program, and_self]
  | settlement id program => simp only [turn, exchange?, alike program, and_self]
  | release id program => simp only [turn, exchange?, alike program, and_self]
  | timer id program => simp only [turn, exchange?, alike program, and_self]

end

variable {σ γ : Type} [Ledger σ] [Bookkeeping σ] [Gateway γ]

/-- Whether it is decided from outside whether mails are accepted. -/
def Action.isPost : Action σ → Bool
  | .post _ => true
  | _ => false

namespace Concourse

variable {concourse : Concourse σ γ}

/-- The concourse as it would be if each mail had been accepted. -/
def accepting (concourse : Concourse σ γ) : Concourse σ γ :=
  { concourse with engine := concourse.engine.accepting }

/-- A step leads to the same whether or not mails are accepted. -/
theorem step_accepting (concourse : Concourse σ γ) {action : Action σ}
    (other : action.isPost = false) :
    concourse.accepting.step action = (concourse.step action).accepting := by
  cases action with
  | post acceptsMail => cases other
  | go caller =>
    have same : concourse.accepting.calls = concourse.calls := rfl
    simp only [step, go, same]
    cases concourse.calls[caller]? with
    | none => rfl
    | some call =>
      obtain ⟨turned, asked⟩ := call.turn_accepting concourse.engine
      simp only [accepting, turned, asked]
  | follow =>
    have same : concourse.accepting.engine.commands = concourse.engine.commands := rfl
    simp only [step, follow, same]
    split <;> rfl
  | _ => rfl

/-- The mails are those of the exchanges after every step. -/
theorem mails_step (kept : concourse.engine.mails = concourse.transcript.filterMap Exchange.mail?)
    (action : Action σ) : (concourse.step action).engine.mails =
      (concourse.step action).transcript.filterMap Exchange.mail? := by
  cases action with
  | go caller =>
    simp only [step, go]
    cases concourse.calls[caller]? with
    | none => exact kept
    | some call =>
      dsimp only
      cases asked : call.exchange? concourse.engine with
      | none =>
        rw [Call.exchange?_eq_none asked, Option.toList_none, List.append_nil]
        exact kept
      | some exchange =>
        obtain ⟨request, rfl, turned⟩ := Call.exchange?_eq_some asked
        rw [turned, Engine.mails_answer, kept, List.filterMap_append]
        simp only [Option.toList_some, List.filterMap_cons, List.filterMap_nil]
        cases Exchange.mail? _ <;> rfl
  | follow =>
    simp only [step, follow]
    split <;> exact kept
  | _ => exact kept

end Concourse

/-- Whatever has happened, the mails are those of the exchanges. -/
theorem Opening.mails_after (opening : Opening σ γ) (actions : List (Action σ)) :
    (opening.after actions).engine.mails =
      (opening.after actions).transcript.filterMap Exchange.mail? :=
  opening.after_induction
    (fun concourse => concourse.engine.mails = concourse.transcript.filterMap Exchange.mail?) rfl
    (fun _ action kept => Concourse.mails_step kept action) actions

/-- Whatever has happened, each call hands over what is due. -/
theorem Opening.posting_after (opening : Opening σ γ) (actions : List (Action σ)) :
    (opening.chronicle actions).Each fun past _ call => call.IsPosting past :=
  opening.each_after Errand.posting_call
    (fun _ _ _ engine (posting : Call.IsPosting _ _) => posting.turn engine) actions

/-- It makes no difference to anything but the notes of deliveries whether mails are accepted. -/
theorem Opening.after_accepting (opening : Opening σ γ) (actions : List (Action σ)) :
    (opening.after actions).accepting =
      opening.after (actions.filter fun action => !action.isPost) := by
  induction actions using List.reverseRecOn with
  | nil => rfl
  | append_singleton actions action ih =>
    rw [opening.after_append, List.filter_append, opening.after_append, ← ih]
    cases kind : action.isPost with
    | false =>
      rw [List.filter_cons_of_pos (by rw [kind]; rfl)]
      exact (Concourse.step_accepting _ kind).symm
    | true =>
      rw [List.filter_cons_of_neg (by rw [kind]; decide)]
      cases action with
      | post acceptsMail => rfl
      | _ => cases kind

namespace Sale

/-- The exchange in which the tickets of a sale were sold. -/
def exchange (sale : Sale) : Exchange :=
  ⟨.transact (.sell sale.purchase.reservation sale.notification),
    .ok (.sold sale.purchase.hold.tickets.length)⟩

/-- Whether the payer has told an address. -/
def isAddressed (sale : Sale) : Bool := !sale.payment.payerEmail.isEmpty

/-- The mail about a sale: to the payer, about the bill and the amount that was paid, with the codes
of the tickets in the order in which they were bought. -/
def mail (sale : Sale) : ConfirmationMail where
  recipient := sale.payment.payerEmail
  subject := ConfirmationMail.thanks
  body := ConfirmationMail.render sale.payment.payerName sale.notification.billTitle
    sale.payment.amount (sale.purchase.hold.tickets.map (·.hash))
  hashes := sale.purchase.hold.tickets.map (·.hash)

/-- The exchange in which tickets were sold makes the mail about the sale due. -/
theorem due?_exchange (sale : Sale) :
    sale.exchange.due? = if sale.isAddressed then some sale.mail else none := by
  simp only [exchange, Exchange.due?, isAddressed, payment, Bool.not_eq_true']
  by_cases unknown : sale.notification.senderEmail.isEmpty = true
  · simp only [unknown, ↓reduceIte, Bool.true_eq_false]
  · simp only [unknown, Bool.false_eq_true, ↓reduceIte]
    rfl

/-- The tickets of a sale, as they are when they are sold. -/
def tickets (sale : Sale) : List Ticket :=
  sale.purchase.hold.tickets.map fun ticket => { ticket with status := .sold }

omit [Ledger σ] [Bookkeeping σ] [Gateway γ] in
/-- A sale has an attendance for each of its tickets. -/
theorem IsTold.attendances_tickets {sale : Sale} {stock : List Ticket}
    {chronicle : Chronicle σ γ} (told : sale.IsTold stock chronicle) :
    sale.attendances.map (·.ticket) = sale.tickets.map (·.id) := by
  have enough := told.purchase.visitors
  simp only [attendances, tickets, List.map_zipWith, List.map_map, Function.comp_def]
  generalize sale.purchase.hold.tickets = tickets, sale.purchase.request.visitors = visitors
    at enough ⊢
  induction tickets generalizing visitors with
  | nil => rfl
  | cons ticket tickets ih =>
    cases visitors with
    | nil => contradiction
    | cons visitor visitors =>
      exact congrArg (ticket.id :: ·) (ih visitors (Nat.succ.inj enough))

end Sale

namespace Chronicle

variable {chronicle : Chronicle σ γ} {stock : List Ticket} {sales : List Sale}

omit [Ledger σ] [Bookkeeping σ] [Gateway γ] in
/-- What was said is what each call has heard, one call after the other, up to the order. -/
theorem IsKept.heard_perm (kept : chronicle.IsKept) :
    chronicle.concourse.transcript.Perm
      ((List.range chronicle.concourse.calls.length).flatMap chronicle.heard) := by
  rw [← kept.transcript, ← kept.begun]
  exact perm_flatMap_kinds List.nodup_range fun entry member =>
    List.mem_range.mpr (kept.spoken entry member)

namespace Lists

omit [Gateway γ] in
/-- The sales are the exchanges that sold tickets, one by one and in the same order. -/
theorem log_eq (lists : chronicle.Lists stock sales) :
    (chronicle.log.filter fun entry => entry.2.isSale) =
      sales.map fun sale => (sale.seller, sale.exchange) := by
  have length := congrArg List.length lists.sellers
  simp only [List.length_map] at length
  have once := lists.once
  rw [lists.sellers] at once
  refine List.ext_getElem (by simp only [List.length_map, length]) fun place first second => ?_
  rw [List.length_map] at second
  rw [List.getElem_map]
  have told := lists.told _ (List.getElem_mem second)
  refine List.inj_on_of_nodup_map once (List.getElem_mem first)
    (List.mem_filter.mpr ⟨told.sold, rfl⟩) ?_
  have same := congrArg (·[place]?) lists.sellers
  simp only [List.getElem?_map, List.getElem?_eq_getElem first, List.getElem?_eq_getElem second,
    Option.map_some] at same
  exact (Option.some.inj same).symm

omit [Gateway γ] in
/-- What only sales make due is due for the sales. -/
theorem due_log (lists : chronicle.Lists stock sales) (picks : Nat → Bool) :
    (chronicle.log.filter (fun entry => picks entry.1)).filterMap (fun entry => entry.2.due?) =
      ((sales.filter fun sale => picks sale.seller).filter Sale.isAddressed).map Sale.mail := by
  have idle (exchange : Exchange) (other : exchange.isSale = false) : exchange.due? = none := by
    cases due : exchange.due? with
    | none => rfl
    | some mail =>
      simp only [Exchange.due?] at due
      split at due
      · cases other
      · cases due
  calc _ = (chronicle.log.filter fun entry => entry.2.isSale).filterMap fun entry =>
          if picks entry.1 then entry.2.due? else none := by
        rw [List.filterMap_filter, List.filterMap_filter]
        refine List.filterMap_congr fun entry _ => ?_
        cases kind : entry.2.isSale with
        | false => simp only [idle entry.2 kind, ite_self, Bool.false_eq_true]
        | true => rfl
    _ = sales.filterMap fun sale => if picks sale.seller then sale.exchange.due? else none := by
        rw [lists.log_eq, List.filterMap_map]
        rfl
    _ = _ := by
        rw [← List.filterMap_eq_map, List.filterMap_filter, List.filterMap_filter]
        refine List.filterMap_congr fun sale _ => ?_
        rw [Sale.due?_exchange]
        rfl

omit [Gateway γ] in
/-- What is due from a call is the mail about its sale. -/
theorem due_heard (lists : chronicle.Lists stock sales) (caller : Nat) :
    (chronicle.heard caller).filterMap Exchange.due? =
      ((sales.filter fun sale => sale.seller = caller).filter Sale.isAddressed).map Sale.mail := by
  rw [← lists.due_log fun speaker => speaker = caller, heard, List.filterMap_filterMap,
    List.filterMap_filter]
  refine List.filterMap_congr fun entry _ => ?_
  simp only [decide_eq_true_eq]
  split <;> rfl

omit [Gateway γ] in
/-- The mails that are due are those about the sales. -/
theorem due_transcript (lists : chronicle.Lists stock sales) (kept : chronicle.IsKept) :
    chronicle.concourse.transcript.filterMap Exchange.due? =
      (sales.filter Sale.isAddressed).map Sale.mail := by
  have all := lists.due_log fun _ => true
  simp only [List.filter_true] at all
  rw [← kept.transcript, List.filterMap_map]
  exact all

omit [Gateway γ] in
/-- The tickets that are sold are those of the sales, one by one. -/
theorem sold_perm (lists : chronicle.Lists stock sales) {live : List Holding}
    (custody : Custody stock chronicle.concourse.books live) :
    (chronicle.concourse.books.tickets.filter fun ticket => ticket.status = .sold).Perm
      (sales.flatMap Sale.tickets) := by
  have ids : (sales.flatMap Sale.tickets).map (·.id) =
      chronicle.concourse.books.attendances.map (·.ticket) := by
    rw [lists.attendances, List.map_flatMap, List.map_flatMap]
    exact List.flatMap_congr fun sale member => (lists.told sale member).attendances_tickets.symm
  have same : ((sales.flatMap Sale.tickets).map (·.id)).Perm
      (chronicle.concourse.books.idsOf .sold) := ids ▸ custody.attended
  refine Books.perm_of_ids custody.distinct same fun ticket member => ?_
  obtain ⟨sale, among, member⟩ := List.mem_flatMap.mp member
  obtain ⟨held, bought, rfl⟩ := List.mem_map.mp member
  rw [custody.stocked]
  exact ⟨rfl, (lists.told sale among).purchase.serves.stocked held bought⟩

end Lists

end Chronicle

/-- One mail for each sale to an address. Whatever has happened, there are some sales, each made by
a different call and as a chronicle tells it. The payments on record are those of the sales, so
those with an address are those of the sales to an address, and the tickets that are sold are those
of the sales, one by one. As long as each call is over or about to hand over nothing, the mails that
were handed over are the ones about the sales to an address, one for each and no others. In between,
what a call has handed over or is about to hand over is the mail about its own sale. And had each
mail been accepted, all else would be the same. -/
theorem Opening.one_mail_per_sale (opening : Opening σ γ) (actions : List (Action σ)) :
    ∃ sales : List Sale,
      (opening.after actions).books.payments = sales.map Sale.payment ∧
      ((opening.after actions).books.payments.filter fun payment => !payment.payerEmail.isEmpty) =
        (sales.filter Sale.isAddressed).map Sale.payment ∧
      ((opening.after actions).books.tickets.filter fun ticket => ticket.status = .sold).Perm
        (sales.flatMap Sale.tickets) ∧
      (sales.map (·.seller)).Nodup ∧
      (∀ sale ∈ sales,
        sale.IsTold (Bookkeeping.books opening.ledger).stock (opening.chronicle actions)) ∧
      ((∀ call ∈ (opening.after actions).calls, call.isOver = true ∨ call.mailsAhead = []) →
        (opening.after actions).engine.mails.Perm
          ((sales.filter Sale.isAddressed).map Sale.mail)) ∧
      (∀ caller call, (opening.after actions).calls[caller]? = some call →
        ((opening.chronicle actions).heard caller).filterMap Exchange.mail? ++ call.mailsAhead =
          ((sales.filter fun sale => sale.seller = caller).filter Sale.isAddressed).map
            Sale.mail) ∧
      (opening.after actions).accepting =
        opening.after (actions.filter fun action => !action.isPost) := by
  obtain ⟨sales, lists⟩ := opening.lists_after actions
  have kept := opening.chronicle_kept actions
  have custody := opening.custody_after actions
  have mails := opening.mails_after actions
  rw [← opening.chronicle_concourse] at custody mails ⊢
  have posting (caller : Nat) (call : Call)
      (present : (opening.chronicle actions).concourse.calls[caller]? = some call) :
      ((opening.chronicle actions).heard caller).filterMap Exchange.mail? ++ call.mailsAhead =
        ((opening.chronicle actions).heard caller).filterMap Exchange.due? := by
    obtain ⟨inside, -⟩ := List.getElem?_eq_some_iff.mp present
    exact (opening.posting_after actions caller _ call
      (List.getElem?_eq_getElem (kept.begun ▸ inside)) present).now
  refine ⟨sales, lists.payments, ?_, lists.sold_perm custody, lists.once, lists.told,
    fun finished => ?_, fun caller call present => ?_, ?_⟩
  · rw [lists.payments, List.filter_map]
    rfl
  · have settled : ∀ caller ∈ List.range (opening.chronicle actions).concourse.calls.length,
        ((opening.chronicle actions).heard caller).filterMap Exchange.mail? =
          ((opening.chronicle actions).heard caller).filterMap Exchange.due? := by
      intro caller member
      have inside := List.mem_range.mp member
      have posted := posting caller _ (List.getElem?_eq_getElem inside)
      have idle := (finished _ (List.getElem_mem inside)).elim Call.mailsAhead_of_isOver id
      rwa [idle, List.append_nil] at posted
    rw [mails, ← lists.due_transcript kept]
    have heard (pick : Exchange → Option ConfirmationMail) :
        ((opening.chronicle actions).concourse.transcript.filterMap pick).Perm
          ((List.range (opening.chronicle actions).concourse.calls.length).flatMap fun caller =>
            ((opening.chronicle actions).heard caller).filterMap pick) := by
      rw [← List.filterMap_flatMap]
      exact kept.heard_perm.filterMap pick
    exact (heard _).trans ((List.Perm.of_eq (List.flatMap_congr settled)).trans (heard _).symm)
  · rw [posting caller call present, lists.due_heard]
  · rw [opening.chronicle_concourse]
    exact opening.after_accepting actions

/-- The gateway tells that someone with an address has paid. -/
def Matinee.addressed : PaymentNotification := { notification with senderEmail := "a@b" }

/-- Two notifications of a payment make one mail, though it is not accepted. -/
example : (Matinee.opening.after (Matinee.purchase 4 ++ .post false ::
    .settle Matinee.addressed :: .settle Matinee.addressed ::
      List.replicate 4 (.go 1) ++ [.go 2])).engine.mails.map (·.recipient) = ["a@b"] := by
  decide

end BoxOffice
