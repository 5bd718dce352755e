import BoxOffice.Proofs.Gateway
import BoxOffice.Proofs.Ledger.Bookkeeping
import BoxOffice.Transaction

/-!
# What work within a transaction does

`Desk.Gives` says that some work comes to its end with a value. Work that is put together gives a
value if its parts do, one after the other, and a query gives what the books answer. So what a
transaction does to the books of a ledger that keeps them is read off its work, and a transaction
that comes to nothing commits nothing.
-/
namespace BoxOffice.Desk

variable {σ γ : Type} [Ledger σ] [Gateway γ] {α β : Type} {desk later : Desk σ γ}

/-- Some work gives a value and leaves a desk behind. -/
def Gives (desk : Desk σ γ) (work : Attempt α) (value : α) (later : Desk σ γ) : Prop :=
  desk.attempt work = (.ok value, later)

/-- Work that goes on gives a value if its first part gives one and the rest goes on from there. -/
theorem gives_bind {work : Attempt α} {next : α → Attempt β} {value : β}
    (given : desk.Gives (work >>= next) value later) :
    ∃ found middle, desk.Gives work found middle ∧ middle.Gives (next found) value later := by
  simp only [Gives, attempt_bind] at given ⊢
  cases worked : desk.attempt work with
  | mk result middle =>
    cases result with
    | error abort => simp [worked] at given
    | ok found => exact ⟨found, middle, rfl, by simpa only [worked] using given⟩

/-- A value is given at once. -/
theorem gives_pure {value found : α} (given : desk.Gives (pure found) value later) :
    found = value ∧ desk = later := by
  simpa [Gives] using given

/-- A refusal gives no value. -/
theorem not_gives_refuse {refusal : Refusal} {value : α} :
    ¬desk.Gives (Attempt.refuse refusal) value later := by
  simp [Gives]

/-- A computation gives its result. -/
theorem gives_compute {result : Except Overflow α} {value : α}
    (given : desk.Gives (Attempt.compute result) value later) :
    result = .ok value ∧ desk = later := by
  cases result with
  | error overflow => exact absurd (congrArg Prod.fst given) nofun
  | ok found =>
    obtain ⟨same, place⟩ := Prod.mk.inj given
    have same : Except.ok found = Except.ok value := same
    exact ⟨congrArg _ (Except.ok.inj same), place⟩

/-- A check that gives anything has been passed. -/
theorem gives_check {result : Except Refusal α} {value : α}
    (given : desk.Gives (Attempt.check result) value later) :
    result = .ok value ∧ desk = later := by
  cases result with
  | error refusal => exact absurd (congrArg Prod.fst given) nofun
  | ok found =>
    obtain ⟨same, place⟩ := Prod.mk.inj given
    have same : Except.ok found = Except.ok value := same
    exact ⟨congrArg _ (Except.ok.inj same), place⟩

/-- A condition that is demanded holds when the work goes on. -/
theorem gives_demand {condition : Bool} {refusal : Refusal} {value : Unit}
    (given : desk.Gives (Attempt.demand condition refusal) value later) :
    condition = true ∧ desk = later := by
  cases condition with
  | false => exact absurd given not_gives_refuse
  | true => exact ⟨rfl, (gives_pure given).2⟩

/-- The clock gives the time. -/
theorem gives_wallClock {value : Instant} (given : desk.Gives Attempt.wallClock value later) :
    desk.now = value ∧ desk = later := by
  obtain ⟨same, place⟩ := Prod.mk.inj given
  exact ⟨Except.ok.inj same, place⟩

/-- A bill is given by the gateway. -/
theorem gives_createBill {request : BillRequest} {bill : Bill}
    (given : desk.Gives (Attempt.createBill request) bill later) :
    Gateway.createBill request desk.gateway = (.ok bill, later.gateway) ∧
      later.ledger = desk.ledger := by
  simp only [Gives, attempt, Attempt.createBill, ExceptT.run_mk, Dialogue.run, answer] at given
  cases made : Gateway.createBill request desk.gateway with
  | mk result gateway =>
    rw [made] at given
    obtain ⟨same, place⟩ := Prod.mk.inj given
    cases result with
    | error fault => contradiction
    | ok found => exact ⟨by rw [Except.ok.inj same, ← place], by rw [← place]⟩

/-- Whatever work asks, the gateway hears some requests. -/
theorem attempt_heard (work : Attempt α) (desk : Desk σ γ) :
    ∃ requests, (desk.attempt work).2.gateway = Gateway.heard requests desk.gateway := by
  have heard (dialogue : Work (Except Abort α)) (desk : Desk σ γ) : ∃ requests,
      (Dialogue.run answer dialogue desk).2.gateway = Gateway.heard requests desk.gateway := by
    induction dialogue generalizing desk with
    | done value => exact ⟨[], rfl⟩
    | ask inquiry next ih =>
      obtain ⟨requests, rest⟩ := ih (answer inquiry desk).1 (answer inquiry desk).2
      cases inquiry with
      | consult query => exact ⟨requests, rest⟩
      | createBill request => exact ⟨request :: requests, rest⟩
      | wallClock => exact ⟨requests, rest⟩
  exact heard work.run desk

omit [Gateway γ] in
/-- Ending a transaction leaves the gateway alone. -/
theorem close_gateway (isRolledBack : Abort → Bool) (result : Except Abort α)
    (desk : Desk σ γ) : (close isRolledBack result desk).2.gateway = desk.gateway := by
  cases result <;> rfl

/-- Whatever comes of a transaction, the gateway has heard some requests. -/
theorem perform_heard (transaction : Transaction) (desk : Desk σ γ) :
    ∃ requests, (desk.perform transaction).2.gateway = Gateway.heard requests desk.gateway := by
  simp only [perform]
  cases (Ledger.openTransaction desk.ledger).1 with
  | error fault => exact ⟨[], rfl⟩
  | ok _ =>
    rw [close_gateway]
    exact attempt_heard transaction.work _

variable [Bookkeeping σ]

/-- Whether the ledger of a desk gives its own answers. -/
abbrev IsFaithful (desk : Desk σ γ) : Prop := Bookkeeping.IsFaithful desk.ledger

/-- The books of a desk as committed. -/
abbrev books (desk : Desk σ γ) : Books := Bookkeeping.books desk.ledger

/-- The books of a desk as the open transaction sees them. -/
abbrev staged (desk : Desk σ γ) : Books := Bookkeeping.staged desk.ledger

/-- A query gives what the books answer. -/
theorem gives_consult {query : Query} {value : query.Answer} (faithful : desk.IsFaithful)
    (given : desk.Gives (Attempt.consult query) value later) :
    later.IsFaithful ∧ desk.staged.answer query = .ok (value, later.staged) ∧
      later.gateway = desk.gateway := by
  obtain ⟨same, place⟩ := Prod.mk.inj given
  have faithfulLater := (Bookkeeping.answer_books query faithful).1
  simp only [answer] at same place
  cases answered : (Ledger.answer query desk.ledger).1 with
  | error fault =>
    rw [answered] at same
    exact absurd same nofun
  | ok found =>
    rw [answered] at same
    obtain rfl : found = value := Except.ok.inj same
    have told := Bookkeeping.answer_staged faithful answered
    rw [← place]
    exact ⟨faithfulLater, told, rfl⟩

/-- Questions within a transaction commit nothing. -/
theorem run_books (work : Work α) (desk : Desk σ γ) (faithful : desk.IsFaithful) :
    (Dialogue.run answer work desk).2.IsFaithful ∧
      (Dialogue.run answer work desk).2.books = desk.books := by
  induction work generalizing desk with
  | done value => exact ⟨faithful, rfl⟩
  | ask inquiry next ih =>
    cases inquiry with
    | consult query =>
      have keeps := Bookkeeping.answer_books query faithful
      have rest := ih (answer (.consult query) desk).1 (answer (.consult query) desk).2 keeps.1
      exact ⟨rest.1, rest.2.trans keeps.2⟩
    | createBill request =>
      exact ih (answer (.createBill request) desk).1 (answer (.createBill request) desk).2 faithful
    | wallClock => exact ih desk.now desk faithful

/-- Work commits nothing. -/
theorem attempt_books (work : Attempt α) (desk : Desk σ γ) (faithful : desk.IsFaithful) :
    (desk.attempt work).2.IsFaithful ∧ (desk.attempt work).2.books = desk.books :=
  run_books work.run desk faithful

/-- A transaction leaves the ledger faithful. -/
theorem perform_faithful (transaction : Transaction) (faithful : desk.IsFaithful) :
    (desk.perform transaction).2.IsFaithful := by
  have opened := (Bookkeeping.openTransaction_books faithful).1
  simp only [perform]
  cases (Ledger.openTransaction desk.ledger).1 with
  | error fault => exact opened
  | ok _ =>
    have worked := (attempt_books transaction.work
      { desk with ledger := (Ledger.openTransaction desk.ledger).2 } opened).1
    simp only [close]
    split
    · exact Bookkeeping.commit_faithful worked
    · split
      · exact (Bookkeeping.rollBack_books worked).1
      · exact (Bookkeeping.abandon_books worked).1

omit [Gateway γ] in
/-- What is closed with a fault is committed nowhere. -/
theorem close_error {isRolledBack : Abort → Bool} {result : Except Abort α} {abort : Abort}
    (faithful : desk.IsFaithful) (closed : (close isRolledBack result desk).1 = .error abort) :
    (close isRolledBack result desk).2.books = desk.books := by
  cases result with
  | error failure =>
    simp only [close]
    split
    · exact (Bookkeeping.rollBack_books faithful).2
    · exact (Bookkeeping.abandon_books faithful).2
  | ok value =>
    simp only [close] at closed ⊢
    cases ended : (Ledger.commit desk.ledger).1 with
    | error fault => exact Bookkeeping.commit_error faithful ended
    | ok _ =>
      rw [ended] at closed
      exact absurd closed nofun

omit [Gateway γ] in
/-- What is closed with a value has been done and committed. -/
theorem close_ok {isRolledBack : Abort → Bool} {result : Except Abort α} {value : α}
    (faithful : desk.IsFaithful) (closed : (close isRolledBack result desk).1 = .ok value) :
    result = .ok value ∧ (close isRolledBack result desk).2.books = desk.staged := by
  cases result with
  | error failure => exact absurd closed nofun
  | ok found =>
    simp only [close] at closed ⊢
    cases ended : (Ledger.commit desk.ledger).1 with
    | error fault =>
      rw [ended] at closed
      exact absurd closed nofun
    | ok _ =>
      rw [ended] at closed
      obtain rfl : found = value := Except.ok.inj closed
      exact ⟨rfl, Bookkeeping.commit_ok faithful ended⟩

/-- A transaction that comes to nothing leaves the books as they are. -/
theorem perform_error {transaction : Transaction} {abort : Abort} (faithful : desk.IsFaithful)
    (failed : (desk.perform transaction).1 = .error abort) :
    (desk.perform transaction).2.books = desk.books := by
  have opened := Bookkeeping.openTransaction_books faithful
  simp only [perform] at failed ⊢
  cases begun : (Ledger.openTransaction desk.ledger).1 with
  | error fault => exact opened.2
  | ok _ =>
    simp only [begun] at failed
    have worked := attempt_books transaction.work
      { desk with ledger := (Ledger.openTransaction desk.ledger).2 } opened.1
    exact (close_error worked.1 failed).trans (worked.2.trans opened.2)

/-- A transaction that gives a value has done its work on the books as they were, and what the
work made of them is committed. -/
theorem perform_ok {transaction : Transaction} {value : transaction.Result}
    (faithful : desk.IsFaithful) (done : (desk.perform transaction).1 = .ok value) :
    ∃ opened worked : Desk σ γ, opened.IsFaithful ∧ opened.staged = desk.books ∧
      opened.gateway = desk.gateway ∧ opened.Gives transaction.work value worked ∧
        (desk.perform transaction).2.books = worked.staged ∧
          (desk.perform transaction).2.gateway = worked.gateway := by
  have opened := Bookkeeping.openTransaction_books faithful
  simp only [perform] at done ⊢
  cases begun : (Ledger.openTransaction desk.ledger).1 with
  | error fault =>
    simp only [begun] at done
    exact absurd done nofun
  | ok _ =>
    simp only [begun] at done
    have staged := Bookkeeping.openTransaction_staged faithful begun
    let start : Desk σ γ := { desk with ledger := (Ledger.openTransaction desk.ledger).2 }
    have worked := attempt_books transaction.work start opened.1
    have closed := close_ok worked.1 done
    exact ⟨start, (start.attempt transaction.work).2, opened.1, staged, rfl,
      Prod.ext closed.1 rfl, closed.2, close_gateway _ _ _⟩

end BoxOffice.Desk
