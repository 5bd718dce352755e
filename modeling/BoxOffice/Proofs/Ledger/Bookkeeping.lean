import BoxOffice.Ledger.Barred
import BoxOffice.Ledger.Memory

/-!
# Ledgers that keep books

Any call to a ledger may fail, for reasons of its own and at any moment. A ledger keeps books if a
call that does not fail does what the books say: a transaction starts from the committed books,
its queries are answered from the books as it has left them so far, and nothing but a commit that
succeeds changes what is committed. Ledgers in memory keep books whatever is made to fail, and so
do ledgers behind barriers as long as no answer is replaced.
-/
namespace BoxOffice

/-- Ledgers that keep books. -/
class Bookkeeping (σ : Type) [Ledger σ] where
  /-- The books as committed. -/
  books : σ → Books
  /-- The books as the open transaction sees them. -/
  staged : σ → Books
  /-- Whether the ledger gives its own answers. -/
  IsFaithful : σ → Prop
  /-- What the ledger may be put into from outside at any moment: what it will fail at. -/
  Mood : Type
  /-- The ledger in another mood. -/
  inMood : Mood → σ → σ
  /-- Opening a transaction commits nothing. -/
  openTransaction_books {ledger : σ} : IsFaithful ledger →
    IsFaithful (Ledger.openTransaction ledger).2 ∧
      books (Ledger.openTransaction ledger).2 = books ledger
  /-- A transaction that is opened starts from what is committed. -/
  openTransaction_staged {ledger : σ} : IsFaithful ledger →
    (Ledger.openTransaction ledger).1 = .ok () →
      staged (Ledger.openTransaction ledger).2 = books ledger
  /-- No number leaves its range when a transaction is opened. -/
  openTransaction_inRange {ledger : σ} (overflow : Overflow) : IsFaithful ledger →
    (Ledger.openTransaction ledger).1 ≠ .error (.overflowed overflow)
  /-- A query commits nothing. -/
  answer_books {ledger : σ} (query : Query) : IsFaithful ledger →
    IsFaithful (Ledger.answer query ledger).2 ∧
      books (Ledger.answer query ledger).2 = books ledger
  /-- A query that is answered is answered from the books. -/
  answer_staged {ledger : σ} {query : Query} {value : query.Answer} : IsFaithful ledger →
    (Ledger.answer query ledger).1 = .ok value →
      (staged ledger).answer query = .ok (value, staged (Ledger.answer query ledger).2)
  /-- A query in which a number leaves its range is one in which it does so in the books. -/
  answer_overflow {ledger : σ} {query : Query} {overflow : Overflow} : IsFaithful ledger →
    (Ledger.answer query ledger).1 = .error (.overflowed overflow) →
      (staged ledger).answer query = .error (.overflowed overflow)
  /-- A commit leaves the ledger faithful. -/
  commit_faithful {ledger : σ} : IsFaithful ledger → IsFaithful (Ledger.commit ledger).2
  /-- A commit that succeeds keeps what the transaction did. -/
  commit_ok {ledger : σ} : IsFaithful ledger → (Ledger.commit ledger).1 = .ok () →
    books (Ledger.commit ledger).2 = staged ledger
  /-- A commit that fails keeps nothing. -/
  commit_error {ledger : σ} {fault : Fault} : IsFaithful ledger →
    (Ledger.commit ledger).1 = .error fault → books (Ledger.commit ledger).2 = books ledger
  /-- No number leaves its range at a commit. -/
  commit_inRange {ledger : σ} (overflow : Overflow) : IsFaithful ledger →
    (Ledger.commit ledger).1 ≠ .error (.overflowed overflow)
  /-- A rollback commits nothing. -/
  rollBack_books {ledger : σ} : IsFaithful ledger →
    IsFaithful (Ledger.rollBack ledger).2 ∧ books (Ledger.rollBack ledger).2 = books ledger
  /-- A transaction that is abandoned commits nothing. -/
  abandon_books {ledger : σ} : IsFaithful ledger →
    IsFaithful (Ledger.abandon ledger) ∧ books (Ledger.abandon ledger) = books ledger
  /-- The question for a payment changes nothing. -/
  paymentExists_books {ledger : σ} (id : TrackingId) : IsFaithful ledger →
    IsFaithful (Ledger.paymentExists id ledger).2 ∧
      books (Ledger.paymentExists id ledger).2 = books ledger
  /-- The question for a payment is answered from what is committed. -/
  paymentExists_ok {ledger : σ} {id : TrackingId} {isPaid : Bool} : IsFaithful ledger →
    (Ledger.paymentExists id ledger).1 = .ok isPaid → (books ledger).paymentExists id = isPaid
  /-- The question whether the ledger answers changes nothing. -/
  ping_books {ledger : σ} : IsFaithful ledger →
    IsFaithful (Ledger.ping ledger).2 ∧ books (Ledger.ping ledger).2 = books ledger
  /-- A mood changes nothing. -/
  inMood_books {ledger : σ} (mood : Mood) : IsFaithful ledger →
    IsFaithful (inMood mood ledger) ∧ books (inMood mood ledger) = books ledger

namespace MemoryLedger

/-- A query to a ledger in memory leaves the committed books as they are. -/
theorem answer_committed (query : Query) (ledger : MemoryLedger) :
    (Ledger.answer query ledger).2.books = ledger.books := by
  simp only [Ledger.answer]
  split
  · rfl
  · split <;> rfl

/-- A ledger in memory that answers a query answers it from the books of its transaction. -/
theorem answer_of_ok {query : Query} {ledger : MemoryLedger} {value : query.Answer}
    (answered : (Ledger.answer query ledger).1 = .ok value) :
    ledger.staged.answer query = .ok (value, (Ledger.answer query ledger).2.staged) := by
  simp only [Ledger.answer] at answered ⊢
  split
  · rename_i point failure
    simp [failure] at answered
  · rename_i failure
    simp only [failure] at answered
    cases found : ledger.staged.answer query with
    | error fault => simp [found] at answered
    | ok given =>
      obtain ⟨other, books⟩ := given
      simp only [found, Except.ok.injEq] at answered
      rw [answered]

/-- A number leaves its range in a query to a ledger in memory only where it does in the books. -/
theorem answer_of_overflow {query : Query} {ledger : MemoryLedger} {overflow : Overflow}
    (answered : (Ledger.answer query ledger).1 = .error (.overflowed overflow)) :
    ledger.staged.answer query = .error (.overflowed overflow) := by
  simp only [Ledger.answer] at answered
  split at answered
  · cases answered
  · split at answered
    · rename_i fault found
      rw [found, Except.error.inj answered]
    · contradiction

/-- A ledger in memory keeps books, whichever places are made to fail. -/
instance : Bookkeeping MemoryLedger where
  books ledger := ledger.books
  staged ledger := ledger.staged
  IsFaithful _ := True
  Mood := List FailPoint
  inMood failing ledger := { ledger with failing }
  openTransaction_books _ := ⟨trivial, rfl⟩
  openTransaction_staged _ _ := rfl
  openTransaction_inRange _ _ overflows := by contradiction
  answer_books query _ := ⟨trivial, answer_committed query _⟩
  answer_staged _ answered := answer_of_ok answered
  answer_overflow _ answered := answer_of_overflow answered
  commit_faithful _ := trivial
  commit_ok {ledger} _ committed := by
    simp only [Ledger.commit] at committed ⊢
    split at committed
    · contradiction
    · rename_i working
      simp only [working]
      rfl
  commit_error {ledger} _ _ failed := by
    simp only [Ledger.commit] at failed ⊢
    split at failed
    · rename_i broken
      simp only [broken, ↓reduceIte, dropChanges]
    · contradiction
  commit_inRange _ _ overflows := by
    simp only [Ledger.commit] at overflows
    split at overflows <;> cases overflows
  rollBack_books _ := ⟨trivial, rfl⟩
  abandon_books _ := ⟨trivial, rfl⟩
  paymentExists_books _ _ := ⟨trivial, rfl⟩
  paymentExists_ok _ told := Except.ok.inj told
  ping_books _ := ⟨trivial, rfl⟩
  inMood_books _ _ := ⟨trivial, rfl⟩

end MemoryLedger

namespace BarredLedger

variable {σ : Type}

/-- A barrier that a call meets leaves everything but the barriers as it is. -/
theorem meet_frame (ledger : BarredLedger σ) (barrier : Barrier) :
    (ledger.meet barrier).2.inner = ledger.inner ∧
      (ledger.meet barrier).2.reportedUsage = ledger.reportedUsage ∧
        (ledger.meet barrier).2.reportedChange = ledger.reportedChange := by
  simp only [meet]
  split
  · exact ⟨rfl, rfl, rfl⟩
  · exact ⟨rfl, rfl, rfl⟩
  · exact ⟨rfl, rfl, rfl⟩

/-- A call that succeeds was let pass. -/
theorem call_ok {α : Type} {barrier : Barrier} {perform : σ → Except Fault α × σ}
    {ledger : BarredLedger σ} {value : α} (done : (ledger.call barrier perform).1 = .ok value) :
    (perform ledger.inner).1 = .ok value ∧
      (ledger.call barrier perform).2.inner = (perform ledger.inner).2 := by
  have frame := ledger.meet_frame barrier
  simp only [call] at done ⊢
  split at done
  · contradiction
  · rename_i passes
    simp only [passes, Bool.false_eq_true, ↓reduceIte, frame.1, withInner]
    exact ⟨by simpa only [frame.1] using done, trivial⟩

/-- A call in which a number leaves its range was let pass. -/
theorem call_overflow {α : Type} {barrier : Barrier} {perform : σ → Except Fault α × σ}
    {ledger : BarredLedger σ} {overflow : Overflow}
    (overflows : (ledger.call barrier perform).1 = .error (.overflowed overflow)) :
    (perform ledger.inner).1 = .error (.overflowed overflow) := by
  have frame := ledger.meet_frame barrier
  simp only [call] at overflows
  split at overflows
  · cases overflows
  · simpa only [frame.1] using overflows

/-- The answer to a query before answers are replaced. -/
def answered [Ledger σ] (query : Query) (ledger : BarredLedger σ) :
    Except Fault query.Answer × BarredLedger σ :=
  match barrierOf? query with
  | some barrier => ledger.call barrier (Ledger.answer query)
  | none => ((Ledger.answer query ledger.inner).1,
      ledger.withInner (Ledger.answer query ledger.inner).2)

/-- A query is answered first, and then the answer is replaced. -/
theorem answer_eq [Ledger σ] (query : Query) (ledger : BarredLedger σ) :
    Ledger.answer query ledger =
      ((ledger.answered query).1.map (ledger.replaced query), (ledger.answered query).2) := by
  cases barrier : barrierOf? query <;> simp only [Ledger.answer, answered, barrier]

/-- A query that is answered behind barriers was answered by the ledger behind them. -/
theorem answered_ok [Ledger σ] {query : Query} {ledger : BarredLedger σ} {value : query.Answer}
    (done : (ledger.answered query).1 = .ok value) :
    (Ledger.answer query ledger.inner).1 = .ok value ∧
      (ledger.answered query).2.inner = (Ledger.answer query ledger.inner).2 := by
  cases found : barrierOf? query with
  | some barrier =>
    simp only [answered, found] at done ⊢
    exact call_ok done
  | none =>
    simp only [answered, found] at done ⊢
    exact ⟨done, rfl⟩

/-- A query behind barriers in which a number leaves its range was put to the ledger behind them. -/
theorem answered_overflow [Ledger σ] {query : Query} {ledger : BarredLedger σ}
    {overflow : Overflow}
    (overflows : (ledger.answered query).1 = .error (.overflowed overflow)) :
    (Ledger.answer query ledger.inner).1 = .error (.overflowed overflow) := by
  cases found : barrierOf? query with
  | some barrier =>
    simp only [answered, found] at overflows
    exact call_overflow overflows
  | none =>
    simp only [answered, found] at overflows
    exact overflows

variable [Ledger σ] [Bookkeeping σ]

/-- Whether no answer is replaced, neither here nor by the ledger behind the barriers. -/
def IsOpen (ledger : BarredLedger σ) : Prop :=
  ledger.reportedUsage = none ∧ ledger.reportedChange = none ∧
    Bookkeeping.IsFaithful ledger.inner

/-- Whether nothing was committed between two moments, and no answer is replaced at the later. -/
def CommitsNothing (ledger later : BarredLedger σ) : Prop :=
  later.IsOpen ∧ Bookkeeping.books later.inner = Bookkeeping.books ledger.inner

/-- A barrier that a call meets replaces no answer. -/
theorem IsOpen.meet {ledger : BarredLedger σ} (faithful : ledger.IsOpen) (barrier : Barrier) :
    (ledger.meet barrier).2.IsOpen := by
  obtain ⟨inner, usage, change⟩ := ledger.meet_frame barrier
  simpa only [IsOpen, inner, usage, change] using faithful

/-- Where no answer is replaced the answer is the one given. -/
theorem IsOpen.replaced {ledger : BarredLedger σ} (faithful : ledger.IsOpen) (query : Query)
    (given : query.Answer) : ledger.replaced query given = given := by
  obtain ⟨usage, change, -⟩ := faithful
  cases query <;> simp only [BarredLedger.replaced, usage, change, Option.getD_none]

/-- A call that commits nothing commits nothing behind a barrier. -/
theorem call_commitsNothing {α : Type} {barrier : Barrier} {perform : σ → Except Fault α × σ}
    {ledger : BarredLedger σ} (faithful : ledger.IsOpen)
    (keeps : Bookkeeping.IsFaithful (perform ledger.inner).2 ∧
      Bookkeeping.books (perform ledger.inner).2 = Bookkeeping.books ledger.inner) :
    CommitsNothing ledger (ledger.call barrier perform).2 := by
  have frame := ledger.meet_frame barrier
  have met := faithful.meet barrier
  simp only [call]
  split
  · exact ⟨met, by rw [frame.1]⟩
  · rw [frame.1]
    exact ⟨⟨met.1, met.2.1, keeps.1⟩, keeps.2⟩

/-- A query behind barriers commits nothing. -/
theorem answered_commitsNothing {ledger : BarredLedger σ} (faithful : ledger.IsOpen)
    (query : Query) : CommitsNothing ledger (ledger.answered query).2 := by
  have keeps := Bookkeeping.answer_books query faithful.2.2
  simp only [answered]
  split
  · exact call_commitsNothing faithful keeps
  · exact ⟨⟨faithful.1, faithful.2.1, keeps.1⟩, keeps.2⟩

/-- A ledger behind barriers keeps books if the ledger behind them does, whatever the barriers
stop, as long as no answer is replaced. -/
instance : Bookkeeping (BarredLedger σ) where
  books ledger := Bookkeeping.books ledger.inner
  staged ledger := Bookkeeping.staged ledger.inner
  IsFaithful := IsOpen
  Mood := Bookkeeping.Mood σ × List (Barrier × Nat)
  inMood mood ledger :=
    { ledger with inner := Bookkeeping.inMood mood.1 ledger.inner, barriers := mood.2 }
  openTransaction_books faithful :=
    call_commitsNothing faithful (Bookkeeping.openTransaction_books faithful.2.2)
  openTransaction_staged faithful opened := by
    obtain ⟨passed, inner⟩ := call_ok opened
    simp only [Ledger.openTransaction, inner]
    exact Bookkeeping.openTransaction_staged faithful.2.2 passed
  openTransaction_inRange overflow faithful overflows :=
    Bookkeeping.openTransaction_inRange overflow faithful.2.2 (call_overflow overflows)
  answer_books query faithful := by
    rw [answer_eq]
    exact answered_commitsNothing faithful query
  answer_staged {ledger query value} faithful given := by
    rw [answer_eq] at given ⊢
    simp only [Except.map, faithful.replaced query] at given
    have done : (ledger.answered query).1 = .ok value := by
      cases found : (ledger.answered query).1 with
      | error fault => simp [found] at given
      | ok other => simpa [found] using given
    obtain ⟨passed, inner⟩ := answered_ok done
    simp only [inner]
    exact Bookkeeping.answer_staged faithful.2.2 passed
  answer_overflow {ledger query overflow} faithful overflows := by
    rw [answer_eq] at overflows
    cases found : (ledger.answered query).1 with
    | error fault =>
      rw [found] at overflows
      obtain rfl : fault = .overflowed overflow := Except.error.inj overflows
      exact Bookkeeping.answer_overflow faithful.2.2 (answered_overflow found)
    | ok other =>
      rw [found] at overflows
      contradiction
  commit_faithful {ledger} faithful := by
    have met := faithful.meet .commit
    simp only [Ledger.commit]
    split
    · exact ⟨met.1, met.2.1, (Bookkeeping.abandon_books met.2.2).1⟩
    · exact ⟨met.1, met.2.1, Bookkeeping.commit_faithful met.2.2⟩
  commit_ok {ledger} faithful committed := by
    have frame := ledger.meet_frame .commit
    have met := faithful.meet .commit
    simp only [Ledger.commit] at committed ⊢
    split at committed
    · contradiction
    · rename_i passes
      simp only [passes, Bool.false_eq_true, ↓reduceIte, withInner]
      rw [frame.1] at committed ⊢
      exact Bookkeeping.commit_ok faithful.2.2 committed
  commit_error {ledger _} faithful failed := by
    have frame := ledger.meet_frame .commit
    simp only [Ledger.commit] at failed ⊢
    split at failed
    · rename_i stopped
      simp only [stopped, ↓reduceIte, withInner, frame.1]
      exact (Bookkeeping.abandon_books faithful.2.2).2
    · rename_i passes
      simp only [passes, Bool.false_eq_true, ↓reduceIte, withInner]
      rw [frame.1] at failed ⊢
      exact Bookkeeping.commit_error faithful.2.2 failed
  commit_inRange {ledger} overflow faithful overflows := by
    have frame := ledger.meet_frame .commit
    simp only [Ledger.commit] at overflows
    split at overflows
    · cases overflows
    · rw [frame.1] at overflows
      exact Bookkeeping.commit_inRange overflow faithful.2.2 overflows
  rollBack_books {ledger} faithful := by
    have keeps := Bookkeeping.rollBack_books faithful.2.2
    have inner : (ledger.withInner (Ledger.rollBack ledger.inner).2).IsOpen :=
      ⟨faithful.1, faithful.2.1, keeps.1⟩
    have frame := (ledger.withInner (Ledger.rollBack ledger.inner).2).meet_frame .rollback
    simp only [Ledger.rollBack]
    exact ⟨inner.meet .rollback, by rw [frame.1]; exact keeps.2⟩
  abandon_books faithful :=
    have keeps := Bookkeeping.abandon_books faithful.2.2
    ⟨⟨faithful.1, faithful.2.1, keeps.1⟩, keeps.2⟩
  paymentExists_books id faithful :=
    call_commitsNothing faithful (Bookkeeping.paymentExists_books id faithful.2.2)
  paymentExists_ok faithful told :=
    Bookkeeping.paymentExists_ok faithful.2.2 (call_ok told).1
  ping_books {ledger} faithful := by
    have frame := ledger.meet_frame .ping
    have met := faithful.meet .ping
    simp only [Ledger.ping]
    split
    · exact ⟨met, by rw [frame.1]⟩
    · have keeps := Bookkeeping.ping_books met.2.2
      exact ⟨⟨met.1, met.2.1, keeps.1⟩, by rw [← frame.1]; exact keeps.2⟩
  inMood_books mood faithful :=
    have keeps := Bookkeeping.inMood_books mood.1 faithful.2.2
    ⟨⟨faithful.1, faithful.2.1, keeps.1⟩, keeps.2⟩

end BarredLedger

end BoxOffice
