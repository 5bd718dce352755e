import BoxOffice.Ledger.Books
import Mathlib.Data.List.Nodup
import Mathlib.Data.List.Perm.Basic

/-!
# Tickets by status

The tickets of some books are told apart by their identifiers. Where no identifier occurs twice,
each ticket has one status, and tickets that take on another status go over from one list to the
other as a whole.
-/
namespace BoxOffice.Books

variable {books : Books} {ids : List Uuid} {id : Uuid} {current next status other : TicketStatus}

/-- The identifiers of all tickets. -/
def ticketIds (books : Books) : List Uuid := books.tickets.map (·.id)

/-- The identifiers of the tickets that have a status. -/
def idsOf (books : Books) (status : TicketStatus) : List Uuid :=
  (books.tickets.filter fun ticket => ticket.status = status).map (·.id)

/-- An identifier is listed under a status if a ticket has both. -/
theorem mem_idsOf :
    id ∈ books.idsOf status ↔
      ∃ ticket ∈ books.tickets, ticket.status = status ∧ ticket.id = id := by
  simp only [idsOf, List.mem_map, List.mem_filter, decide_eq_true_eq, and_assoc]

/-- No identifier is listed twice under a status. -/
theorem idsOf_nodup (distinct : books.ticketIds.Nodup) : (books.idsOf status).Nodup :=
  distinct.sublist (List.filter_sublist.map _)

/-- A ticket has one status only. -/
theorem status_unique (distinct : books.ticketIds.Nodup) (first : id ∈ books.idsOf status)
    (second : id ∈ books.idsOf other) : status = other := by
  obtain ⟨ticket, member, rfl, name⟩ := mem_idsOf.mp first
  obtain ⟨again, memberAgain, rfl, nameAgain⟩ := mem_idsOf.mp second
  have same := List.inj_on_of_nodup_map distinct member memberAgain (name.trans nameAgain.symm)
  rw [same]

/-- A ticket is among some with a status if it is one of them and has the status. -/
theorem isAmong_iff {ticket : Ticket} :
    isAmong ids status ticket = true ↔ ticket.id ∈ ids ∧ ticket.status = status := by
  simp only [isAmong, Bool.and_eq_true, List.contains_iff_mem, decide_eq_true_eq]

/-- Of tickets that all have a status all are counted. -/
theorem countAmong_eq_length (distinct : books.ticketIds.Nodup) (separate : ids.Nodup)
    (owned : ids ⊆ books.idsOf status) : books.countAmong ids status = ids.length := by
  let among := books.tickets.filter (isAmong ids status)
  have once : (among.map (·.id)).Nodup := distinct.sublist (List.filter_sublist.map _)
  have same : (among.map (·.id)).Perm ids := by
    rw [List.perm_ext_iff_of_nodup once separate]
    intro id
    constructor
    · intro listed
      obtain ⟨ticket, found, rfl⟩ := List.mem_map.mp listed
      exact (isAmong_iff.mp (List.mem_filter.mp found).2).1
    · intro member
      obtain ⟨ticket, present, has, rfl⟩ := mem_idsOf.mp (owned member)
      have found : ticket ∈ among :=
        List.mem_filter.mpr ⟨present, isAmong_iff.mpr ⟨member, has⟩⟩
      exact List.mem_map.mpr ⟨ticket, found, rfl⟩
  calc books.countAmong ids status
      = among.length := List.countP_eq_length_filter
    _ = (among.map (·.id)).length := (List.length_map _).symm
    _ = ids.length := same.length_eq

/-- The status of an identifier is the one under which it is listed. -/
theorem ticketStatus?_eq_some (distinct : books.ticketIds.Nodup) :
    books.ticketStatus? id = some status ↔ id ∈ books.idsOf status := by
  have listed (found : TicketStatus) (given : books.ticketStatus? id = some found) :
      id ∈ books.idsOf found := by
    obtain ⟨ticket, first, rfl⟩ := Option.map_eq_some_iff.mp given
    have name := List.find?_some first
    exact mem_idsOf.mpr ⟨ticket, List.mem_of_find?_eq_some first, rfl, by simpa using name⟩
  refine ⟨listed status, fun member => ?_⟩
  cases given : books.ticketStatus? id with
  | some found => rw [status_unique distinct member (listed found given)]
  | none =>
    obtain ⟨ticket, present, -, name⟩ := mem_idsOf.mp member
    have missing := List.find?_eq_none.mp (Option.map_eq_none_iff.mp given) ticket present
    exact absurd name (by simpa using missing)

/-- A change of status changes no identifier. -/
@[simp]
theorem withStatus_ticketIds (books : Books) (ids : List Uuid) (current next : TicketStatus) :
    (books.withStatus ids current next).ticketIds = books.ticketIds := by
  simp only [ticketIds, withStatus, List.map_map]
  refine List.map_congr_left fun ticket _ => ?_
  simp only [Function.comp_apply]
  split <;> rfl

/-- What is on sale or was: the tickets, whatever has become of them. -/
def stock (books : Books) : List Ticket :=
  books.tickets.map fun ticket => { ticket with status := .available }

/-- A change of status changes no ticket otherwise. -/
@[simp]
theorem withStatus_stock (books : Books) (ids : List Uuid) (current next : TicketStatus) :
    (books.withStatus ids current next).stock = books.stock := by
  simp only [stock, withStatus, List.map_map]
  refine List.map_congr_left fun ticket _ => ?_
  simp only [Function.comp_apply]
  split <;> rfl

/-- The tickets with a status are those of the stock that are listed under it. -/
theorem perm_of_ids {tickets : List Ticket} (distinct : books.ticketIds.Nodup)
    (listed : (tickets.map (·.id)).Perm (books.idsOf status))
    (stocked : ∀ ticket ∈ tickets,
      ticket.status = status ∧ { ticket with status := .available } ∈ books.stock) :
    (books.tickets.filter fun ticket => ticket.status = status).Perm tickets := by
  have present (ticket : Ticket) (member : ticket ∈ tickets) :
      ticket ∈ books.tickets.filter fun ticket => ticket.status = status := by
    obtain ⟨has, inStock⟩ := stocked ticket member
    obtain ⟨found, among, same⟩ := List.mem_map.mp inStock
    obtain ⟨other, also, hasToo, name⟩ :=
      mem_idsOf.mp (listed.subset (List.mem_map_of_mem member))
    obtain rfl : other = found := List.inj_on_of_nodup_map distinct also among
      (name.trans (congrArg Ticket.id same).symm)
    have restored : other = ticket := calc
      other = { other with status } := by rw [← hasToo]
      _ = { ticket with status } := congrArg (fun found : Ticket => { found with status }) same
      _ = ticket := by rw [← has]
    exact restored ▸ List.mem_filter.mpr ⟨also, decide_eq_true hasToo⟩
  have once := listed.nodup_iff.mpr (idsOf_nodup distinct)
  refine (List.perm_ext_iff_of_nodup (distinct.of_map _ |>.filter _) (once.of_map _)).mpr
    fun ticket => ⟨fun member => ?_, present ticket⟩
  obtain ⟨other, also, name⟩ :=
    List.mem_map.mp (listed.symm.subset (List.mem_map_of_mem member))
  obtain rfl : other = ticket := List.inj_on_of_nodup_map distinct
    (List.mem_filter.mp (present other also)).1 (List.mem_filter.mp member).1 name
  exact also

/-- Books with the same tickets have the same ones under each status. -/
theorem idsOf_congr {after : Books} (same : after.tickets = books.tickets) :
    after.idsOf = books.idsOf := by
  funext status
  simp only [idsOf, same]

/-- Books with the same tickets have the same identifiers. -/
theorem ticketIds_congr {after : Books} (same : after.tickets = books.tickets) :
    after.ticketIds = books.ticketIds := by
  simp only [ticketIds, same]

/-- Books with the same tickets have the same stock. -/
theorem stock_congr {after : Books} (same : after.tickets = books.tickets) :
    after.stock = books.stock := by
  simp only [stock, same]

/-- Where all tickets are available none has another status. -/
theorem idsOf_eq_nil (available : ∀ ticket ∈ books.tickets, ticket.status = .available)
    (apart : status ≠ .available) : books.idsOf status = [] := by
  rw [List.eq_nil_iff_forall_not_mem]
  intro id member
  obtain ⟨ticket, present, rfl, -⟩ := mem_idsOf.mp member
  exact apart (available ticket present)

/-- After a change of status the tickets that changed are listed under the next status, and all
others as before. -/
theorem mem_idsOf_withStatus (distinct : books.ticketIds.Nodup)
    (owned : ids ⊆ books.idsOf current) :
    id ∈ (books.withStatus ids current next).idsOf status ↔
      id ∈ ids ∧ status = next ∨ id ∉ ids ∧ id ∈ books.idsOf status := by
  constructor
  · intro member
    obtain ⟨changed, present, rfl, rfl⟩ := mem_idsOf.mp member
    obtain ⟨ticket, was, rfl⟩ := List.mem_map.mp present
    by_cases among : isAmong ids current ticket = true
    · simp only [among, ↓reduceIte]
      exact .inl ⟨(isAmong_iff.mp among).1, trivial⟩
    · simp only [among, Bool.false_eq_true, ↓reduceIte]
      have listed : ticket.id ∈ books.idsOf ticket.status := mem_idsOf.mpr ⟨ticket, was, rfl, rfl⟩
      refine .inr ⟨fun changes => among ?_, listed⟩
      exact isAmong_iff.mpr ⟨changes, status_unique distinct listed (owned changes)⟩
  · rintro (⟨changes, rfl⟩ | ⟨stays, member⟩)
    · obtain ⟨ticket, was, rfl, rfl⟩ := mem_idsOf.mp (owned changes)
      have among : isAmong ids ticket.status ticket = true := isAmong_iff.mpr ⟨changes, rfl⟩
      refine mem_idsOf.mpr ⟨{ ticket with status }, ?_, rfl, rfl⟩
      exact List.mem_map.mpr ⟨ticket, was, by simp only [among, ↓reduceIte]⟩
    · obtain ⟨ticket, was, rfl, rfl⟩ := mem_idsOf.mp member
      have among : ¬isAmong ids current ticket = true := fun has => stays (isAmong_iff.mp has).1
      refine mem_idsOf.mpr ⟨ticket, ?_, rfl, rfl⟩
      exact List.mem_map.mpr ⟨ticket, was, by simp only [among, Bool.false_eq_true, ↓reduceIte]⟩

/-- The tickets that change their status leave those of the current one. -/
theorem idsOf_current (next : TicketStatus) (distinct : books.ticketIds.Nodup)
    (separate : ids.Nodup) (owned : ids ⊆ books.idsOf current) (changes : current ≠ next) :
    (books.idsOf current).Perm (ids ++ (books.withStatus ids current next).idsOf current) := by
  have after : ((books.withStatus ids current next).idsOf current).Nodup :=
    idsOf_nodup (by rwa [withStatus_ticketIds])
  have both : (ids ++ (books.withStatus ids current next).idsOf current).Nodup := by
    refine List.Nodup.append separate after fun id left right => ?_
    rcases (mem_idsOf_withStatus distinct owned).mp right with moved | stayed
    · exact changes moved.2
    · exact stayed.1 left
  rw [List.perm_ext_iff_of_nodup (idsOf_nodup distinct) both]
  intro id
  rw [List.mem_append, mem_idsOf_withStatus distinct owned]
  by_cases member : id ∈ ids
  · simp only [member, owned member, true_or]
  · simp only [member, false_and, not_false_eq_true, true_and, false_or]

/-- The tickets that change their status join those of the next one. -/
theorem idsOf_next (next : TicketStatus) (distinct : books.ticketIds.Nodup) (separate : ids.Nodup)
    (owned : ids ⊆ books.idsOf current) (changes : current ≠ next) :
    ((books.withStatus ids current next).idsOf next).Perm (ids ++ books.idsOf next) := by
  have after : ((books.withStatus ids current next).idsOf next).Nodup :=
    idsOf_nodup (by rwa [withStatus_ticketIds])
  have both : (ids ++ books.idsOf next).Nodup := by
    refine List.Nodup.append separate (idsOf_nodup distinct) fun id left right => ?_
    exact changes (status_unique distinct (owned left) right)
  rw [List.perm_ext_iff_of_nodup after both]
  intro id
  rw [List.mem_append, mem_idsOf_withStatus distinct owned]
  by_cases member : id ∈ ids
  · simp only [member, true_and, true_or]
  · simp only [member, false_and, not_false_eq_true, true_and, false_or]

/-- A change of status leaves the tickets of a third status alone. -/
theorem idsOf_other (next status : TicketStatus) (distinct : books.ticketIds.Nodup)
    (owned : ids ⊆ books.idsOf current) (apart : current ≠ status) (aside : next ≠ status) :
    ((books.withStatus ids current next).idsOf status).Perm (books.idsOf status) := by
  have after : ((books.withStatus ids current next).idsOf status).Nodup :=
    idsOf_nodup (by rwa [withStatus_ticketIds])
  rw [List.perm_ext_iff_of_nodup after (idsOf_nodup distinct)]
  intro id
  rw [mem_idsOf_withStatus distinct owned]
  by_cases member : id ∈ ids
  · have elsewhere : id ∉ books.idsOf status := fun listed =>
      apart (status_unique distinct (owned member) listed)
    simp only [member, aside.symm, and_false, not_true_eq_false, or_self, elsewhere]
  · simp only [member, false_and, not_false_eq_true, true_and, false_or]

end BoxOffice.Books
