import BoxOffice.Proofs.Register
import BoxOffice.Reaper

/-!
# Laws of the reaper

The deadline of a timer that is armed stands in the queue of the reaper until the timer fires or is
disarmed or armed for another time. The queue goes by time, so when the reaper has woken up nothing
that is due is left in it.
-/
namespace BoxOffice.Reaper

variable {reaper : Reaper} {id : TrackingId} {due : Nat}

/-- Whether the timer of a reservation is armed for a time that stands in the queue. -/
def IsSet (reaper : Reaper) (id : TrackingId) (due : Nat) : Prop :=
  reaper.deadlines.get? id = some due ∧ (due, id) ∈ reaper.queue

/-- Whether the timer of a reservation is armed and its deadline stands in the queue. -/
def IsArmed (reaper : Reaper) (id : TrackingId) : Prop :=
  ∃ due, reaper.deadlines.get? id = some due ∧ (due, id) ∈ reaper.queue

/-- Whether the timer of a reservation is armed for a time up to some limit. -/
def IsArmedBy (reaper : Reaper) (limit : Nat) (id : TrackingId) : Prop :=
  ∃ due ≤ limit, reaper.IsSet id due

/-- Whether no place in the queue stands behind one of a later time. -/
def IsOrdered (reaper : Reaper) : Prop :=
  reaper.queue.Pairwise fun first second => first.1 ≤ second.1

/-- A timer that is armed up to some limit is so up to any later one. -/
theorem IsArmedBy.mono {limit later : Nat} (armed : reaper.IsArmedBy limit id)
    (ordered : limit ≤ later) : reaper.IsArmedBy later id := by
  obtain ⟨due, early, set⟩ := armed
  exact ⟨due, Nat.le_trans early ordered, set⟩

section Follow

/-- A queue into which a place was put has that place and those it had. -/
theorem mem_enqueue {place other : Nat × TrackingId} {queue : List (Nat × TrackingId)} :
    other ∈ enqueue place queue ↔ other = place ∨ other ∈ queue := by
  induction queue with
  | nil => simp only [enqueue, List.mem_singleton, List.not_mem_nil, or_false]
  | cons first rest ih =>
    simp only [enqueue]
    split
    · rw [List.mem_cons, List.mem_cons, ih]
      exact or_left_comm
    · rw [List.mem_cons]

/-- A timer that the reaper was told to arm is armed for that time. -/
theorem isSet_schedule (reaper : Reaper) (id : TrackingId) (due : Nat) :
    (reaper.follow (.schedule id due)).IsSet id due :=
  ⟨Register.get?_insert_self _ _ _, mem_enqueue.mpr (.inl rfl)⟩

/-- A timer stays armed for its time when the reaper arms another. -/
theorem IsSet.schedule (set : reaper.IsSet id due) {other : TrackingId} (apart : id ≠ other)
    (time : Nat) : (reaper.follow (.schedule other time)).IsSet id due :=
  ⟨(Register.get?_insert_of_ne _ _ apart).trans set.1, mem_enqueue.mpr (.inr set.2)⟩

/-- A timer stays armed for its time when the reaper disarms another. -/
theorem IsSet.resolve (set : reaper.IsSet id due) {other : TrackingId} (apart : id ≠ other) :
    (reaper.follow (.resolve other)).IsSet id due :=
  ⟨(Register.get?_erase_of_ne _ apart).trans set.1, set.2⟩

/-- A timer that the reaper was told to arm is armed. -/
theorem isArmed_schedule (reaper : Reaper) (id : TrackingId) (due : Nat) :
    (reaper.follow (.schedule id due)).IsArmed id :=
  ⟨due, reaper.isSet_schedule id due⟩

/-- A timer stays armed when the reaper arms another. -/
theorem IsArmed.schedule (armed : reaper.IsArmed id) (other : TrackingId) (due : Nat) :
    (reaper.follow (.schedule other due)).IsArmed id := by
  by_cases same : id = other
  · rw [same]
    exact reaper.isArmed_schedule other due
  · obtain ⟨former, set⟩ := armed
    exact ⟨former, IsSet.schedule set same due⟩

/-- A timer stays armed when the reaper disarms another. -/
theorem IsArmed.resolve (armed : reaper.IsArmed id) {other : TrackingId} (apart : id ≠ other) :
    (reaper.follow (.resolve other)).IsArmed id := by
  obtain ⟨due, set⟩ := armed
  exact ⟨due, IsSet.resolve set apart⟩

/-- A timer stays armed up to some limit when the reaper arms one up to that limit. -/
theorem IsArmedBy.schedule {limit : Nat} (armed : reaper.IsArmedBy limit id) (other : TrackingId)
    {time : Nat} (early : time ≤ limit) :
    (reaper.follow (.schedule other time)).IsArmedBy limit id := by
  by_cases same : id = other
  · rw [same]
    exact ⟨time, early, reaper.isSet_schedule other time⟩
  · obtain ⟨due, before, set⟩ := armed
    exact ⟨due, before, set.schedule same time⟩

/-- A timer stays armed up to some limit when the reaper disarms another. -/
theorem IsArmedBy.resolve {limit : Nat} (armed : reaper.IsArmedBy limit id) {other : TrackingId}
    (apart : id ≠ other) : (reaper.follow (.resolve other)).IsArmedBy limit id := by
  obtain ⟨due, before, set⟩ := armed
  exact ⟨due, before, set.resolve apart⟩

/-- Places stay in a transitive order when one is put in, as long as the reaper finds it ahead of
the places that come after it in that order and behind those that come before it. -/
theorem enqueue_pairwise (order : Nat × TrackingId → Nat × TrackingId → Prop)
    (trans : ∀ {first second third}, order first second → order second third → order first third)
    (ahead : ∀ {first second}, isAhead first second = true → order first second)
    (behind : ∀ {first second}, ¬isAhead first second = true → order second first)
    (place : Nat × TrackingId) {queue : List (Nat × TrackingId)}
    (ordered : queue.Pairwise order) : (enqueue place queue).Pairwise order := by
  induction queue with
  | nil => exact List.pairwise_singleton _ _
  | cons first rest ih =>
    obtain ⟨later, tail⟩ := List.pairwise_cons.mp ordered
    simp only [enqueue]
    split
    · rename_i before
      refine List.pairwise_cons.mpr ⟨fun other member => ?_, ih tail⟩
      rcases mem_enqueue.mp member with rfl | old
      · exact ahead before
      · exact later other old
    · rename_i notBefore
      have next := behind notBefore
      refine List.pairwise_cons.mpr ⟨fun other member => ?_, ordered⟩
      rcases List.mem_cons.mp member with rfl | old
      · exact next
      · exact trans next (later other old)

/-- A place that is put into an ordered queue is put where it belongs. -/
theorem enqueue_ordered (place : Nat × TrackingId) {queue : List (Nat × TrackingId)}
    (ordered : queue.Pairwise fun first second => first.1 ≤ second.1) :
    (enqueue place queue).Pairwise fun first second => first.1 ≤ second.1 := by
  refine enqueue_pairwise (fun first second => first.1 ≤ second.1) Nat.le_trans
    (fun ahead => ?_) (fun notAhead => ?_) place ordered
  · simp only [isAhead, Bool.or_eq_true, Bool.and_eq_true, decide_eq_true_eq] at ahead
    omega
  · simp only [isAhead, Bool.or_eq_true, decide_eq_true_eq, not_or] at notAhead
    omega

/-- The queue stays ordered whatever the reaper is told. -/
theorem IsOrdered.follow (ordered : reaper.IsOrdered) (order : Command) :
    (reaper.follow order).IsOrdered := by
  cases order with
  | schedule id due => exact enqueue_ordered (due, id) ordered
  | resolve id => exact ordered

/-- The queue stays ordered whatever else the reaper is told after that. -/
theorem IsOrdered.foldl (ordered : reaper.IsOrdered) (orders : List Command) :
    (orders.foldl (fun reaper order => reaper.follow order) reaper).IsOrdered := by
  induction orders generalizing reaper with
  | nil => exact ordered
  | cons order rest ih => exact ih (ordered.follow order)

end Follow

section Deadlines

/-- The reservation whose timer a command is about. -/
def Command.target : Command → TrackingId
  | .schedule id _ | .resolve id => id

variable {orders others : List Command} {other : TrackingId}

/-- A command leaves the deadlines of other timers alone. -/
theorem get?_follow_of_ne (reaper : Reaper) {order : Command} (apart : order.target ≠ id) :
    (reaper.follow order).deadlines.get? id = reaper.deadlines.get? id := by
  cases order with
  | schedule number due => exact Register.get?_insert_of_ne _ _ apart.symm
  | resolve number => exact Register.get?_erase_of_ne _ apart.symm

/-- Commands leave the deadlines of other timers alone. -/
theorem get?_foldl_of_ne (reaper : Reaper) (apart : ∀ order ∈ orders, order.target ≠ id) :
    (orders.foldl (fun reaper order => reaper.follow order) reaper).deadlines.get? id =
      reaper.deadlines.get? id := by
  induction orders generalizing reaper with
  | nil => rfl
  | cons order rest ih =>
    have first := reaper.get?_follow_of_ne (apart order List.mem_cons_self)
    have behind := ih (reaper.follow order) fun later among =>
      apart later (List.mem_cons_of_mem _ among)
    exact behind.trans first

/-- What commands make of a deadline follows from what it was. -/
theorem get?_foldl_congr {reaper later : Reaper} (orders : List Command)
    (same : later.deadlines.get? id = reaper.deadlines.get? id) :
    (orders.foldl (fun reaper order => reaper.follow order) later).deadlines.get? id =
      (orders.foldl (fun reaper order => reaper.follow order) reaper).deadlines.get? id := by
  induction orders generalizing reaper later with
  | nil => exact same
  | cons order rest ih =>
    apply ih
    by_cases own : order.target = id
    · rw [← own]
      cases order with
      | schedule number due =>
        show (later.deadlines.insert number due).get? number =
          (reaper.deadlines.insert number due).get? number
        rw [Register.get?_insert_self, Register.get?_insert_self]
      | resolve number =>
        show (later.deadlines.erase number).get? number =
          (reaper.deadlines.erase number).get? number
        rw [Register.get?_erase_self, Register.get?_erase_self]
    · rw [get?_follow_of_ne _ own, get?_follow_of_ne _ own, same]

/-- Commands about the timers of different reservations can be followed in any order. -/
theorem deadlines_comm (reaper : Reaper) (apart : id ≠ other)
    (own : ∀ order ∈ orders, order.target = id) (ownToo : ∀ order ∈ others, order.target = other) :
    ((others ++ orders).foldl (fun reaper order => reaper.follow order) reaper).deadlines =
      ((orders ++ others).foldl (fun reaper order => reaper.follow order) reaper).deadlines := by
  rw [List.foldl_append, List.foldl_append]
  apply Register.ext_get?
  funext key
  by_cases first : key = id
  · have elsewhere : ∀ order ∈ others, order.target ≠ key := fun order among same =>
      apart (first.symm.trans (same.symm.trans (ownToo order among)))
    rw [get?_foldl_of_ne _ elsewhere]
    exact get?_foldl_congr orders (get?_foldl_of_ne reaper elsewhere)
  · have elsewhere : ∀ order ∈ orders, order.target ≠ key := fun order among same =>
      first (same.symm.trans (own order among))
    rw [get?_foldl_of_ne _ elsewhere]
    exact (get?_foldl_congr others (get?_foldl_of_ne reaper elsewhere)).symm

end Deadlines

section Wake

/-- A timer that is armed for a time fires or stays armed for it, whatever the queue holds. -/
theorem fireDue_set (now : Nat) {deadlines : Register TrackingId Nat}
    {queue : List (Nat × TrackingId)} (set : deadlines.get? id = some due)
    (queued : (due, id) ∈ queue) :
    id ∈ (fireDue now deadlines queue).1 ∨ (fireDue now deadlines queue).2.IsSet id due := by
  induction queue generalizing deadlines with
  | nil => contradiction
  | cons first rest ih =>
    obtain ⟨firstDue, other⟩ := first
    simp only [fireDue]
    by_cases early : now < firstDue
    · rw [if_pos early]
      exact .inr ⟨set, queued⟩
    · rw [if_neg early]
      by_cases current : deadlines.get? other = some firstDue
      · rw [if_pos current]
        by_cases same : id = other
        · exact .inl (same ▸ List.mem_cons_self)
        · have behind : (due, id) ∈ rest := by
            refine (List.mem_cons.mp queued).resolve_left fun among => same ?_
            exact congrArg Prod.snd among
          have kept : (deadlines.erase other).get? id = some due := by
            rw [Register.get?_erase_of_ne _ same, set]
          exact (ih kept behind).imp_left (List.mem_cons_of_mem _)
      · rw [if_neg current]
        -- A place that is passed over is not the one where the deadline stands.
        have behind : (due, id) ∈ rest := by
          refine (List.mem_cons.mp queued).resolve_left fun among => current ?_
          cases among
          exact set
        exact ih set behind

/-- When the reaper wakes up a timer that is armed fires or stays armed. -/
theorem IsArmed.wake (armed : reaper.IsArmed id) (now : Nat) :
    id ∈ (reaper.wake now).1 ∨ (reaper.wake now).2.IsArmed id := by
  obtain ⟨due, set, queued⟩ := armed
  exact (fireDue_set now set queued).imp_right fun stays => ⟨due, stays⟩

/-- When the reaper wakes up a timer that is armed up to some limit fires or stays so. -/
theorem IsArmedBy.wake {limit : Nat} (armed : reaper.IsArmedBy limit id) (now : Nat) :
    id ∈ (reaper.wake now).1 ∨ (reaper.wake now).2.IsArmedBy limit id := by
  obtain ⟨due, before, set, queued⟩ := armed
  exact (fireDue_set now set queued).imp_right fun stays => ⟨due, before, stays⟩

/-- A timer that fires was armed for a time that has come. -/
theorem due_of_mem_fireDue {now : Nat} {deadlines : Register TrackingId Nat}
    {queue : List (Nat × TrackingId)} (fires : id ∈ (fireDue now deadlines queue).1) :
    ∃ due ≤ now, deadlines.get? id = some due := by
  induction queue generalizing deadlines with
  | nil => contradiction
  | cons first rest ih =>
    obtain ⟨due, other⟩ := first
    simp only [fireDue] at fires
    by_cases early : now < due
    · rw [if_pos early] at fires
      contradiction
    rw [if_neg early] at fires
    by_cases current : deadlines.get? other = some due
    · rw [if_pos current] at fires
      rcases List.mem_cons.mp fires with rfl | later
      · exact ⟨due, Nat.le_of_not_lt early, current⟩
      · obtain ⟨time, come, set⟩ := ih later
        exact ⟨time, come, (Register.get?_erase_eq_some.mp set).2⟩
    · rw [if_neg current] at fires
      exact ih fires

/-- No timer fires twice. -/
theorem fireDue_nodup (now : Nat) (deadlines : Register TrackingId Nat)
    (queue : List (Nat × TrackingId)) : (fireDue now deadlines queue).1.Nodup := by
  induction queue generalizing deadlines with
  | nil => exact .nil
  | cons first rest ih =>
    simp only [fireDue]
    split
    · exact .nil
    · split
      · refine List.nodup_cons.mpr ⟨fun again => ?_, ih _⟩
        obtain ⟨due, -, set⟩ := due_of_mem_fireDue again
        exact (Register.get?_erase_eq_some.mp set).1 rfl
      · exact ih _

/-- The deadlines of timers that do not fire stay, if none fires. -/
theorem fireDue_deadlines {now : Nat} {deadlines : Register TrackingId Nat}
    {queue : List (Nat × TrackingId)} (none : (fireDue now deadlines queue).1 = []) :
    (fireDue now deadlines queue).2.deadlines = deadlines := by
  induction queue with
  | nil => rfl
  | cons first rest ih =>
    simp only [fireDue] at none ⊢
    split
    · rfl
    · rename_i come
      rw [if_neg come] at none
      split
      · rename_i current
        rw [if_pos current] at none
        contradiction
      · rename_i stale
        rw [if_neg stale] at none
        exact ih none

/-- What is left of a queue is its end. -/
theorem fireDue_suffix (now : Nat) (deadlines : Register TrackingId Nat)
    (queue : List (Nat × TrackingId)) : (fireDue now deadlines queue).2.queue <:+ queue := by
  induction queue generalizing deadlines with
  | nil => exact List.suffix_refl _
  | cons first rest ih =>
    simp only [fireDue]
    split
    · exact List.suffix_refl _
    · split
      · exact (ih _).trans (List.suffix_cons _ _)
      · exact (ih _).trans (List.suffix_cons _ _)

/-- What is left of an ordered queue is ordered, and nothing in it is due. -/
theorem fireDue_queue (now : Nat) (deadlines : Register TrackingId Nat)
    {queue : List (Nat × TrackingId)}
    (ordered : queue.Pairwise fun first second => first.1 ≤ second.1) :
    (fireDue now deadlines queue).2.IsOrdered ∧
      ∀ place ∈ (fireDue now deadlines queue).2.queue, now < place.1 := by
  refine ⟨ordered.sublist (fireDue_suffix now deadlines queue).sublist, ?_⟩
  induction queue generalizing deadlines with
  | nil => exact nofun
  | cons first rest ih =>
    obtain ⟨behind, tail⟩ := List.pairwise_cons.mp ordered
    simp only [fireDue]
    split
    · rename_i early
      intro place member
      rcases List.mem_cons.mp member with rfl | old
      · exact early
      · exact Nat.lt_of_lt_of_le early (behind place old)
    · split
      · exact ih _ tail
      · exact ih _ tail

/-- When the reaper has woken up its queue is ordered, and nothing in it is due. -/
theorem IsOrdered.wake (ordered : reaper.IsOrdered) (now : Nat) :
    (reaper.wake now).2.IsOrdered ∧ ∀ place ∈ (reaper.wake now).2.queue, now < place.1 :=
  fireDue_queue now _ ordered

end Wake

end BoxOffice.Reaper
