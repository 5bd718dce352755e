import BoxOffice.Json.Shape
import Mathlib.Data.List.Nodup

/-!
# Which objects are records

An object makes a record by a shape if its names are texts, members under other names than those of
the fields are JSON, and each field is found once at most and can be read, or may be missing. What
is found for a field depends on nothing but the members with its name, so the law of a shape is put
together field by field as the shape is.
-/
namespace BoxOffice.Json

/-- The values of the members with some name, in the order of the text. -/
def occurrences (members : List (Literal × Json)) (name : String) : List Json :=
  (members.filter fun member => member.1 = .text name).map (·.2)

/-- Whether some values can be those of a field: there is one at most, and it has no flaw. -/
def Rule.Admits (rule : Rule) : List Json → Prop
  | [] => True
  | [value] => rule.flaw? value = none
  | _ => False

/-- Whether members do what a rule asks, where some names have been seen before. -/
def Rule.IsMet (rule : Rule) (seen : List String) (members : List (Literal × Json)) : Prop :=
  rule.Admits (occurrences members rule.name) ∧
    (rule.name ∈ seen → occurrences members rule.name = [])

/-- Whether members can be passed over as far as they belong to none of some fields: all names are
texts, and what stands under other names is JSON. -/
structure ArePassable (names : List String) (members : List (Literal × Json)) : Prop where
  /-- All names are texts. -/
  named : ∀ member ∈ members, member.1 ≠ .unpaired
  /-- What stands under other names is JSON. -/
  whole : ∀ member ∈ members, (∀ name ∈ names, member.1 ≠ .text name) → member.2.isWhole = true

section

variable {name other : String} {value : Json} {members rest : List (Literal × Json)}

/-- A member occurs under its name. -/
theorem occurrences_cons_self :
    occurrences ((.text name, value) :: rest) name = value :: occurrences rest name := by
  simp only [occurrences, List.filter_cons, decide_true, ↓reduceIte, List.map_cons]

/-- A member does not occur under another name. -/
theorem occurrences_cons_of_ne (apart : other ≠ name) :
    occurrences ((.text other, value) :: rest) name = occurrences rest name := by
  simp only [occurrences, List.filter_cons, Literal.text.injEq, apart, decide_false,
    Bool.false_eq_true, ↓reduceIte]

/-- A name does not occur among members with other names. -/
theorem occurrences_eq_nil (absent : ∀ member ∈ members, member.1 ≠ .text name) :
    occurrences members name = [] := by
  have none : members.filter (fun member => member.1 = .text name) = [] :=
    List.filter_eq_nil_iff.mpr fun member among same =>
      absent member among (of_decide_eq_true same)
  rw [occurrences, none, List.map_nil]

/-- What occurs among members and further ones occurs among these or those. -/
theorem occurrences_append (members more : List (Literal × Json)) (name : String) :
    occurrences (members ++ more) name = occurrences members name ++ occurrences more name := by
  rw [occurrences, List.filter_append, List.map_append]
  rfl

/-- The same values occur among members in another order. -/
theorem occurrences_perm {later : List (Literal × Json)} (same : members.Perm later)
    (name : String) : (occurrences members name).Perm (occurrences later name) :=
  (same.filter _).map _

/-- The value found under a name is the first that occurs. -/
theorem memberFields_eq_head? (members : List (Literal × Json)) (name : String) :
    memberFields members name = (occurrences members name).head? := by
  rw [memberFields, occurrences, List.head?_map, List.head?_filter]

/-- Passable members are so one by one. -/
theorem arePassable_cons {names : List String} :
    ArePassable names ((.text name, value) :: rest) ↔
      (name ∉ names → value.isWhole = true) ∧ ArePassable names rest := by
  have own : (∀ other ∈ names, Literal.text name ≠ .text other) ↔ name ∉ names := by
    simp only [ne_eq, Literal.text.injEq]
    exact ⟨fun apart member => apart name member rfl, fun absent other member same =>
      absent (same ▸ member)⟩
  constructor
  · rintro ⟨named, whole⟩
    exact ⟨fun absent => whole _ List.mem_cons_self (own.mpr absent),
      fun member later => named member (List.mem_cons_of_mem _ later),
      fun member later => whole member (List.mem_cons_of_mem _ later)⟩
  · rintro ⟨first, named, whole⟩
    refine ⟨fun member present => ?_, fun member present => ?_⟩
    · rcases List.mem_cons.mp present with rfl | later
      · exact Literal.noConfusion
      · exact named member later
    · rcases List.mem_cons.mp present with rfl | later
      · exact fun apart => first (own.mp apart)
      · exact whole member later

/-- A member under another name makes no difference to a rule. -/
theorem Rule.isMet_cons_of_ne {rule : Rule} {seen : List String} (apart : other ≠ rule.name) :
    rule.IsMet seen ((.text other, value) :: rest) ↔ rule.IsMet seen rest := by
  simp only [IsMet, occurrences_cons_of_ne apart]

/-- That another name has been seen makes no difference to a rule. -/
theorem Rule.isMet_seen_of_ne {rule : Rule} {seen : List String} (apart : other ≠ rule.name) :
    rule.IsMet (other :: seen) members ↔ rule.IsMet seen members := by
  simp only [IsMet, List.mem_cons, apart.symm, false_or]

/-- A member of a field does what is asked if the field has not been seen, the value has no flaw,
and the field is not seen again. -/
theorem Rule.isMet_cons_self {rule : Rule} {seen : List String} :
    rule.IsMet seen ((.text rule.name, value) :: rest) ↔
      rule.name ∉ seen ∧ rule.flaw? value = none ∧ rule.IsMet (rule.name :: seen) rest := by
  simp only [IsMet, occurrences_cons_self, List.mem_cons, true_or, true_implies, reduceCtorEq,
    imp_false]
  cases occurrences rest rule.name with
  | nil => simp only [Admits, true_and, and_true, and_comm]
  | cons again more => simp only [Admits, reduceCtorEq, and_false, false_and]

/-- Members that begin with one of a field do what all rules ask if the field has not been seen, the
value has no flaw, and the rest does so without the field. -/
theorem Rule.all_isMet_cons {rules : List Rule} (distinct : (rules.map (·.name)).Nodup)
    {rule : Rule} (member : rule ∈ rules) {seen : List String} :
    (∀ other ∈ rules, other.IsMet seen ((.text rule.name, value) :: rest)) ↔
      rule.name ∉ seen ∧ rule.flaw? value = none ∧
        ∀ other ∈ rules, other.IsMet (rule.name :: seen) rest := by
  have apart {other : Rule} (among : other ∈ rules) (differs : other ≠ rule) :
      rule.name ≠ other.name := fun same =>
    differs (List.inj_on_of_nodup_map distinct among member same.symm)
  constructor
  · intro all
    obtain ⟨fresh, flawless, later⟩ := isMet_cons_self.mp (all rule member)
    refine ⟨fresh, flawless, fun other among => ?_⟩
    by_cases differs : other = rule
    · exact differs ▸ later
    · have free := apart among differs
      exact (isMet_seen_of_ne free).mpr ((isMet_cons_of_ne free).mp (all other among))
  · rintro ⟨fresh, flawless, all⟩ other among
    by_cases differs : other = rule
    · subst differs
      exact isMet_cons_self.mpr ⟨fresh, flawless, all other among⟩
    · have free := apart among differs
      exact (isMet_cons_of_ne free).mpr ((isMet_seen_of_ne free).mp (all other among))

end

/-- Members have no flaw if they are passable and do what each rule asks. -/
theorem membersFlaw?_eq_none {rules : List Rule} (distinct : (rules.map (·.name)).Nodup)
    {seen : List String} {members : List (Literal × Json)} :
    membersFlaw? rules seen members = none ↔
      ArePassable (rules.map (·.name)) members ∧ ∀ rule ∈ rules, rule.IsMet seen members := by
  induction members generalizing seen with
  | nil =>
    refine iff_of_true rfl ⟨⟨List.forall_mem_nil _, List.forall_mem_nil _⟩, fun rule _ => ?_⟩
    exact ⟨trivial, fun _ => rfl⟩
  | cons member rest ih =>
    obtain ⟨literal, value⟩ := member
    cases literal with
    | unpaired =>
      refine iff_of_false (fun same => ?_) fun passable => ?_
      · contradiction
      · exact passable.1.named _ List.mem_cons_self rfl
    | text name =>
      rw [membersFlaw?, arePassable_cons]
      cases found : rules.find? fun rule => rule.name = name with
      | none =>
        have apart (rule : Rule) (member : rule ∈ rules) : name ≠ rule.name := fun same =>
          List.find?_eq_none.mp found rule member (decide_eq_true same.symm)
        have unknown : name ∉ rules.map (·.name) := fun member => by
          obtain ⟨rule, member, same⟩ := List.mem_map.mp member
          exact apart rule member same.symm
        have same : (∀ rule ∈ rules, rule.IsMet seen ((.text name, value) :: rest)) ↔
            ∀ rule ∈ rules, rule.IsMet seen rest :=
          forall₂_congr fun rule member => Rule.isMet_cons_of_ne (apart rule member)
        rw [same, and_assoc, ← ih]
        cases value.isWhole with
        | true => simp only [↓reduceIte, implies_true, true_and]
        | false => simp [unknown]
      | some rule =>
        obtain rfl : rule.name = name := by simpa using List.find?_some found
        have member := List.mem_of_find?_eq_some found
        have known := List.mem_map_of_mem (f := (·.name)) member
        rw [Rule.all_isMet_cons distinct member]
        simp only [known, not_true_eq_false, false_implies, true_and]
        by_cases fresh : rule.name ∈ seen
        · simp [fresh]
        · cases flawed : rule.flaw? value with
          | some flaw => simp [fresh]
          | none => simp [fresh, ih]

namespace Shape

variable {α β : Type} {members : List (Literal × Json)}

/-- The names of the fields. -/
def names (shape : Shape α) : List String := shape.rules.map (·.name)

/-- Whether the members of the fields make a record: they do what is asked of each field, and the
record is made of what is found. -/
structure Makes (shape : Shape α) (members : List (Literal × Json)) (value : α) : Prop where
  /-- They do what is asked. -/
  met : ∀ rule ∈ shape.rules, rule.Admits (occurrences members rule.name)
  /-- The record is made of them. -/
  built : shape.build (memberFields members) = .ok value

/-- An object is read as a record if its members are passable and make the record. -/
theorem decode_object {shape : Shape α} (distinct : shape.names.Nodup) {value : α} :
    shape.decode (.object members) = .ok value ↔
      ArePassable shape.names members ∧ shape.Makes members value := by
  have unseen (rule : Rule) :
      rule.IsMet [] members ↔ rule.Admits (occurrences members rule.name) := by
    simp only [Rule.IsMet, List.not_mem_nil, false_implies, and_true]
  have flawless : membersFlaw? shape.rules [] members = none ↔
      ArePassable shape.names members ∧ ∀ rule ∈ shape.rules, rule.IsMet [] members :=
    membersFlaw?_eq_none distinct
  simp only [unseen] at flawless
  rw [decode]
  cases found : membersFlaw? shape.rules [] members with
  | some flaw =>
    rw [found] at flawless
    refine iff_of_false (fun same => ?_) fun ⟨passable, made⟩ => ?_
    · contradiction
    · cases flawless.mpr ⟨passable, made.met⟩
  | none =>
    obtain ⟨passable, met⟩ := flawless.mp found
    exact ⟨fun built => ⟨passable, met, built⟩, fun made => made.2.built⟩

/-- A value without flaw can be read. -/
theorem flawOf_eq_none {decode : Decoder α} {found : Json} :
    flawOf decode found = none ↔ ∃ value, decode found = .ok value := by
  simp only [flawOf]
  cases decode found <;> simp

/-- A field with one rule is made of no occurrence or of one that can be read. -/
theorem makes_field {name : String} {hasDefault : Bool} {decode : Decoder β}
    {build : Fields → Except Flaw α} {value : α} :
    Makes ⟨[⟨name, hasDefault, flawOf decode⟩], build⟩ members value ↔
      build (memberFields members) = .ok value ∧ (occurrences members name = [] ∨
        ∃ found read, occurrences members name = [found] ∧ decode found = .ok read) := by
  constructor
  · rintro ⟨met, built⟩
    refine ⟨built, ?_⟩
    have admits := met _ List.mem_cons_self
    match among : occurrences members name with
    | [] => exact .inl rfl
    | [found] =>
      simp only [among, Rule.Admits, flawOf_eq_none] at admits
      obtain ⟨read, same⟩ := admits
      exact .inr ⟨found, read, rfl, same⟩
    | first :: second :: more => simp only [among, Rule.Admits] at admits
  · rintro ⟨built, missing | ⟨found, read, once, same⟩⟩
    · refine ⟨fun rule member => ?_, built⟩
      rw [List.mem_singleton.mp member, missing]
      trivial
    · refine ⟨fun rule member => ?_, built⟩
      rw [List.mem_singleton.mp member, once]
      exact flawOf_eq_none.mpr ⟨read, same⟩

/-- A required field is made of its only occurrence. -/
theorem makes_required {name : String} {decode : Decoder α} {value : α} :
    (required name decode).Makes members value ↔
      ∃ found, occurrences members name = [found] ∧ decode found = .ok value := by
  rw [required, makes_field, memberFields_eq_head?]
  constructor
  · rintro ⟨built, missing | ⟨found, read, once, same⟩⟩
    · rw [missing] at built
      contradiction
    · rw [once] at built
      exact ⟨found, once, built⟩
  · rintro ⟨found, once, same⟩
    rw [once]
    exact ⟨same, .inr ⟨found, value, rfl, same⟩⟩

/-- A field that has some value when it is missing is missing, or made of its only occurrence. -/
theorem makes_fallback {name : String} {hasDefault : Bool} {missing : α} {decode : Decoder α}
    {build : Fields → Except Flaw α} {value : α}
    (reads : ∀ fields, build fields = (fields name).elim (.ok missing) decode) :
    Makes ⟨[⟨name, hasDefault, flawOf decode⟩], build⟩ members value ↔
      occurrences members name = [] ∧ value = missing ∨
        ∃ found, occurrences members name = [found] ∧ decode found = .ok value := by
  rw [makes_field, reads, memberFields_eq_head?]
  constructor
  · rintro ⟨built, absent | ⟨found, read, once, same⟩⟩
    · rw [absent] at built
      exact .inl ⟨absent, (Except.ok.inj built).symm⟩
    · rw [once] at built
      exact .inr ⟨found, once, built⟩
  · rintro (⟨absent, rfl⟩ | ⟨found, once, same⟩)
    · rw [absent]
      exact ⟨rfl, .inl rfl⟩
    · rw [once]
      exact ⟨same, .inr ⟨found, value, rfl, same⟩⟩

/-- A field with a default is missing, or made of its only occurrence. -/
theorem makes_defaulted {name : String} {missing : α} {decode : Decoder α} {value : α} :
    (defaulted name missing decode).Makes members value ↔
      occurrences members name = [] ∧ value = missing ∨
        ∃ found, occurrences members name = [found] ∧ decode found = .ok value :=
  makes_fallback fun fields => by cases fields name <;> rfl

/-- An optional field is missing, or made of its only occurrence. -/
theorem makes_optional {name : String} {decode : Decoder α} {value : Option α} :
    (optional name decode).Makes members value ↔
      occurrences members name = [] ∧ value = none ∨
        ∃ found, occurrences members name = [found] ∧ readOption decode found = .ok value :=
  makes_fallback fun fields => by cases fields name <;> rfl

/-- A record of two shapes is made of what both make. -/
theorem makes_seq {first : Shape (α → β)} {second : Shape α} {value : β} :
    (first <*> second).Makes members value ↔
      ∃ make argument, first.Makes members make ∧ second.Makes members argument ∧
        make argument = value := by
  change (apply first second).Makes members value ↔ _
  constructor
  · rintro ⟨met, built⟩
    obtain ⟨left, right⟩ := List.forall_mem_append.mp met
    simp only [apply] at built
    cases make : first.build (memberFields members) with
    | error flaw => simp [make] at built
    | ok function =>
      cases argument : second.build (memberFields members) with
      | error flaw => simp [make, argument, Except.map] at built
      | ok part =>
        simp only [make, argument, Except.map, Except.ok.injEq] at built
        exact ⟨function, part, ⟨left, make⟩, ⟨right, argument⟩, built⟩
  · rintro ⟨function, part, ⟨left, make⟩, ⟨right, argument⟩, rfl⟩
    refine ⟨List.forall_mem_append.mpr ⟨left, right⟩, ?_⟩
    simp only [apply, make, argument, Except.map]

/-- A record without fields is made of anything. -/
theorem makes_constant {constant value : α} :
    (Shape.constant constant).Makes members value ↔ constant = value := by
  constructor
  · rintro ⟨-, built⟩
    exact Except.ok.inj built
  · rintro rfl
    exact ⟨List.forall_mem_nil _, rfl⟩

/-- A record made by a function of another is made of what the other is made of. -/
theorem makes_map {make : α → β} {shape : Shape α} {value : β} :
    (make <$> shape).Makes members value ↔
      ∃ argument, shape.Makes members argument ∧ make argument = value := by
  change (Shape.constant make <*> shape).Makes members value ↔ _
  rw [makes_seq]
  constructor
  · rintro ⟨function, argument, plain, made, rfl⟩
    obtain rfl := makes_constant.mp plain
    exact ⟨argument, made, rfl⟩
  · rintro ⟨argument, made, rfl⟩
    exact ⟨make, argument, makes_constant.mpr rfl, made, rfl⟩

end Shape

end BoxOffice.Json
