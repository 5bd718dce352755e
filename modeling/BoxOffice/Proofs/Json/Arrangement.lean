import BoxOffice.Proofs.Json.Record
import BoxOffice.Proofs.Register
import BoxOffice.Proofs.Time.Rfc3339

/-!
# Reading back what was written

A value may be written with the members of its objects in any order, at any depth. A reader reads it
back if it finds the value in every such tree. This is shown for each kind of plain value, for lists
and registers of what is read back, for free values, and for records whose fields are read back.
-/
namespace BoxOffice.Json

mutual

/-- Whether a tree is another one with the members of its objects in some order. -/
def IsWrittenAs : Json → Json → Prop
  | .array items, tree => ∃ others, tree = .array others ∧ AreWrittenAs items others
  | .object members, tree => ∃ others arranged, tree = .object arranged ∧
      others.Perm arranged ∧ MembersAreWrittenAs members others
  | leaf, tree => tree = leaf

/-- Whether items are written as others, each in its place. -/
def AreWrittenAs : List Json → List Json → Prop
  | [], others => others = []
  | item :: rest, others => ∃ other later, others = other :: later ∧ IsWrittenAs item other ∧
      AreWrittenAs rest later

/-- Whether the values of members are written as others, each under its name. -/
def MembersAreWrittenAs : List (Literal × Json) → List (Literal × Json) → Prop
  | [], others => others = []
  | (name, value) :: rest, others => ∃ other later, others = (name, other) :: later ∧
      IsWrittenAs value other ∧ MembersAreWrittenAs rest later

end

mutual

/-- A tree is written as it stands. -/
theorem isWrittenAs_self : (tree : Json) → tree.IsWrittenAs tree
  | .null | .bool _ | .number _ | .string _ | .broken => rfl
  | .array items => ⟨items, rfl, areWrittenAs_self items⟩
  | .object members => ⟨members, members, rfl, .refl _, membersAreWrittenAs_self members⟩

/-- Items are written as they stand. -/
theorem areWrittenAs_self : (items : List Json) → AreWrittenAs items items
  | [] => rfl
  | item :: rest => ⟨item, rest, rfl, isWrittenAs_self item, areWrittenAs_self rest⟩

/-- Members are written as they stand. -/
theorem membersAreWrittenAs_self : (members : List (Literal × Json)) →
    MembersAreWrittenAs members members
  | [] => rfl
  | (_, value) :: rest =>
    ⟨value, rest, rfl, isWrittenAs_self value, membersAreWrittenAs_self rest⟩

end

/-- Whether a reader reads a value back from a tree, in whatever order the members of objects are
written. -/
def ReadsBack {α : Type} (decode : Decoder α) (tree : Json) (value : α) : Prop :=
  ∀ other, tree.IsWrittenAs other → decode other = .ok value

section

variable {α : Type}

/-- A text that stands for a value is read back as the value. -/
theorem readsBack_textAs {choose : String → Option α} {text : String} {value : α}
    (chosen : choose text = some value) : ReadsBack (readTextAs choose) (.ofText text) value := by
  rintro other rfl
  simp only [readTextAs, ofText, readText, chosen]

/-- An integer that stands for a value is read back as the value. -/
theorem readsBack_integerAs {choose : Int → Option α} {number : Int} {value : α}
    (chosen : choose number = some value) :
    ReadsBack (readIntegerAs choose) (.ofInt number) value := by
  rintro other rfl
  simp only [readIntegerAs, ofInt, chosen]

/-- A name out of a choice is read back. -/
theorem readsBack_name {choose : String → Option α} {name : String} {value : α}
    (chosen : choose name = some value) : ReadsBack (readName choose) (.ofText name) value := by
  rintro other rfl
  exact readsBack_textAs chosen _ rfl

/-- A text is read back. -/
theorem readsBack_text (text : String) : ReadsBack readText (.ofText text) text := by
  rintro other rfl
  rfl

/-- An integer of 64 bits is read back. -/
theorem readsBack_int64 (value : Int64) : ReadsBack readInt64 (.ofInt64 value) value :=
  readsBack_integerAs (int64?_toInt value)

/-- An integer of 32 bits is read back. -/
theorem readsBack_int32 (value : Int32) : ReadsBack readInt32 (.ofInt32 value) value :=
  readsBack_integerAs (int32?_toInt value)

/-- An identifier is read back. -/
theorem readsBack_uuid (id : Uuid) : ReadsBack readUuid (.ofUuid id) id :=
  readsBack_textAs (Uuid.read?_hyphenated id)

/-- An instant in a year of four digits is read back. -/
theorem readsBack_instant {instant : Instant} (short : Rfc3339.HasShortYear instant) :
    ReadsBack readInstant (.ofInstant instant) instant :=
  readsBack_textAs (Rfc3339.read?_write short)

/-- A value that may be missing is read back. -/
theorem readsBack_option {decode : Decoder α} {write : α → Json} (chosen : Option α)
    (reads : ∀ value ∈ chosen, ReadsBack decode (write value) value)
    (present : ∀ value, decode .null ≠ .ok value) :
    ReadsBack (readOption decode) (.ofOption write chosen) chosen := by
  cases chosen with
  | none =>
    rintro other rfl
    rfl
  | some value =>
    intro other written
    have read := reads value rfl other written
    cases other with
    | null => exact absurd read (present value)
    | _ => simp only [readOption, read, Except.map]

/-- A text that may be missing is read back. -/
theorem readsBack_optionalText (given : Option String) :
    ReadsBack (readOption readText) (.ofOption .ofText given) given := by
  refine readsBack_option given (fun text _ => readsBack_text text) fun text read => ?_
  cases read

/-- An instant that may be missing is read back. -/
theorem readsBack_optionalInstant {given : Option Instant}
    (short : ∀ instant ∈ given, Rfc3339.HasShortYear instant) :
    ReadsBack (readOption readInstant) (.ofOption .ofInstant given) given := by
  refine readsBack_option given (fun instant same => readsBack_instant (short instant same))
    fun instant read => ?_
  cases read

/-- A list is read back if its items are. -/
theorem readsBack_list {decode : Decoder α} {write : α → Json} {items : List α}
    (reads : ∀ item ∈ items, ReadsBack decode (write item) item) :
    ReadsBack (readList decode) (.ofList write items) items := by
  rintro other ⟨others, rfl, written⟩
  rw [readList]
  induction items generalizing others with
  | nil =>
    obtain rfl := written
    rfl
  | cons item rest ih =>
    obtain ⟨other, later, rfl, first, written⟩ := written
    obtain ⟨own, others⟩ := List.forall_mem_cons.mp reads
    simp only [readItems, own other first, ih others later written, Except.map]

/-- Members are written as others if they have the same names and values that are written as theirs,
each in its place. -/
theorem membersAreWrittenAs_iff {members others : List (Literal × Json)} :
    MembersAreWrittenAs members others ↔
      members.Forall₂ (fun member other => member.1 = other.1 ∧ member.2.IsWrittenAs other.2)
        others := by
  induction members generalizing others with
  | nil => rw [MembersAreWrittenAs, List.forall₂_nil_left_iff]
  | cons member rest ih =>
    obtain ⟨name, value⟩ := member
    rw [MembersAreWrittenAs, List.forall₂_cons_left_iff]
    simp only [ih]
    constructor
    · rintro ⟨other, later, rfl, own, same⟩
      exact ⟨(name, other), later, ⟨rfl, own⟩, same, rfl⟩
    · rintro ⟨⟨_, other⟩, later, ⟨rfl, own⟩, same, rfl⟩
      exact ⟨other, later, rfl, own, same⟩

/-- Members are read as entries if each is read as the entry in its place. -/
theorem readMembers_of_forall₂ {decode : Decoder α} {members : List (Literal × Json)}
    {entries : List (String × α)}
    (reads : members.Forall₂ (fun member entry => member.1 = .text entry.1 ∧
      decode member.2 = .ok entry.2) entries) : readMembers decode members = .ok entries := by
  induction reads with
  | nil => rfl
  | @cons member entry members entries own others ih =>
    obtain ⟨_, tree⟩ := member
    obtain ⟨rfl, read⟩ := own
    simp only [readMembers, read, ih, Except.map]

/-- A register is read back if its values are. -/
theorem readsBack_register {decode : Decoder α} {write : α → Json} {register : Register String α}
    (reads : ∀ value, ReadsBack decode (write value) value) :
    ReadsBack (readRegister decode) (.ofRegister write register) register := by
  rintro other ⟨others, arranged, rfl, same, written⟩
  rw [membersAreWrittenAs_iff, List.forall₂_map_left_iff, List.forall₂_map_left_iff] at written
  have read : others.Forall₂ (fun member entry => member.1 = .text entry.1 ∧
      decode member.2 = .ok entry.2) register.entries :=
    written.flip.imp fun _ _ both => ⟨both.1.symm, reads _ _ both.2⟩
  obtain ⟨entries, read, mixed⟩ := List.perm_comp_forall₂ same.symm read
  rw [readRegister, readMembers_of_forall₂ read, Except.map, Register.ofList_eq mixed]

end

/-- Whether members hold some fields: each of them once, and written in some way. -/
def Hold (members : List (Literal × Json)) (fields : List (String × Json)) : Prop :=
  ∀ field ∈ fields, ∃ other, occurrences members field.1 = [other] ∧ field.2.IsWrittenAs other

/-- The values that occur among members are written as those that occur among the others. -/
theorem occurrences_written {members others : List (Literal × Json)}
    (written : members.Forall₂ (fun member other => member.1 = other.1 ∧
      member.2.IsWrittenAs other.2) others) (name : String) :
    (occurrences members name).Forall₂ IsWrittenAs (occurrences others name) := by
  induction written with
  | nil => exact .nil
  | @cons member other members others own rest ih =>
    simp only [occurrences, List.filter_cons, own.1] at ih ⊢
    split
    · exact .cons own.2 ih
    · exact ih

/-- A field occurs once among fields with different names. -/
theorem occurrences_fields {fields : List (String × Json)} (distinct : (fields.map (·.1)).Nodup)
    {field : String × Json} (member : field ∈ fields) :
    occurrences (fields.map fun field => (.text field.1, field.2)) field.1 = [field.2] := by
  induction fields with
  | nil => contradiction
  | cons first rest ih =>
    obtain ⟨absent, distinct⟩ := List.nodup_cons.mp distinct
    rw [List.map_cons]
    rcases List.mem_cons.mp member with rfl | later
    · rw [occurrences_cons_self, occurrences_eq_nil]
      intro other among same
      obtain ⟨found, present, rfl⟩ := List.mem_map.mp among
      exact absent (List.mem_map.mpr ⟨found, present, Literal.text.inj same⟩)
    · have apart : first.1 ≠ field.1 := fun same =>
        absent (List.mem_map.mpr ⟨field, later, same.symm⟩)
      rw [occurrences_cons_of_ne apart, ih distinct later]

/-- An object of fields is written as one that holds them and has no other names. -/
theorem holds_of_written {fields : List (String × Json)} (distinct : (fields.map (·.1)).Nodup)
    {tree : Json} (written : (ofFields fields).IsWrittenAs tree) :
    ∃ members, tree = .object members ∧ Hold members fields ∧
      ∀ member ∈ members, ∃ field ∈ fields, member.1 = .text field.1 := by
  obtain ⟨others, arranged, rfl, same, written⟩ := written
  rw [membersAreWrittenAs_iff] at written
  refine ⟨arranged, rfl, fun field member => ?_, fun member present => ?_⟩
  · have occurs := occurrences_written written field.1
    rw [occurrences_fields distinct member, List.forall₂_cons_left_iff] at occurs
    obtain ⟨other, later, own, none, found⟩ := occurs
    rw [List.forall₂_nil_left_iff.mp none] at found
    have once := found ▸ occurrences_perm same field.1
    exact ⟨other, List.perm_singleton.mp once.symm, own⟩
  · have names : (fields.map fun field => (Literal.text field.1, field.2)).map (·.1) =
        others.map (·.1) := by
      rw [← List.forall₂_eq_eq_eq, List.forall₂_map_left_iff, List.forall₂_map_right_iff]
      exact written.imp fun _ _ both => both.1
    have listed : member.1 ∈ others.map (·.1) := List.mem_map_of_mem (same.symm.subset present)
    rw [← names, List.map_map] at listed
    obtain ⟨field, among, name⟩ := List.mem_map.mp listed
    exact ⟨field, among, name.symm⟩

namespace Shape

variable {α β : Type} {fields : List (String × Json)}

/-- Whether a record is made of all members that hold some fields. -/
def Recovers (shape : Shape α) (fields : List (String × Json)) (value : α) : Prop :=
  ∀ members, Hold members fields → shape.Makes members value

/-- A required field is recovered if its value is read back. -/
theorem recovers_required {name : String} {decode : Decoder α} {tree : Json} {value : α}
    (reads : ReadsBack decode tree value) (among : (name, tree) ∈ fields := by simp) :
    (required name decode).Recovers fields value := by
  intro members holds
  obtain ⟨other, once, written⟩ := holds _ among
  exact makes_required.mpr ⟨other, once, reads other written⟩

/-- A field with a default is recovered if its value is read back. -/
theorem recovers_defaulted {name : String} {missing : α} {decode : Decoder α} {tree : Json}
    {value : α} (reads : ReadsBack decode tree value) (among : (name, tree) ∈ fields := by simp) :
    (defaulted name missing decode).Recovers fields value := by
  intro members holds
  obtain ⟨other, once, written⟩ := holds _ among
  exact makes_defaulted.mpr (.inr ⟨other, once, reads other written⟩)

/-- An optional field is recovered if its value is read back. -/
theorem recovers_optional {name : String} {decode : Decoder α} {tree : Json} {value : Option α}
    (reads : ReadsBack (readOption decode) tree value) (among : (name, tree) ∈ fields := by simp) :
    (optional name decode).Recovers fields value := by
  intro members holds
  obtain ⟨other, once, written⟩ := holds _ among
  exact makes_optional.mpr (.inr ⟨other, once, reads other written⟩)

/-- A record of two shapes is recovered if both are. -/
theorem recovers_seq {first : Shape (α → β)} {second : Shape α} {make : α → β} {argument : α}
    (left : first.Recovers fields make) (right : second.Recovers fields argument) :
    (first <*> second).Recovers fields (make argument) := fun members holds =>
  makes_seq.mpr ⟨make, argument, left members holds, right members holds, rfl⟩

/-- A record made by a function of another is recovered if the other is. -/
theorem recovers_map {shape : Shape α} {argument : α} (make : α → β)
    (recovers : shape.Recovers fields argument) :
    (make <$> shape).Recovers fields (make argument) := fun members holds =>
  makes_map.mpr ⟨argument, recovers members holds, rfl⟩

/-- A record is read back if it is written with all its fields and recovered from them. -/
theorem readsBack {shape : Shape α} {names : List String} {value : α}
    (distinct : shape.names.Nodup) (named : fields.map (·.1) = names)
    (same : names.Perm shape.names) (recovers : shape.Recovers fields value) :
    ReadsBack shape.decode (.ofFields fields) value := by
  intro tree written
  have once : (fields.map (·.1)).Nodup := named ▸ same.nodup_iff.mpr distinct
  obtain ⟨members, rfl, holds, known⟩ := holds_of_written once written
  have among (member : Literal × Json) (present : member ∈ members) :
      ∃ name ∈ shape.names, member.1 = .text name := by
    obtain ⟨field, listed, name⟩ := known member present
    exact ⟨field.1, same.subset (named ▸ List.mem_map_of_mem listed), name⟩
  refine (decode_object distinct).mpr ⟨⟨fun member present => ?_, fun member present apart => ?_⟩,
    recovers members holds⟩
  · obtain ⟨name, -, same⟩ := among member present
    rw [same]
    exact Literal.noConfusion
  · obtain ⟨name, listed, same⟩ := among member present
    exact absurd same (apart name listed)

end Shape

end BoxOffice.Json
