import BoxOffice.Proofs.Json.Arrangement
import Mathlib.Order.Basic

/-!
# Reading back free values

A free value without decimals is read back in whatever order the members of its objects are written,
because a reader takes a free value in its canonical form: members in ascending order of their
names.
-/
namespace BoxOffice.Json

mutual

/-- Whether a tree is a free value without decimals in its canonical form: integers have 64 bits,
literals name texts, and the members of objects are in ascending order of their names. -/
def isPlain : Json → Bool
  | .null | .bool _ | .string (.text _) => true
  | .number (.integer value) =>
    decide (-9223372036854775808 ≤ value) && decide (value ≤ 18446744073709551615)
  | .array items => arePlain items
  | .object members => membersArePlain members &&
      decide ((members.map (·.1.content)).Pairwise (· < ·))
  | .number (.decimal ..) | .string .unpaired | .broken => false

/-- Whether all items are free values without decimals. -/
def arePlain : List Json → Bool
  | [] => true
  | item :: rest => isPlain item && arePlain rest

/-- Whether all names are texts and all values free values without decimals. -/
def membersArePlain : List (Literal × Json) → Bool
  | [] => true
  | (name, value) :: rest => name ≠ .unpaired && isPlain value && membersArePlain rest

end

/-- Whether a tree is taken for a value: it can be read, is as deep as the value, and has the value
for its canonical form. -/
structure IsTakenFor (tree value : Json) : Prop where
  /-- It can be read. -/
  readable : tree.isReadable = true
  /-- It is as deep. -/
  depth : tree.depth = value.depth
  /-- The value is its canonical form. -/
  canonical : tree.canonical = value

/-- Every integer of 64 bits has a double-precision number. -/
theorem lt_magnitudeLimit : 18446744073709551615 < Numeral.magnitudeLimit := by decide +kernel

section

variable {members others : List (Literal × Json)}

/-- Members can be read if each of them can. -/
theorem isReadableMembers_iff : isReadableMembers members = true ↔
    ∀ member ∈ members, member.1 ≠ .unpaired ∧ member.2.isReadable = true := by
  induction members with
  | nil => simp [isReadableMembers]
  | cons member rest ih =>
    obtain ⟨name, value⟩ := member
    simp only [isReadableMembers, Bool.and_eq_true, decide_eq_true_eq, ih, List.forall_mem_cons]

/-- Members are not deeper than something if none of them is. -/
theorem depthMembers_le_iff {limit : Nat} : depthMembers members ≤ limit ↔
    ∀ member ∈ members, member.2.depth ≤ limit := by
  induction members with
  | nil => simp [depthMembers]
  | cons member rest ih =>
    obtain ⟨name, value⟩ := member
    simp only [depthMembers, Nat.max_le, ih, List.forall_mem_cons]

/-- The canonical forms of members are those of each. -/
theorem canonicalMembers_eq_map (members : List (Literal × Json)) :
    canonicalMembers members =
      members.map fun member => (member.1.content, member.2.canonical) := by
  induction members with
  | nil => rfl
  | cons member rest ih =>
    obtain ⟨name, value⟩ := member
    rw [canonicalMembers, ih, List.map_cons]

/-- Members are as deep as in any order. -/
theorem depthMembers_perm (same : members.Perm others) :
    depthMembers members = depthMembers others := by
  refine eq_of_forall_ge_iff fun limit => ?_
  simp only [depthMembers_le_iff, same.mem_iff]

/-- The names of free values without decimals are texts. -/
theorem named_of_arePlain (plain : membersArePlain members = true) :
    ∀ member ∈ members, Literal.text member.1.content = member.1 := by
  induction members with
  | nil => exact List.forall_mem_nil _
  | cons member rest ih =>
    obtain ⟨name, value⟩ := member
    simp only [membersArePlain, Bool.and_eq_true, decide_eq_true_eq] at plain
    refine List.forall_mem_cons.mpr ⟨?_, ih plain.2⟩
    cases name with
    | text content => rfl
    | unpaired => exact absurd rfl plain.1.1

/-- The canonical form of members in any order is the object with them in ascending order. -/
theorem canonical_of_entries (plain : membersArePlain members = true)
    (ascending : (members.map (·.1.content)).Pairwise (· < ·))
    (entries : (canonicalMembers others).Perm
      (members.map fun member => (member.1.content, member.2))) :
    canonical (.object others) = .object members := by
  have ordered : (members.map fun member => (member.1.content, member.2)).Pairwise
      fun first second => KeyOrder.before first.1 second.1 = true := by
    rw [List.pairwise_map] at ascending ⊢
    exact ascending.imp decide_eq_true
  have register : Register.ofList (canonicalMembers others) = ⟨_, ordered⟩ :=
    Register.ofList_eq entries
  have same : members.map (fun member => (Literal.text member.1.content, member.2)) = members := by
    conv_rhs => rw [← List.map_id members]
    refine List.map_congr_left fun member present => ?_
    rw [named_of_arePlain plain member present]
    rfl
  rw [canonical, register, ofFields, List.map_map]
  exact congrArg Json.object same

end

mutual

/-- A tree is taken for the free value without decimals that is written as the tree. -/
theorem isTakenFor_of_written : (value tree : Json) → value.isPlain = true →
    value.IsWrittenAs tree → tree.IsTakenFor value
  | .null, _, _, written => by
    obtain rfl := written
    exact ⟨rfl, rfl, rfl⟩
  | .bool _, _, _, written => by
    obtain rfl := written
    exact ⟨rfl, rfl, rfl⟩
  | .string (.text _), _, _, written => by
    obtain rfl := written
    exact ⟨rfl, rfl, rfl⟩
  | .number (.integer whole), _, plain, written => by
    obtain rfl := written
    simp only [isPlain, Bool.and_eq_true, decide_eq_true_eq] at plain
    refine ⟨?_, rfl, ?_⟩
    · have short : whole.natAbs ≤ 18446744073709551615 := by omega
      simp only [isReadable, Numeral.isFinite, decide_eq_true_eq]
      exact Nat.lt_of_le_of_lt short lt_magnitudeLimit
    · simp only [canonical, Numeral.canonical, plain, and_self, ↓reduceIte]
  | .array items, _, plain, written => by
    obtain ⟨others, rfl, written⟩ := written
    obtain ⟨readable, depth, canonical⟩ := areTakenFor_of_written items others plain written
    exact ⟨readable, congrArg (· + 1) depth, congrArg Json.array canonical⟩
  | .object members, _, plain, written => by
    obtain ⟨others, arranged, rfl, same, written⟩ := written
    simp only [isPlain, Bool.and_eq_true, decide_eq_true_eq] at plain
    obtain ⟨readable, depth, canonical⟩ :=
      membersAreTakenFor_of_written members others plain.1 written
    refine ⟨isReadableMembers_iff.mpr fun member present => ?_,
      congrArg (· + 1) ((depthMembers_perm same).symm.trans depth), ?_⟩
    · exact isReadableMembers_iff.mp readable member (same.symm.subset present)
    · have entries : (canonicalMembers arranged).Perm
          (members.map fun member => (member.1.content, member.2)) := by
        rw [← canonical, canonicalMembers_eq_map, canonicalMembers_eq_map]
        exact (same.map _).symm
      exact canonical_of_entries plain.1 plain.2 entries

/-- Items are taken for the free values that are written as them. -/
theorem areTakenFor_of_written : (items others : List Json) → arePlain items = true →
    AreWrittenAs items others → isReadableItems others = true ∧
      depthItems others = depthItems items ∧ canonicalItems others = items
  | [], _, _, written => by
    obtain rfl := written
    exact ⟨rfl, rfl, rfl⟩
  | item :: rest, _, plain, written => by
    obtain ⟨other, later, rfl, own, written⟩ := written
    simp only [arePlain, Bool.and_eq_true] at plain
    obtain ⟨readable, depth, canonical⟩ := isTakenFor_of_written item other plain.1 own
    obtain ⟨readableRest, depthRest, canonicalRest⟩ :=
      areTakenFor_of_written rest later plain.2 written
    simp only [isReadableItems, depthItems, canonicalItems, readable, depth, canonical,
      readableRest, depthRest, canonicalRest, Bool.and_self, and_self]

/-- Members are taken for the free values that are written as them. -/
theorem membersAreTakenFor_of_written : (members others : List (Literal × Json)) →
    membersArePlain members = true → MembersAreWrittenAs members others →
      isReadableMembers others = true ∧ depthMembers others = depthMembers members ∧
        canonicalMembers others = members.map fun member => (member.1.content, member.2)
  | [], _, _, written => by
    obtain rfl := written
    exact ⟨rfl, rfl, rfl⟩
  | (name, value) :: rest, _, plain, written => by
    obtain ⟨other, later, rfl, own, written⟩ := written
    simp only [membersArePlain, Bool.and_eq_true] at plain
    obtain ⟨⟨named, plain⟩, plainRest⟩ := plain
    obtain ⟨readable, depth, canonical⟩ := isTakenFor_of_written value other plain own
    obtain ⟨readableRest, depthRest, canonicalRest⟩ :=
      membersAreTakenFor_of_written rest later plainRest written
    simp only [isReadableMembers, depthMembers, canonicalMembers, named, readable, depth,
      canonical, readableRest, depthRest, canonicalRest, List.map_cons, Bool.and_self, and_self]

end

/-- A free value without decimals is read back if it is not too deep. -/
theorem readsBack_free {value : Json} (plain : value.isPlain = true)
    (shallow : value.depth ≤ freeDepth) : ReadsBack readFree value value := by
  intro tree written
  obtain ⟨readable, depth, canonical⟩ := isTakenFor_of_written value tree plain written
  simp only [readFree, readable, depth, shallow, canonical, decide_true, Bool.and_self, ↓reduceIte]

end BoxOffice.Json
