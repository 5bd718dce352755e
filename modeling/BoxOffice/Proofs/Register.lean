import BoxOffice.Register
import Mathlib.Data.List.Induction
import Mathlib.Data.List.Nodup
import Mathlib.Data.List.Perm.Basic

/-!
# Laws of registers

What is found under a key after an insertion or a removal, and how the values of a register change:
a new key adds one value and leaves the others, and a key that goes takes its value along. Registers
are told apart by what is found in them.
-/
namespace BoxOffice.Register

variable {κ ν : Type} [KeyOrder κ] [DecidableEq κ]

section

omit [DecidableEq κ]

/-- The values, in ascending order of their keys. -/
def values (register : Register κ ν) : List ν := register.entries.map (·.2)

/-- No key occurs twice. -/
theorem keys_nodup (register : Register κ ν) : (register.entries.map (·.1)).Nodup := by
  refine List.Pairwise.map _ (fun first second before same => ?_) register.ascending
  rw [same, KeyOrder.irrefl] at before
  exact absurd before Bool.false_ne_true

end

/-- What is found under a key is entered there. -/
theorem get?_eq_some {register : Register κ ν} {key : κ} {value : ν} :
    register.get? key = some value ↔ (key, value) ∈ register.entries := by
  constructor
  · intro found
    obtain ⟨entry, first, rfl⟩ := Option.map_eq_some_iff.mp found
    have name : entry.1 = key := by simpa using List.find?_some first
    rw [← name]
    exact List.mem_of_find?_eq_some first
  · intro member
    cases first : register.entries.find? fun entry => entry.1 = key with
    | none =>
      have missing := List.find?_eq_none.mp first (key, value) member
      exact absurd (decide_eq_true rfl) missing
    | some entry =>
      have name : entry.1 = key := by simpa using List.find?_some first
      have same := List.inj_on_of_nodup_map register.keys_nodup
        (List.mem_of_find?_eq_some first) member name
      simp only [get?, first, same, Option.map_some]

/-- Nothing is found under a key that has no entry. -/
theorem get?_eq_none {register : Register κ ν} {key : κ} :
    register.get? key = none ↔ ∀ entry ∈ register.entries, entry.1 ≠ key := by
  simp only [get?, Option.map_eq_none_iff, List.find?_eq_none, decide_eq_true_eq, ne_eq]

/-- A register contains the keys under which something is found. -/
theorem contains_eq_isSome (register : Register κ ν) (key : κ) :
    register.contains key = (register.get? key).isSome := by
  rw [Bool.eq_iff_iff]
  simp only [contains, get?, Option.isSome_map, List.any_eq_true, List.find?_isSome]

/-- A value that was put under a key is found there. -/
theorem get?_insert_self (register : Register κ ν) (key : κ) (value : ν) :
    (register.insert key value).get? key = some value := by
  obtain ⟨entries, ascending⟩ := register
  simp only [get?, insert]
  clear ascending
  induction entries with
  | nil => simp only [insertEntry, List.find?_cons, decide_true, Option.map_some]
  | cons entry rest ih =>
    simp only [insertEntry]
    split
    · simp only [List.find?_cons, decide_true, Option.map_some]
    · split
      · rename_i _ before
        have apart : entry.1 ≠ key := by
          intro same
          rw [same, KeyOrder.irrefl] at before
          exact absurd before Bool.false_ne_true
        simp only [List.find?_cons, apart, decide_false]
        exact ih
      · simp only [List.find?_cons, decide_true, Option.map_some]

/-- A value that is put under a key changes nothing under others. -/
theorem get?_insert_of_ne (register : Register κ ν) {key other : κ} (value : ν)
    (apart : other ≠ key) : (register.insert key value).get? other = register.get? other := by
  obtain ⟨entries, ascending⟩ := register
  simp only [get?, insert]
  clear ascending
  induction entries with
  | nil => simp only [insertEntry, List.find?_cons, apart.symm, decide_false, List.find?_nil]
  | cons entry rest ih =>
    simp only [insertEntry]
    split
    · simp only [List.find?_cons, apart.symm, decide_false]
    · split
      · by_cases same : entry.1 = other
        · simp only [List.find?_cons, same, decide_true]
        · simp only [List.find?_cons, same, decide_false]
          exact ih
      · rename_i notBefore notAfter
        have same : key = entry.1 :=
          KeyOrder.total (by simpa using notBefore) (by simpa using notAfter)
        have apartFirst : entry.1 ≠ other := by
          rw [← same]
          exact apart.symm
        simp only [List.find?_cons, apart.symm, apartFirst, decide_false]

/-- Nothing is found under a key that was removed. -/
theorem get?_erase_self (register : Register κ ν) (key : κ) :
    (register.erase key).get? key = none := by
  rw [get?_eq_none]
  intro entry member
  simpa using (List.mem_filter.mp member).2

/-- Removing a key changes nothing under others. -/
theorem get?_erase_of_ne (register : Register κ ν) {key other : κ} (apart : other ≠ key) :
    (register.erase key).get? other = register.get? other := by
  ext value
  rw [get?_eq_some, get?_eq_some]
  simp only [erase, List.mem_filter, decide_eq_true_eq, ne_eq, apart, not_false_eq_true, and_true]

/-- What is found after an insertion is the new value under its key, or was found before under
another. -/
theorem get?_insert_eq_some {register : Register κ ν} {key other : κ} {value found : ν} :
    (register.insert key value).get? other = some found ↔
      other = key ∧ found = value ∨ other ≠ key ∧ register.get? other = some found := by
  by_cases same : other = key
  · rw [same, get?_insert_self, Option.some_inj]
    exact ⟨fun own => .inl ⟨rfl, own.symm⟩, fun either => either.elim (·.2.symm) (absurd rfl ·.1)⟩
  · rw [get?_insert_of_ne _ _ same]
    exact ⟨fun old => .inr ⟨same, old⟩, fun either => either.elim (absurd ·.1 same) (·.2)⟩

/-- What is found after a removal was found before under another key. -/
theorem get?_erase_eq_some {register : Register κ ν} {key other : κ} {value : ν} :
    (register.erase key).get? other = some value ↔
      other ≠ key ∧ register.get? other = some value := by
  by_cases same : other = key
  · rw [same, get?_erase_self]
    exact ⟨nofun, fun found => absurd rfl found.1⟩
  · rw [get?_erase_of_ne _ same]
    exact (and_iff_right same).symm

/-- Removing a key under which nothing is found changes nothing under any. -/
theorem get?_erase_absent {register : Register κ ν} {key : κ} (absent : register.get? key = none) :
    (register.erase key).get? = register.get? := by
  funext other
  by_cases same : other = key
  · rw [same, absent, get?_erase_self]
  · exact get?_erase_of_ne register same

/-- Putting back what was removed changes nothing under any key. -/
theorem get?_insert_erase {register : Register κ ν} {key : κ} {value : ν}
    (found : register.get? key = some value) :
    ((register.erase key).insert key value).get? = register.get? := by
  funext other
  by_cases same : other = key
  · rw [same, found, get?_insert_self]
  · rw [get?_insert_of_ne _ _ same, get?_erase_of_ne _ same]

/-- Registers with the same look-ups are equal. -/
theorem ext_get? {register other : Register κ ν} (same : register.get? = other.get?) :
    register = other := by
  have among (entry : κ × ν) : entry ∈ register.entries ↔ entry ∈ other.entries := by
    rw [← get?_eq_some, ← get?_eq_some, same]
  have once := List.Nodup.of_map _ register.keys_nodup
  have onceOther := List.Nodup.of_map _ other.keys_nodup
  have perm : register.entries.Perm other.entries :=
    (List.perm_ext_iff_of_nodup once onceOther).mpr among
  have entries : register.entries = other.entries := by
    apply perm.eq_of_pairwise ?_ register.ascending other.ascending
    intro first second _ _ before after
    have loop := KeyOrder.trans before after
    rw [KeyOrder.irrefl] at loop
    contradiction
  cases register
  cases other
  cases entries
  rfl

/-- Putting back what was removed changes nothing. -/
theorem insert_erase {register : Register κ ν} {key : κ} {value : ν}
    (found : register.get? key = some value) : (register.erase key).insert key value = register :=
  ext_get? (get?_insert_erase found)

/-- Removing what was put under a new key changes nothing. -/
theorem erase_insert {register : Register κ ν} {key : κ} (value : ν)
    (absent : register.get? key = none) : (register.insert key value).erase key = register := by
  apply ext_get?
  funext other
  by_cases same : other = key
  · rw [same, absent, get?_erase_self]
  · rw [get?_erase_of_ne _ same, get?_insert_of_ne _ _ same]

/-- Two keys can be removed in any order. -/
theorem erase_comm (register : Register κ ν) (key other : κ) :
    (register.erase key).erase other = (register.erase other).erase key := by
  apply ext_get?
  funext third
  by_cases first : third = key
  · by_cases second : third = other
    · rw [← first, ← second]
    · rw [get?_erase_of_ne _ second, first, get?_erase_self, get?_erase_self]
  · by_cases second : third = other
    · rw [second, get?_erase_self, get?_erase_of_ne _ (second ▸ first), get?_erase_self]
    · rw [get?_erase_of_ne _ second, get?_erase_of_ne _ first, get?_erase_of_ne _ first,
        get?_erase_of_ne _ second]

/-- A register has no entries if nothing is found under any key. -/
theorem size_eq_zero_of_absent {register : Register κ ν}
    (absent : ∀ key, register.get? key = none) : register.size = 0 := by
  refine List.length_eq_zero_iff.mpr (List.eq_nil_iff_forall_not_mem.mpr fun entry member => ?_)
  have found := get?_eq_some.mpr member
  rw [absent] at found
  contradiction

/-- A value under a new key is added to the values. -/
theorem values_insert {register : Register κ ν} {key : κ} (value : ν)
    (absent : register.get? key = none) :
    (register.insert key value).values.Perm (value :: register.values) := by
  rw [get?_eq_none] at absent
  obtain ⟨entries, ascending⟩ := register
  simp only [values, insert] at absent ⊢
  clear ascending
  induction entries with
  | nil => exact .refl _
  | cons entry rest ih =>
    have others := ih fun later member => absent later (List.mem_cons_of_mem _ member)
    simp only [insertEntry]
    split
    · exact .refl _
    · split
      · exact (others.cons entry.2).trans (.swap _ _ _)
      · rename_i notBefore notAfter
        have same : key = entry.1 :=
          KeyOrder.total (by simpa using notBefore) (by simpa using notAfter)
        exact absurd same.symm (absent entry List.mem_cons_self)

/-- A key that is removed takes its value along. -/
theorem values_erase {register : Register κ ν} {key : κ} {value : ν}
    (present : register.get? key = some value) :
    register.values.Perm (value :: (register.erase key).values) := by
  rw [get?_eq_some] at present
  have once := register.keys_nodup
  obtain ⟨entries, ascending⟩ := register
  simp only [values, erase] at present once ⊢
  clear ascending
  induction entries with
  | nil => contradiction
  | cons entry rest ih =>
    have names := List.nodup_cons.mp once
    rcases List.mem_cons.mp present with rfl | later
    · have others : rest.filter (fun entry => entry.1 ≠ key) = rest := by
        rw [List.filter_eq_self]
        intro entry member
        have apart : entry.1 ≠ key := fun same =>
          names.1 (List.mem_map.mpr ⟨entry, member, same⟩)
        exact decide_eq_true apart
      simp only [List.filter_cons, ne_eq, not_true_eq_false, decide_false, Bool.false_eq_true,
        ↓reduceIte, List.map_cons]
      rw [others]
    · have apart : entry.1 ≠ key := fun same =>
        names.1 (List.mem_map.mpr ⟨(key, value), later, same.symm⟩)
      simp only [List.filter_cons, ne_eq, apart, not_false_eq_true, decide_true, ↓reduceIte,
        List.map_cons]
      exact ((ih later names.2).cons entry.2).trans (.swap _ _ _)

/-- Removing a key that has no value changes nothing. -/
theorem erase_of_absent {register : Register κ ν} {key : κ}
    (absent : register.get? key = none) : register.erase key = register := by
  rw [get?_eq_none] at absent
  obtain ⟨entries, ascending⟩ := register
  have whole : entries.filter (fun entry => entry.1 ≠ key) = entries :=
    List.filter_eq_self.mpr fun entry member => decide_eq_true (absent entry member)
  simp only [erase, whole]

/-- In a register made of entries with different keys each value is found under its key. -/
theorem get?_ofList {entries : List (κ × ν)} (distinct : (entries.map (·.1)).Nodup) {key : κ}
    {value : ν} : (ofList entries).get? key = some value ↔ (key, value) ∈ entries := by
  induction entries using List.reverseRecOn with
  | nil => exact iff_of_false (Option.some_ne_none value).symm List.not_mem_nil
  | append_singleton entries entry ih =>
    rw [List.map_append, List.nodup_append] at distinct
    obtain ⟨distinct, -, apart⟩ := distinct
    have built : ofList (entries ++ [entry]) = (ofList entries).insert entry.1 entry.2 := by
      rw [ofList, List.foldl_append]
      rfl
    rw [built, get?_insert_eq_some, ih distinct, List.mem_append, List.mem_singleton]
    constructor
    · rintro (⟨rfl, rfl⟩ | ⟨-, old⟩)
      · exact .inr rfl
      · exact .inl old
    · rintro (old | rfl)
      · exact .inr ⟨apart _ (List.mem_map_of_mem old) _ List.mem_cons_self, old⟩
      · exact .inl ⟨rfl, rfl⟩

/-- A register is made of its entries in any order. -/
theorem ofList_eq {register : Register κ ν} {entries : List (κ × ν)}
    (same : entries.Perm register.entries) : ofList entries = register := by
  have distinct := (same.map (·.1)).nodup_iff.mpr register.keys_nodup
  apply ext_get?
  funext key
  ext value
  rw [get?_ofList distinct, get?_eq_some, same.mem_iff]

end BoxOffice.Register
