/-!
# Registers

A register is a finite map whose entries are kept in ascending order of their keys, so two
registers with the same look-ups are equal. Keys are compared by a `KeyOrder`, a strict total
order that can be computed.
-/
namespace BoxOffice

/-- A computable strict total order on the keys of a register. -/
class KeyOrder (κ : Type) where
  /-- Whether the first key stands before the second. -/
  before : κ → κ → Bool
  /-- Order goes on through a third key. -/
  trans : ∀ {a b c}, before a b = true → before b c = true → before a c = true
  /-- No key stands before itself. -/
  irrefl : ∀ a, before a a = false
  /-- Two keys of which neither stands before the other are one key. -/
  total : ∀ {a b}, before a b = false → before b a = false → a = b

instance : KeyOrder String where
  before first second := decide (first < second)
  trans first second := by
    simp only [decide_eq_true_eq] at first second ⊢
    exact String.lt_trans first second
  irrefl key := by simp
  total first second := by
    simp only [decide_eq_false_iff_not] at first second
    exact String.le_antisymm (String.not_lt.mp second) (String.not_lt.mp first)

/-- A finite map with its entries in ascending order of key. -/
structure Register (κ ν : Type) [KeyOrder κ] where
  /-- The entries, each key once. -/
  entries : List (κ × ν)
  /-- Every key stands before the keys after it. -/
  ascending : entries.Pairwise fun first second => KeyOrder.before first.1 second.1 = true

namespace Register

variable {κ ν : Type} [KeyOrder κ]

/-- The register without entries. -/
def empty : Register κ ν := ⟨[], .nil⟩

instance : Inhabited (Register κ ν) := ⟨empty⟩

/-- The keys, in ascending order. -/
def keys (register : Register κ ν) : List κ := register.entries.map (·.1)

/-- The number of entries. -/
def size (register : Register κ ν) : Nat := register.entries.length

/-- The value under a key. -/
def get? [DecidableEq κ] (register : Register κ ν) (key : κ) : Option ν :=
  (register.entries.find? fun entry => entry.1 = key).map (·.2)

/-- Whether a key has a value. -/
def contains [DecidableEq κ] (register : Register κ ν) (key : κ) : Bool :=
  register.entries.any fun entry => entry.1 = key

/-- Puts an entry in its place among ascending entries; an entry under the same key gives way. -/
def insertEntry (key : κ) (value : ν) : List (κ × ν) → List (κ × ν)
  | [] => [(key, value)]
  | entry :: rest =>
    if KeyOrder.before key entry.1 then (key, value) :: entry :: rest
    else if KeyOrder.before entry.1 key then entry :: insertEntry key value rest
    else (key, value) :: rest

/-- An entry after an insertion is the new one or was there before. -/
theorem mem_insertEntry {key : κ} {value : ν} {entry : κ × ν} {entries : List (κ × ν)}
    (member : entry ∈ insertEntry key value entries) :
    entry = (key, value) ∨ entry ∈ entries := by
  induction entries with
  | nil => simpa [insertEntry] using member
  | cons first rest ih =>
    simp only [insertEntry] at member
    split at member
    · simpa using member
    · split at member
      · rcases List.mem_cons.mp member with same | later
        · exact .inr (same ▸ List.mem_cons_self)
        · rcases ih later with new | old
          · exact .inl new
          · exact .inr (List.mem_cons_of_mem _ old)
      · rcases List.mem_cons.mp member with same | later
        · exact .inl same
        · exact .inr (List.mem_cons_of_mem _ later)

/-- An insertion keeps the ascending order. -/
theorem insertEntry_ascending (key : κ) (value : ν) {entries : List (κ × ν)}
    (ascending : entries.Pairwise fun first second => KeyOrder.before first.1 second.1 = true) :
    (insertEntry key value entries).Pairwise
      fun first second => KeyOrder.before first.1 second.1 = true := by
  induction entries with
  | nil => simp [insertEntry]
  | cons first rest ih =>
    obtain ⟨below, tail⟩ := List.pairwise_cons.mp ascending
    simp only [insertEntry]
    split
    · rename_i before
      refine List.pairwise_cons.mpr ⟨fun entry member => ?_, ascending⟩
      rcases List.mem_cons.mp member with same | later
      · exact same ▸ before
      · exact KeyOrder.trans before (below entry later)
    · split
      · rename_i after
        refine List.pairwise_cons.mpr ⟨fun entry member => ?_, ih tail⟩
        rcases mem_insertEntry member with new | old
        · exact new ▸ after
        · exact below entry old
      · rename_i notBefore notAfter
        have same : key = first.1 :=
          KeyOrder.total (by simpa using notBefore) (by simpa using notAfter)
        refine List.pairwise_cons.mpr ⟨fun entry member => ?_, tail⟩
        exact same ▸ below entry member

/-- The register with a value under a key; a former value under that key gives way. -/
def insert (register : Register κ ν) (key : κ) (value : ν) : Register κ ν :=
  ⟨insertEntry key value register.entries, insertEntry_ascending key value register.ascending⟩

/-- The register without a key. -/
def erase [DecidableEq κ] (register : Register κ ν) (key : κ) : Register κ ν :=
  ⟨register.entries.filter fun entry => entry.1 ≠ key, register.ascending.filter _⟩

/-- The register of a list of entries; of two under one key the later one stays. -/
def ofList (entries : List (κ × ν)) : Register κ ν :=
  entries.foldl (fun register entry => register.insert entry.1 entry.2) empty

end Register

end BoxOffice
