import BoxOffice.Json.Leaf

/-!
# What plain values are read from

A text is read from one string literal only, and an integer from one number only.
-/
namespace BoxOffice.Json

/-- A text is read from the string of it. -/
theorem readText_eq_ok {tree : Json} {text : String} :
    readText tree = .ok text ↔ tree = .ofText text := by
  constructor
  · intro read
    unfold readText at read
    split at read
    · rw [Except.ok.inj read]
      rfl
    · contradiction
  · rintro rfl
    rfl

/-- An integer of 64 bits is read from the number of it. -/
theorem readInt64_eq_ok {tree : Json} {value : Int64} :
    readInt64 tree = .ok value ↔ tree = .ofInt64 value := by
  constructor
  · intro read
    unfold readInt64 readIntegerAs at read
    split at read
    case h_1 number =>
      split at read
      case h_1 found =>
        rw [← toInt_of_int64? (found.trans (congrArg some (Except.ok.inj read)))]
        rfl
      · contradiction
    · contradiction
  · rintro rfl
    simp only [readInt64, ofInt64, ofInt, readIntegerAs, int64?_toInt]

end BoxOffice.Json
