import BoxOffice.Proofs.Callback
import BoxOffice.Proofs.Json.Leaf
import BoxOffice.Proofs.Json.Record
import Mathlib.Tactic.Choose
import Mathlib.Tactic.Simproc.ExistsAndEq

/-!
# Which objects are notifications

An object is read as a notification if it has the number of the bill exactly once and each other
field at most once, all of the right kind. Nothing else matters: not the order of the members, and
not what members stand under other names. So whatever the gateway adds to its notifications, or in
what order it writes them, a callback settles the same reservation in the same way.
-/
namespace BoxOffice

namespace PaymentNotification

open Json

/-- The texts of a notification by the names of their fields. -/
def texts (notification : PaymentNotification) : List (String × String) :=
  [("id", notification.id), ("bill_link", notification.billLink),
    ("bill_title", notification.billTitle), ("sender_name", notification.senderName),
    ("sender_bank", notification.senderBank), ("sender_email", notification.senderEmail),
    ("status", notification.status), ("sender_bank_type", notification.senderBankType),
    ("created_at", notification.createdAt)]

/-- The names of the fields that hold texts. -/
def textNames : List String :=
  ["id", "bill_link", "bill_title", "sender_name", "sender_bank", "sender_email", "status",
    "sender_bank_type", "created_at"]

/-- Whether members tell a value for a field: the field is missing and has the value then, or it
occurs once, as the tree of the value. -/
def Tells {α : Type} (write : α → Json) (missing : α) (members : List (Literal × Json))
    (name : String) (value : α) : Prop :=
  occurrences members name = [] ∧ value = missing ∨ occurrences members name = [write value]

/-- Whether an object tells a notification: it has the number of the bill once, each other field
once or not at all, and a field that it does not have is empty or zero. -/
structure IsToldBy (notification : PaymentNotification) (members : List (Literal × Json)) :
    Prop where
  /-- The members can be passed over as far as they are not of the fields. -/
  passable : ArePassable shape.names members
  /-- The number of the bill is there. -/
  billNumber : occurrences members "bill_link_id" = [.ofInt64 notification.billNumber]
  /-- The amount is there or zero. -/
  amount : Tells .ofInt64 0 members "amount" notification.amount
  /-- Each text is there or empty. -/
  texts : ∀ field ∈ notification.texts, Tells .ofText "" members field.1 field.2

/-- Whether a tree is the number of an integer of 64 bits. -/
def IsInteger (tree : Json) : Prop :=
  ∃ number : Int, -9223372036854775808 ≤ number ∧ number ≤ 9223372036854775807 ∧
    tree = .number (.integer number)

/-- Whether a tree is a text. -/
def IsText (tree : Json) : Prop := ∃ text, tree = .string (.text text)

/-- Whether an object can be taken for a notification: its members are passable, the number of the
bill occurs once and is an integer of 64 bits, the amount occurs once at most and is one, and each
of the other fields occurs once at most and is a text. -/
structure IsAcceptable (members : List (Literal × Json)) : Prop where
  /-- The members can be passed over as far as they are not of the fields. -/
  passable : ArePassable shape.names members
  /-- The number of the bill is there. -/
  billNumber : ∃ found, occurrences members "bill_link_id" = [found] ∧ IsInteger found
  /-- The amount is there at most once. -/
  amount : (occurrences members "amount").length ≤ 1 ∧
    ∀ found ∈ occurrences members "amount", IsInteger found
  /-- Each text is there at most once. -/
  texts : ∀ name ∈ textNames, (occurrences members name).length ≤ 1 ∧
    ∀ found ∈ occurrences members name, IsText found

section

variable {members other extra : List (Literal × Json)} {notification : PaymentNotification}

/-- The names of the fields are different. -/
theorem names_nodup : shape.names.Nodup := by decide

/-- A field with a default is made of what its members tell. -/
theorem makes_defaulted_iff {α : Type} {name : String} {missing value : α} {write : α → Json}
    {decode : Decoder α} (exact : ∀ found, decode found = .ok value ↔ found = write value) :
    (Shape.defaulted name missing decode).Makes members value ↔
      Tells write missing members name value := by
  simp only [Shape.makes_defaulted, exact, Tells, existsAndEq, and_true]

/-- A text is made of what its members tell. -/
theorem makes_text {name text : String} :
    (Shape.defaulted name "" readText).Makes members text ↔ Tells .ofText "" members name text :=
  makes_defaulted_iff fun _ => readText_eq_ok

/-- An amount is made of what its members tell. -/
theorem makes_amount {name : String} {amount : Int64} :
    (Shape.defaulted name 0 readInt64).Makes members amount ↔
      Tells .ofInt64 0 members name amount :=
  makes_defaulted_iff fun _ => readInt64_eq_ok

/-- An object is read as the notification that it tells. -/
theorem decode_object_eq_ok :
    shape.decode (.object members) = .ok notification ↔ notification.IsToldBy members := by
  rw [Shape.decode_object names_nodup]
  have made : shape.Makes members notification ↔
      occurrences members "bill_link_id" = [.ofInt64 notification.billNumber] ∧
        Tells .ofInt64 0 members "amount" notification.amount ∧
        ∀ field ∈ notification.texts, Tells .ofText "" members field.1 field.2 := by
    cases notification
    simp only [shape, Shape.makes_map, Shape.makes_seq, Shape.makes_required, makes_text,
      makes_amount, readInt64_eq_ok, existsAndEq, PaymentNotification.mk.injEq, and_true,
      PaymentNotification.texts, List.forall_mem_cons, List.not_mem_nil, false_implies,
      implies_true]
    tauto
  rw [made]
  exact ⟨fun ⟨passable, billNumber, amount, texts⟩ => ⟨passable, billNumber, amount, texts⟩,
    fun ⟨passable, billNumber, amount, texts⟩ => ⟨passable, billNumber, amount, texts⟩⟩

/-- An integer of 64 bits is the tree of one. -/
theorem isInteger_iff {tree : Json} : IsInteger tree ↔ ∃ value, tree = .ofInt64 value := by
  constructor
  · rintro ⟨number, low, high, rfl⟩
    refine ⟨Int64.ofInt number, ?_⟩
    rw [ofInt64, Int64.toInt_ofInt_of_le low (by omega)]
    rfl
  · rintro ⟨value, rfl⟩
    have low := value.le_toInt
    have high := value.toInt_lt
    exact ⟨value.toInt, by omega, by omega, rfl⟩

/-- A field with a default tells a value if it occurs once at most, as the tree of some value. -/
theorem exists_tells {α : Type} {write : α → Json} {missing : α} {Kind : Json → Prop}
    (kind : ∀ tree, Kind tree ↔ ∃ value, tree = write value) {name : String} :
    (∃ value, Tells write missing members name value) ↔
      (occurrences members name).length ≤ 1 ∧ ∀ found ∈ occurrences members name, Kind found := by
  constructor
  · rintro ⟨value, ⟨absent, -⟩ | once⟩
    · rw [absent]
      exact ⟨Nat.zero_le 1, List.forall_mem_nil _⟩
    · rw [once]
      exact ⟨Nat.le_refl 1, List.forall_mem_singleton.mpr ((kind _).mpr ⟨value, rfl⟩)⟩
  · rintro ⟨once, all⟩
    match among : occurrences members name with
    | [] => exact ⟨missing, .inl ⟨among, rfl⟩⟩
    | [found] =>
      obtain ⟨value, rfl⟩ := (kind found).mp (all found (among ▸ List.mem_cons_self))
      exact ⟨value, .inr among⟩
    | first :: second :: more =>
      rw [among] at once
      simp only [List.length_cons] at once
      omega

/-- Some notification is told by an object that can be taken for one. -/
theorem exists_isToldBy_iff :
    (∃ notification : PaymentNotification, notification.IsToldBy members) ↔
      IsAcceptable members := by
  constructor
  · rintro ⟨notification, passable, billNumber, amount, texts⟩
    refine ⟨passable, ⟨_, billNumber, isInteger_iff.mpr ⟨_, rfl⟩⟩,
      (exists_tells fun _ => isInteger_iff).mp ⟨_, amount⟩, fun name member => ?_⟩
    have named : textNames = notification.texts.map (·.1) := rfl
    rw [named] at member
    obtain ⟨field, among, rfl⟩ := List.mem_map.mp member
    exact (exists_tells fun _ => Iff.rfl).mp ⟨_, texts field among⟩
  · rintro ⟨passable, ⟨found, once, kind⟩, amounts, texts⟩
    obtain ⟨billNumber, rfl⟩ := isInteger_iff.mp kind
    obtain ⟨amount, paid⟩ : ∃ amount, Tells .ofInt64 0 members "amount" amount :=
      (exists_tells fun _ => isInteger_iff).mpr amounts
    have told (name : String) (member : name ∈ textNames) :
        ∃ text, Tells .ofText "" members name text :=
      (exists_tells fun _ => Iff.rfl).mpr (texts name member)
    choose text tells using told
    refine ⟨⟨text "id" (by decide), text "bill_link" (by decide), billNumber,
      text "bill_title" (by decide), text "sender_name" (by decide),
      text "sender_bank" (by decide), text "sender_email" (by decide), amount,
      text "status" (by decide), text "sender_bank_type" (by decide),
      text "created_at" (by decide)⟩, passable, once, paid, ?_⟩
    simp only [PaymentNotification.texts, List.forall_mem_cons, tells, List.not_mem_nil,
      false_implies, implies_true, and_self]

/-- Whether members stand under other names than those of the fields, and are JSON. -/
def AreUnknown (extra : List (Literal × Json)) : Prop :=
  ∀ member ∈ extra, ∃ name, member.1 = .text name ∧ name ∉ shape.names ∧ member.2.isWhole = true

/-- A field occurs as it did among members in another order and with unknown ones in addition. -/
theorem occurrences_mixed (unknown : AreUnknown extra) (mixed : other.Perm (members ++ extra))
    {name : String} (known : name ∈ shape.names) :
    (occurrences other name).Perm (occurrences members name) := by
  have absent : occurrences extra name = [] := occurrences_eq_nil fun member among same => by
    obtain ⟨found, named, foreign, -⟩ := unknown member among
    rw [named, Literal.text.injEq] at same
    exact foreign (same ▸ known)
  have same := occurrences_perm mixed name
  rwa [occurrences_append, absent, List.append_nil] at same

/-- A field that does not occur, or occurs once, does so in another order and with unknown members
in addition. -/
theorem occurrences_eq_mixed (unknown : AreUnknown extra) (mixed : other.Perm (members ++ extra))
    {name : String} (known : name ∈ shape.names) :
    (occurrences other name = [] ↔ occurrences members name = []) ∧
      ∀ found, occurrences other name = [found] ↔ occurrences members name = [found] := by
  have same := occurrences_mixed unknown mixed known
  refine ⟨?_, fun found => ?_⟩
  · rw [← List.perm_nil, ← List.perm_nil]
    exact ⟨same.symm.trans, same.trans⟩
  · rw [← List.perm_singleton, ← List.perm_singleton]
    exact ⟨same.symm.trans, same.trans⟩

/-- A field tells the same in another order and with unknown members in addition. -/
theorem tells_mixed (unknown : AreUnknown extra) (mixed : other.Perm (members ++ extra))
    {α : Type} (write : α → Json) (missing : α) {name : String} (known : name ∈ shape.names)
    (value : α) :
    Tells write missing other name value ↔ Tells write missing members name value := by
  obtain ⟨absent, once⟩ := occurrences_eq_mixed unknown mixed known
  rw [Tells, Tells, absent, once]

/-- Members are passable in another order and with unknown ones in addition if they are so alone. -/
theorem arePassable_mixed (unknown : AreUnknown extra) (mixed : other.Perm (members ++ extra)) :
    ArePassable shape.names other ↔ ArePassable shape.names members := by
  constructor
  · rintro ⟨named, whole⟩
    have among (member : Literal × Json) (present : member ∈ members) : member ∈ other :=
      mixed.symm.subset (List.mem_append_left extra present)
    exact ⟨fun member present => named member (among member present),
      fun member present => whole member (among member present)⟩
  · rintro ⟨named, whole⟩
    refine ⟨fun member present => ?_, fun member present => ?_⟩
    · rcases List.mem_append.mp (mixed.subset present) with old | new
      · exact named member old
      · obtain ⟨name, same, -⟩ := unknown member new
        rw [same]
        exact Literal.noConfusion
    · rcases List.mem_append.mp (mixed.subset present) with old | new
      · exact whole member old
      · obtain ⟨-, -, -, whole⟩ := unknown member new
        exact fun _ => whole

/-- An object in another order and with unknown members in addition tells the same. -/
theorem isToldBy_mixed (unknown : AreUnknown extra) (mixed : other.Perm (members ++ extra)) :
    notification.IsToldBy other ↔ notification.IsToldBy members := by
  have passable := arePassable_mixed unknown mixed
  have billNumber : occurrences other "bill_link_id" = [.ofInt64 notification.billNumber] ↔
      occurrences members "bill_link_id" = [.ofInt64 notification.billNumber] :=
    (occurrences_eq_mixed unknown mixed (by decide)).2 _
  have amount : Tells .ofInt64 0 other "amount" notification.amount ↔
      Tells .ofInt64 0 members "amount" notification.amount :=
    tells_mixed unknown mixed _ _ (by decide) _
  have texts (field : String × String) (member : field ∈ notification.texts) :
      Tells .ofText "" other field.1 field.2 ↔ Tells .ofText "" members field.1 field.2 := by
    have named : ∀ name ∈ textNames, name ∈ shape.names := by decide
    have known := named field.1 (List.mem_map_of_mem (f := (·.1)) member)
    exact tells_mixed unknown mixed _ _ known _
  constructor
  · rintro ⟨proper, bill, paid, told⟩
    exact ⟨passable.mp proper, billNumber.mp bill, amount.mp paid,
      fun field member => (texts field member).mp (told field member)⟩
  · rintro ⟨proper, bill, paid, told⟩
    exact ⟨passable.mpr proper, billNumber.mpr bill, amount.mpr paid,
      fun field member => (texts field member).mpr (told field member)⟩

/-- An object in another order and with unknown members in addition is read as the same
notification, or as none like the other. -/
theorem toOption_decode_mixed (unknown : AreUnknown extra)
    (mixed : other.Perm (members ++ extra)) :
    (shape.decode (.object other)).toOption = (shape.decode (.object members)).toOption := by
  have found (members : List (Literal × Json)) (notification : PaymentNotification) :
      (shape.decode (.object members)).toOption = some notification ↔
        notification.IsToldBy members := by
    rw [← decode_object_eq_ok]
    cases shape.decode (.object members) <;> simp [Except.toOption]
  ext notification
  rw [found, found, isToldBy_mixed unknown mixed]

end

variable {σ γ : Type} [Ledger σ] [Gateway γ]

/-- What a callback takes for a notification. An object is taken for one if the number of the bill
occurs in it exactly once and is an integer of 64 bits, the other fields occur once at most and are
texts, or an integer in the case of the amount, and everything else in it is JSON. It is read as the
notification that it tells, where missing texts are empty and a missing amount is zero. The order of
the members makes no difference, and neither do members under other names: a callback that brings
such an object in any order and with any such members in addition does the same. -/
theorem acceptance (setup : Http.Setup) (engine : Engine σ γ) (members : List (Literal × Json)) :
    ((∃ notification, shape.decode (.object members) = .ok notification) ↔
        IsAcceptable members) ∧
      (∀ notification, shape.decode (.object members) = .ok notification ↔
        notification.IsToldBy members) ∧
      ∀ extra other, AreUnknown extra → other.Perm (members ++ extra) →
        (shape.decode (.object other)).toOption = (shape.decode (.object members)).toOption ∧
        ∀ (first second : Http.CallbackForm) (isEnd : Bool), first.token = second.token →
          Json.read first.data = ⟨.object members, isEnd⟩ →
          Json.read second.data = ⟨.object other, isEnd⟩ →
            engine.run (Http.takeNotification setup (some second)) =
              engine.run (Http.takeNotification setup (some first)) := by
  refine ⟨?_, fun notification => decode_object_eq_ok, fun extra other unknown mixed => ?_⟩
  · rw [← exists_isToldBy_iff]
    exact exists_congr fun notification => decode_object_eq_ok
  · have same := toOption_decode_mixed unknown mixed
    refine ⟨same, fun first second isEnd token heard again => ?_⟩
    have whole : (Json.readWhole shape.decode second.data).toOption =
        (Json.readWhole shape.decode first.data).toOption := by
      simp only [Json.readWhole, heard, again]
      cases one : shape.decode (.object other) <;>
        cases two : shape.decode (.object members) <;>
        simp only [one, two, Except.toOption, reduceCtorEq, Option.some.injEq] at same
      · rfl
      · rw [same]
    have found : Http.notificationOf? setup second = Http.notificationOf? setup first := by
      rw [Http.notificationOf?, Http.notificationOf?, token, whole]
    have read (form : Http.CallbackForm) :
        some form >>= Http.notificationOf? setup = Http.notificationOf? setup form := rfl
    rw [Http.run_takeNotification, Http.run_takeNotification, read, read, found]

end PaymentNotification

end BoxOffice
