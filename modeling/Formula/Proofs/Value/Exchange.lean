-- SUMMARY: Values without fractions are the same after they went through JSON, and so is JSON without fractions that went through values.
import Formula.Proofs.Decimal.Numeral
import Formula.Proofs.Decimal.Rounding
import Formula.Value.Json
import Formula.Value.Order

/-!
# Values through JSON

Values and JSON have the same containers, so the two translations are inverse to each other as far
as they are on numbers. A whole number of 64 bits becomes the JSON number of its value, however many
zeros follow its point, and comes back at scale 0 (`Value.numberToJson_eq`). The other way round it
is read from its text, which is all that is kept of it (`Value.ofInteger_eq_read`).
-/

namespace Formula

/-! ## Whole numbers -/

namespace Decimal

variable {d : Decimal} {n : ℤ}

theorem signed_eq (h : d.value = n) : d.signed = n * tenTo d.scale := by
  have hpower : (10 : ℚ) ^ d.scale ≠ 0 := by positivity
  rw [value, div_eq_iff hpower, ← cast_tenTo] at h
  exact_mod_cast h

/-- The decimals of a whole number are zeros. -/
theorem coefficient_eq (h : d.value = n) : d.coefficient = n.natAbs * tenTo d.scale := by
  have habs : d.signed.natAbs = d.coefficient := by
    unfold signed
    split <;> simp
  rw [← habs, signed_eq h, Int.natAbs_mul, Int.natAbs_natCast]

theorem isWhole_of_value (h : d.value = n) : d.isWhole = true := by
  rw [isWhole, coefficient_eq h, Nat.mul_mod_left]
  rfl

theorem toInt_mul (h : d.isWhole = true) : d.toInt * tenTo d.scale = d.signed := by
  have hwhole : (d.whole : ℤ) * tenTo d.scale = d.coefficient := by
    exact_mod_cast Nat.div_mul_cancel (Nat.dvd_of_mod_eq_zero (eq_of_beq h))
  unfold toInt signed
  split
  · rw [neg_mul, hwhole]
  · exact hwhole

theorem toInt_of_value (h : d.value = n) : d.toInt = n := by
  have hpower : (tenTo d.scale : ℤ) ≠ 0 := by exact_mod_cast (tenTo_pos d.scale).ne'
  exact mul_right_cancel₀ hpower ((toInt_mul (isWhole_of_value h)).trans (signed_eq h))

/-- A whole number for which there is room is a decimal of its value. -/
theorem ofInt?_eq (h : n.natAbs < limit) : ∃ m, ofInt? n = some m ∧ m.value = n := by
  let m : Decimal := ⟨decide (n < 0), n.natAbs, 0, h, Nat.zero_le _⟩
  have hsigned : m.signed = n := by
    simp only [signed, m, decide_eq_true_eq]
    split <;> omega
  refine ⟨m, ?_, ?_⟩
  · rw [ofInt?, make?, dif_pos h, dif_pos (Nat.zero_le _)]
  · rw [value, hsigned, pow_zero, div_one]

theorem toList_toString (n : ℤ) :
    (toString n).toList = (if decide (n < 0) then ['-'] else []) ++ digits n.natAbs 0 := by
  cases n with
  | ofNat m => exact Nat.toList_repr
  | negSucc m =>
    have hminus : decide (Int.negSucc m < 0) = true := decide_eq_true (Int.negSucc_lt_zero m)
    have htext : toString (Int.negSucc m) = "-" ++ (m + 1).repr := rfl
    rw [htext, String.toList_append, Nat.toList_repr, hminus]
    rfl

/-- A whole number is read from its text. -/
theorem read_toString (h : n.natAbs < limit) : read (toString n).toList = ofInt? n := by
  have hcoefficient := Numeral.coefficient_ofParts n.natAbs 0
  have hscale := Numeral.scale_ofParts n.natAbs 0
  have hread := @read_signed (.ofParts n.natAbs 0) (decide (n < 0)) (by rwa [hcoefficient])
    (by rw [hscale]; exact Nat.zero_le _)
  rw [Numeral.text_ofParts, hcoefficient, hscale, ← toList_toString] at hread
  have hsign : (decide (n < 0) && n.natAbs != 0) = decide (n < 0) := by
    by_cases hnegative : n < 0
    · have hnonzero : n.natAbs ≠ 0 := by omega
      simp [hnegative, hnonzero]
    · simp [hnegative]
  rw [hread, hsign, ofInt?]

end Decimal

/-- A whole number of 64 bits with a sign. -/
def IsInt64 (n : ℤ) : Prop := -(twoTo 63 : ℤ) ≤ n ∧ n < twoTo 63

instance (n : ℤ) : Decidable (IsInt64 n) := inferInstanceAs (Decidable (_ ∧ _))

theorem IsInt64.natAbs_lt {n : ℤ} (h : IsInt64 n) : n.natAbs < Decimal.limit := by
  have hword : twoTo 63 < Decimal.limit := by decide
  obtain ⟨hlow, hhigh⟩ := h
  omega

theorem Decimal.toInt64?_of_value {d : Decimal} {n : ℤ} (h : d.value = n) (hbounds : IsInt64 n) :
    d.toInt64? = some n := by
  simp only [toInt64?, toInt_of_value h]
  exact if_pos hbounds

/-! ## Values and JSON without fractions -/

/-- Values that JSON can hold without loss: their numbers are whole and have 64 bits, and they have
    nothing that becomes text. -/
inductive Value.Portable : Value → Prop
  | null : Portable .null
  | boolean (value : Bool) : Portable (.boolean value)
  | text (value : String) : Portable (.text value)
  | number {d : Decimal} {n : ℤ} (hvalue : d.value = n) (hbounds : IsInt64 n) : Portable (.number d)
  | array {items : List Value} (h : ∀ item ∈ items, item.Portable) : Portable (.array items)
  | record {fields : List (String × Value)} (h : ∀ field ∈ fields, field.2.Portable) :
    Portable (.record fields)

/-- JSON that values can hold without loss: its numbers are whole and have 64 bits. -/
inductive Json.Portable : Json → Prop
  | null : Portable .null
  | bool (value : Bool) : Portable (.bool value)
  | text (value : String) : Portable (.text value)
  | integer {n : ℤ} (hbounds : IsInt64 n) : Portable (.integer n)
  | array {items : List Json} (h : ∀ item ∈ items, item.Portable) : Portable (.array items)
  | object {fields : List (String × Json)} (h : ∀ field ∈ fields, field.2.Portable) :
    Portable (.object fields)

namespace Value

/-! ## Containers -/

theorem itemsToJson_eq (items : List Value) : itemsToJson items = items.map toJson := by
  induction items with
  | nil => rfl
  | cons item rest ih => rw [itemsToJson, ih, List.map_cons]

theorem fieldsToJson_eq (fields : List (String × Value)) :
    fieldsToJson fields = fields.map fun field => (field.1, field.2.toJson) := by
  induction fields with
  | nil => rfl
  | cons field rest ih => rw [fieldsToJson, ih, List.map_cons]

theorem itemsOfJson_eq (items : List Json) : itemsOfJson items = items.map ofJson := by
  induction items with
  | nil => rfl
  | cons item rest ih => rw [itemsOfJson, ih, List.map_cons]

theorem fieldsOfJson_eq (fields : List (String × Json)) :
    fieldsOfJson fields = fields.map fun field => (field.1, ofJson field.2) := by
  induction fields with
  | nil => rfl
  | cons field rest ih => rw [fieldsOfJson, ih, List.map_cons]

theorem sameItems_map {f : Value → Value} {items : List Value}
    (h : ∀ item ∈ items, (f item).same item = true) : sameItems (items.map f) items = true := by
  induction items with
  | nil => rfl
  | cons item rest ih =>
    obtain ⟨hitem, hrest⟩ := List.forall_mem_cons.mp h
    rw [List.map_cons, sameItems, hitem, ih hrest, Bool.and_self]

theorem sameFields_map {f : Value → Value} {fields : List (String × Value)}
    (h : ∀ field ∈ fields, (f field.2).same field.2 = true) :
    sameFields (fields.map fun field => (field.1, f field.2)) fields = true := by
  induction fields with
  | nil => rfl
  | cons field rest ih =>
    obtain ⟨hfield, hrest⟩ := List.forall_mem_cons.mp h
    rw [List.map_cons, sameFields, hfield, ih hrest, beq_self_eq_true, Bool.and_self, Bool.and_self]

/-! ## Numbers -/

theorem numberToJson_eq {d : Decimal} {n : ℤ} (h : d.value = n) (hbounds : IsInt64 n) :
    numberToJson d = .integer n := by
  rw [numberToJson, Decimal.isWhole_of_value h, if_pos rfl, Decimal.toInt64?_of_value h hbounds]

theorem ofInteger_eq {n : ℤ} (hbounds : IsInt64 n) :
    ∃ d : Decimal, ofInteger n = .number d ∧ d.value = n := by
  obtain ⟨d, hd, hvalue⟩ := Decimal.ofInt?_eq hbounds.natAbs_lt
  exact ⟨d, by rw [ofInteger, hd], hvalue⟩

/-- All that is kept of a whole number is its text. -/
theorem ofInteger_eq_read {n : ℤ} (h : n.natAbs < Decimal.limit) :
    ofInteger n = match Decimal.read (toString n).toList with
      | some value => number value
      | none => null := by
  rw [Decimal.read_toString h]
  rfl

/-! ## There and back -/

theorem same_ofJson_toJson {value : Value} (h : value.Portable) :
    (ofJson value.toJson).same value = true := by
  induction h with
  | null => rfl
  | boolean value | text value => exact beq_self_eq_true value
  | @number d n hvalue hbounds =>
    obtain ⟨m, hm, hsame⟩ := ofInteger_eq hbounds
    rw [toJson, numberToJson_eq hvalue hbounds, ofJson, hm, same, Decimal.same_iff, hsame, hvalue]
  | array _ ih =>
    rw [toJson, ofJson, itemsToJson_eq, itemsOfJson_eq, List.map_map, same]
    exact sameItems_map ih
  | record _ ih =>
    rw [toJson, ofJson, fieldsToJson_eq, fieldsOfJson_eq, List.map_map, same]
    exact @sameFields_map (fun field => ofJson field.toJson) _ ih

theorem toJson_ofJson {json : Json} (h : json.Portable) : (ofJson json).toJson = json := by
  induction h with
  | null | bool | text => rfl
  | integer hbounds =>
    obtain ⟨d, hd, hvalue⟩ := ofInteger_eq hbounds
    rw [ofJson, hd, toJson, numberToJson_eq hvalue hbounds]
  | array _ ih =>
    rw [ofJson, toJson, itemsOfJson_eq, itemsToJson_eq, List.map_map]
    exact congrArg Json.array ((List.map_congr_left ih).trans (List.map_id _))
  | object _ ih =>
    have hfields : ∀ field ∈ _, (field.1, (ofJson field.2).toJson) = field := fun field hfield =>
      Prod.ext rfl (ih field hfield)
    rw [ofJson, toJson, fieldsOfJson_eq, fieldsToJson_eq, List.map_map]
    exact congrArg Json.object ((List.map_congr_left hfields).trans (List.map_id _))

/-- Values that JSON can hold come back as they were, numbers by value, and JSON that values can
    hold comes back unchanged. -/
theorem json_roundTrip :
    (∀ value : Value, value.Portable → (ofJson value.toJson).same value = true) ∧
      ∀ json : Json, json.Portable → (ofJson json).toJson = json :=
  ⟨fun _ => same_ofJson_toJson, fun _ => toJson_ofJson⟩

/-- A number with two decimals inside a record inside an array, and the least number of 64 bits. -/
theorem json_roundTrip_nested : ∃ d : Decimal, d.text = "-1.00" ∧
    let value := array [null, record [("a", number d)]]
    let json := Json.array [.bool true, .object [("a", .integer (-9223372036854775808))]]
    value.Portable ∧ (ofJson value.toJson).same value = true ∧
      json.Portable ∧ (ofJson json).toJson = json := by
  let d : Decimal := ⟨true, 100, 2, by decide, by decide⟩
  have hnumber : (number d).Portable := by
    have hvalue : d.value = (-1 : ℤ) := by norm_num [Decimal.value, Decimal.signed, d]
    exact .number hvalue (by decide)
  have hrecord : (record [("a", number d)]).Portable := .record (by simpa using hnumber)
  have hvalue : (array [null, record [("a", number d)]]).Portable :=
    .array (by simpa using ⟨.null, hrecord⟩)
  have hobject : (Json.object [("a", .integer (-9223372036854775808))]).Portable :=
    .object (by simpa using Json.Portable.integer (by decide))
  have hjson :
      (Json.array [.bool true, .object [("a", .integer (-9223372036854775808))]]).Portable :=
    .array (by simpa using ⟨.bool true, hobject⟩)
  exact ⟨d, by decide +kernel, hvalue, json_roundTrip.1 _ hvalue, hjson, json_roundTrip.2 _ hjson⟩

end Value
end Formula
