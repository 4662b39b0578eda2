-- SUMMARY: Equal data is equal in the language, but for numbers in arrays and records that are not written alike.
import Formula.Proofs.Decimal.Numeral
import Formula.Proofs.Evaluation.Laziness
import Formula.Proofs.Value.Order

/-!
# Equality of data and equality in the language

Arrays and records are compared by their texts. The text of a value shows each number that is nested
in it with its sign and all of its decimals, so for equal data the texts are the same if and only if
the numbers are written alike (`Value.toText_eq_iff`). A number ends where its text is followed by
something else; in front of a comma, a bracket or a brace the texts can be compared piece by piece
(`Value.Tells`).
-/

namespace Formula

/-! ## Trees -/

theorem Token.same_iff {a b : Token} :
    a.same b = true ↔ a.position = b.position ∧ a.kind = b.kind ∧ a.lexeme = b.lexeme := by
  simp [Token.same, and_assoc]

namespace Tree

mutual

/-- The text of a tree shows no more of it than its shape and its tokens. -/
theorem toJson_of_same : ∀ {a b : Tree}, a.same b = true → a.toJson = b.toJson
  | node token children, node token' children', h => by
    rw [same, Bool.and_eq_true] at h
    obtain ⟨hposition, hkind, hlexeme⟩ := Token.same_iff.mp h.1
    have hchildren := toJsonAll_of_same h.2
    cases children with
    | nil =>
      cases children' with
      | nil => simp only [toJson, hposition, hkind, hlexeme]
      | cons child rest => cases h.2
    | cons child rest =>
      cases children' with
      | nil => cases h.2
      | cons child' rest' =>
        simp only [toJsonAll] at hchildren
        simp only [toJson, hposition, hkind, hlexeme, hchildren]

theorem toJsonAll_of_same : ∀ {as bs : List Tree}, sameAll as bs = true →
    toJsonAll as = toJsonAll bs
  | [], [], _ => rfl
  | a :: as, b :: bs, h => by
    rw [sameAll, Bool.and_eq_true] at h
    rw [toJsonAll, toJsonAll, toJson_of_same h.1, toJsonAll_of_same h.2]

end

theorem text_of_same {a b : Tree} (h : a.same b = true) : a.text = b.text :=
  congrArg Json.compact (toJson_of_same h)

end Tree

/-! ## Nested numbers -/

namespace Value

mutual

/-- The numbers that are nested in a value, in their order. Trees do not count. -/
def numbers : Value → List Decimal
  | number value => [value]
  | array items => itemsNumbers items
  | record fields => fieldsNumbers fields
  | _ => []

def itemsNumbers : List Value → List Decimal
  | [] => []
  | item :: rest => numbers item ++ itemsNumbers rest

def fieldsNumbers : List (String × Value) → List Decimal
  | [] => []
  | (_, value) :: rest => numbers value ++ fieldsNumbers rest

end

/-- How values of the same data correspond. All but numbers and what contains values compare equal
    and have the same text. -/
inductive Corresponds : Value → Value → Prop
  | number {m n} (same : m.same n = true) : Corresponds (number m) (number n)
  | array {as bs} (same : sameItems as bs = true) : Corresponds (array as) (array bs)
  | record {as bs} (same : sameFields as bs = true) : Corresponds (record as) (record bs)
  | other {a b} (type : a.type = b.type) (simple : a.type ≠ .array ∧ a.type ≠ .record)
      (compare : a.compare b = .eq) (text : a.toText = b.toText)
      (numbers : a.numbers = [] ∧ b.numbers = []) : Corresponds a b

theorem compareText_eq_iff {a b : String} : compareText a b = .eq ↔ a = b := by
  rw [compareText_eq_compare, compare_eq_iff_eq]

theorem corresponds_of_same {a b : Value} (h : a.same b = true) : Corresponds a b := by
  cases a with
  | number m =>
    cases b with
    | number n => exact .number h
    | _ => cases h
  | array as =>
    cases b with
    | array bs => exact .array h
    | _ => cases h
  | record as =>
    cases b with
    | record bs => exact .record h
    | _ => cases h
  | null =>
    cases b with
    | null => exact .other rfl (by simp [type]) (compare_self null) rfl ⟨rfl, rfl⟩
    | _ => cases h
  | tree s =>
    cases b with
    | tree t =>
      have htext : (tree s).toText = (tree t).toText := Tree.text_of_same h
      exact .other rfl (by simp [type]) (compareText_eq_iff.mpr htext) htext ⟨rfl, rfl⟩
    | _ => cases h
  | _ =>
    cases b
    all_goals first
      | cases h
      | obtain rfl := eq_of_beq h
        exact .other rfl (by simp [type]) (compare_self _) rfl ⟨rfl, rfl⟩

/-! ## Texts piece by piece -/

/-- The text of the items behind the first one. -/
def itemsTail : List Value → List Char
  | [] => []
  | item :: rest => ',' :: ' ' :: (itemsText (item :: rest)).toList

/-- The text of the fields behind the first one. -/
def fieldsTail : List (String × Value) → List Char
  | [] => []
  | field :: rest => ',' :: ' ' :: (fieldsText (field :: rest)).toList

theorem toList_itemsText (item : Value) (rest : List Value) :
    (itemsText (item :: rest)).toList = item.toText.toList ++ itemsTail rest := by
  cases rest <;> simp [itemsText, itemsTail]

theorem toList_fieldsText (name : String) (value : Value) (rest : List (String × Value)) :
    (fieldsText ((name, value) :: rest)).toList =
      name.toList ++ ':' :: ' ' :: (value.toText.toList ++ fieldsTail rest) := by
  cases rest <;> simp [fieldsText, fieldsTail]

theorem breaks_itemsTail (items : List Value) {rest : List Char}
    (h : Text.Breaks Decimal.isNumeric rest) :
    Text.Breaks Decimal.isNumeric (itemsTail items ++ rest) := by
  cases items with
  | nil => exact h
  | cons item items => exact Text.breaks_cons rfl

theorem breaks_fieldsTail (fields : List (String × Value)) {rest : List Char}
    (h : Text.Breaks Decimal.isNumeric rest) :
    Text.Breaks Decimal.isNumeric (fieldsTail fields ++ rest) := by
  cases fields with
  | nil => exact h
  | cons field fields => exact Text.breaks_cons rfl

mutual

theorem length_numbers : ∀ {a b : Value}, a.same b = true → a.numbers.length = b.numbers.length
  | a, b, h =>
    match a, b, corresponds_of_same h with
    | _, _, .number _ => rfl
    | .array as, .array bs, .array h => length_itemsNumbers h
    | .record as, .record bs, .record h => length_fieldsNumbers h
    | _, _, .other _ _ _ _ hnumbers => by rw [hnumbers.1, hnumbers.2]

theorem length_itemsNumbers : ∀ {as bs : List Value}, sameItems as bs = true →
    (itemsNumbers as).length = (itemsNumbers bs).length
  | [], [], _ => rfl
  | a :: as, b :: bs, h => by
    rw [sameItems, Bool.and_eq_true] at h
    rw [itemsNumbers, itemsNumbers, List.length_append, List.length_append, length_numbers h.1,
      length_itemsNumbers h.2]

theorem length_fieldsNumbers : ∀ {as bs : List (String × Value)}, sameFields as bs = true →
    (fieldsNumbers as).length = (fieldsNumbers bs).length
  | [], [], _ => rfl
  | (_, a) :: as, (_, b) :: bs, h => by
    rw [sameFields, Bool.and_eq_true, Bool.and_eq_true] at h
    rw [fieldsNumbers, fieldsNumbers, List.length_append, List.length_append, length_numbers h.1.2,
      length_fieldsNumbers h.2]

end

/-- The texts, in front of something that is no part of a number, are the same if and only if the
    condition holds and what follows is the same. -/
def Tells (text text' : List Char) (condition : Prop) : Prop :=
  ∀ rest rest', Text.Breaks Decimal.isNumeric rest → Text.Breaks Decimal.isNumeric rest' →
    (text ++ rest = text' ++ rest' ↔ condition ∧ rest = rest')

namespace Tells

variable {text text' tail tail' : List Char} {P Q : Prop}

theorem refl (text : List Char) : Tells text text True := by
  intro rest rest' _ _
  rw [true_and]
  exact List.append_right_inj text

theorem number (m n : Decimal) : Tells m.text.toList n.text.toList ([m] = [n]) := by
  intro rest rest' hrest hrest'
  rw [Text.append_eq_append m.isNumeric_text n.isNumeric_text hrest hrest', String.toList_inj,
    Decimal.text_injective.eq_iff, List.singleton_inj]

/-- What comes first in both texts makes no difference. -/
theorem behind (h : Tells text text' P) (front : List Char) :
    Tells (front ++ text) (front ++ text') P := by
  intro rest rest' hrest hrest'
  rw [List.append_assoc, List.append_assoc, List.append_right_inj]
  exact h rest rest' hrest hrest'

theorem append (h : Tells text text' P) (htail : Tells tail tail' Q)
    (hbreaks : ∀ {rest}, Text.Breaks Decimal.isNumeric rest →
      Text.Breaks Decimal.isNumeric (tail ++ rest))
    (hbreaks' : ∀ {rest}, Text.Breaks Decimal.isNumeric rest →
      Text.Breaks Decimal.isNumeric (tail' ++ rest)) :
    Tells (text ++ tail) (text' ++ tail') (P ∧ Q) := by
  intro rest rest' hrest hrest'
  rw [List.append_assoc, List.append_assoc, h _ _ (hbreaks hrest) (hbreaks' hrest'),
    htail rest rest' hrest hrest', and_assoc]

theorem congr (h : Tells text text' P) (hiff : P ↔ Q) : Tells text text' Q := propext hiff ▸ h

/-- A bracket ends a text. -/
theorem closed (h : Tells text text' P) {c : Char} (hc : Decimal.isNumeric c = false) :
    Tells (text ++ [c]) (text' ++ [c]) P := by
  have hbreaks {rest : List Char} (_ : Text.Breaks Decimal.isNumeric rest) :
      Text.Breaks Decimal.isNumeric ([c] ++ rest) := Text.breaks_cons hc
  exact (h.append (refl [c]) hbreaks hbreaks).congr (iff_of_eq (and_true P))

end Tells

mutual

/-- The texts of equal data tell whether the numbers in them are written alike. -/
theorem tells_text : ∀ {a b : Value}, a.same b = true →
    Tells a.toText.toList b.toText.toList (a.numbers = b.numbers)
  | a, b, h =>
    match a, b, corresponds_of_same h with
    | .number m, .number n, .number _ => .number m n
    | .array as, .array bs, .array h => by
      simp only [toText, String.toList_append, List.append_assoc]
      exact ((tells_items h).closed rfl).behind "[".toList
    | .record as, .record bs, .record h => by
      simp only [toText, String.toList_append, List.append_assoc]
      exact ((tells_fields h).closed rfl).behind "\x7b".toList
    | _, _, .other _ _ _ htext hnumbers => by
      rw [htext, hnumbers.1, hnumbers.2]
      exact (Tells.refl _).congr (by simp)

theorem tells_items : ∀ {as bs : List Value}, sameItems as bs = true →
    Tells (itemsText as).toList (itemsText bs).toList (itemsNumbers as = itemsNumbers bs)
  | [], [], _ => (Tells.refl []).congr (by simp)
  | a :: as, b :: bs, h => by
    rw [sameItems, Bool.and_eq_true] at h
    have htail : Tells (itemsTail as) (itemsTail bs) (itemsNumbers as = itemsNumbers bs) := by
      match as, bs, h.2 with
      | [], [], _ => exact (Tells.refl []).congr (by simp)
      | _ :: _, _ :: _, hrest => exact (tells_items hrest).behind [',', ' ']
    rw [toList_itemsText, toList_itemsText, itemsNumbers, itemsNumbers]
    refine ((tells_text h.1).append htail (breaks_itemsTail as) (breaks_itemsTail bs)).congr ?_
    exact (List.append_eq_append_iff_of_size_eq_left (length_numbers h.1)).symm

theorem tells_fields : ∀ {as bs : List (String × Value)}, sameFields as bs = true →
    Tells (fieldsText as).toList (fieldsText bs).toList (fieldsNumbers as = fieldsNumbers bs)
  | [], [], _ => (Tells.refl []).congr (by simp)
  | (m, a) :: as, (n, b) :: bs, h => by
    rw [sameFields, Bool.and_eq_true, Bool.and_eq_true, beq_iff_eq] at h
    obtain ⟨⟨rfl, hvalue⟩, hrest⟩ := h
    have htail : Tells (fieldsTail as) (fieldsTail bs) (fieldsNumbers as = fieldsNumbers bs) := by
      match as, bs, hrest with
      | [], [], _ => exact (Tells.refl []).congr (by simp)
      | _ :: _, _ :: _, hrest => exact (tells_fields hrest).behind [',', ' ']
    rw [toList_fieldsText, toList_fieldsText, fieldsNumbers, fieldsNumbers]
    refine ((((tells_text hvalue).append htail (breaks_fieldsTail as) (breaks_fieldsTail bs)).behind
      [':', ' ']).behind m.toList).congr ?_
    exact (List.append_eq_append_iff_of_size_eq_left (length_numbers hvalue)).symm

end

/-- The texts of equal data are the same if and only if the numbers in them are written alike. -/
theorem toText_eq_iff {a b : Value} (h : a.same b = true) :
    a.toText = b.toText ↔ a.numbers = b.numbers := by
  have htells := tells_text h [] [] Text.breaks_nil Text.breaks_nil
  rwa [List.append_nil, List.append_nil, String.toList_inj, and_iff_left rfl] at htells

/-! ## Equality in the language -/

/-- Values are equal in the language if their data is, unless they are arrays or records in which
    some number is not written alike. -/
theorem equal_iff_of_same {a b : Value} (h : a.same b = true) :
    a.equal b = true ↔ (a.type = .array ∨ a.type = .record → a.numbers = b.numbers) := by
  rw [equal_iff]
  cases corresponds_of_same h with
  | number hsame =>
    have hcompare := compare_eq_iff_eq.mpr (eq_of_beq hsame)
    simpa [type, compare, Decimal.compare, toNumber] using hcompare
  | array hsame =>
    simpa [type, compare, compareText_eq_iff] using toText_eq_iff h
  | record hsame =>
    simpa [type, compare, compareText_eq_iff] using toText_eq_iff h
  | other htype hsimple hcompare =>
    exact ⟨fun _ hnested => absurd hnested (not_or.mpr hsimple), fun _ => ⟨htype, hcompare⟩⟩

/-- The arrays `[1.0]` and `[1.00]` are the same data, but they are not equal. -/
theorem same_not_equal :
    let a : Value := .array [.number ⟨false, 10, 1, by decide, by decide⟩]
    let b : Value := .array [.number ⟨false, 100, 2, by decide, by decide⟩]
    a.same b = true ∧ a.equal b = false := by
  decide +kernel

end Value

namespace Scope

variable {scope : Scope} {token : Token} {left right : Tree} {a b : Value} {levels : Nat}

section Operands

variable (hleft : scope.evaluateWithin levels left = .ok a)
  (hright : scope.evaluateWithin levels right = .ok b)

include hleft hright

theorem evaluateWithin_equal (htoken : scope.StandsFor token "=" ∨ scope.StandsFor token "==") :
    scope.evaluateWithin (levels + 1) (.node token [left, right]) = .ok (.boolean (a.equal b)) := by
  have hfound : ∀ name ∈ ["=", "=="], BuiltIn.operatorTable.find? .between name =
      some ⟨.between Precedence.comparison, .equal⟩ := by
    have hmem : ∀ name ∈ ["=", "=="],
        (name, ⟨.between Precedence.comparison, .equal⟩) ∈ BuiltIn.operators := by
      simp [BuiltIn.operators]
    exact fun name hname => BuiltIn.find?_operatorTable (hmem name hname)
  rcases htoken with hstands | hstands
  · exact evaluateWithin_between hstands (hfound "=" (by simp)) hleft hright
  · exact evaluateWithin_between hstands (hfound "==" (by simp)) hleft hright

theorem evaluateWithin_notEqual
    (htoken : scope.StandsFor token "!=" ∨ scope.StandsFor token "<>") :
    scope.evaluateWithin (levels + 1) (.node token [left, right]) =
      .ok (.boolean !(a.equal b)) := by
  have hfound : ∀ name ∈ ["!=", "<>"], BuiltIn.operatorTable.find? .between name =
      some ⟨.between Precedence.comparison, .notEqual⟩ := by
    have hmem : ∀ name ∈ ["!=", "<>"],
        (name, ⟨.between Precedence.comparison, .notEqual⟩) ∈ BuiltIn.operators := by
      simp [BuiltIn.operators]
    exact fun name hname => BuiltIn.find?_operatorTable (hmem name hname)
  rcases htoken with hstands | hstands
  · exact evaluateWithin_between hstands (hfound "!=" (by simp)) hleft hright
  · exact evaluateWithin_between hstands (hfound "<>" (by simp)) hleft hright

end Operands

/-- The token calls the built-in `SWITCH`. -/
def CallsSwitch (scope : Scope) (token : Token) : Prop :=
  token.kind = .function ∧ scope.functionOf? token = BuiltIn.functionTable.find? "SWITCH"

/-- `SWITCH` evaluates to the result of its first case if the value is equal to it, and to what it
    would be without the case if not. -/
theorem evaluateWithin_switch (hswitch : scope.CallsSwitch token)
    (hleft : scope.evaluateWithin levels left = .ok a)
    (hright : scope.evaluateWithin levels right = .ok b) (result : Tree) (rest : List Tree) :
    scope.evaluateWithin (levels + 1) (.node token (left :: right :: result :: rest)) =
      if a.equal b then
        scope.evaluateWithin levels result >>= fun value => .ok (value.finish scope.settings)
      else scope.evaluateWithin (levels + 1) (.node token (left :: rest)) := by
  have hfound : BuiltIn.functionTable.find? "SWITCH" =
      some ⟨BuiltIn.switchSignature, .switch⟩ :=
    BuiltIn.find?_functionTable (by simp [BuiltIn.functions, BuiltIn.basicFunctions,
      BuiltIn.switchSignature])
  have hfunction : scope.functionOf? token = some ⟨BuiltIn.switchSignature, .switch⟩ :=
    hswitch.2.trans hfound
  have hstep (cases : List Tree) :
      scope.step (scope.evaluateWithin levels) (.node token (left :: cases)) =
        BuiltIn.switchCases (scope.context (scope.evaluateWithin levels)) a
          (cases.map .tree) := by
    simp only [step, Tree.token, Tree.children, hswitch.1]
    rw [functionValue_switch hfunction, hleft]
    rfl
  rw [evaluateWithin_succ, evaluateWithin_succ, hstep, hstep, List.map_cons, List.map_cons,
    switchCases_cons, hright]
  change ((if a.equal b = true then _ else _) >>= _) = _
  split
  · rfl
  · rfl

end Scope

/-- Values of the same data are equal in the language, for the operators and for `SWITCH`, unless
    they are arrays or records in which some number is not written alike. -/
theorem Value.equal_of_same {a b : Value} (h : a.same b = true) :
    (a.equal b = true ↔ (a.type = .array ∨ a.type = .record → a.numbers = b.numbers)) ∧
    ∀ (scope : Scope) (levels : Nat) (left right : Tree),
      scope.evaluateWithin levels left = .ok a → scope.evaluateWithin levels right = .ok b →
      (∀ token, scope.StandsFor token "=" ∨ scope.StandsFor token "==" →
        scope.evaluateWithin (levels + 1) (.node token [left, right]) =
          .ok (.boolean (a.equal b))) ∧
      (∀ token, scope.StandsFor token "!=" ∨ scope.StandsFor token "<>" →
        scope.evaluateWithin (levels + 1) (.node token [left, right]) =
          .ok (.boolean !(a.equal b))) ∧
      ∀ token, scope.CallsSwitch token → ∀ (result : Tree) (rest : List Tree),
        scope.evaluateWithin (levels + 1) (.node token (left :: right :: result :: rest)) =
          if a.equal b then
            scope.evaluateWithin levels result >>= fun value => .ok (value.finish scope.settings)
          else scope.evaluateWithin (levels + 1) (.node token (left :: rest)) :=
  ⟨equal_iff_of_same h, fun _ _ _ _ hleft hright =>
    ⟨fun _ htoken => Scope.evaluateWithin_equal hleft hright htoken,
      fun _ htoken => Scope.evaluateWithin_notEqual hleft hright htoken,
      fun _ hswitch => Scope.evaluateWithin_switch hswitch hleft hright⟩⟩

/-- Two records with the array `[1.50]` are equal, for the operators of the standard configuration
    too. -/
theorem Value.equal_of_same_record :
    let a : Value :=
      .record [("n", .array [.number ⟨false, 150, 2, by decide, by decide⟩])]
    let scope : Scope := Scope.ofPair a a
    let x : Tree := .node ⟨.name, "x", 0, none⟩ []
    let y : Tree := .node ⟨.name, "y", 4, none⟩ []
    let unequal : Token := ⟨.infixOperator, "<>", 2, none⟩
    a.same a = true ∧ a.equal a = true ∧ scope.evaluateWithin 1 x = .ok a ∧
    scope.evaluateWithin 1 y = .ok a ∧
    scope.evaluateWithin 2 (.node unequal [x, y]) = .ok (.boolean !(a.equal a)) := by
  intro a scope x y unequal
  have hsame : a.same a = true := by decide +kernel
  obtain ⟨hlookupX, hlookupY⟩ := Scope.lookup?_ofPair a a
  have hx : scope.evaluateWithin 1 x = .ok a := Scope.evaluateWithin_variable rfl hlookupX rfl rfl
  have hy : scope.evaluateWithin 1 y = .ok a := Scope.evaluateWithin_variable rfl hlookupY rfl rfl
  obtain ⟨hequal, hscope⟩ := equal_of_same hsame
  exact ⟨hsame, hequal.mpr fun _ => rfl, hx, hy,
    (hscope scope 1 x y hx hy).2.1 unequal (.inr (Scope.standsFor_of_unbound rfl "<>" 2))⟩

end Formula
