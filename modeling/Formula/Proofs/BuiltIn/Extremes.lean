-- SUMMARY: The least and the greatest of the numbers in nested arrays: which arguments have one, and what does not change it.
import Formula.Configuration
import Formula.Proofs.BuiltIn.Table
import Formula.Proofs.Decimal.Value

/-!
# Extremes

The arguments of an extreme count by their leaves: what is left of them when all arrays are taken
apart. The numbers are the leaves, in order, up to the first leaf that is none
(`BuiltIn.numbersOfAll_eq`), and of two numbers the fold keeps one that is at least as extreme as
both, so its result is at least as extreme as all of them (`BuiltIn.best_spec`). The value of such a
number depends on no more than which leaves there are.
-/

namespace Formula

/-! ## Leaves -/

namespace Value

mutual

/-- What is left of a value when its arrays are taken apart, from left to right. -/
def leaves : Value → List Value
  | array items => leavesOfItems items
  | leaf => [leaf]

def leavesOfItems : List Value → List Value
  | [] => []
  | item :: rest => leaves item ++ leavesOfItems rest

end

variable {leaf : Value} {items : List Value}

theorem leavesOfItems_append (items others : List Value) :
    leavesOfItems (items ++ others) = leavesOfItems items ++ leavesOfItems others := by
  induction items with
  | nil => rfl
  | cons item rest ih => simp only [List.cons_append, leavesOfItems, ih, List.append_assoc]

theorem mem_leavesOfItems : leaf ∈ leavesOfItems items ↔ ∃ item ∈ items, leaf ∈ leaves item := by
  induction items with
  | nil => simp [leavesOfItems]
  | cons item rest ih => simp [leavesOfItems, ih]

theorem eq_number_of_type (h : leaf.type = .number) : ∃ n, leaf = number n := by
  cases leaf with
  | number n => exact ⟨n, rfl⟩
  | _ => cases h

end Value

namespace BuiltIn

open Value (leaves leavesOfItems)

variable {token : Token} {arguments others : List Value}

/-- The number that a leaf is. -/
def leafNumber (token : Token) : Value → Except EvalError Decimal
  | .number n => .ok n
  | leaf => .error (token.unsupported (.numbersExpected leaf.type))

theorem leafNumber_of_ne {leaf : Value} (h : leaf.type ≠ .number) :
    leafNumber token leaf = .error (token.unsupported (.numbersExpected leaf.type)) := by
  cases leaf with
  | number n => exact absurd rfl h
  | _ => rfl

mutual

/-- The numbers of a value are those of its leaves, one after the other. -/
theorem numbersOf_eq : ∀ value : Value,
    numbersOf token value = (leaves value).mapM (leafNumber token)
  | .array items => numbersOfAll_eq items
  | .number _ | .text _ | .boolean _ | .record _ | .instant _ | .span _ | .binary _ | .null
  | .tree _ => rfl

theorem numbersOfAll_eq : ∀ values : List Value,
    numbersOfAll token values = (leavesOfItems values).mapM (leafNumber token)
  | [] => rfl
  | value :: rest => by
    rw [numbersOfAll, leavesOfItems, List.mapM_append, numbersOf_eq value, numbersOfAll_eq rest]

end

/-- The first leaf that is no number is at fault. -/
theorem numbersOfAll_fault {before after : List Value} {leaf : Value}
    (hleaves : leavesOfItems arguments = before ++ leaf :: after)
    (hbefore : ∀ other ∈ before, other.type = .number) (hleaf : leaf.type ≠ .number) :
    numbersOfAll token arguments = .error (token.unsupported (.numbersExpected leaf.type)) := by
  rw [numbersOfAll_eq, hleaves]
  clear hleaves
  induction before with
  | nil => rw [List.nil_append, List.mapM_cons, leafNumber_of_ne hleaf]; rfl
  | cons first rest ih =>
    obtain ⟨hfirst, hrest⟩ := List.forall_mem_cons.mp hbefore
    obtain ⟨n, rfl⟩ := Value.eq_number_of_type hfirst
    rw [List.cons_append, List.mapM_cons, ih hrest]
    rfl

/-- Leaves that are numbers are the numbers. -/
theorem numbersOfAll_numbers (token : Token)
    (h : ∀ leaf ∈ leavesOfItems arguments, leaf.type = .number) :
    ∃ numbers, leavesOfItems arguments = numbers.map .number ∧
      numbersOfAll token arguments = .ok numbers := by
  rw [numbersOfAll_eq]
  generalize leavesOfItems arguments = all at h ⊢
  induction all with
  | nil => exact ⟨[], rfl, rfl⟩
  | cons first rest ih =>
    obtain ⟨hfirst, hrest⟩ := List.forall_mem_cons.mp h
    obtain ⟨n, rfl⟩ := Value.eq_number_of_type hfirst
    obtain ⟨numbers, hnumbers, hresult⟩ := ih hrest
    refine ⟨n :: numbers, by rw [hnumbers, List.map_cons], ?_⟩
    rw [List.mapM_cons, hresult]
    rfl

/-! ## The best of numbers -/

section Best

variable {better : Decimal → Decimal → Bool} {atLeast : ℚ → ℚ → Prop}
  (htotal : ∀ x y, atLeast x y ∨ atLeast y x)
  (htrans : ∀ {x y z}, atLeast x y → atLeast y z → atLeast x z)
  (hbetter : ∀ a b, better a b = true ↔ ¬ atLeast b.value a.value)

include htotal hbetter

/-- What is kept of two numbers is one of them and at least as good as both. -/
theorem kept_of_two (first next : Decimal) :
    ∃ kept, (if better next first then next else first) = kept ∧ (kept = first ∨ kept = next) ∧
      atLeast kept.value first.value ∧ atLeast kept.value next.value := by
  have hself (x : ℚ) : atLeast x x := or_self_iff.mp (htotal x x)
  by_cases h : better next first = true
  · have hless := (hbetter next first).mp h
    exact ⟨next, if_pos h, .inr rfl, (htotal _ _).resolve_left hless, hself _⟩
  · have hfirst := not_not.mp (mt (hbetter next first).mpr h)
    exact ⟨first, if_neg h, .inl rfl, hself _, hfirst⟩

include htrans

/-- The fold ends with one of the numbers, and it is at least as good as all of them. -/
theorem foldl_best (rest : List Decimal) (first : Decimal) :
    ∃ result, rest.foldl (fun best n => if better n best then n else best) first = result ∧
      result ∈ first :: rest ∧ ∀ m ∈ first :: rest, atLeast result.value m.value := by
  induction rest generalizing first with
  | nil =>
    have hself : atLeast first.value first.value := or_self_iff.mp (htotal _ _)
    exact ⟨first, rfl, List.mem_singleton_self _, by simpa using hself⟩
  | cons next rest ih =>
    obtain ⟨kept, hkept, hone, hfirst, hnext⟩ := kept_of_two htotal hbetter first next
    obtain ⟨result, hresult, hmem, hall⟩ := ih kept
    obtain ⟨hle, hrest⟩ := List.forall_mem_cons.mp hall
    refine ⟨result, by rw [List.foldl_cons, hkept, hresult], ?_, ?_⟩
    · rcases List.mem_cons.mp hmem with rfl | hlater
      · rcases hone with rfl | rfl <;> simp
      · exact List.mem_cons_of_mem _ (List.mem_cons_of_mem _ hlater)
    · exact List.forall_mem_cons.mpr ⟨htrans hle hfirst,
        List.forall_mem_cons.mpr ⟨htrans hle hnext, hrest⟩⟩

theorem best_spec {numbers : List Decimal} (hsome : numbers ≠ []) :
    ∃ n ∈ numbers, best better numbers = some n ∧ ∀ m ∈ numbers, atLeast n.value m.value := by
  obtain ⟨first, rest, rfl⟩ := List.exists_cons_of_ne_nil hsome
  obtain ⟨n, hfold, hmem, hall⟩ := foldl_best htotal htrans hbetter rest first
  exact ⟨n, hmem, congrArg some hfold, hall⟩

end Best

/-! ## The functions -/

/-- An extreme of the language: its name, its action, and which numbers are at least as extreme as
    others. -/
structure Extreme where
  name : String
  action : FunctionAction
  atLeast : ℚ → ℚ → Prop

def extremes : List Extreme := [⟨"MIN", .min, (· ≤ ·)⟩, ⟨"MAX", .max, (· ≥ ·)⟩]

theorem less_iff {a b : Decimal} : a.less b = true ↔ a.value < b.value := by
  have hpow : (0 : ℚ) < 10 ^ Decimal.maxPaddedScale := by positivity
  rw [Decimal.less, decide_eq_true_iff, ← Int.cast_lt (R := ℚ), Decimal.units_eq,
    Decimal.units_eq, mul_lt_mul_iff_left₀ hpow]

/-- The action of an extreme looks for the best of the numbers, and of two numbers that are each at
    least as extreme as the other one the value is the same. -/
theorem applyFunction_extreme {e : Extreme} (he : e ∈ extremes) (host : Array Behaviour)
    (context : CallContext) (token : Token) : ∃ better : Decimal → Decimal → Bool,
      (∀ arguments, applyFunction host context token e.action arguments =
        extreme token arguments better) ∧
      (∀ x y, e.atLeast x y ∨ e.atLeast y x) ∧
      (∀ {x y z}, e.atLeast x y → e.atLeast y z → e.atLeast x z) ∧
      (∀ {x y}, e.atLeast x y → e.atLeast y x → x = y) ∧
      ∀ a b, better a b = true ↔ ¬ e.atLeast b.value a.value := by
  simp only [extremes, List.mem_cons, List.not_mem_nil, or_false] at he
  rcases he with rfl | rfl
  · refine ⟨Decimal.less, fun _ => rfl, le_total, le_trans, le_antisymm, fun a b => ?_⟩
    rw [less_iff, not_le]
  · refine ⟨fun a b => b.less a, fun _ => rfl, fun x y => le_total y x, ge_trans, ge_antisymm,
      fun a b => ?_⟩
    rw [less_iff, not_le]

theorem find?_extreme : ∀ e ∈ extremes,
    functionTable.find? e.name = some ⟨variadic ["first"] "values", e.action⟩ := by
  intro e he
  apply find?_functionTable
  simp only [extremes, List.mem_cons, List.not_mem_nil, or_false] at he
  rcases he with rfl | rfl <;> simp [functions, basicFunctions]

/-! ## Other ways to pass the same numbers -/

/-- The arguments of a call in another order, in other arrays, and as often as is wanted. -/
inductive Rearranged : List Value → List Value → Prop
  | permuted {first second : List Value} (h : first.Perm second) : Rearranged first second
  | grouped (before items after : List Value) :
    Rearranged (before ++ items ++ after) (before ++ .array items :: after)
  | repeated {list : List Value} {argument : Value} (h : argument ∈ list) :
    Rearranged list (argument :: list)
  | symm {first second : List Value} (h : Rearranged first second) : Rearranged second first
  | trans {first second third : List Value} (h : Rearranged first second)
    (h' : Rearranged second third) : Rearranged first third

/-- The leaves stay the same. -/
theorem Rearranged.mem_leaves (h : Rearranged arguments others) (leaf : Value) :
    leaf ∈ leavesOfItems arguments ↔ leaf ∈ leavesOfItems others := by
  induction h with
  | permuted h => simp only [Value.mem_leavesOfItems, h.mem_iff]
  | grouped before items after =>
    have harray : leaves (.array items) = leavesOfItems items := rfl
    simp only [Value.leavesOfItems_append, leavesOfItems, harray, List.append_assoc]
  | repeated h =>
    rw [leavesOfItems, List.mem_append]
    refine ⟨.inr, ?_⟩
    rintro (hleaf | hleaf)
    · exact Value.mem_leavesOfItems.mpr ⟨_, h, hleaf⟩
    · exact hleaf
  | symm _ ih => exact ih.symm
  | trans _ _ ih ih' => exact ih.trans ih'

section Result

variable {e : Extreme} (he : e ∈ extremes) (host : Array Behaviour) (context : CallContext)
  (token : Token)

include he

/-- An extreme of arguments with no other leaves than numbers is one of these. -/
theorem extreme_of_numbers (hnumbers : ∀ leaf ∈ leavesOfItems arguments, leaf.type = .number)
    (hsome : leavesOfItems arguments ≠ []) : ∃ n, .number n ∈ leavesOfItems arguments ∧
      applyFunction host context token e.action arguments = .ok (.number n) ∧
      ∀ m, .number m ∈ leavesOfItems arguments → e.atLeast n.value m.value := by
  obtain ⟨better, happly, htotal, htrans, -, hbetter⟩ := applyFunction_extreme he host context token
  obtain ⟨numbers, hleaves, hall⟩ := numbersOfAll_numbers token hnumbers
  have hmem (m : Decimal) : .number m ∈ leavesOfItems arguments ↔ m ∈ numbers := by
    simp [hleaves]
  have hnumbersSome : numbers ≠ [] := by
    rintro rfl
    exact hsome hleaves
  obtain ⟨n, hn, hbest, hmost⟩ := best_spec htotal htrans hbetter hnumbersSome
  refine ⟨n, (hmem n).mpr hn, ?_, fun m hm => hmost m ((hmem m).mp hm)⟩
  rw [happly, extreme, hall]
  simp only [bind, Except.bind, hbest]
  rfl

/-- The extremes of arrays nested to any depth. The first leaf that is no number is at fault, and so
    are arguments without leaves. All others have a number among their leaves that is at least as
    extreme as each of them, and its value stays when the arguments are permuted, put into arrays,
    taken out of them or repeated. -/
theorem extreme_of_leaves (arguments : List Value) :
    functionTable.find? e.name = some ⟨variadic ["first"] "values", e.action⟩ ∧
    (∀ before leaf after, leavesOfItems arguments = before ++ leaf :: after →
      (∀ other ∈ before, other.type = .number) → leaf.type ≠ .number →
      applyFunction host context token e.action arguments =
        .error (token.unsupported (.numbersExpected leaf.type))) ∧
    (leavesOfItems arguments = [] →
      applyFunction host context token e.action arguments =
        .error (token.invalidParameter "values" .empty)) ∧
    ((∀ leaf ∈ leavesOfItems arguments, leaf.type = .number) → leavesOfItems arguments ≠ [] →
      ∃ n, .number n ∈ leavesOfItems arguments ∧
        applyFunction host context token e.action arguments = .ok (.number n) ∧
        (∀ m, .number m ∈ leavesOfItems arguments → e.atLeast n.value m.value) ∧
        ∀ others, Rearranged arguments others → ∃ m : Decimal,
          applyFunction host context token e.action others = .ok (.number m) ∧
          m.value = n.value) := by
  obtain ⟨better, happly, -, -, hantisymm, -⟩ := applyFunction_extreme he host context token
  refine ⟨find?_extreme e he, ?_, ?_, ?_⟩
  · intro before leaf after hleaves hbefore hleaf
    rw [happly, extreme, numbersOfAll_fault hleaves hbefore hleaf]
    rfl
  · intro hnone
    rw [happly, extreme, numbersOfAll_eq, hnone]
    rfl
  · intro hnumbers hsome
    obtain ⟨n, hn, hresult, hmost⟩ := extreme_of_numbers he host context token hnumbers hsome
    refine ⟨n, hn, hresult, hmost, fun others hothers => ?_⟩
    have hmem := hothers.mem_leaves
    obtain ⟨m, hm, hresult', hmost'⟩ := extreme_of_numbers he host context token
      (fun leaf hleaf => hnumbers leaf ((hmem leaf).mpr hleaf))
      (List.ne_nil_of_mem ((hmem _).mp hn))
    exact ⟨m, hresult', hantisymm (hmost' n ((hmem _).mp hn)) (hmost m ((hmem _).mpr hm))⟩

end Result

/-- The least of `[2, []]` and `-1.0` is that of `-1.0`, `2` and `2`. A text in an array is at fault
    before a value behind it, and an empty array has no extreme. -/
theorem extreme_of_leaves_nested :
    let least : Extreme := ⟨"MIN", .min, (· ≤ ·)⟩
    let two : Value := .number .two
    let minus : Value := .number ⟨true, 10, 1, by decide, by decide⟩
    let context : CallContext := ⟨Settings.standard, .ofSeed .epoch 0, .ok⟩
    let token : Token := { kind := .function, lexeme := "MIN", position := 0 }
    let apply := applyFunction #[] context token least.action
    least ∈ extremes ∧
    (∃ n m : Decimal, apply [.array [two, .array []], minus] = .ok (.number n) ∧ n.value = -1 ∧
      apply [minus, two, two] = .ok (.number m) ∧ m.value = n.value) ∧
    apply [two, .array [.text "x"], .null] =
      .error (token.unsupported (.numbersExpected .text)) ∧
    apply [.array []] = .error (token.invalidParameter "values" .empty) := by
  intro least two minus context token apply
  have hleast : least ∈ extremes := List.mem_cons_self
  have hall := extreme_of_leaves hleast #[] context token
  have hleaves : leavesOfItems [.array [two, .array []], minus] = [two, minus] := rfl
  have hminus : (⟨true, 10, 1, by decide, by decide⟩ : Decimal).value = -1 := by
    norm_num [Decimal.value, Decimal.signed]
  have htwo : Decimal.two.value = 2 := by
    norm_num [Decimal.value, Decimal.signed, Decimal.two, Decimal.ofSmall]
  obtain ⟨n, hn, hresult, hmost, hothers⟩ := (hall [.array [two, .array []], minus]).2.2.2
    (by simp [hleaves, two, minus, Value.type]) (by simp [hleaves])
  -- Both arrays are taken apart, the first number is repeated, and the order is turned around.
  have hrearranged : Rearranged [.array [two, .array []], minus] [minus, two, two] :=
    (Rearranged.grouped [] [two, .array []] [minus]).symm.trans
      ((Rearranged.grouped [two] [] [minus]).symm.trans
        ((Rearranged.repeated List.mem_cons_self).trans
          (.permuted (List.reverse_perm [minus, two, two]))))
  obtain ⟨m, hresult', hvalue⟩ := hothers _ hrearranged
  refine ⟨hleast, ⟨n, m, hresult, ?_, hresult', hvalue⟩,
    (hall [two, .array [.text "x"], .null]).2.1 [two] (.text "x") [.null] rfl ?_ ?_,
    (hall [.array []]).2.2.1 rfl⟩
  · have hle : n.value ≤ -1 := hminus ▸ hmost _ (by simp [hleaves, minus])
    rw [hleaves] at hn
    simp only [two, minus, List.mem_cons, Value.number.injEq, List.not_mem_nil, or_false] at hn
    rcases hn with rfl | rfl
    · rw [htwo] at hle
      norm_num at hle
    · exact hminus
  · simp [two, Value.type]
  · simp [Value.type]

end BuiltIn
end Formula
