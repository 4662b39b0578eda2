-- SUMMARY: Which item of an array an index selects, and which indices are out of bounds.
import Formula.Proofs.Decimal.Value
import Formula.Proofs.Evaluation.Substitution
import Formula.Proofs.Value.Order

/-!
# Items of arrays

An index selects by the whole number toward zero: where the index has no sign, `Scope.itemAt` takes
the item at that place, or there is none. An index with a sign selects no item, and that includes
the indices between minus one and zero and a zero that has kept its sign.
-/

namespace Formula

/-! ## Indices -/

namespace Decimal

variable {n : Decimal}

theorem toIndex?_trunc (hsign : n.negative = false) (hword : n.whole < twoTo 64) :
    n.trunc.toIndex? = some n.whole := by
  have hwhole : n.trunc.whole = n.whole := Nat.div_one _
  rw [toIndex?, hwhole]
  exact if_pos ⟨hsign, hword⟩

theorem eq_of_toIndex?_trunc {place : Nat} (h : n.trunc.toIndex? = some place) :
    n.negative = false ∧ n.whole = place := by
  have hwhole : n.trunc.whole = n.whole := Nat.div_one _
  unfold toIndex? at h
  split at h
  · rename_i hindex
    exact ⟨hindex.1, hwhole.symm.trans (Option.some.inj h)⟩
  · cases h

end Decimal

namespace Scope

variable {scope : Scope} {token : Token} {items : List Value} {n : Decimal}

/-! ## Items -/

theorem itemAt_of_lt (hsign : n.negative = false) (hcount : items.length ≤ twoTo 64)
    (hplace : n.whole < items.length) :
    itemAt token (.array items) (.number n) = .ok items[n.whole] := by
  have hindex := Decimal.toIndex?_trunc hsign (hplace.trans_le hcount)
  have hitem : items[n.whole]? = some items[n.whole] := List.getElem?_eq_getElem hplace
  simp only [itemAt, hindex, Option.bind_some, hitem]

/-- No item is at an index with a sign, nor at one behind the last item. -/
theorem itemAt_of_not (h : n.negative = true ∨ items.length ≤ n.whole) :
    itemAt token (.array items) (.number n) =
      .error (.indexOutOfBounds n.trunc items.length token.position) := by
  have hnone : n.trunc.toIndex?.bind (items[·]?) = none := by
    apply Option.bind_eq_none_iff.mpr
    intro place hplace
    obtain ⟨hsign, rfl⟩ := Decimal.eq_of_toIndex?_trunc hplace
    rcases h with hnegative | hbehind
    · exact Bool.noConfusion (hnegative.symm.trans hsign)
    · exact List.getElem?_eq_none hbehind
  simp only [itemAt, hnone]

/-! ## Evaluation -/

variable {levels : Nat} {array index : Tree}

theorem evaluateWithin_itemAt (hkind : token.kind = .arrayIndex) {a i : Value}
    (harray : scope.evaluateWithin levels array = .ok a)
    (hindex : scope.evaluateWithin levels index = .ok i) :
    scope.evaluateWithin (levels + 1) (.node token [array, index]) =
      (itemAt token a i).map (·.finish scope.settings) := by
  have hstep : scope.step (scope.evaluateWithin levels) (.node token [array, index]) =
      itemAt token a i := by
    simp only [step, Tree.token, hkind, Tree.children, indexValue, harray, hindex]
    rfl
  rw [evaluateWithin_succ, hstep]
  cases itemAt token a i <;> rfl

/-- The item at the whole number toward zero is selected, and the index is out of bounds if there is
    none. The index zero is also out of bounds, although there is an item, where the number has a
    sign: this is so from above minus one up to a zero that has kept its sign. -/
theorem evaluateWithin_index (hkind : token.kind = .arrayIndex) (hcount : items.length ≤ twoTo 64)
    (harray : scope.evaluateWithin levels array = .ok (.array items))
    (hindex : scope.evaluateWithin levels index = .ok (.number n)) :
    let result := scope.evaluateWithin (levels + 1) (.node token [array, index])
    let outOfBounds : EvalError := .indexOutOfBounds n.trunc items.length token.position
    let whole := RoundingMode.towardZero.select n.value
    (∀ (place : Nat) (h : place < items.length), whole = place →
      (place = 0 → n.negative = false) → result = .ok (items[place].finish scope.settings)) ∧
    (whole < 0 ∨ items.length ≤ whole → result = .error outOfBounds) ∧
    (whole = 0 → n.negative = true → result = .error outOfBounds) := by
  intro result outOfBounds whole
  have hresult : result = (itemAt token (.array items) (.number n)).map (·.finish scope.settings) :=
    evaluateWithin_itemAt hkind harray hindex
  have hwhole : whole = if n.negative then -(n.whole : ℤ) else n.whole := n.toInt_eq_select.symm
  have hout (h : n.negative = true ∨ items.length ≤ n.whole) : result = .error outOfBounds := by
    rw [hresult, itemAt_of_not h]
    rfl
  cases hsign : n.negative with
  | true =>
    rw [hsign, if_pos rfl] at hwhole
    refine ⟨fun place hplace heq hzero => ?_, fun _ => hout (.inl hsign),
      fun _ _ => hout (.inl hsign)⟩
    exact Bool.noConfusion (hzero (by omega))
  | false =>
    rw [hsign, if_neg Bool.false_ne_true] at hwhole
    refine ⟨fun place hplace heq _ => ?_, fun hbounds => hout (.inr (by omega)),
      fun _ h => Bool.noConfusion h⟩
    obtain rfl : n.whole = place := by omega
    rw [hresult, itemAt_of_lt hsign hcount hplace]
    rfl

/-- Of two items, `1.9` selects the second one, and `-0.5` is out of bounds. -/
theorem evaluateWithin_index_pair :
    let items : List Value := [.text "a", .text "b"]
    let more : Decimal := ⟨false, 19, 1, by decide, by decide⟩
    let less : Decimal := ⟨true, 5, 1, by decide, by decide⟩
    let x : Tree := .node ⟨.name, "x", 0, none⟩ []
    let y : Tree := .node ⟨.name, "y", 2, none⟩ []
    let token : Token := ⟨.arrayIndex, "[", 1, none⟩
    let result (n : Decimal) : Except EvalError Value :=
      (Scope.ofPair (.array items) (.number n)).evaluateWithin 2 (.node token [x, y])
    items.length ≤ twoTo 64 ∧ result more = .ok (.text "b") ∧
      RoundingMode.towardZero.select less.value = 0 ∧
      result less = .error (.indexOutOfBounds less.trunc 2 1) := by
  intro items more less x y token result
  have hkind : token.kind = .arrayIndex := rfl
  have hcount : items.length ≤ twoTo 64 := by decide
  have harray (n : Decimal) : (Scope.ofPair (.array items) (.number n)).evaluateWithin 1 x =
      .ok (.array items) :=
    evaluateWithin_variable rfl (lookup?_ofPair _ _).1 rfl rfl
  have hindex (n : Decimal) (hfinished : Settings.standard.finishNumber n = n) :
      (Scope.ofPair (.array items) (.number n)).evaluateWithin 1 y = .ok (.number n) :=
    evaluateWithin_variable rfl (lookup?_ofPair _ _).2 rfl (congrArg Value.number hfinished)
  obtain ⟨hitem, -⟩ := evaluateWithin_index hkind hcount (harray more)
    (hindex more (by decide +kernel))
  obtain ⟨-, -, hsigned⟩ := evaluateWithin_index hkind hcount (harray less)
    (hindex less (by decide +kernel))
  have hmore : RoundingMode.towardZero.select more.value = (1 : Nat) := by
    rw [← Decimal.toInt_eq_select]
    decide +kernel
  have hless : RoundingMode.towardZero.select less.value = 0 := by
    rw [← Decimal.toInt_eq_select]
    decide +kernel
  exact ⟨hcount, hitem 1 (by decide) hmore (by decide), hless, hsigned hless rfl⟩

end Scope
end Formula
