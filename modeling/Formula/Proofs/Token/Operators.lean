-- SUMMARY: No operator is longer than the longest name of its table, so the scanner finds the longest operator of a run.
import Formula.Proofs.Token.Number

/-!
# The longest operator

The scanner looks for an operator among as many characters as the longest name of the table has.
That length counts the names in upper case, and a name is not longer than its upper case
(`Text.length_le_upper`), so no beginning of the text that is an operator is left out
(`OperatorTable.Capped`). The operator that is found is then the longest one among all the operator
characters that follow (`isLongest_operatorRun`).
-/

namespace Formula

/-! ## Upper case -/

namespace Text

theorem upperExpansions_ne_nil : ∀ entry ∈ CaseTable.upperExpansions, entry.2 ≠ [] := by
  decide

/-- A character becomes one or more in upper case. -/
theorem upperChar_ne_nil (c : Char) : upperChar c ≠ [] := by
  unfold upperChar CaseTable.expand
  split
  · exact List.cons_ne_nil _ _
  · split
    · rename_i hfound
      have hexpansion := upperExpansions_ne_nil _ (List.mem_of_find?_eq_some hfound)
      exact fun hnone => hexpansion (List.map_eq_nil_iff.mp hnone)
    · exact List.cons_ne_nil _ _

theorem length_le_upper (s : String) : s.length ≤ (upper s).length := by
  rw [upper, String.length_ofList, ← String.length_toList]
  induction s.toList with
  | nil => exact Nat.le_refl 0
  | cons c rest ih =>
    have hpos : 0 < (upperChar c).length := List.length_pos_iff.mpr (upperChar_ne_nil c)
    rw [List.flatMap_cons, List.length_append, List.length_cons]
    omega

end Text

/-! ## Tables -/

namespace OperatorTable

/-- A table that is empty or has the built-in operators, and to which operators were added, one by
    one or several together. -/
inductive Assembled : OperatorTable → Prop
  | empty : Assembled .empty
  | standard : Assembled BuiltIn.operatorTable
  | insert {table} (known : Assembled table) (name : String) (operator : Operator) :
    Assembled (table.insert name operator)
  | extend {table} (known : Assembled table) (operators : List (String × Operator)) :
    Assembled (table.extend operators)

variable {table : OperatorTable} {fixity : Fixity} {name : String}

/-- No name of the table is longer than the longest one. -/
def Capped (table : OperatorTable) : Prop :=
  ∀ fixity, ∀ name ∈ Dictionary.names (table.part fixity), name.length ≤ table.longestName

theorem capped_empty : Capped .empty := by
  intro fixity name hname
  cases fixity <;> cases hname

theorem longestName_insert (table : OperatorTable) (name : String) (operator : Operator) :
    (table.insert name operator).longestName =
      max table.longestName (Text.upper name).length := by
  obtain ⟨⟨place, _, _, _, _⟩, _⟩ := operator
  cases place <;> rfl

theorem Capped.insert (h : table.Capped) (name : String) (operator : Operator) :
    (table.insert name operator).Capped := by
  intro fixity other hother
  rw [longestName_insert]
  rw [part_insert] at hother
  split at hother
  · rcases Dictionary.mem_names_insert.mp hother with rfl | hold
    · exact Nat.le_max_right _ _
    · exact Nat.le_trans (h fixity other hold) (Nat.le_max_left _ _)
  · exact Nat.le_trans (h fixity other hother) (Nat.le_max_left _ _)

theorem Capped.extend (h : table.Capped) (operators : List (String × Operator)) :
    (table.extend operators).Capped := by
  induction operators generalizing table with
  | nil => exact h
  | cons entry rest ih => exact ih (h.insert entry.1 entry.2)

theorem Assembled.capped (h : Assembled table) : table.Capped := by
  induction h with
  | empty => exact capped_empty
  | standard => exact capped_empty.extend BuiltIn.operators
  | insert _ name operator ih => exact ih.insert name operator
  | extend _ operators ih => exact ih.extend operators

/-- Every spelling of an operator's name is short enough, and so is its upper case. -/
theorem Capped.length_le (h : table.Capped) (hhas : table.has fixity name = true) :
    name.length ≤ table.longestName ∧ (Text.upper name).length ≤ table.longestName := by
  have hmem : Text.upper name ∈ Dictionary.names (table.part fixity) :=
    Dictionary.contains_iff.mp hhas
  have hupper := h fixity _ hmem
  exact ⟨Nat.le_trans (Text.length_le_upper name) hupper, hupper⟩

end OperatorTable

/-! ## Places of operators -/

namespace Token

/-- The place that an operator of this name takes: after an operand one that stands behind it is
    preferred to one between two, and elsewhere it stands before its operand. -/
inductive TakesPlace (operators : OperatorTable) : Bool → String → Fixity → Prop
  | after {name} (known : operators.has .after name = true) : TakesPlace operators true name .after
  | between {name} (other : operators.has .after name = false)
      (known : operators.has .between name = true) : TakesPlace operators true name .between
  | before {name} (known : operators.has .before name = true) :
    TakesPlace operators false name .before

variable {operators : OperatorTable} {afterValue : Bool} {name : String} {fixity : Fixity}

theorem operatorFixity?_eq_some_iff :
    operatorFixity? operators afterValue name = some fixity ↔
      TakesPlace operators afterValue name fixity := by
  constructor
  · intro h
    unfold operatorFixity? at h
    split at h
    · rename_i hafter
      subst hafter
      split at h
      · rename_i hknown
        cases h
        exact .after hknown
      · rename_i hother
        split at h
        · rename_i hknown
          cases h
          exact .between (Bool.eq_false_iff.mpr hother) hknown
        · cases h
    · rename_i hafter
      obtain rfl := Bool.eq_false_iff.mpr hafter
      split at h
      · rename_i hknown
        cases h
        exact .before hknown
      · cases h
  · intro h
    cases h with
    | after known => simp [operatorFixity?, known]
    | between other known => simp [operatorFixity?, other, known]
    | before known => simp [operatorFixity?, known]

/-- The characters are an operator after an operand, or where there is none. -/
def IsOperator (operators : OperatorTable) (afterValue : Bool) (lexeme : List Char) : Prop :=
  lexeme ≠ [] ∧ ∃ fixity, TakesPlace operators afterValue (String.ofList lexeme) fixity

theorem length_le_of_isOperator (h : operators.Capped) {lexeme : List Char}
    (hlexeme : IsOperator operators afterValue lexeme) :
    lexeme.length ≤ operators.longestName := by
  obtain ⟨-, fixity, hplace⟩ := hlexeme
  obtain ⟨hhas, -⟩ := has_of_operatorFixity? (operatorFixity?_eq_some_iff.mpr hplace)
  have hlength := (h.length_le hhas).1
  rwa [String.length_ofList] at hlength

/-! ## Search -/

variable {run lexeme other : List Char} {length : Nat}

/-- Where nothing is found no beginning of this length is an operator. -/
theorem not_isOperator_of_longestOperator?
    (h : longestOperator? operators afterValue run length = none)
    (hother : other <+: run) (hlength : other.length ≤ length) :
    ¬ IsOperator operators afterValue other := by
  rintro ⟨hnonempty, fixity, hplace⟩
  induction length with
  | zero => exact hnonempty (List.length_eq_zero_iff.mp (Nat.le_zero.mp hlength))
  | succ length ih =>
    rw [longestOperator?] at h
    split at h
    · cases h
    · rename_i hnone
      rcases Nat.lt_or_eq_of_le hlength with hshorter | hsame
      · exact ih h (Nat.le_of_lt_succ hshorter)
      · rw [← hsame, ← List.prefix_iff_eq_take.mp hother,
          operatorFixity?_eq_some_iff.mpr hplace] at hnone
        cases hnone

/-- No beginning of this length that is an operator is longer than the one that is found. -/
theorem length_le_of_longestOperator?
    (h : longestOperator? operators afterValue run length = some (lexeme, fixity))
    (hrun : length ≤ run.length) (hother : other <+: run) (hlength : other.length ≤ length)
    (hoperator : IsOperator operators afterValue other) : other.length ≤ lexeme.length := by
  induction length with
  | zero => cases h
  | succ length ih =>
    rw [longestOperator?] at h
    split at h
    · cases h
      rwa [List.length_take_of_le hrun]
    · rename_i hnone
      rcases Nat.lt_or_eq_of_le hlength with hshorter | hsame
      · exact ih h (Nat.le_of_succ_le hrun) (Nat.le_of_lt_succ hshorter)
      · obtain ⟨-, place, hplace⟩ := hoperator
        rw [← hsame, ← List.prefix_iff_eq_take.mp hother,
          operatorFixity?_eq_some_iff.mpr hplace] at hnone
        cases hnone

theorem isLongest_of_longestOperator?
    (h : longestOperator? operators afterValue run run.length = some (lexeme, fixity)) :
    IsLongest (IsOperator operators afterValue) run lexeme ∧
      TakesPlace operators afterValue (String.ofList lexeme) fixity := by
  have hplace := operatorFixity?_eq_some_iff.mp (operatorFixity?_of_longest h)
  obtain ⟨hbegins, hnonempty⟩ := longestOperator?_prefix h
  have hrun : run ≠ [] := by
    rintro rfl
    cases h
  refine ⟨⟨hbegins, ⟨hnonempty hrun, fixity, hplace⟩, ?_⟩, hplace⟩
  intro other hother hoperator
  exact length_le_of_longestOperator? h (Nat.le_refl _) hother hother.length_le hoperator

theorem longestOperator?_eq_some_iff :
    longestOperator? operators afterValue run run.length = some (lexeme, fixity) ↔
      IsLongest (IsOperator operators afterValue) run lexeme ∧
        TakesPlace operators afterValue (String.ofList lexeme) fixity := by
  refine ⟨isLongest_of_longestOperator?, ?_⟩
  rintro ⟨hlongest, hplace⟩
  cases hfound : longestOperator? operators afterValue run run.length with
  | none =>
    exact absurd hlongest.hasForm
      (not_isOperator_of_longestOperator? hfound hlongest.begins hlongest.begins.length_le)
  | some found =>
    obtain ⟨other, place⟩ := found
    obtain ⟨hother, hplace'⟩ := isLongest_of_longestOperator? hfound
    have hlength : other.length = lexeme.length :=
      Nat.le_antisymm (hlongest.longest _ hother.begins hother.hasForm)
        (hother.longest _ hlongest.begins hlongest.hasForm)
    obtain rfl : other = lexeme := by
      rw [List.prefix_iff_eq_take.mp hother.begins, List.prefix_iff_eq_take.mp hlongest.begins,
        hlength]
    rw [← operatorFixity?_eq_some_iff] at hplace hplace'
    rw [Option.some.inj (hplace'.symm.trans hplace)]

/-- The characters among which an operator is looked for. -/
def operatorRun (operators : OperatorTable) (text : List Char) : List Char :=
  (text.takeWhile isOperatorChar).take (max operators.longestName 1)

/-- Among the characters where an operator is looked for is every operator that the text begins
    with. -/
theorem prefix_operatorRun_iff (h : operators.Capped) {text : List Char}
    (hlexeme : IsOperator operators afterValue lexeme) :
    lexeme <+: operatorRun operators text ↔ lexeme <+: text.takeWhile isOperatorChar := by
  have hlength := length_le_of_isOperator h hlexeme
  rw [operatorRun, List.prefix_take_iff, and_iff_left]
  exact Nat.le_trans hlength (Nat.le_max_left _ _)

theorem isLongest_operatorRun (h : operators.Capped) {text : List Char} :
    IsLongest (IsOperator operators afterValue) (operatorRun operators text) lexeme ↔
      IsLongest (IsOperator operators afterValue) (text.takeWhile isOperatorChar) lexeme := by
  constructor
  · rintro ⟨hbegins, hform, hlongest⟩
    refine ⟨(prefix_operatorRun_iff h hform).mp hbegins, hform, ?_⟩
    intro other hother hoperator
    exact hlongest other ((prefix_operatorRun_iff h hoperator).mpr hother) hoperator
  · rintro ⟨hbegins, hform, hlongest⟩
    refine ⟨(prefix_operatorRun_iff h hform).mpr hbegins, hform, ?_⟩
    intro other hother hoperator
    exact hlongest other ((prefix_operatorRun_iff h hoperator).mp hother) hoperator

/-! ## Tokens -/

section Tokens

variable {place : Place} {c : Char} {text : List Char} {scanned : Scanned}

theorem operatorToken_ok_iff :
    operatorToken place c text = .ok scanned ↔
      ∃ lexeme fixity, scanned = place.run fixity.tokenKind lexeme ∧
        longestOperator? place.language.operators place.afterValue
          (operatorRun place.language.operators text)
          (operatorRun place.language.operators text).length = some (lexeme, fixity) := by
  simp only [operatorToken, operatorRun]
  constructor
  · intro h
    split at h
    · cases h
    · split at h
      · rename_i hlongest
        cases h
        exact ⟨_, _, rfl, hlongest⟩
      · split at h <;> cases h
  · rintro ⟨lexeme, fixity, rfl, hlongest⟩
    rw [if_neg, hlongest]
    intro hempty
    rw [List.isEmpty_iff.mp hempty] at hlongest
    cases hlongest

theorem operatorToken_ok_iff_isLongest (h : place.language.operators.Capped) :
    operatorToken place c text = .ok scanned ↔
      ∃ lexeme fixity,
        IsLongest (IsOperator place.language.operators place.afterValue)
          (text.takeWhile isOperatorChar) lexeme ∧
        TakesPlace place.language.operators place.afterValue (String.ofList lexeme) fixity ∧
        scanned = place.run fixity.tokenKind lexeme := by
  rw [operatorToken_ok_iff]
  constructor
  · rintro ⟨lexeme, fixity, hscanned, hfound⟩
    obtain ⟨hlongest, hplace⟩ := longestOperator?_eq_some_iff.mp hfound
    exact ⟨lexeme, fixity, (isLongest_operatorRun h).mp hlongest, hplace, hscanned⟩
  · rintro ⟨lexeme, fixity, hlongest, hplace, hscanned⟩
    have hfound := (isLongest_operatorRun h).mpr hlongest
    exact ⟨lexeme, fixity, hscanned, longestOperator?_eq_some_iff.mpr ⟨hfound, hplace⟩⟩

/-- An operator among the characters is enough for a token, be it the longest one or not. -/
theorem operatorToken_ok_of_isOperator (h : place.language.operators.Capped) {lexeme : List Char}
    (hbegins : lexeme <+: text.takeWhile isOperatorChar)
    (hoperator : IsOperator place.language.operators place.afterValue lexeme) :
    ∃ scanned, operatorToken place c text = .ok scanned := by
  have hrun := (prefix_operatorRun_iff h hoperator).mpr hbegins
  cases hfound : longestOperator? place.language.operators place.afterValue
      (operatorRun place.language.operators text)
      (operatorRun place.language.operators text).length with
  | none =>
    exact absurd hoperator (not_isOperator_of_longestOperator? hfound hrun hrun.length_le)
  | some found => exact ⟨_, operatorToken_ok_iff.mpr ⟨_, _, rfl, hfound⟩⟩

theorem operatorToken_error_iff (h : place.language.operators.Capped) :
    (∃ error, operatorToken place c text = .error error) ↔
      ∀ lexeme, lexeme <+: text.takeWhile isOperatorChar →
        ¬ IsOperator place.language.operators place.afterValue lexeme := by
  constructor
  · rintro ⟨error, herror⟩ lexeme hbegins hoperator
    obtain ⟨scanned, hscanned⟩ := operatorToken_ok_of_isOperator (c := c) h hbegins hoperator
    rw [herror] at hscanned
    cases hscanned
  · intro hnone
    cases hresult : operatorToken place c text with
    | error error => exact ⟨error, rfl⟩
    | ok scanned =>
      obtain ⟨lexeme, _, hlongest, -, -⟩ := (operatorToken_ok_iff_isLongest h).mp hresult
      exact absurd hlongest.hasForm (hnone lexeme hlongest.begins)

/-- However a table was put together, no name of an operator in it is longer than the longest one
    that the table counts. So the scanner finds the operator it would find without a bound: the
    longest beginning of all the operator characters that takes a place there, if any does. -/
theorem operatorToken_eq_longest (place : Place) (h : place.language.operators.Assembled) :
    (∀ fixity name, place.language.operators.has fixity name = true →
      name.length ≤ place.language.operators.longestName ∧
        (Text.upper name).length ≤ place.language.operators.longestName) ∧
    ∀ c text,
      (∀ scanned, operatorToken place c text = .ok scanned ↔
        ∃ lexeme fixity,
          IsLongest (IsOperator place.language.operators place.afterValue)
            (text.takeWhile isOperatorChar) lexeme ∧
          TakesPlace place.language.operators place.afterValue (String.ofList lexeme) fixity ∧
          scanned = place.run fixity.tokenKind lexeme) ∧
      ((∃ error, operatorToken place c text = .error error) ↔
        ∀ lexeme, lexeme <+: text.takeWhile isOperatorChar →
          ¬ IsOperator place.language.operators place.afterValue lexeme) := by
  have hcapped := h.capped
  refine ⟨fun fixity name hhas => hcapped.length_le hhas, fun c text => ⟨fun scanned => ?_, ?_⟩⟩
  · exact operatorToken_ok_iff_isLongest hcapped
  · exact operatorToken_error_iff hcapped

/-- The built-in operators, one of three characters, and one whose name is longer in upper case. -/
def longOperators : OperatorTable :=
  (BuiltIn.operatorTable.insert "<=>" ⟨.between Precedence.comparison, .host 0⟩).extend
    [("groß", ⟨.after, .host 1⟩)]

/-- The place behind a number or an operator, at the third character. -/
def longOperatorsBehind (kind : TokenKind) : Place :=
  ⟨{ Configuration.standard.toLanguage with operators := longOperators }, some kind, 2⟩

/-- Two shorter operators begin the text as well, but behind a number it is the longest one that is
    found. Behind an operator none of them can stand. -/
theorem operatorToken_eq_longest_threeChars :
    longOperators.Assembled ∧
      IsLongest (IsOperator longOperators true) "<=>-".toList "<=>".toList ∧
      ∀ lexeme, lexeme <+: "<=>-".toList → ¬ IsOperator longOperators false lexeme := by
  let text := "<=>-1".toList
  let run := operatorRun longOperators text
  have hassembled : longOperators.Assembled :=
    (OperatorTable.Assembled.standard.insert _ _).extend _
  have hrun : text.takeWhile isOperatorChar = "<=>-".toList := by decide +kernel
  refine ⟨hassembled, ?_, ?_⟩
  · let place := longOperatorsBehind .number
    have hfound : longestOperator? longOperators true run run.length =
        some ("<=>".toList, .between) := by
      decide +kernel
    have hscanned : operatorToken place '<' text = .ok (place.run .infixOperator "<=>".toList) :=
      operatorToken_ok_iff.mpr ⟨_, _, rfl, hfound⟩
    obtain ⟨lexeme, fixity, hlongest, -, hsame⟩ :=
      (((operatorToken_eq_longest place hassembled).2 '<' text).1 _).mp hscanned
    have hlexeme : "<=>".toList = lexeme :=
      String.ofList_injective (congrArg (·.token.lexeme) hsame)
    rw [hrun, ← hlexeme] at hlongest
    exact hlongest
  · let place := longOperatorsBehind .infixOperator
    have hfound : longestOperator? longOperators false run run.length = none := by decide +kernel
    have herror : ∃ error, operatorToken place '<' text = .error error := by
      cases hresult : operatorToken place '<' text with
      | error error => exact ⟨error, rfl⟩
      | ok scanned =>
        obtain ⟨_, _, -, hother⟩ := operatorToken_ok_iff.mp hresult
        cases hfound.symm.trans hother
    have hnone := ((operatorToken_eq_longest place hassembled).2 '<' text).2.mp herror
    rw [hrun] at hnone
    exact hnone

end Tokens
end Token
end Formula
