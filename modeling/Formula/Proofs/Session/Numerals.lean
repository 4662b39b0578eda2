-- SUMMARY: The text of a decimal is a formula whose value is the decimal.
import Formula.Proofs.BuiltIn.Table
import Formula.Proofs.Decimal.Numeral
import Formula.Proofs.Decimal.Value
import Formula.Proofs.Parsing.Nesting
import Formula.Proofs.Token.Number
import Formula.Session

/-!
# Numbers as formulas

A numeral is scanned as one token in every language (`Token.scanFrom_numeral`), and its value is
what the reader of decimals makes of it. The minus sign of a decimal is no part of a numeral: it is
scanned as the operator before it. So the text of a decimal has a tree of one or two nodes, and
finishing the numbers of both leaves the value as it is where the precision has room for all of the
digits.
-/

namespace Formula

/-! ## Scanning -/

/-- A numeral is not hexadecimal. -/
theorem Numeral.text_ne_mark (numeral : Numeral) {mark : Char} (rest : List Char)
    (hdigit : mark.isDigit = false) (hpoint : mark ≠ '.') : numeral.text ≠ '0' :: mark :: rest := by
  intro h
  rcases @Numeral.isDigit_or_point numeral mark (by simp [h]) with hmark | hmark
  · rw [hdigit] at hmark
    cases hmark
  · exact hpoint hmark

theorem Decimal.ofLiteral?_numeral (numeral : Numeral) :
    ofLiteral? numeral.text = read numeral.text := by
  obtain ⟨c, rest, htext, hdigit⟩ := numeral.text_eq_cons
  unfold ofLiteral?
  split
  · rename_i digits h
    exact absurd h (numeral.text_ne_mark digits rfl (by decide))
  · rename_i digits h
    exact absurd h (numeral.text_ne_mark digits rfl (by decide))
  · rename_i digits h
    rw [h] at htext
    cases htext
    cases hdigit
  · rfl

namespace Token

/-- All characters of a numeral belong to the number. -/
theorem scanNumber_numeral (numeral : Numeral) :
    scanNumber numeral.text = ⟨numeral.text, none⟩ := by
  rw [scanNumber_decimal (fun rest => numeral.text_ne_mark rest rfl (by decide))
    (fun rest => numeral.text_ne_mark rest rfl (by decide)), Numeral.text,
    scanDecimal_digits numeral.isDigit_whole]
  have hdecimals := numeral.isDigit_decimals
  cases hcases : numeral.decimals with
  | nil => rw [List.isEmpty_nil, if_pos rfl, scanDecimal]
  | cons c rest =>
    rw [hcases] at hdecimals
    have hscan := scanDecimal_digits hdecimals true false []
    rw [List.append_nil, scanDecimal, List.append_nil] at hscan
    -- The point belongs to the number because a digit follows it, and it is the first one.
    have hahead : digitAhead (c :: rest) = true := hdecimals c (List.mem_cons_self ..)
    rw [List.isEmpty_cons, if_neg Bool.false_ne_true, scanDecimal, if_neg (by decide),
      if_pos (by simp [hahead])]
    simp only [Bool.or_self, Bool.false_eq_true, if_false, NumberScan.after, hscan]

/-- A numeral that can be read is one token. -/
theorem scanFrom_numeral {L : Language} {numeral : Numeral} {value : Decimal}
    (h : Decimal.read numeral.text = some value) (previous : Option TokenKind) (position : Nat) :
    scanFrom L previous position numeral.text =
      .ok [⟨.number, String.ofList numeral.text, position, none⟩] := by
  obtain ⟨c, rest, htext, hdigit⟩ := numeral.text_eq_cons
  have hblank : Text.isBlank c = false := isBlank_of_isNumberChar (by simp [isNumberChar, hdigit])
  have htoken : scanToken ⟨L, previous, position⟩ c rest =
      .ok ((Place.mk L previous position).run .number (c :: rest)) := by
    rw [scanToken_eq_numberToken (.inl hdigit), ← htext]
    simp only [numberToken, scanNumber_numeral, Decimal.ofLiteral?_numeral, h]
  rw [htext, scanFrom, hblank, if_neg Bool.false_ne_true, htoken]
  simp [Place.run, Place.token, scanFrom]

theorem isOperatorChar_of_isDigit {c : Char} (h : c.isDigit = true) : isOperatorChar c = false := by
  simp [isOperatorChar, Text.isAlphanumeric, Text.isNumeric_of_isDigit h]

/-- A numeral is no part of an operator. -/
theorem takeWhile_minus (numeral : Numeral) :
    ('-' :: numeral.text).takeWhile isOperatorChar = ['-'] := by
  obtain ⟨c, rest, htext, hdigit⟩ := numeral.text_eq_cons
  have hminus : isOperatorChar '-' = true := by decide +kernel
  rw [htext, List.takeWhile_cons_of_pos hminus,
    List.takeWhile_cons_of_neg (by simp [isOperatorChar_of_isDigit hdigit])]

/-- A minus sign before a numeral is an operator, where the language has one before operands. -/
theorem scanFrom_minus {L : Language} {numeral : Numeral} {value : Decimal}
    (hminus : L.operators.has .before "-" = true) (h : Decimal.read numeral.text = some value) :
    scanFrom L none 0 ('-' :: numeral.text) = .ok
      [⟨.prefixOperator, "-", 0, none⟩, ⟨.number, String.ofList numeral.text, 1, none⟩] := by
  have hblank : Text.isBlank '-' = false := isBlank_of_isNumberChar (by decide)
  have hrun : (('-' :: numeral.text).takeWhile isOperatorChar).take
      (max L.operators.longestName 1) = ['-'] := by
    have hlength : ['-'].length ≤ max L.operators.longestName 1 := Nat.le_max_right _ _
    rw [takeWhile_minus, List.take_of_length_le hlength]
  have hlongest : longestOperator? L.operators false ['-'] 1 = some (['-'], .before) := by
    simp [longestOperator?, operatorFixity?, hminus]
  have htoken : scanToken ⟨L, none, 0⟩ '-' numeral.text =
      .ok ⟨⟨.prefixOperator, "-", 0, none⟩, 0⟩ := by
    have hname : startsName '-' = false := by decide +kernel
    have hscan : scanToken ⟨L, none, 0⟩ '-' numeral.text =
        operatorToken ⟨L, none, 0⟩ '-' ('-' :: numeral.text) := by
      simp [scanToken, hname]
    rw [hscan]
    simp only [operatorToken, hrun, Place.afterValue, List.length_singleton, hlongest]
    rfl
  rw [scanFrom, hblank, if_neg Bool.false_ne_true, htoken]
  simp only [List.drop_zero, scanFrom_numeral h]

end Token

/-! ## Trees -/

namespace Tree

variable {L : Language}

theorem ofTokens_number {number : Token} (h : number.kind = .number) :
    ofTokens L [number] = .ok (.node number []) := by
  have hrun : [number].foldlM (Parser.step L) Parser.start = .ok
      ⟨[], [.leaf number], [], some .number, none, none⟩ := by
    simp only [List.foldlM_cons, Parser.step, Parser.take, h]
    rfl
  rw [ofTokens, hrun]
  rfl

/-- An operator before a number is applied to it, where trees may have two levels. -/
theorem ofTokens_before {sign number : Token} {operator : Operator}
    (hsign : sign.kind = .prefixOperator) (hnumber : number.kind = .number)
    (hfind : L.operators.find? .before sign.lexeme = some operator)
    (hnesting : 2 ≤ L.settings.maxNesting) :
    ofTokens L [sign, number] =
      .ok (.node (sign.bind (.operator operator)) [.node number []]) := by
  have hresolve : Parser.resolve L sign = .ok operator := by
    simp only [Parser.resolve, hsign, TokenKind.fixity?, Option.getD_some, hfind]
  have hrun : [sign, number].foldlM (Parser.step L) Parser.start = .ok
      ⟨[.operator sign operator], [.leaf number], [], some .number, none, none⟩ := by
    simp only [List.foldlM_cons, Parser.step, Parser.take, hsign, hnumber, hresolve]
    rfl
  have hreduce : Parser.reduce L 0 sign operator [.leaf number] = .ok
      [.node (sign.bind (.operator operator)) [.leaf number]] := by
    have hcount : operator.rule.operandCount = 1 := by
      rw [OperatorRule.operandCount, OperatorTable.fixity_of_find? hfind]
      rfl
    simp only [Parser.reduce, hcount]
    exact Parser.pushOperand_eq_ok.mpr ⟨hnesting, rfl⟩
  have hsettle : Parser.settleFrame L
      ⟨[.operator sign operator], [.leaf number], [], some .number, none, none⟩ = .ok
      ⟨[], [.node (sign.bind (.operator operator)) [.leaf number]], [], some .number, none,
        none⟩ := by
    simp only [Parser.settleFrame, Parser.settle, Parser.floor, List.headD_nil, Parser.reduceWhile,
      if_true, hreduce]
    rfl
  rw [ofTokens, hrun]
  change (Parser.settleFrame L _ >>= _) = _
  rw [hsettle]
  rfl

theorem parse_numeral {numeral : Numeral} {value : Decimal}
    (h : Decimal.read numeral.text = some value) :
    parse L (String.ofList numeral.text) =
      .ok (.node ⟨.number, String.ofList numeral.text, 0, none⟩ []) := by
  rw [parse, Token.scan, String.toList_ofList, Token.scanFrom_numeral h]
  exact @ofTokens_number L ⟨.number, _, 0, none⟩ rfl

theorem parse_minus {numeral : Numeral} {value : Decimal} {operator : Operator}
    (hfind : L.operators.find? .before "-" = some operator) (hnesting : 2 ≤ L.settings.maxNesting)
    (h : Decimal.read numeral.text = some value) :
    parse L (String.ofList ('-' :: numeral.text)) =
      .ok (.node ⟨.prefixOperator, "-", 0, some (.operator operator)⟩
        [.node ⟨.number, String.ofList numeral.text, 1, none⟩ []]) := by
  have hhas : L.operators.has .before "-" = true := by rw [OperatorTable.has, hfind]; rfl
  rw [parse, Token.scan, String.toList_ofList, Token.scanFrom_minus hhas h]
  exact ofTokens_before rfl rfl hfind hnesting

end Tree

/-! ## Values -/

theorem Decimal.value_neg (d : Decimal) : d.neg.value = -d.value := by
  rw [value_eq, value_eq]
  cases hsign : d.negative with
  | true => simp [withSign, neg, hsign]
  | false => simp [withSign, neg, hsign]

/-- A number for whose digits the precision has room keeps its value, where its decimals are not
    limited. -/
theorem Settings.value_finishNumber_of_le {settings : Settings} {d : Decimal}
    (hplaces : settings.decimalPlaces = none) (hdigits : d.digitCount ≤ settings.precision.digits) :
    (settings.finishNumber d).value = d.value := by
  have hround : settings.precision.round d = d :=
    Decimal.roundSignificant_of_le hdigits settings.precision.rounding
  simp only [finishNumber, hround, normalize, hplaces]
  split
  · exact Decimal.value_normalize d
  · rfl

namespace Scope

variable {scope : Scope} {levels : Nat}

/-- The token of a numeral evaluates to what the numeral is read as, finished. -/
theorem evaluateWithin_numeral {numeral : Numeral} {value : Decimal}
    (h : Decimal.read numeral.text = some value) (position : Nat) :
    scope.evaluateWithin (levels + 1)
        (.node ⟨.number, String.ofList numeral.text, position, none⟩ []) =
      .ok (.number (scope.settings.finishNumber value)) := by
  let token : Token := ⟨.number, String.ofList numeral.text, position, none⟩
  have hliteral : Decimal.ofLiteral? token.lexeme.toList = some value := by
    rw [String.toList_ofList, Decimal.ofLiteral?_numeral, h]
  exact evaluateWithin_number rfl hliteral []

/-- The operand of a sign is evaluated first, so its number is finished before it is negated. -/
theorem evaluateWithin_negate {sign : Token} {rule : OperatorRule} {tree : Tree} {value : Decimal}
    (hkind : sign.kind = .prefixOperator) (hfixity : rule.fixity = .before)
    (hlazy : rule.lazy = false) (h : scope.evaluateWithin levels tree = .ok (.number value)) :
    scope.evaluateWithin (levels + 1) (.node (sign.bind (.operator ⟨rule, .negate⟩)) [tree]) =
      .ok (.number (scope.settings.finishNumber value.neg)) := by
  have hcount : rule.operandCount = 1 := by rw [OperatorRule.operandCount, hfixity]; rfl
  have hbound : scope.operatorOf? (sign.bind (.operator ⟨rule, .negate⟩)) =
      some ⟨rule, .negate⟩ := rfl
  have hoperands : operandValues (scope.evaluateWithin levels) (fun _ => rule.lazy) 0 [tree] =
      .ok [.number value] := by
    simp only [operandValues, hlazy, h]
    rfl
  have hstep : scope.step (scope.evaluateWithin levels)
      (.node (sign.bind (.operator ⟨rule, .negate⟩)) [tree]) = .ok (.number value.neg) := by
    have hkind' : (sign.bind (.operator ⟨rule, .negate⟩)).kind = .prefixOperator := hkind
    simp only [step, Tree.token, Tree.children, hkind', operatorValue, hbound, hcount, hoperands]
    rfl
  simp only [evaluateWithin, hstep]
  rfl

end Scope
namespace Session

variable {configuration : Configuration} {numeral : Numeral} {value : Decimal}

/-- A numeral evaluates to what it is read as, finished. -/
theorem evaluate_numeral (hnesting : 1 ≤ configuration.settings.maxNesting)
    (h : Decimal.read numeral.text = some value) (ambient : Ambient) :
    (start (String.ofList numeral.text) configuration).evaluate ambient =
      .ok (.number (configuration.settings.finishNumber value)) := by
  have hlevels : configuration.settings.maxNesting = configuration.settings.maxNesting - 1 + 1 := by
    omega
  have htree := @Tree.parse_numeral configuration.toLanguage numeral value h
  simp only [evaluate, tree, parse, Configuration.parse, start, htree]
  rw [evaluateTree, Scope.evaluate, Scope.settings, scope, hlevels]
  exact Scope.evaluateWithin_numeral h 0

/-- With a minus sign before it, it evaluates to the opposite. -/
theorem evaluate_minus {rule : OperatorRule}
    (hminus : configuration.operators.find? .before "-" = some ⟨rule, .negate⟩)
    (hlazy : rule.lazy = false) (hnesting : 2 ≤ configuration.settings.maxNesting)
    (h : Decimal.read numeral.text = some value) (ambient : Ambient) :
    (start (String.ofList ('-' :: numeral.text)) configuration).evaluate ambient =
      .ok (.number (configuration.settings.finishNumber
        (configuration.settings.finishNumber value).neg)) := by
  have hlevels : configuration.settings.maxNesting =
      configuration.settings.maxNesting - 2 + 1 + 1 := by
    omega
  have htree := Tree.parse_minus hminus hnesting h
  simp only [evaluate, tree, parse, Configuration.parse, start, htree]
  rw [evaluateTree, Scope.evaluate, Scope.settings, scope, hlevels]
  exact @Scope.evaluateWithin_negate _ _ ⟨.prefixOperator, "-", 0, none⟩ rule _ _ rfl
    (OperatorTable.fixity_of_find? hminus) hlazy (Scope.evaluateWithin_numeral h 1)

/-- The text of a decimal evaluates to its value in every configuration that has the minus sign and
    leaves room for the digits. -/
theorem evaluate_text_of_room {rule : OperatorRule} {d : Decimal}
    (hminus : configuration.operators.find? .before "-" = some ⟨rule, .negate⟩)
    (hlazy : rule.lazy = false) (hplaces : configuration.settings.decimalPlaces = none)
    (hnesting : 2 ≤ configuration.settings.maxNesting)
    (hdigits : d.digitCount ≤ configuration.settings.precision.digits)
    (hscale : d.scale ≤ Decimal.maxScale) (ambient : Ambient) :
    ∃ n, (start d.text configuration).evaluate ambient = .ok (.number n) ∧ n.value = d.value := by
  have hread : Decimal.read (Numeral.ofParts d.coefficient d.scale).text = some d.abs := by
    rw [Numeral.text_ofParts, Decimal.read_digits d hscale]
  have habs : (configuration.settings.finishNumber d.abs).value = d.abs.value :=
    Settings.value_finishNumber_of_le hplaces hdigits
  cases hsign : d.negative with
  | false =>
    have hsource : d.text = String.ofList (Numeral.ofParts d.coefficient d.scale).text := by
      rw [Decimal.text, hsign, if_neg Bool.false_ne_true, List.nil_append, Numeral.text_ofParts]
    have hself : d.abs = d := by rw [Decimal.abs, ← hsign]
    rw [hsource]
    exact ⟨_, evaluate_numeral (Nat.le_of_succ_le hnesting) hread ambient, by rw [habs, hself]⟩
  | true =>
    have hsource : d.text =
        String.ofList ('-' :: (Numeral.ofParts d.coefficient d.scale).text) := by
      rw [Decimal.text, hsign, if_pos rfl, Numeral.text_ofParts]
      rfl
    have hself : d.abs.neg = d := by
      obtain ⟨negative, coefficient, scale, _, _⟩ := d
      cases hsign
      rfl
    have hneg : (configuration.settings.finishNumber d.abs).neg.value = d.abs.neg.value := by
      rw [Decimal.value_neg, Decimal.value_neg, habs]
    rw [hsource]
    refine ⟨_, evaluate_minus hminus hlazy hnesting hread ambient, ?_⟩
    calc (configuration.settings.finishNumber
          (configuration.settings.finishNumber d.abs).neg).value
        = (configuration.settings.finishNumber d.abs.neg).value :=
          Settings.value_finishNumber_congr hneg
      _ = d.value := by rw [hself, Settings.value_finishNumber_of_le hplaces hdigits]

/-- The text of a decimal of at most 28 digits, whatever its sign and its number of decimals, is a
    formula whose value is the decimal. -/
theorem evaluate_text (d : Decimal) (hdigits : d.digitCount ≤ 28) (hscale : d.scale ≤ 28)
    (ambient : Ambient) :
    ∃ n, (start d.text Configuration.standard).evaluate ambient = .ok (.number n) ∧
      n.same d = true := by
  have hminus : Configuration.standard.operators.find? .before "-" =
      some ⟨.before, .negate⟩ := by
    have hmem : ("-", ⟨.before, .negate⟩) ∈ BuiltIn.operators := by simp [BuiltIn.operators]
    exact BuiltIn.find?_operatorTable hmem
  obtain ⟨n, hvalue, hsame⟩ :=
    evaluate_text_of_room hminus rfl rfl (by decide) hdigits hscale ambient
  exact ⟨n, hvalue, Decimal.same_iff.mpr hsame⟩

/-- All digits and all decimals in use, below zero. -/
theorem evaluate_text_full : ∃ d : Decimal,
    d.text = "-0.9999999999999999999999999999" ∧ d.digitCount ≤ 28 ∧ d.scale ≤ 28 ∧
    ∀ ambient, ∃ n,
      (start d.text Configuration.standard).evaluate ambient = .ok (.number n) ∧
        n.same d = true := by
  let d : Decimal := ⟨true, 9999999999999999999999999999, 28, by decide, by decide⟩
  have hdigits : d.digitCount ≤ 28 := by decide +kernel
  have hscale : d.scale ≤ 28 := by decide
  exact ⟨d, by decide +kernel, hdigits, hscale, evaluate_text d hdigits hscale⟩

end Session
end Formula
