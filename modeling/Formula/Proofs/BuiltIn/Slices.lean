-- SUMMARY: The parts of a text that are left, right and between two offsets: how they fit together, and when there is none.
import Formula.Configuration
import Formula.Proofs.BuiltIn.Table

/-!
# Parts of texts

The functions that take a part of a text count its characters, and each of them takes those from one
offset up to another one, where an offset behind the end counts as the end. Parts that follow each
other make up a part (`BuiltIn.extract_append`). An offset is the whole number toward zero of an
argument, in 64 bits.
-/

namespace Formula
namespace BuiltIn

/-! ## Characters -/

section Characters

variable {text : List Char} {a b c : Nat}

theorem extract_append (hab : a ≤ b) (hbc : b ≤ c) :
    text.extract a b ++ text.extract b c = text.extract a c := by
  have hdrop : text.drop b = (text.drop a).drop (b - a) := by
    rw [List.drop_drop, Nat.add_sub_cancel' hab]
  have hlength : c - a = (b - a) + (c - b) := by omega
  simp only [List.extract_eq_take_drop]
  rw [hdrop, hlength, List.take_add]

theorem leftPart_eq (text : List Char) (length : Int) :
    leftPart text length = text.extract 0 length.toNat := rfl

theorem rightPart_eq (text : List Char) (length : Int) :
    rightPart text length = text.extract (text.length - length.toNat) := List.drop_eq_extract

end Characters

/-! ## Functions -/

variable {token : Token} {s : String} {n m : Decimal} {a b : Int}

theorem integerArgument_eq {arguments : List Value} {index : Nat}
    (hargument : arguments[index]? = some (.number n)) (hn : n.toInt64? = some a) :
    token.integerArgument arguments index = .ok a := by
  simp only [Token.integerArgument, Token.numberArgument, hargument]
  change token.orFault (.argumentRange index) n.toInt64? = .ok a
  rw [hn]
  rfl

theorem takePart_eq (part : List Char → Int → List Char) (hn : n.toInt64? = some a) :
    takePart token [.text s, .number n] part = .ok (.text (String.ofList (part s.toList a))) := by
  have hlength : token.integerArgument [.text s, .number n] 1 = .ok a := integerArgument_eq rfl hn
  unfold takePart
  rw [hlength]
  rfl

theorem slice_to_end {text : List Char} (ha : 0 ≤ a) :
    slice token text a none = .ok (text.extract a.toNat) := by
  rw [slice, if_neg (Int.not_lt.mpr ha), List.drop_eq_extract]

theorem slice_between {text : List Char} (ha : 0 ≤ a) (hab : a ≤ b) :
    slice token text a (some b) = .ok (text.extract a.toNat b.toNat) := by
  have hlength : (b - a).toNat = b.toNat - a.toNat := by omega
  rw [slice, if_neg (Int.not_lt.mpr ha)]
  simp only [if_neg (Int.not_lt.mpr hab), hlength, List.extract_eq_take_drop]

theorem substring_to_end (hn : n.toInt64? = some a) (ha : 0 ≤ a) :
    substring token [.text s, .number n] =
      .ok (.text (String.ofList (s.toList.extract a.toNat))) := by
  have hstart : token.integerArgument [.text s, .number n] 1 = .ok a := integerArgument_eq rfl hn
  unfold substring
  rw [hstart]
  change (if a < 0 then _ else
    slice token s.toList a none >>= fun part => .ok (Value.text (String.ofList part))) = _
  rw [if_neg (Int.not_lt.mpr ha), slice_to_end ha]
  rfl

theorem substring_between (hn : n.toInt64? = some a) (hm : m.toInt64? = some b) (ha : 0 ≤ a)
    (hab : a ≤ b) : substring token [.text s, .number n, .number m] =
      .ok (.text (String.ofList (s.toList.extract a.toNat b.toNat))) := by
  have hstart : token.integerArgument [.text s, .number n, .number m] 1 = .ok a :=
    integerArgument_eq rfl hn
  have hstop : token.integerArgument [.text s, .number n, .number m] 2 = .ok b :=
    integerArgument_eq rfl hm
  unfold substring
  rw [hstart, hstop]
  change (if a < 0 then _ else
    slice token s.toList a (some b) >>= fun part => .ok (Value.text (String.ofList part))) = _
  rw [if_neg (Int.not_lt.mpr ha), slice_between ha hab]
  rfl

/-- An offset below zero is at fault before the end is looked at. -/
theorem substring_negative (hn : n.toInt64? = some a) (ha : a < 0) {rest : List Value}
    (hrest : rest.length ≤ 1) : substring token (.text s :: .number n :: rest) =
      .error (token.invalidParameter "start" .negative) := by
  have hstart : token.integerArgument (.text s :: .number n :: rest) 1 = .ok a :=
    integerArgument_eq rfl hn
  have hcount : ¬ 3 < (Value.text s :: Value.number n :: rest).length := by
    simp only [List.length_cons]
    omega
  unfold substring
  rw [hstart]
  simp only [if_neg hcount]
  change (if a < 0 then _ else _) = _
  rw [if_pos ha]
  rfl

/-! ## Parts that fit together -/

/-- Left and right of an offset is the whole text. The part at the end of the text is what is right
    of an offset, and the part at its beginning is what lies between zero and an offset. Parts that
    follow each other make up a part. Below zero the parts at both ends are empty, and no part
    begins there. -/
theorem textParts_fit (host : Array Behaviour) (context : CallContext) (token : Token) :
    ∃ left right substring : LibraryFunction, functionTable.find? "STR_LEFT" = some left ∧
      functionTable.find? "STR_RIGHT" = some right ∧
      functionTable.find? "STR_SUBSTRING" = some substring ∧
      ∀ (s : String) (a : Int) (n : Decimal), n.toInt64? = some a →
        let part (function : LibraryFunction) (offsets : List Decimal) : Except EvalError Value :=
          applyFunction host context token function.action (.text s :: offsets.map .number)
        (0 ≤ a →
          (∃ before after : String, part left [n] = .ok (.text before) ∧
            part substring [n] = .ok (.text after) ∧ before ++ after = s ∧
            before.length = min a.toNat s.length) ∧
          (∀ m, m.toInt64? = some (max 0 (s.length - a)) → part right [n] = part substring [m]) ∧
          (∀ zero, zero.toInt64? = some 0 → part left [n] = part substring [zero, n]) ∧
          ∀ m b k c, m.toInt64? = some b → k.toInt64? = some c → a ≤ b → b ≤ c →
            ∃ first second : String, part substring [n, m] = .ok (.text first) ∧
              part substring [m, k] = .ok (.text second) ∧
              part substring [n, k] = .ok (.text (first ++ second))) ∧
        (a < 0 → part left [n] = .ok (.text "") ∧ part right [n] = .ok (.text "") ∧
          part substring [n] = .error (token.invalidParameter "start" .negative) ∧
          ∀ m, part substring [n, m] = .error (token.invalidParameter "start" .negative)) := by
  refine ⟨⟨.plain ["string", "length"], .left⟩, ⟨.plain ["string", "length"], .right⟩,
    ⟨variadic ["string", "start"] "end", .substring⟩,
    find?_functionTable (by simp [functions, textFunctions]),
    find?_functionTable (by simp [functions, textFunctions]),
    find?_functionTable (by simp [functions, textFunctions]), ?_⟩
  intro s a n hn part
  have hleft : part ⟨.plain ["string", "length"], .left⟩ [n] =
      .ok (.text (String.ofList (s.toList.extract 0 a.toNat))) := by
    rw [← leftPart_eq]
    exact takePart_eq leftPart hn
  have hright : part ⟨.plain ["string", "length"], .right⟩ [n] =
      .ok (.text (String.ofList (s.toList.extract (s.toList.length - a.toNat)))) := by
    rw [← rightPart_eq]
    exact takePart_eq rightPart hn
  constructor
  · intro ha
    refine ⟨⟨_, _, hleft, substring_to_end hn ha, ?_, ?_⟩, ?_, ?_, ?_⟩
    · rw [← String.ofList_append, List.extract_eq_take_drop, ← List.drop_eq_extract]
      simp
    · rw [String.length_ofList, List.extract_eq_take_drop, List.length_take, Nat.sub_zero,
        List.drop_zero, String.length_toList]
    · intro m hm
      have hoffset : (max 0 ((s.length : Int) - a)).toNat = s.toList.length - a.toNat := by
        rw [String.length_toList]
        omega
      rw [hright, ← hoffset]
      exact (substring_to_end hm (Int.le_max_left _ _)).symm
    · intro zero hzero
      rw [hleft]
      exact (substring_between hzero hn (Int.le_refl 0) ha).symm
    · intro m b k c hm hk hab hbc
      refine ⟨_, _, substring_between hn hm ha hab,
        substring_between hm hk (Int.le_trans ha hab) hbc, ?_⟩
      rw [← String.ofList_append, extract_append (by omega) (by omega)]
      exact substring_between hn hk ha (Int.le_trans hab hbc)
  · intro ha
    have hzero : a.toNat = 0 := by omega
    have hfault {rest : List Value} (hrest : rest.length ≤ 1) :
        BuiltIn.substring token (.text s :: .number n :: rest) =
          .error (token.invalidParameter "start" .negative) := substring_negative hn ha hrest
    refine ⟨?_, ?_, @hfault [] (Nat.zero_le 1), ?_⟩
    · rw [hleft, hzero]
      rfl
    · rw [hright, hzero, Nat.sub_zero, ← List.drop_eq_extract, List.drop_length]
    · intro m
      exact @hfault [.number m] (Nat.le_refl 1)

/-- Parts of a text of four characters, one of which is four bytes long, at `1`, `2.9` and `99`, and
    below zero. -/
theorem textParts_fit_wide :
    let context : CallContext := ⟨Settings.standard, .ofSeed .epoch 0, .ok⟩
    let token : Token := { kind := .function, lexeme := "STR_SUBSTRING", position := 0 }
    let more : Decimal := ⟨false, 29, 1, by decide, by decide⟩
    let three : Decimal := ⟨false, 3, 0, by decide, by decide⟩
    let far : Decimal := ⟨false, 99, 0, by decide, by decide⟩
    let below : Decimal := ⟨true, 1, 0, by decide, by decide⟩
    ∃ left right substring : LibraryFunction, functionTable.find? "STR_LEFT" = some left ∧
      functionTable.find? "STR_RIGHT" = some right ∧
      functionTable.find? "STR_SUBSTRING" = some substring ∧
      let part (function : LibraryFunction) (offsets : List Decimal) : Except EvalError Value :=
        applyFunction #[] context token function.action (.text "a😀bc" :: offsets.map .number)
      (∃ before after : String, part left [.one] = .ok (.text before) ∧
        part substring [.one] = .ok (.text after) ∧ before ++ after = "a😀bc" ∧
        before.length = 1) ∧
      part right [.one] = part substring [three] ∧
      (∃ first second : String, part substring [.one, more] = .ok (.text first) ∧
        part substring [more, far] = .ok (.text second) ∧
        part substring [.one, far] = .ok (.text (first ++ second))) ∧
      part left [below] = .ok (.text "") ∧
      part substring [below, far] = .error (token.invalidParameter "start" .negative) := by
  intro context token more three far below
  obtain ⟨left, right, substring, hleft, hright, hsubstring, hparts⟩ :=
    textParts_fit #[] context token
  obtain ⟨hinside, -⟩ := hparts "a😀bc" 1 .one (by decide +kernel)
  obtain ⟨hwhole, hend, -, hbetween⟩ := hinside (by decide)
  obtain ⟨-, houtside⟩ := hparts "a😀bc" (-1) below (by decide +kernel)
  obtain ⟨hempty, -, -, hfault⟩ := houtside (by decide)
  have hmore : more.toInt64? = some 2 := by decide +kernel
  have hthree : three.toInt64? = some (max 0 (("a😀bc".length : Int) - 1)) := by decide +kernel
  have hfar : far.toInt64? = some 99 := by decide +kernel
  exact ⟨left, right, substring, hleft, hright, hsubstring, hwhole, hend three hthree,
    hbetween more 2 far 99 hmore hfar (by decide) (by decide), hempty, hfault far⟩

end BuiltIn
end Formula
