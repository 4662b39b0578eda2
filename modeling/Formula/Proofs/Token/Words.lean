-- SUMMARY: Two texts that differ in the letter case of words only have the same tokens once the words are written in capitals.
import Formula.Proofs.Token.Capitals
import Mathlib.Data.List.Forall2

/-!
# The letter case of words

The words of a formula are its names, functions and operators. The name of a field is not one of
them: fields are looked up as they are written. If two texts differ in the case of letters in words
(`Token.Recasing`), they are split into the same tokens, up to the case of the words
(`Token.wordsInCapitals_of_recasing`).
-/

namespace Formula

/-- Whether a token of this kind is looked up by its name. -/
def TokenKind.isWord : TokenKind → Bool
  | name | function | prefixOperator | postfixOperator | infixOperator => true
  | _ => false

namespace Token

variable {L : Language}

/-! ## Words -/

/-- Whether a token behind one of the given kind is a word. What stands behind a separator is the
    name of a field. -/
def isWord (previous : Option TokenKind) (token : Token) : Bool :=
  token.kind.isWord && previous != some .separator

/-- The words among the tokens after one of the given kind. -/
def words : Option TokenKind → List Token → List Token
  | _, [] => []
  | previous, token :: rest =>
    if isWord previous token then token :: words (some token.kind) rest
    else words (some token.kind) rest

/-- The tokens after one of the given kind, with the words in capitals. -/
def wordsInCapitals : Option TokenKind → List Token → List Token
  | _, [] => []
  | previous, token :: rest =>
    (if isWord previous token then token.capitals else token) ::
      wordsInCapitals (some token.kind) rest

/-- The token in capitals, if it is a word. -/
def wordInCapitals (token : Token) : Token := if token.kind.isWord then token.capitals else token

theorem words_subset {previous : Option TokenKind} {tokens : List Token} :
    ∀ token ∈ words previous tokens, token ∈ tokens := by
  induction tokens generalizing previous with
  | nil => simp [words]
  | cons first rest ih =>
    intro token htoken
    simp only [words] at htoken
    split at htoken
    · rcases List.mem_cons.mp htoken with rfl | htoken
      · exact List.mem_cons_self
      · exact List.mem_cons_of_mem _ (ih token htoken)
    · exact List.mem_cons_of_mem _ (ih token htoken)

/-- The second text differs from the first one only in the case of ASCII letters, and only within
    words. -/
structure Recasing (L : Language) (text text' : String) : Prop where
  letters : Text.capitals text' = Text.capitals text
  words : ∀ tokens, scan L text = .ok tokens →
    ∀ index, text'.toList[index]? ≠ text.toList[index]? →
      ∃ token ∈ words none tokens, token.position ≤ index ∧ index < token.stop

/-- It is enough to look at the characters of the first text. -/
theorem recasing_iff {text text' : String} : Recasing L text text' ↔
    Text.capitals text' = Text.capitals text ∧
    ∀ tokens, scan L text = .ok tokens → ∀ index < text.length,
      text'.toList[index]? ≠ text.toList[index]? →
        ∃ token ∈ words none tokens, token.position ≤ index ∧ index < token.stop := by
  constructor
  · exact fun h => ⟨h.letters, fun tokens hscan index _ => h.words tokens hscan index⟩
  · rintro ⟨hletters, hwords⟩
    refine ⟨hletters, fun tokens hscan index hdiffers => ?_⟩
    refine hwords tokens hscan index (Nat.lt_of_not_le fun hle => hdiffers ?_) hdiffers
    have hlength : text'.length = text.length := by
      rw [← Text.length_capitals, hletters, Text.length_capitals]
    rw [List.getElem?_eq_none, List.getElem?_eq_none]
    · rwa [String.length_toList]
    · rwa [String.length_toList, hlength]

instance (text text' : String) : Decidable (Recasing L text text') :=
  match h : scan L text with
  | .error error => decidable_of_iff (Text.capitals text' = Text.capitals text) (by
      rw [recasing_iff, h]
      simp)
  | .ok tokens => decidable_of_iff (Text.capitals text' = Text.capitals text ∧
      ∀ index < text.length, text'.toList[index]? ≠ text.toList[index]? →
        ∃ token ∈ words none tokens, token.position ≤ index ∧ index < token.stop) (by
      rw [recasing_iff, h]
      simp)

/-! ## Tokens in two texts -/

/-- The characters of a token decide what its lexeme is. -/
theorem Spelled.lexeme_eq {token token' : Token} {piece : List Char}
    (hkind : token'.kind = token.kind) (h : Spelled L token piece)
    (h' : Spelled L token' piece) : token'.lexeme = token.lexeme := by
  rw [← String.toList_inj]
  generalize hpiece : piece = piece' at h'
  cases h with
  | plain kind =>
    cases h' with
    | plain => exact hpiece.symm
    | quoted kind' => exact absurd (hkind ▸ kind') kind
  | quoted kind =>
    cases h' with
    | plain kind' => exact absurd (hkind.trans kind) kind'
    | quoted =>
      obtain ⟨rfl, hcontent⟩ := List.cons.inj hpiece
      exact (List.append_cancel_right hcontent).symm

/-- Each token is spelled with the characters from its position on. -/
theorem Layout.spelled_at {text : List Char} {tokens : List Token} (h : Layout L 0 text tokens) :
    ∀ token ∈ tokens, Spelled L token ((text.drop token.position).take token.width) := by
  intro token htoken
  obtain ⟨before, piece, behind, rfl, hplace, hspelled⟩ := h.spelled token htoken
  rw [hplace, Nat.zero_add, List.drop_left, ← hspelled.length_eq, List.take_left]
  exact hspelled

/-- What stays the same of a token in capitals. -/
theorem eq_of_capitals {token token' : Token} (h : token.capitals = token'.capitals) :
    token'.kind = token.kind ∧ token'.position = token.position ∧ token'.width = token.width ∧
      (token'.lexeme = token.lexeme → token' = token) := by
  obtain ⟨kind, lexeme, position, binding⟩ := token
  obtain ⟨kind', lexeme', position', binding'⟩ := token'
  simp only [capitals, Token.mk.injEq] at h
  obtain ⟨rfl, hlexeme, rfl, rfl⟩ := h
  have hlength : lexeme'.length = lexeme.length := by
    rw [← Text.length_capitals lexeme', ← hlexeme, Text.length_capitals]
  refine ⟨rfl, rfl, by rw [width, width, hlength], ?_⟩
  rintro ⟨⟩
  rfl

/-- Where the characters of a token are the same, so is the token. -/
theorem eq_of_same_characters {text text' : List Char} {token token' : Token}
    (hcapitals : token.capitals = token'.capitals)
    (h : Spelled L token ((text.drop token.position).take token.width))
    (h' : Spelled L token' ((text'.drop token'.position).take token'.width))
    (hsame : ∀ index, token.position ≤ index → index < token.stop →
      text'[index]? = text[index]?) : token' = token := by
  obtain ⟨hkind, hposition, hwidth, heq⟩ := eq_of_capitals hcapitals
  have hpiece : (text'.drop token'.position).take token'.width =
      (text.drop token.position).take token.width := by
    rw [hposition, hwidth]
    refine List.ext_getElem? fun offset => ?_
    simp only [List.getElem?_take, List.getElem?_drop]
    split
    · rename_i hoffset
      exact hsame _ (Nat.le_add_right _ _) (Nat.add_lt_add_left hoffset _)
    · rfl
  rw [hpiece] at h'
  exact heq (h.lexeme_eq hkind h')

/-- Where tokens are in order and the characters differ in words only, all tokens but the words are
    the same. -/
theorem wordsInCapitals_eq {text text' : List Char} {previous : Option TokenKind}
    {tokens tokens' : List Token}
    (hcapitals : List.Forall₂ (fun token token' => token.capitals = token'.capitals) tokens tokens')
    (hordered : tokens.Pairwise fun a b => a.stop ≤ b.position)
    (hspelled : ∀ token ∈ tokens, Spelled L token ((text.drop token.position).take token.width))
    (hspelled' : ∀ token ∈ tokens', Spelled L token ((text'.drop token.position).take token.width))
    (hwords : ∀ index, text'[index]? ≠ text[index]? →
      (∃ token ∈ tokens, token.position ≤ index ∧ index < token.stop) →
      ∃ word ∈ words previous tokens, word.position ≤ index ∧ index < word.stop) :
    wordsInCapitals previous tokens' = wordsInCapitals previous tokens := by
  induction hcapitals generalizing previous with
  | nil => rfl
  | @cons token token' rest rest' hfirst hrest ih =>
    obtain ⟨hbehind, hordered⟩ := List.pairwise_cons.mp hordered
    obtain ⟨htoken, hspelled⟩ := List.forall_mem_cons.mp hspelled
    obtain ⟨htoken', hspelled'⟩ := List.forall_mem_cons.mp hspelled'
    have hkind := (eq_of_capitals hfirst).1
    have hlater : ∀ index, index < token.stop → ∀ other ∈ rest, ¬ other.position ≤ index := by
      intro index hindex other hother hle
      have := hbehind other hother
      omega
    have hwordsRest : ∀ index, text'[index]? ≠ text[index]? →
        (∃ other ∈ rest, other.position ≤ index ∧ index < other.stop) →
        ∃ word ∈ words (some token.kind) rest, word.position ≤ index ∧ index < word.stop := by
      rintro index hdiffers ⟨other, hother, hplace⟩
      obtain ⟨word, hword, hinside⟩ :=
        hwords index hdiffers ⟨other, List.mem_cons_of_mem _ hother, hplace⟩
      simp only [words] at hword
      split at hword
      · rcases List.mem_cons.mp hword with rfl | hword
        · exact absurd hplace.1 (hlater index hinside.2 other hother)
        · exact ⟨word, hword, hinside⟩
      · exact ⟨word, hword, hinside⟩
    have hsame : isWord previous token = false → token' = token := by
      intro hword
      refine eq_of_same_characters hfirst htoken htoken' fun index hle hlt => ?_
      refine Decidable.of_not_not fun hdiffers => ?_
      obtain ⟨word, hmem, hinside⟩ :=
        hwords index hdiffers ⟨token, List.mem_cons_self, hle, hlt⟩
      simp only [words, hword, Bool.false_eq_true, if_false] at hmem
      exact hlater index hlt word (words_subset word hmem) hinside.1
    have hisWord : isWord previous token' = isWord previous token := by rw [isWord, hkind, isWord]
    simp only [wordsInCapitals, hisWord, hkind, ih hordered hspelled hspelled' hwordsRest]
    split
    · rw [hfirst]
    · rename_i hword
      rw [hsame (by simpa using hword)]

/-- Where two texts differ in the letter case of words only, they have the same tokens up to the
    letter case of the words. -/
theorem wordsInCapitals_of_recasing {text text' : String} (h : Recasing L text text')
    {tokens tokens' : List Token} (hscan : scan L text = .ok tokens)
    (hscan' : scan L text' = .ok tokens') :
    wordsInCapitals none tokens' = wordsInCapitals none tokens := by
  have hlayout : Layout L 0 text.toList tokens := scanFrom_layout hscan
  have hlayout' : Layout L 0 text'.toList tokens' := scanFrom_layout hscan'
  have hcapitals : tokens.map capitals = tokens'.map capitals := by
    have hsame := @scan_capitals L text'
    rw [h.letters, scan_capitals, hscan, hscan'] at hsame
    exact Except.ok.inj hsame
  rw [← List.forall₂_eq_eq_eq, List.forall₂_map_left_iff, List.forall₂_map_right_iff] at hcapitals
  exact wordsInCapitals_eq hcapitals hlayout.pairwise.1 hlayout.spelled_at hlayout'.spelled_at
    fun index hdiffers _ => h.words tokens hscan index hdiffers

end Token
end Formula
