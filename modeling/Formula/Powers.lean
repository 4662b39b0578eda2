-- SUMMARY: Powers of two and of ten, the bounds of words and the weights of digits.

/-! # Powers of two and ten

`twoTo n` bounds the words of `n` binary digits, and `tenTo n` is the weight of a decimal digit
with `n` digits behind it. -/

namespace Formula

/-- The number of words of `n` binary digits. -/
abbrev twoTo (n : Nat) : Nat := Nat.pow 2 n

/-- The weight of a digit with `n` digits behind it. -/
abbrev tenTo (n : Nat) : Nat := Nat.pow 10 n

theorem tenTo_succ (n : Nat) : tenTo (n + 1) = tenTo n * 10 := rfl

theorem tenTo_add (m n : Nat) : tenTo (m + n) = tenTo m * tenTo n := Nat.pow_add 10 m n

theorem tenTo_pos (n : Nat) : 0 < tenTo n := Nat.pow_pos (by decide)

theorem tenTo_le_tenTo {m n : Nat} (h : m ≤ n) : tenTo m ≤ tenTo n :=
  Nat.pow_le_pow_right (by decide) h

end Formula
