import Mathlib.Data.Nat.Digits.Lemmas

/-! # Numerals as bytes

`numeral b n` is the number `n` written with its most significant digit first, as `printf` writes
it, in any base `b` up to sixteen; `readNumeral` reads the longest run of digits at the head of a text.
The two are inverse whenever the text behind the numeral does not go on with a digit
(`readNumeral_leftpad`), with or without zeros in front.
-/

namespace Library

/-- A text is the list of its bytes. -/
abbrev Text := List UInt8

def ascii (s : String) : Text := s.toList.map Char.toUInt8

namespace Numeral

/-- The byte of a digit: `0`-`9`, then `a`-`f`. -/
def digit (d : Nat) : UInt8 := (if d < 10 then 48 + d else 87 + d).toUInt8

/-- The value a byte has as a digit; bytes that are none get sixteen, which is no digit of any base. -/
def digitValue (byte : UInt8) : Nat :=
  if 48 ≤ byte.toNat ∧ byte.toNat < 58 then byte.toNat - 48
  else if 97 ≤ byte.toNat ∧ byte.toNat < 103 then byte.toNat - 87
  else 16

def isDigit (b : Nat) (byte : UInt8) : Bool := digitValue byte < b

def numeral (b n : Nat) : Text :=
  -- `Nat.digits` begins with the lowest digit and has none for 0.
  if n = 0 then [digit 0] else ((Nat.digits b n).map digit).reverse

/-- The number that a list of digits, most significant first, stands for. -/
def valueOf (b : Nat) (digits : Text) : Nat :=
  Nat.ofDigits b (digits.reverse.map digitValue)

def readNumeral (b : Nat) (text : Text) : Option (Nat × Text) :=
  let digits := text.takeWhile (isDigit b)
  if digits = [] then none else some (valueOf b digits, text.dropWhile (isDigit b))

/-! ## Digits -/

theorem digitValue_digit : ∀ {d : Nat}, d < 16 → digitValue (digit d) = d
  | 0, _ | 1, _ | 2, _ | 3, _ | 4, _ | 5, _ | 6, _ | 7, _ | 8, _ | 9, _ | 10, _ | 11, _ | 12, _
  | 13, _ | 14, _ | 15, _ => by decide
  | _ + 16, h => by omega

section

variable {b : Nat} (two : 2 ≤ b) (sixteen : b ≤ 16)

include two sixteen

theorem isDigit_of_mem_numeral {n : Nat} {byte : UInt8} (mem : byte ∈ numeral b n) :
    isDigit b byte = true := by
  have small : ∃ d, d < b ∧ digit d = byte := by
    simp only [numeral] at mem
    split at mem
    · exact ⟨0, by omega, (List.mem_singleton.mp mem).symm⟩
    · obtain ⟨d, digitMem, rfl⟩ := List.mem_map.mp (List.mem_reverse.mp mem)
      exact ⟨d, Nat.digits_lt_base two digitMem, rfl⟩
  obtain ⟨d, bound, rfl⟩ := small
  simp only [isDigit, digitValue_digit (Nat.lt_of_lt_of_le bound sixteen), decide_eq_true_eq]
  exact bound

theorem valueOf_numeral (n : Nat) : valueOf b (numeral b n) = n := by
  simp only [valueOf, numeral]
  split
  case isTrue zero =>
    subst zero
    simp [digitValue_digit]
  case isFalse nonzero =>
    have back : ((Nat.digits b n).map digit).map digitValue = Nat.digits b n := by
      rw [List.map_map]
      refine (List.map_congr_left fun d mem => ?_).trans (List.map_id _)
      exact digitValue_digit (Nat.lt_of_lt_of_le (Nat.digits_lt_base two mem) sixteen)
    rw [List.reverse_reverse, back, Nat.ofDigits_digits]

theorem valueOf_leftpad (width n : Nat) :
    valueOf b (List.leftpad width (digit 0) (numeral b n)) = n := by
  have zero : digitValue (digit 0) = 0 := by decide
  simp only [valueOf, List.leftpad, List.reverse_append, List.map_append, List.reverse_replicate,
    List.map_replicate, zero, Nat.ofDigits_append_replicate_zero]
  exact valueOf_numeral two sixteen n

end

theorem numeral_ne_nil (b n : Nat) : numeral b n ≠ [] := by
  simp only [numeral]
  split
  · simp
  · simpa [Nat.digits_eq_nil_iff_eq_zero] using ‹_›

theorem length_numeral_le {b n k : Nat} (two : 2 ≤ b) (positive : 0 < k) (bound : n < b ^ k) :
    (numeral b n).length ≤ k := by
  simp only [numeral]
  split
  · exact positive
  · rw [List.length_reverse, List.length_map]
    exact (Nat.digits_length_le_iff (by omega) n).mpr bound

/-! ## Reading back -/

theorem readNumeral_append {b : Nat} {digits rest : Text} (nonempty : digits ≠ [])
    (all : ∀ byte ∈ digits, isDigit b byte = true)
    (stop : ∀ byte, rest.head? = some byte → isDigit b byte = false) :
    readNumeral b (digits ++ rest) = some (valueOf b digits, rest) := by
  have restTake : rest.takeWhile (isDigit b) = [] := by
    cases rest with
    | nil => rfl
    | cons byte rest => simp [List.takeWhile, stop byte rfl]
  have restDrop : rest.dropWhile (isDigit b) = rest := by
    cases rest with
    | nil => rfl
    | cons byte rest => simp [List.dropWhile, stop byte rfl]
  have take : (digits ++ rest).takeWhile (isDigit b) = digits := by
    rw [List.takeWhile_append_of_pos all, restTake, List.append_nil]
  have drop : (digits ++ rest).dropWhile (isDigit b) = rest := by
    rw [List.dropWhile_append_of_pos all, restDrop]
  simp only [readNumeral, take, drop, nonempty, if_false]

/-- A numeral, padded with zeros or not, reads back as its number. -/
theorem readNumeral_leftpad {b : Nat} (two : 2 ≤ b) (sixteen : b ≤ 16) (width n : Nat)
    {rest : Text} (stop : ∀ byte, rest.head? = some byte → isDigit b byte = false) :
    readNumeral b (List.leftpad width (digit 0) (numeral b n) ++ rest) = some (n, rest) := by
  have all : ∀ byte ∈ List.leftpad width (digit 0) (numeral b n), isDigit b byte = true := by
    intro byte mem
    cases List.mem_append.mp mem with
    | inl pad =>
      rw [List.eq_of_mem_replicate pad, isDigit, digitValue_digit (by omega), decide_eq_true_eq]
      omega
    | inr mem => exact isDigit_of_mem_numeral two sixteen mem
  have nonempty : List.leftpad width (digit 0) (numeral b n) ≠ [] := by
    simp [List.leftpad, numeral_ne_nil]
  rw [readNumeral_append nonempty all stop, valueOf_leftpad two sixteen]

end Numeral

end Library
