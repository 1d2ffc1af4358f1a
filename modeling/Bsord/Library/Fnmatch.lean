import Mathlib.Data.List.Infix

/-! # Shell-style patterns

Patterns in which `*` stands for any text, `?` for any character, and `[seq]` and `[!seq]` for the characters
in and not in `seq`, where `a-z` is a range.  A bracket that is not closed stands for itself.  Ranges without
characters are taken out of a bracket before it is read, so that `[b-a!x]` is `[!x]`.
-/

namespace Library.Fnmatch

inductive Item where
  | char (c : Char)
  | range (first last : Char)
deriving DecidableEq

def Item.accepts : Item → Char → Bool
  | char d, c => c = d
  | range first last, c => first ≤ c ∧ c ≤ last

def items : List Char → List Item
  | first :: '-' :: last :: seq => .range first last :: items seq
  | c :: seq => .char c :: items seq
  | [] => []

def Item.inhabited : Item → Bool
  | char _ => true
  | range first last => first ≤ last

inductive Token where
  | star
  | any
  | one (c : Char)
  | set (negated : Bool) (items : List Item)
deriving DecidableEq

def Token.accepts : Token → Char → Bool
  | star, _ => false
  | any, _ => true
  | one d, c => c = d
  | set negated items, c => items.any (·.accepts c) != negated

/-- A bracket without its empty ranges.  A hyphen after the `!` that then comes first is a character. -/
def bracket : List Item → Token
  | .char '!' :: items => .set true items
  | .range '!' last :: items => .set true (.char '-' :: .char last :: items)
  | items => .set false items

/-- The characters before the bracket that closes, of which the first can be a bracket, and those after it. -/
def closed (pattern : List Char) : Option (List Char × List Char) :=
  let first := if pattern.head? = some ']' then 1 else 0
  match (pattern.drop first).dropWhile (· ≠ ']') with
  | [] => none
  | _ :: after => some (pattern.take first ++ (pattern.drop first).takeWhile (· ≠ ']'), after)

/-- The tokens of a pattern of at most `length` characters. -/
def translate (length : Nat) (pattern : List Char) : List Token :=
  match length, pattern with
  | 0, _ => []
  | _, [] => []
  | length + 1, '*' :: pattern => .star :: translate length pattern
  | length + 1, '?' :: pattern => .any :: translate length pattern
  | length + 1, '[' :: '!' :: pattern =>
    match closed pattern with
    | none => .one '[' :: translate length ('!' :: pattern)
    | some (seq, after) => .set true (items seq) :: translate length after
  | length + 1, '[' :: pattern =>
    match closed pattern with
    | none => .one '[' :: translate length pattern
    | some (seq, after) => bracket ((items seq).filter Item.inhabited) :: translate length after
  | length + 1, c :: pattern => .one c :: translate length pattern

def tokensMatch : List Token → List Char → Bool
  | [], name => name.isEmpty
  | .star :: tokens, name => name.tails.any (tokensMatch tokens)
  | token :: tokens, c :: name => token.accepts c && tokensMatch tokens name
  | _ :: _, [] => false

end Library.Fnmatch

/-- The whole name matches the pattern. -/
def Library.fnmatchcase (name pattern : String) : Bool :=
  Fnmatch.tokensMatch (Fnmatch.translate pattern.length pattern.toList) name.toList

namespace Library

open Fnmatch

theorem tokensMatch_star (name : List Char) : tokensMatch [.star] name := by
  rw [tokensMatch, List.any_eq_true]
  exact ⟨[], by simp, rfl⟩

theorem fnmatchcase_star (name : String) : fnmatchcase name "*" :=
  tokensMatch_star name.toList

/-- A pattern of one character matches longer names only if it is `*`. -/
theorem fnmatchcase_singleton {name : String} (long : 2 ≤ name.length) (c : Char) :
    fnmatchcase name (String.singleton c) = decide (c = '*') := by
  rw [fnmatchcase, String.length_singleton, String.toList_singleton]
  rw [← String.length_toList] at long
  match name.toList, long with
  | d :: e :: rest, _ =>
    by_cases star : c = '*'
    · subst star
      simpa [Fnmatch.translate] using tokensMatch_star (d :: e :: rest)
    · by_cases any : c = '?'
      · subst any
        rfl
      · by_cases bracket : c = '['
        · subst bracket
          simp [Fnmatch.translate, Fnmatch.closed, tokensMatch]
        · simp [Fnmatch.translate, tokensMatch, star]

example : fnmatchcase "test_c.py" "test_[!ab]*.p?" = true := by decide

example : fnmatchcase "test_c" "test_[b-a!x]" = true := by decide

end Library
