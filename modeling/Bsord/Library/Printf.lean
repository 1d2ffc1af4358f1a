import Bsord.Library.Numeral
import Mathlib.Tactic.Cases

/-! # `snprintf`

A format string is parsed once into pieces (`Format.parse`): bytes to copy and the conversions `%d`
with a width, `%lx` with a zero-padded width, and `%s`.  `sprintf` is the untruncated output,
`snprintf size` its first `size - 1` bytes, as the C function leaves them in the buffer.
-/

namespace Library.Printf

open Library.Numeral

/-! ## Formats -/

inductive Conversion where
  | decimal (width : Nat)
  | hex (width : Nat)
  | string
deriving DecidableEq, Repr

inductive Piece where
  | byte (byte : UInt8)
  | conversion (conversion : Conversion)
deriving DecidableEq, Repr

abbrev Format := List Piece

structure Flags where
  zero : Bool
  width : Nat

/-- Parse a format string.  Inside a conversion the flags read so far are kept; blank-padded
    hexadecimals, zero-padded decimals and other conversions are not covered and give `none`. -/
def Format.parse : Option Flags → List Char → Option Format
  | none, [] => some []
  | none, '%' :: chars => parse (some ⟨false, 0⟩) chars
  | none, char :: chars => (parse none chars).map (.byte char.toUInt8 :: ·)
  | some _, [] => none
  -- A length modifier says nothing about the output.
  | some flags, 'l' :: chars => parse (some flags) chars
  | some ⟨false, width⟩, 'd' :: chars => (parse none chars).map (.conversion (.decimal width) :: ·)
  | some ⟨true, width⟩, 'x' :: chars => (parse none chars).map (.conversion (.hex width) :: ·)
  | some ⟨false, 0⟩, 'x' :: chars => (parse none chars).map (.conversion (.hex 0) :: ·)
  | some ⟨false, 0⟩, 's' :: chars => (parse none chars).map (.conversion .string :: ·)
  -- A zero that no digit precedes is a flag, any other digit belongs to the width.
  | some ⟨false, 0⟩, '0' :: chars => parse (some ⟨true, 0⟩) chars
  | some ⟨zero, width⟩, char :: chars =>
    if char.isDigit then parse (some ⟨zero, 10 * width + (char.toNat - 48)⟩) chars else none

/-- The format of a string; that the string parses is checked where it is written. -/
def format (s : String) (parses : (Format.parse none s.toList).isSome = true := by decide) : Format :=
  (Format.parse none s.toList).get parses

/-! ## Output -/

inductive Argument where
  | int (value : Int)
  | word (value : UInt64)
  | string (value : Text)
deriving DecidableEq, Repr

def signedNumeral (n : Int) : Text :=
  if n < 0 then 45 :: numeral 10 n.natAbs else numeral 10 n.natAbs

/-- An argument of another type than the conversion's is undefined behaviour in C. -/
def Conversion.render : Conversion → Argument → Text
  | .decimal width, .int n => List.leftpad width 32 (signedNumeral n)
  | .hex width, .word w => List.leftpad width (digit 0) (numeral 16 w.toNat)
  | .string, .string s => s
  | _, _ => []

def sprintf : Format → List Argument → Text
  | [], _ => []
  | .byte byte :: format, arguments => byte :: sprintf format arguments
  | .conversion conversion :: format, argument :: arguments =>
    conversion.render argument ++ sprintf format arguments
  -- Too few arguments, which is undefined behaviour in C.
  | .conversion _ :: _, [] => []

/-- What `snprintf` leaves in a buffer of `size` bytes, before the terminating NUL. -/
def snprintf (size : Nat) (format : Format) (arguments : List Argument) : Text :=
  (sprintf format arguments).take (size - 1)

/-- The output fits the buffer, with its terminating NUL. -/
def Fits (size : Nat) (format : Format) (arguments : List Argument) : Prop :=
  (sprintf format arguments).length < size

instance (size : Nat) (format : Format) (arguments : List Argument) :
    Decidable (Fits size format arguments) := inferInstanceAs (Decidable (_ < _))

/-- The arguments are those the format asks for, in number and type. -/
def Accepts : Format → List Argument → Prop
  | [], [] => True
  | .byte _ :: format, arguments => Accepts format arguments
  | .conversion (.decimal _) :: format, .int _ :: arguments => Accepts format arguments
  | .conversion (.hex _) :: format, .word _ :: arguments => Accepts format arguments
  | .conversion .string :: format, .string _ :: arguments => Accepts format arguments
  | _, _ => False

@[simp] theorem sprintf_nil (arguments : List Argument) : sprintf [] arguments = [] := rfl

@[simp] theorem sprintf_byte (byte : UInt8) (format : Format) (arguments : List Argument) :
    sprintf (.byte byte :: format) arguments = byte :: sprintf format arguments := rfl

@[simp] theorem sprintf_conversion (conversion : Conversion) (format : Format)
    (argument : Argument) (arguments : List Argument) :
    sprintf (.conversion conversion :: format) (argument :: arguments) =
      conversion.render argument ++ sprintf format arguments := rfl

theorem snprintf_of_fits {size : Nat} {format : Format} {arguments : List Argument}
    (fits : Fits size format arguments) : snprintf size format arguments = sprintf format arguments :=
  List.take_of_length_le (by simp only [Fits] at fits; omega)

theorem length_snprintf_lt {size : Nat} (positive : 0 < size) (format : Format)
    (arguments : List Argument) : (snprintf size format arguments).length < size := by
  simp only [snprintf, List.length_take]
  omega

theorem sprintf_append : ∀ {first : Format} {firstArguments : List Argument},
    Accepts first firstArguments → ∀ (second : Format) (secondArguments : List Argument),
      sprintf (first ++ second) (firstArguments ++ secondArguments) =
        sprintf first firstArguments ++ sprintf second secondArguments
  | [], [], _, _, _ => rfl
  | .byte byte :: first, arguments, accepts, second, secondArguments => by
    have accepts : Accepts first arguments := accepts
    simp only [List.cons_append, sprintf_byte, sprintf_append accepts second secondArguments]
  | .conversion (.decimal _) :: first, .int _ :: arguments, accepts, second, secondArguments
  | .conversion (.hex _) :: first, .word _ :: arguments, accepts, second, secondArguments
  | .conversion .string :: first, .string _ :: arguments, accepts, second, secondArguments => by
    have accepts : Accepts first arguments := accepts
    simp only [List.cons_append, sprintf_conversion, List.append_assoc,
      sprintf_append accepts second secondArguments]

/-! ## Lengths -/

theorem length_numeral_word (w : UInt64) : (numeral 16 w.toNat).length ≤ 16 :=
  length_numeral_le (by omega) (by omega) (by have := w.toNat_lt; omega)

theorem length_render_hex_le (width : Nat) (w : UInt64) :
    ((Conversion.hex width).render (.word w)).length ≤ max width 16 := by
  have short := length_numeral_word w
  simp only [Conversion.render, List.length_leftpad]
  omega

theorem length_signedNumeral_le {n : Int} {k : Nat} (positive : 0 < k) (bound : n.natAbs < 10 ^ k) :
    (signedNumeral n).length ≤ k + 1 := by
  have short := length_numeral_le (b := 10) (by omega) positive bound
  simp only [signedNumeral]
  split
  · simpa using short
  · omega

end Library.Printf
