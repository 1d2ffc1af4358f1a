import Bsord.Library.Printf

/-! # Reading a text back by the format it was printed with

`scan` is the inverse of `sprintf`: `%s` is read up to the first occurrence of the literal text that
follows it in the format, the numbers up to the first byte that is no digit of theirs.  Nothing is
lost when every conversion is delimited by what follows it (`Readable`, `scan_sprintf`).
-/

namespace Library.Printf

open Library.Numeral

def leadingLiteral : Format → Text
  | .byte byte :: format => byte :: leadingLiteral format
  | _ => []

def upTo (stop : Text) : Text → Option (Text × Text)
  | [] => if stop = [] then some ([], []) else none
  | byte :: text =>
    if stop.isPrefixOf (byte :: text) then some ([], byte :: text)
    else (upTo stop text).map fun (before, rest) => (byte :: before, rest)

def readSigned (text : Text) : Option (Int × Text) :=
  if text.head? = some 45 then (readNumeral 10 text.tail).map fun (n, rest) => (-(n : Int), rest)
  else (readNumeral 10 text).map fun (n, rest) => ((n : Int), rest)

/-- Read the argument of one conversion, where `stop` is the literal text that follows it. -/
def Conversion.scan (stop : Text) : Conversion → Text → Option (Argument × Text)
  | .decimal _, text =>
    (readSigned (text.dropWhile (· == 32))).map fun (n, rest) => (.int n, rest)
  | .hex _, text => (readNumeral 16 text).map fun (n, rest) => (.word (UInt64.ofNat n), rest)
  | .string, text => (upTo stop text).map fun (s, rest) => (.string s, rest)

def scan : Format → Text → Option (List Argument × Text)
  | [], text => some ([], text)
  | .byte _ :: _, [] => none
  | .byte byte :: format, head :: text => if head = byte then scan format text else none
  | .conversion conversion :: format, text =>
    (conversion.scan (leadingLiteral format) text).bind fun (argument, rest) =>
      (scan format rest).map fun (arguments, rest) => (argument :: arguments, rest)

def EndsDigits (b : Nat) : Text → Prop
  | [] => False
  | byte :: _ => isDigit b byte = false

instance (b : Nat) : ∀ stop, Decidable (EndsDigits b stop)
  | [] => inferInstanceAs (Decidable False)
  | _ :: _ => inferInstanceAs (Decidable (_ = _))

/-- `stop` occurs in `s` followed by `stop` at the end of `s` and nowhere before. -/
def FirstAtEnd (s stop : Text) : Prop :=
  stop ≠ [] ∧ ∀ p < s.length, ¬ stop <+: (s ++ stop).drop p

/-- What follows a conversion in the format tells where the text of its argument ends. -/
def Conversion.Delimited (stop : Text) : Conversion → Argument → Prop
  | .decimal _, .int _ => EndsDigits 10 stop
  | .hex _, .word _ => EndsDigits 16 stop
  | .string, .string s => FirstAtEnd s stop
  | _, _ => False

/-- Every conversion is given its argument and is delimited by what follows it. -/
def Readable : Format → List Argument → Prop
  | [], [] => True
  | .byte _ :: format, arguments => Readable format arguments
  | .conversion conversion :: format, argument :: arguments =>
    conversion.Delimited (leadingLiteral format) argument ∧ Readable format arguments
  | _, _ => False

/-! ## Formats in sequence -/

theorem leadingLiteral_append : ∀ first second : Format,
    leadingLiteral first <+: leadingLiteral (first ++ second)
  | [], _ => List.nil_prefix
  | .byte byte :: first, second =>
    (List.prefix_cons_inj byte).mpr (leadingLiteral_append first second)
  | .conversion _ :: _, _ => List.nil_prefix

theorem EndsDigits.mono {b : Nat} {stop longer : Text} (ends : EndsDigits b stop)
    (leads : stop <+: longer) : EndsDigits b longer := by
  obtain ⟨rest, rfl⟩ := leads
  cases stop with
  | nil => exact ends.elim
  | cons _ _ => exact ends

theorem FirstAtEnd.not_occurs {s stop : Text} (first : FirstAtEnd s stop) {p : Nat} (bound : p < s.length)
    (rest : Text) : ¬ stop <+: (s ++ (stop ++ rest)).drop p := by
  intro occurs
  apply first.2 p bound
  -- An occurrence that starts inside `s` ends before `rest` does begin.
  refine List.prefix_of_prefix_length_le occurs ?_ (by simp; omega)
  have shorter : p ≤ (s ++ stop).length := by simp; omega
  rw [← List.append_assoc, List.drop_append_of_le_length shorter]
  exact List.prefix_append _ _

theorem FirstAtEnd.mono {s stop longer : Text} (first : FirstAtEnd s stop) (leads : stop <+: longer) :
    FirstAtEnd s longer := by
  obtain ⟨rest, rfl⟩ := leads
  refine ⟨by simp [first.1], fun p bound occurs => first.not_occurs bound rest ?_⟩
  exact (List.prefix_append stop rest).trans occurs

theorem Conversion.Delimited.mono {stop longer : Text} (leads : stop <+: longer) :
    ∀ {conversion : Conversion} {argument : Argument}, conversion.Delimited stop argument →
      conversion.Delimited longer argument
  | .decimal _, .int _, ends => EndsDigits.mono ends leads
  | .hex _, .word _, ends => EndsDigits.mono ends leads
  | .string, .string _, first => FirstAtEnd.mono first leads

theorem Readable.append : ∀ {first : Format} {firstArguments : List Argument},
    Readable first firstArguments → ∀ {second : Format} {secondArguments : List Argument},
      Readable second secondArguments → Readable (first ++ second) (firstArguments ++ secondArguments)
  | [], [], _, _, _, readable => readable
  | .byte _ :: first, arguments, readable, _, _, following => by
    have readable : Readable first arguments := readable
    exact readable.append following
  | .conversion _ :: first, _ :: _, ⟨delimited, readable⟩, second, _, following =>
    ⟨delimited.mono (leadingLiteral_append first second), readable.append following⟩

/-! ## The pieces read back -/

theorem leadingLiteral_leads : ∀ (format : Format) (arguments : List Argument),
    leadingLiteral format <+: sprintf format arguments
  | [], _ => List.nil_prefix
  | .byte byte :: format, arguments =>
    (List.prefix_cons_inj byte).mpr (leadingLiteral_leads format arguments)
  | .conversion _ :: _, _ => List.nil_prefix

theorem EndsDigits.head {b : Nat} {stop text : Text} (ends : EndsDigits b stop)
    (leads : stop <+: text) : ∀ byte, text.head? = some byte → isDigit b byte = false := by
  obtain ⟨rest, rfl⟩ := leads
  intro byte same
  cases stop with
  | nil => exact ends.elim
  | cons _ _ =>
    cases same
    exact ends

theorem upTo_here {stop text : Text} (nonempty : stop ≠ []) (leads : stop <+: text) :
    upTo stop text = some ([], text) := by
  cases text with
  | nil => exact absurd (List.prefix_nil.mp leads) nonempty
  | cons byte text => rw [upTo, if_pos (List.isPrefixOf_iff_prefix.mpr leads)]

theorem upTo_firstAtEnd {s stop : Text} (first : FirstAtEnd s stop) (rest : Text) :
    upTo stop (s ++ (stop ++ rest)) = some (s, stop ++ rest) := by
  induction s with
  | nil => exact upTo_here first.1 (List.prefix_append stop rest)
  | cons byte s ih =>
    -- The delimiter does not begin at this byte, so the byte belongs to the string.
    have notHere : ¬ stop <+: byte :: (s ++ (stop ++ rest)) := first.not_occurs (p := 0) (by simp) rest
    have tail := ih ⟨first.1, fun p bound =>
      by simpa using first.2 (p + 1) (by simpa using bound)⟩
    rw [List.cons_append, upTo, if_neg (by simpa using notHere), tail]
    rfl

theorem readSigned_signedNumeral (n : Int) {rest : Text}
    (stop : ∀ byte, rest.head? = some byte → isDigit 10 byte = false) :
    readSigned (signedNumeral n ++ rest) = some (n, rest) := by
  have read := readNumeral_leftpad (b := 10) (by omega) (by omega) 0 n.natAbs stop
  simp only [List.leftpad, Nat.zero_sub, List.replicate_zero, List.nil_append] at read
  simp only [readSigned, signedNumeral]
  split
  case isTrue negative =>
    have : -(n.natAbs : Int) = n := by omega
    simp only [List.cons_append, List.head?_cons, if_true, List.tail_cons, read, Option.map_some, this]
  case isFalse nonnegative =>
    have noSign : (numeral 10 n.natAbs ++ rest).head? ≠ some 45 := by
      intro head
      have mem : (45 : UInt8) ∈ numeral 10 n.natAbs := by
        rw [List.head?_append_of_ne_nil _ (numeral_ne_nil _ _)] at head
        exact List.mem_of_mem_head? head
      have digit := isDigit_of_mem_numeral (by omega) (by omega) mem
      revert digit
      decide
    have : (n.natAbs : Int) = n := by omega
    simp only [if_neg noSign, read, Option.map_some, this]

theorem signedNumeral_head (n : Int) : ∃ byte text, signedNumeral n = byte :: text ∧ byte ≠ 32 := by
  simp only [signedNumeral]
  split
  · exact ⟨45, _, rfl, by decide⟩
  · obtain ⟨byte, text, same⟩ := List.exists_cons_of_ne_nil (numeral_ne_nil 10 n.natAbs)
    refine ⟨byte, text, same, ?_⟩
    rintro rfl
    have digit := isDigit_of_mem_numeral (b := 10) (n := n.natAbs) (by omega) (by omega)
      (show 32 ∈ numeral 10 n.natAbs by rw [same]; exact List.mem_cons_self)
    revert digit
    decide

theorem dropWhile_leftpad (width : Nat) (n : Int) (rest : Text) :
    (List.leftpad width 32 (signedNumeral n) ++ rest).dropWhile (· == 32) = signedNumeral n ++ rest := by
  obtain ⟨byte, text, same, notBlank⟩ := signedNumeral_head n
  rw [List.leftpad, List.append_assoc, List.dropWhile_append_of_pos, same]
  · simp [notBlank]
  · intro byte mem
    simp [List.eq_of_mem_replicate mem]

theorem scan_render (stop : Text) {conversion : Conversion} {argument : Argument}
    (delimited : conversion.Delimited stop argument) {text : Text} (leads : stop <+: text) :
    conversion.scan stop (conversion.render argument ++ text) = some (argument, text) := by
  cases conversion with
  | decimal width =>
    cases argument with
    | int n =>
      have ends := EndsDigits.head delimited leads
      simp only [Conversion.scan, Conversion.render, dropWhile_leftpad,
        readSigned_signedNumeral n ends, Option.map_some]
    | word _ | string _ => exact delimited.elim
  | hex width =>
    cases argument with
    | word w =>
      have ends := EndsDigits.head delimited leads
      simp only [Conversion.scan, Conversion.render,
        readNumeral_leftpad (b := 16) (by omega) (by omega) width w.toNat ends, Option.map_some,
        UInt64.ofNat_toNat]
    | int _ | string _ => exact delimited.elim
  | string =>
    cases argument with
    | string s =>
      obtain ⟨rest, rfl⟩ := leads
      simp [Conversion.scan, Conversion.render, upTo_firstAtEnd delimited rest]
    | int _ | word _ => exact delimited.elim

/-- **Round trip**: a text printed by a readable format is read back as the arguments it was printed
    from, whatever text stands behind it. -/
theorem scan_sprintf : ∀ {format : Format} {arguments : List Argument}, Readable format arguments →
    ∀ rest, scan format (sprintf format arguments ++ rest) = some (arguments, rest)
  | [], [], _, rest => rfl
  | .byte byte :: format, arguments, readable, rest => by
    have readable : Readable format arguments := readable
    rw [sprintf_byte, List.cons_append, scan, if_pos rfl]
    exact scan_sprintf readable rest
  | .conversion conversion :: format, argument :: arguments, readable, rest => by
    obtain ⟨delimited, readable⟩ := readable
    have leads : leadingLiteral format <+: sprintf format arguments ++ rest :=
      (leadingLiteral_leads format arguments).trans (List.prefix_append _ _)
    simp only [sprintf_conversion, List.append_assoc, scan, scan_render _ delimited leads,
      Option.bind_some, scan_sprintf readable rest, Option.map_some]

/-! ## When a string is delimited -/

theorem getElem?_of_occurs {s stop : Text} {p k : Nat} (occurs : stop <+: (s ++ stop).drop p)
    (bound : k < stop.length) : (s ++ stop)[p + k]? = stop[k]? := by
  obtain ⟨rest, same⟩ := occurs
  rw [← List.getElem?_drop, ← same, List.getElem?_append_left bound]

/-- A delimiter with a byte that neither the string nor the delimiter before it has. -/
theorem firstAtEnd_of_absent {s before after : Text} {byte : UInt8} (absent : byte ∉ s)
    (first : byte ∉ before) : FirstAtEnd s (before ++ byte :: after) := by
  refine ⟨by simp, fun p bound occurs => ?_⟩
  have position := getElem?_of_occurs occurs (k := before.length) (by simp)
  rw [List.getElem?_append_right (Nat.le_refl _), Nat.sub_self, List.getElem?_cons_zero] at position
  by_cases inside : p + before.length < s.length
  · rw [List.getElem?_append_left inside] at position
    exact absent (List.mem_of_getElem? position)
  · rw [List.getElem?_append_right (by omega), List.getElem?_append_left (by omega)] at position
    exact first (List.mem_of_getElem? position)

/-- A delimiter longer than the string, whose first byte it does not repeat. -/
theorem firstAtEnd_of_short {s tail : Text} {byte : UInt8} (once : byte ∉ tail)
    (short : s.length ≤ tail.length) : FirstAtEnd s (byte :: tail) := by
  refine ⟨by simp, fun p bound occurs => ?_⟩
  -- The delimiter's own first byte would stand inside the earlier occurrence.
  obtain ⟨k, gap⟩ : ∃ k, s.length = p + (k + 1) := ⟨s.length - p - 1, by omega⟩
  have position := getElem?_of_occurs occurs (k := k + 1) (by simp; omega)
  rw [← gap, List.getElem?_append_right (Nat.le_refl _), Nat.sub_self, List.getElem?_cons_zero,
    List.getElem?_cons_succ] at position
  exact once (List.mem_of_getElem? position.symm)

end Library.Printf
