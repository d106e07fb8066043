import Mathlib.Tactic.Common

/-!
# Python's text functions

`str.strip`, `str.split`, `str.isdigit` and `int`, on lists of characters, so
that they compute by structural recursion.
-/

namespace PythonText

/-- `str.isspace` of one character. -/
def isSpace (char : Char) : Bool :=
  let code := char.toNat
  (0x9 ≤ code && code ≤ 0xd) || (0x1c ≤ code && code ≤ 0x20) || code = 0x85 || code = 0xa0 ||
    code = 0x1680 || (0x2000 ≤ code && code ≤ 0x200a) || code = 0x2028 || code = 0x2029 ||
    code = 0x202f || code = 0x205f || code = 0x3000

/-- `str.strip()`. -/
def strip (text : String) : String :=
  String.ofList
    (((text.toList.dropWhile isSpace).reverse.dropWhile isSpace).reverse)

/-- `text[:length]`. -/
def truncate (length : Nat) (text : String) : String := String.ofList (text.toList.take length)

/-- The pieces between separators, at most `limit` times separated. -/
def splitChars (separator : Char) : Nat → List Char → List Char → List (List Char)
  | _, piece, [] => [piece.reverse]
  | 0, piece, rest => [piece.reverse ++ rest]
  | limit + 1, piece, char :: rest =>
      if char = separator then piece.reverse :: splitChars separator limit [] rest
      else splitChars separator (limit + 1) (char :: piece) rest

/-- `text.split(separator, limit)`. -/
def splitLimit (separator : Char) (limit : Nat) (text : String) : List String :=
  (splitChars separator limit [] text.toList).map String.ofList

/-- `text.split(separator)`. -/
def split (separator : Char) (text : String) : List String :=
  splitLimit separator text.length text

/-- The zeros of the Unicode decimal digits; the other nine follow each. -/
def decimalZeros : List Nat :=
  [0x30, 0x660, 0x6f0, 0x7c0, 0x966, 0x9e6, 0xa66, 0xae6, 0xb66, 0xbe6, 0xc66, 0xce6, 0xd66, 0xde6,
    0xe50, 0xed0, 0xf20, 0x1040, 0x1090, 0x17e0, 0x1810, 0x1946, 0x19d0, 0x1a80, 0x1a90, 0x1b50,
    0x1bb0, 0x1c40, 0x1c50, 0xa620, 0xa8d0, 0xa900, 0xa9d0, 0xa9f0, 0xaa50, 0xabf0, 0xff10,
    0x104a0, 0x10d30, 0x11066, 0x110f0, 0x11136, 0x111d0, 0x112f0, 0x11450, 0x114d0, 0x11650,
    0x116c0, 0x11730, 0x118e0, 0x11950, 0x11c50, 0x11d50, 0x11da0, 0x11f50, 0x16a60, 0x16ac0,
    0x16b50, 0x1d7ce, 0x1d7d8, 0x1d7e2, 0x1d7ec, 0x1d7f6, 0x1e140, 0x1e2f0, 0x1e4f0, 0x1e950,
    0x1fbf0]

/-- The value of a decimal digit. -/
def decimal? (char : Char) : Option Nat :=
  (decimalZeros.find? fun first => first ≤ char.toNat && char.toNat < first + 10).map
    fun first => char.toNat - first

/-- Digits that are no decimal digits, such as superscripts, as closed ranges. -/
def otherDigits : List (Nat × Nat) :=
  [(0xb2, 0xb3), (0xb9, 0xb9), (0x1369, 0x1371), (0x19da, 0x19da), (0x2070, 0x2070),
    (0x2074, 0x2079), (0x2080, 0x2089), (0x2460, 0x2468), (0x2474, 0x247c), (0x2488, 0x2490),
    (0x24ea, 0x24ea), (0x24f5, 0x24fd), (0x24ff, 0x24ff), (0x2776, 0x277e), (0x2780, 0x2788),
    (0x278a, 0x2792), (0x10a40, 0x10a43), (0x10e60, 0x10e68), (0x11052, 0x1105a),
    (0x1f100, 0x1f10a)]

/-- `str.isdigit()`. -/
def isDigit (text : String) : Bool :=
  text ≠ "" && text.toList.all fun char =>
    (decimal? char).isSome ||
      otherDigits.any fun range => range.1 ≤ char.toNat && char.toNat ≤ range.2

/-- Decimal digits with single underscores between them. -/
def digitsValue : Nat → List Char → Option Nat
  | value, [] => some value
  | value, '_' :: char :: rest => do
      let digit ← decimal? char
      digitsValue (10 * value + digit) rest
  | value, char :: rest => do
      let digit ← decimal? char
      digitsValue (10 * value + digit) rest

/-- A natural number in decimal notation, which starts with a digit. -/
def natural? (chars : List Char) : Option Nat :=
  match chars with
  | [] => none
  | char :: rest => do
      let digit ← decimal? char
      digitsValue digit rest

/-- A decimal number, which may have a sign. -/
def signed? : List Char → Option Int
  | '-' :: digits => (natural? digits).map fun value => -(value : Int)
  | '+' :: digits => (natural? digits).map fun value => (value : Int)
  | digits => (natural? digits).map fun value => (value : Int)

/-- White space around a number, to which `int` does not count the ASCII separators. -/
def isNumberSpace (char : Char) : Bool :=
  isSpace char && !(0x1c ≤ char.toNat && char.toNat ≤ 0x1f)

/-- A text without the white space that `int` skips. -/
def numberText (text : String) : List Char :=
  ((text.toList.dropWhile isNumberSpace).reverse.dropWhile isNumberSpace).reverse

/-- `int(text)`, which refuses more than 4300 digits; `none` stands for a `ValueError`. -/
def int? (text : String) : Option Int :=
  if 4300 < (text.toList.filter fun char => (decimal? char).isSome).length then none
  else signed? (numberText text)

/-- `int` skips no ASCII separator and reads no long number, but other spaces and digits. -/
example : int? "\x1c5" = none ∧ int? "\t۰۵\u3000" = some 5 ∧ int? " -1_0\n" = some (-10) := by
  decide +kernel

/-- Without a limit, the pieces are those between the separators. -/
theorem splitChars_eq (separator : Char) {limit : Nat} (piece : List Char) {chars : List Char}
    (enough : chars.length ≤ limit) :
    splitChars separator limit piece chars =
      List.splitOnPPrepend (· == separator) chars piece := by
  induction chars generalizing limit piece with
  | nil => cases limit <;> rfl
  | cons char chars inductionHypothesis =>
      cases limit with
      | zero => exact absurd enough (Nat.not_succ_le_zero _)
      | succ limit =>
          have shorter : chars.length ≤ limit := Nat.le_of_succ_le_succ enough
          rw [splitChars, List.splitOnPPrepend_cons_eq_if]
          simp only [beq_iff_eq]
          split
          · rw [inductionHypothesis [] shorter]
            rfl
          · exact inductionHypothesis _ (Nat.le_succ_of_le shorter)

theorem split_eq (separator : Char) (text : String) :
    split separator text = (text.toList.splitOn separator).map String.ofList := by
  rw [split, splitLimit, splitChars_eq separator [] (Nat.le_of_eq String.length_toList)]
  rfl

/-- Around a separator both texts are split on their own. -/
theorem split_append (separator : Char) (first second : String) :
    split separator (first ++ String.singleton separator ++ second) =
      split separator first ++ split separator second := by
  rw [split_eq, split_eq, split_eq, String.toList_append, String.toList_append,
    String.toList_singleton, List.append_assoc, List.singleton_append,
    List.splitOn_append_cons_self, List.map_append]
end PythonText
