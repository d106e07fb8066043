import ControlPlane.Library.Decimal
import ControlPlane.Library.PythonText
import Mathlib.Data.String.Basic

/-!
# Python's JSON values

`json.loads` on texts, and `int` on what it returns. Texts are lists of
characters and the parser counts down its fuel, so that it computes by structural
recursion. Escaped surrogates outside a pair, which no character stands for, are
read as replacement characters.
-/

namespace PythonJson

/-- A Python `float`. -/
inductive Double
  /-- `mantissa * 2 ^ exponent`, or its negative. -/
  | finite (negative : Bool) (mantissa : Nat) (exponent : Int)
  | infinite (negative : Bool)
  | nan
  deriving DecidableEq, Repr

/-- The double that is nearest to a positive quotient; ties go to the even one. -/
def Double.nearest (negative : Bool) (numerator denominator : Nat) : Double :=
  let guess : Int := (numerator.log2 : Int) - denominator.log2 - 53
  let scaled (exponent : Int) : Nat × Nat :=
    (numerator * Nat.pow 2 (-exponent).toNat, denominator * Nat.pow 2 exponent.toNat)
  let fits := (scaled guess).1 / (scaled guess).2 < Nat.pow 2 53
  let exponent := max (if fits then guess else guess + 1) (-1074)
  let mantissa := DecimalArithmetic.roundHalfEven (scaled exponent).1 (scaled exponent).2
  if exponent > 971 ∨ (exponent = 971 ∧ mantissa = Nat.pow 2 53) then .infinite negative
  else .finite negative mantissa exponent

/-- `float` of decimal digits and an exponent of ten. -/
def Double.ofDigits (negative : Bool) (digits count : Nat) (exponent : Int) : Double :=
  if digits = 0 ∨ count + exponent < -330 then .finite negative 0 0
  else if 309 < exponent then .infinite negative
  else .nearest negative (digits * Nat.pow 10 exponent.toNat) (Nat.pow 10 (-exponent).toNat)

/-- `int` of a `float`, which truncates; `none` stands for a raised exception. -/
def Double.toInt? : Double → Option Int
  | .finite negative mantissa exponent =>
      let value := mantissa * Nat.pow 2 exponent.toNat / Nat.pow 2 (-exponent).toNat
      some (if negative then -value else value)
  | .infinite _ | .nan => none

/-- What `json.loads` returns. -/
inductive Json
  | null
  | bool (value : Bool)
  | int (value : Int)
  | float (value : Double)
  | str (text : String)
  | list (items : List Json)
  | dict (items : List (String × Json))

/-- `items[key]` of a dictionary in which later items replace earlier ones. -/
def lookup {α : Type} (items : List (String × α)) (key : String) : Option α :=
  (items.reverse.find? fun item => item.1 = key).map Prod.snd

/-- White space between tokens. -/
def skip : List Char → List Char :=
  List.dropWhile fun char => char = ' ' || char = '\t' || char = '\n' || char = '\r'

/-- One hexadecimal digit. -/
def hex? (char : Char) : Option Nat :=
  if '0' ≤ char ∧ char ≤ '9' then some (char.toNat - '0'.toNat)
  else if 'a' ≤ char ∧ char ≤ 'f' then some (char.toNat - 'a'.toNat + 10)
  else if 'A' ≤ char ∧ char ≤ 'F' then some (char.toNat - 'A'.toNat + 10)
  else none

/-- Four hexadecimal digits. -/
def hex4? : List Char → Option (Nat × List Char)
  | first :: second :: third :: fourth :: rest => do
      let first ← hex? first
      let second ← hex? second
      let third ← hex? third
      let fourth ← hex? fourth
      some (((first * 16 + second) * 16 + third) * 16 + fourth, rest)
  | _ => none

/-- The second half of a surrogate pair. -/
def lowSurrogate? : List Char → Option (Nat × List Char)
  | '\\' :: 'u' :: rest => do
      let (code, later) ← hex4? rest
      if 0xdc00 ≤ code ∧ code < 0xe000 then some (code, later) else none
  | _ => none

/-- The character after `\u`. -/
def escaped? (chars : List Char) : Option (Char × List Char) := do
  let (code, rest) ← hex4? chars
  if 0xd800 ≤ code ∧ code < 0xdc00 then
    match lowSurrogate? rest with
    | some (low, later) =>
        some (Char.ofNat (0x10000 + (code - 0xd800) * 0x400 + (low - 0xdc00)), later)
    | none => some ('\ufffd', rest)
  else if 0xdc00 ≤ code ∧ code < 0xe000 then some ('\ufffd', rest)
  else some (Char.ofNat code, rest)

/-- The characters that a backslash escapes. -/
def escapes : List (Char × Char) :=
  [('"', '"'), ('\\', '\\'), ('/', '/'), ('b', '\x08'), ('f', '\x0c'), ('n', '\n'), ('r', '\r'),
    ('t', '\t')]

/-- The rest of a string, after what was read of it. -/
def string? : Nat → List Char → List Char → Option (String × List Char)
  | 0, _, _ => none
  | fuel + 1, read, char :: rest =>
      if char = '"' then some (String.ofList read.reverse, rest)
      else if char = '\\' then
        match rest with
        | 'u' :: later => do
            let (char, later) ← escaped? later
            string? fuel (char :: read) later
        | letter :: later => do
            let char ← escapes.lookup letter
            string? fuel (char :: read) later
        | [] => none
      else if char.toNat < 0x20 then none
      else string? fuel (char :: read) rest
  | _ + 1, _, [] => none

/-- The digits at the start. -/
def digits (chars : List Char) : List Char :=
  chars.takeWhile fun char => '0' ≤ char && char ≤ '9'

/-- The value of decimal digits. -/
def digitsValue (digits : List Char) : Nat :=
  digits.foldl (fun value digit => 10 * value + (digit.toNat - '0'.toNat)) 0

/-- The digits after a decimal point. -/
def fraction : List Char → List Char
  | '.' :: rest => digits rest
  | _ => []

/-- The exponent of a number, and how many characters it takes. -/
def exponent : List Char → Option (Int × Nat)
  | letter :: rest =>
      if letter = 'e' ∨ letter = 'E' then
        let (negative, sign, places) : Bool × Nat × List Char :=
          match rest with
          | '-' :: later => (true, 1, digits later)
          | '+' :: later => (false, 1, digits later)
          | later => (false, 0, digits later)
        if places = [] then none
        else
          let value : Int := digitsValue places
          some (if negative then -value else value, 1 + sign + places.length)
      else none
  | [] => none

/-- A number. -/
def number? (chars : List Char) : Option (Json × List Char) :=
  let (negative, unsigned) : Bool × List Char :=
    match chars with
    | '-' :: rest => (true, rest)
    | rest => (false, rest)
  let whole := match unsigned with
    | '0' :: _ => ['0']
    | _ => digits unsigned
  if whole = [] then none
  else
    let afterWhole := unsigned.drop whole.length
    let places := fraction afterWhole
    let afterPlaces := if places = [] then afterWhole else afterWhole.drop (places.length + 1)
    match exponent afterPlaces with
    | some (power, length) =>
        some (.float (.ofDigits negative (digitsValue (whole ++ places))
          (whole.length + places.length) (power - places.length)), afterPlaces.drop length)
    | none =>
        if places = [] then
          -- Longer texts are refused by `int`.
          if 4300 < whole.length then none
          else
            let value : Int := digitsValue whole
            some (.int (if negative then -value else value), afterPlaces)
        else some (.float (.ofDigits negative (digitsValue (whole ++ places))
          (whole.length + places.length) (-places.length)), afterPlaces)

/-- The constants. -/
def constants : List (String × Json) :=
  [("null", .null), ("true", .bool true), ("false", .bool false), ("NaN", .float .nan),
    ("Infinity", .float (.infinite false)), ("-Infinity", .float (.infinite true))]

/-- A constant. -/
def constant? (chars : List Char) : Option (Json × List Char) :=
  (constants.find? fun item => item.1.toList.isPrefixOf chars).map fun item =>
    (item.2, chars.drop item.1.length)

mutual

/-- A value. -/
def value? : Nat → List Char → Option (Json × List Char)
  | 0, _ => none
  | _ + 1, '"' :: rest => do
      let (text, later) ← string? (rest.length + 1) [] rest
      some (.str text, later)
  | fuel + 1, '[' :: rest =>
      match skip rest with
      | ']' :: later => some (.list [], later)
      | chars => do
          let (items, later) ← items? fuel chars
          some (.list items, later)
  | fuel + 1, '{' :: rest =>
      match skip rest with
      | '}' :: later => some (.dict [], later)
      | chars => do
          let (items, later) ← members? fuel chars
          some (.dict items, later)
  | _ + 1, chars => (constant? chars).or (number? chars)

/-- The items of a list, up to its end. -/
def items? : Nat → List Char → Option (List Json × List Char)
  | 0, _ => none
  | fuel + 1, chars => do
      let (item, rest) ← value? fuel chars
      match skip rest with
      | ']' :: later => some ([item], later)
      | ',' :: later => do
          let (items, last) ← items? fuel (skip later)
          some (item :: items, last)
      | _ => none

/-- The members of a dictionary, up to its end. -/
def members? : Nat → List Char → Option (List (String × Json) × List Char)
  | 0, _ => none
  | fuel + 1, '"' :: rest => do
      let (key, afterKey) ← string? (rest.length + 1) [] rest
      match skip afterKey with
      | ':' :: chars => do
          let (item, later) ← value? fuel (skip chars)
          match skip later with
          | '}' :: last => some ([(key, item)], last)
          | ',' :: more => do
              let (members, last) ← members? fuel (skip more)
              some ((key, item) :: members, last)
          | _ => none
      | _ => none
  | _ + 1, _ => none

end

/-- `json.loads(text)`; `none` stands for a `ValueError`. -/
def loads (text : String) : Option Json :=
  match text.toList with
  | '\ufeff' :: _ => none
  | chars => do
      let (json, rest) ← value? (2 * chars.length + 2) (skip chars)
      if skip rest = [] then some json else none

/-- `int(value)`; `none` stands for a raised exception. -/
def Json.toInt? : Json → Option Int
  | .bool value => some (if value then 1 else 0)
  | .int value => some value
  | .float value => value.toInt?
  | .str text => PythonText.int? text
  | .null | .list _ | .dict _ => none

end PythonJson
