import Mathlib.Algebra.Field.Rat
import Mathlib.Data.List.TakeWhile
import Mathlib.Data.Nat.Digits.Defs

/-!
# The text exposition format of metrics

A reader of the line oriented text format in which metrics are scraped, and a
writer that puts label values between quotes as they are, without escaping.
Line feeds separate the lines; a sample is a name, labels in braces and a
number, maybe followed by a timestamp. The reader is a parameter in how it
reads numbers.

Whatever the reader takes for the name and the labels of a sample is at most
as long as the text that it stands for. From this it follows when a text
written without escapes is read as the samples it was written for.
-/

namespace Exposition

/-! ## Numbers and names -/

/-- A natural number in decimal notation. -/
def natural (value : Nat) : List Char :=
  if value = 0 then ['0'] else (Nat.digits 10 value).reverse.map Nat.digitChar

/-- An integer in decimal notation. -/
def decimal : Int → List Char
  | .ofNat value => natural value
  | .negSucc value => '-' :: natural (value + 1)

/-- How numbers are read; integers in decimal notation are read as numbers. -/
structure NumberFormat (Value : Type) where
  read : List Char → Option Value
  ofInt : Int → Value
  read_decimal : ∀ value, read (decimal value) = some (ofInt value)

/-- A blank or a tab. -/
def isBlank (char : Char) : Bool := char = ' ' || char = '\t'

/-- `[a-zA-Z_]`. -/
def isLabelStart (char : Char) : Bool :=
  ('a' ≤ char && char ≤ 'z') || ('A' ≤ char && char ≤ 'Z') || char = '_'

/-- `[0-9]`. -/
def isAsciiDigit (char : Char) : Bool := '0' ≤ char && char ≤ '9'

/-- `[a-zA-Z0-9_]`. -/
def isLabelChar (char : Char) : Bool := isLabelStart char || isAsciiDigit char

/-- `[a-zA-Z_:]`. -/
def isMetricStart (char : Char) : Bool := isLabelStart char || char = ':'

/-- `[a-zA-Z0-9_:]`. -/
def isMetricChar (char : Char) : Bool := isMetricStart char || isAsciiDigit char

/-- A name: one starting character, then any number of others. -/
def isName (start other : Char → Bool) : List Char → Bool
  | [] => false
  | char :: rest => start char && rest.all other

/-- The name of a metric. -/
abbrev MetricName : Type :=
  { text : String // isName isMetricStart isMetricChar text.toList = true }

/-- The name of a label. -/
abbrev LabelName : Type := { text : String // isName isLabelStart isLabelChar text.toList = true }

/-! ## The reader -/

/-- What identifies a sample, and its number. -/
structure Sample (Value : Type) where
  name : String
  /-- In the order of the names. -/
  labels : List (String × String)
  value : Value
  deriving DecidableEq

/-- Labels in the order of their names. -/
def inOrder (labels : List (String × String)) : List (String × String) :=
  labels.mergeSort fun first second => decide (first.1 ≤ second.1)

/-- A name at the beginning of a text, and the rest. -/
def readName (start other : Char → Bool) : List Char → Option (List Char × List Char)
  | [] => none
  | char :: rest =>
      if start char = true then some (char :: rest.takeWhile other, rest.dropWhile other) else none

/-- What a character stands for behind a backslash. -/
def unescape (char : Char) : Option Char :=
  if char = '\\' then some '\\'
  else if char = '"' then some '"'
  else if char = 'n' then some '\n'
  else none

/-- A label value behind its opening quote, and what follows the closing one. -/
def readValue : List Char → Option (List Char × List Char)
  | [] => none
  | char :: rest =>
      if char = '"' then some ([], rest)
      else if char = '\\' then
        match rest with
        | [] => none
        | code :: rest => do
            let char ← unescape code
            let (value, rest) ← readValue rest
            some (char :: value, rest)
      else do
        let (value, rest) ← readValue rest
        some (char :: value, rest)

/-- The rest of a text behind an expected character. -/
def expect (expected : Char) : List Char → Option (List Char)
  | [] => none
  | char :: rest => if char = expected then some rest else none

/-- One label, and what follows it. -/
def readLabel (text : List Char) : Option ((String × String) × List Char) := do
  let (name, rest) ← readName isLabelStart isLabelChar text
  let rest ← expect '=' (rest.dropWhile isBlank)
  let rest ← expect '"' (rest.dropWhile isBlank)
  let (value, rest) ← readValue rest
  some ((String.ofList name, String.ofList value), rest)

/-- Labels up to the closing brace, and what follows it; the number bounds how many there are. -/
def readLabels : Nat → List Char → Option (List (String × String) × List Char)
  | 0, _ => none
  | fuel + 1, text => do
      match text.dropWhile isBlank with
      | [] => none
      | char :: rest =>
          if char = '}' then some ([], rest)
          else do
            let (label, rest) ← readLabel (char :: rest)
            match rest.dropWhile isBlank with
            | [] => none
            | char :: rest =>
                if char = '}' then some ([label], rest)
                else if char = ',' then do
                  let (labels, rest) ← readLabels fuel rest
                  some (label :: labels, rest)
                else none

/-- The labels of a sample, where it has any, and what follows them. -/
def readBraces (text : List Char) : Option (List (String × String) × List Char) :=
  match text with
  | [] => some ([], [])
  | char :: rest =>
      if char = '{' then readLabels (rest.length + 1) rest else some ([], char :: rest)

/-- A timestamp: milliseconds, perhaps negative. -/
def isTimestamp : List Char → Bool
  | [] => false
  | '-' :: digits => digits ≠ [] && digits.all isAsciiDigit
  | digits => digits.all isAsciiDigit

/-- The number of a sample and its timestamp, up to the end of the line. -/
def readNumber {Value : Type} (format : NumberFormat Value) (text : List Char) : Option Value := do
  let token := text.dropWhile isBlank
  let number ← format.read (token.takeWhile fun char => !isBlank char)
  let later := (token.dropWhile fun char => !isBlank char).dropWhile isBlank
  let timestamp := later.takeWhile fun char => !isBlank char
  let end_ := (later.dropWhile fun char => !isBlank char).dropWhile isBlank
  if (timestamp = [] ∨ isTimestamp timestamp = true) ∧ end_ = [] then some number else none

/-- A sample that fills a line. -/
def readSample {Value : Type} (format : NumberFormat Value) (text : List Char) :
    Option (Sample Value) := do
  let (name, rest) ← readName isMetricStart isMetricChar text
  let (labels, rest) ← readBraces (rest.dropWhile isBlank)
  let number ← readNumber format rest
  some ⟨String.ofList name, inOrder labels, number⟩

/-- The samples of a line: none where it is blank or a comment. -/
def readLine {Value : Type} (format : NumberFormat Value) (line : List Char) :
    Option (List (Sample Value)) :=
  match line.dropWhile isBlank with
  | [] => some []
  | char :: rest =>
      if char = '#' then some [] else (readSample format (char :: rest)).map fun sample => [sample]

/-- The samples of some lines; one line that cannot be read spoils them all. -/
def readLines {Value : Type} (format : NumberFormat Value) :
    List (List Char) → Option (List (Sample Value))
  | [] => some []
  | line :: lines => do
      let samples ← readLine format line
      let more ← readLines format lines
      some (samples ++ more)

/-- The samples of a text. -/
def parse {Value : Type} (format : NumberFormat Value) (text : String) :
    Option (List (Sample Value)) :=
  readLines format (text.toList.splitOn '\n')

/-! ## The writer -/

/-- A line as it is written. -/
inductive Line
  | type (name : MetricName) (kind : LabelName)
  | sample (name : MetricName) (labels : List (LabelName × String)) (value : Int)

namespace Line

/-- A label, its value between quotes as it is. -/
def label (label : LabelName × String) : List Char :=
  label.1.val.toList ++ '=' :: '"' :: (label.2.toList ++ ['"'])

/-- The name and the labels of a sample. -/
def head (name : MetricName) : List (LabelName × String) → List Char
  | [] => name.val.toList
  | labels => name.val.toList ++ '{' :: ([','].intercalate (labels.map label) ++ ['}'])

/-- The text of a line, without the line feed. -/
def text : Line → List Char
  | type name kind => "# TYPE ".toList ++ name.val.toList ++ ' ' :: kind.val.toList
  | sample name labels value => head name labels ++ ' ' :: decimal value

/-- The sample that a line is written for. -/
def written {Value : Type} (format : NumberFormat Value) : Line → List (Sample Value)
  | type _ _ => []
  | sample name labels value =>
      [⟨name.val, inOrder (labels.map fun label => (label.1.val, label.2)), format.ofInt value⟩]

/-- The label values of a line. -/
def values : Line → List String
  | type _ _ => []
  | sample _ labels _ => labels.map Prod.snd

end Line

/-- A text of lines. -/
def write (lines : List Line) : String :=
  String.ofList (lines.flatMap fun line => line.text ++ ['\n'])

/-- A label value that is written the same with and without escapes. -/
def Plain (value : String) : Prop := ∀ char ∈ value.toList, char ≠ '"' ∧ char ≠ '\\' ∧ char ≠ '\n'

instance (value : String) : Decidable (Plain value) :=
  List.decidableBAll _ value.toList

/-! ## What the reader takes for a sample is as long as its text -/

/-- The length of a label, with its sign of equality, its quotes and a separator. -/
def labelLength (label : String × String) : Nat := label.1.length + label.2.length + 4

/-- The length of a sample, without its opening brace and its number. -/
def Sample.length {Value : Type} (sample : Sample Value) : Nat :=
  sample.name.length + (sample.labels.map labelLength).sum

/-- The length of some samples. -/
def lengths {Value : Type} (samples : List (Sample Value)) : Nat :=
  (samples.map Sample.length).sum

/-- Every label value is written the same with and without escapes. -/
def Sample.Plain {Value : Type} (sample : Sample Value) : Prop :=
  ∀ label ∈ sample.labels, Exposition.Plain label.2

section Accounting

theorem dropWhile_suffix (skipped : Char → Bool) (text : List Char) :
    ∃ before, text = before ++ text.dropWhile skipped :=
  ⟨text.takeWhile skipped, List.takeWhile_append_dropWhile.symm⟩

theorem inOrder_perm (labels : List (String × String)) : (inOrder labels).Perm labels :=
  List.mergeSort_perm labels _

/-- The order of the labels does not matter for their length. -/
theorem sum_inOrder (labels : List (String × String)) :
    ((inOrder labels).map labelLength).sum = (labels.map labelLength).sum :=
  ((inOrder_perm labels).map labelLength).sum_nat

theorem readName_eq {start other : Char → Bool} {text name rest : List Char}
    (read : readName start other text = some (name, rest)) : text = name ++ rest := by
  cases text with
  | nil => cases read
  | cons char text =>
      rw [readName] at read
      split at read
      · obtain ⟨rfl, rfl⟩ := Prod.mk.inj (Option.some.inj read)
        rw [List.cons_append, List.takeWhile_append_dropWhile]
      · cases read

/-- A name consists of the characters of names. -/
theorem readName_chars {start other : Char → Bool} {text name rest : List Char}
    (starts : ∀ char, start char = true → other char = true)
    (read : readName start other text = some (name, rest)) :
    ∀ char ∈ name, other char = true := by
  cases text with
  | nil => cases read
  | cons char text =>
      rw [readName] at read
      split at read
      · rename_i first
        obtain ⟨rfl, -⟩ := Prod.mk.inj (Option.some.inj read)
        intro char member
        rcases List.mem_cons.mp member with rfl | member
        · exact starts _ first
        · exact (List.all_eq_true.mp List.all_takeWhile) char member
      · cases read

theorem expect_eq {expected : Char} {text rest : List Char}
    (read : expect expected text = some rest) : text = expected :: rest := by
  cases text with
  | nil => cases read
  | cons char text =>
      rw [expect] at read
      split at read
      · rename_i found
        rw [Option.some.inj read, found]
      · cases read

/-- A label value is at most as long as its text, and as long only where it is its text. -/
theorem readValue_spec {text value rest : List Char} (read : readValue text = some (value, rest)) :
    ∃ used, text = used ++ '"' :: rest ∧ value.length ≤ used.length ∧
      (value.length = used.length →
        value = used ∧ ∀ char ∈ value, char ≠ '"' ∧ char ≠ '\\') := by
  fun_induction readValue text generalizing value with
  | case1 => cases read
  | case2 rest' =>
      obtain ⟨rfl, rfl⟩ := Prod.mk.inj (Option.some.inj read)
      exact ⟨[], rfl, Nat.le_refl _, fun _ => ⟨rfl, by simp⟩⟩
  | case3 => cases read
  | case4 code rest' _ inductionHypothesis =>
      obtain ⟨char, -, read⟩ := Option.bind_eq_some_iff.mp read
      obtain ⟨⟨value', rest''⟩, later, read⟩ := Option.bind_eq_some_iff.mp read
      obtain ⟨rfl, rfl⟩ := Prod.mk.inj (Option.some.inj read)
      obtain ⟨used, rfl, shorter, -⟩ := inductionHypothesis later
      -- An escape takes two characters for one.
      refine ⟨'\\' :: code :: used, rfl, ?_, ?_⟩ <;> simp only [List.length_cons] <;> omega
  | case5 char rest' quote backslash inductionHypothesis =>
      obtain ⟨⟨value', rest''⟩, later, read⟩ := Option.bind_eq_some_iff.mp read
      obtain ⟨rfl, rfl⟩ := Prod.mk.inj (Option.some.inj read)
      obtain ⟨used, rfl, shorter, same⟩ := inductionHypothesis later
      refine ⟨char :: used, rfl, Nat.succ_le_succ shorter, fun long => ?_⟩
      obtain ⟨rfl, plain⟩ := same (Nat.succ.inj long)
      refine ⟨rfl, fun other member => ?_⟩
      rcases List.mem_cons.mp member with rfl | member
      · exact ⟨quote, backslash⟩
      · exact plain other member

/-- A label is at most as long as its text, and as long only where its value is plain. -/
theorem readLabel_spec {text rest : List Char} {label : String × String}
    (read : readLabel text = some (label, rest)) (line : '\n' ∉ text) :
    ∃ used, text = used ++ rest ∧ labelLength label ≤ used.length + 1 ∧
      (labelLength label = used.length + 1 → Plain label.2) := by
  obtain ⟨⟨name, afterName⟩, named, read⟩ := Option.bind_eq_some_iff.mp read
  obtain ⟨afterSign, sign, read⟩ := Option.bind_eq_some_iff.mp read
  obtain ⟨afterQuote, quote, read⟩ := Option.bind_eq_some_iff.mp read
  obtain ⟨⟨value, last⟩, valued, read⟩ := Option.bind_eq_some_iff.mp read
  obtain ⟨rfl, rfl⟩ := Prod.mk.inj (Option.some.inj read)
  obtain ⟨firstGap, firstEq⟩ := dropWhile_suffix isBlank afterName
  obtain ⟨secondGap, secondEq⟩ := dropWhile_suffix isBlank afterSign
  rw [expect_eq sign] at firstEq
  rw [expect_eq quote] at secondEq
  obtain ⟨used, rfl, shorter, same⟩ := readValue_spec valued
  have whole : text =
      (name ++ firstGap ++ '=' :: (secondGap ++ '"' :: (used ++ ['"']))) ++ last := by
    rw [readName_eq named, firstEq, secondEq]
    simp
  refine ⟨_, whole, ?_, fun long => ?_⟩
  · simp only [labelLength, String.length_ofList, List.length_append, List.length_cons,
      List.length_nil]
    omega
  · simp only [labelLength, String.length_ofList, List.length_append, List.length_cons,
      List.length_nil] at long
    obtain ⟨rfl, plain⟩ := same (by omega)
    intro char member
    rw [String.toList_ofList] at member
    refine ⟨(plain char member).1, (plain char member).2, ?_⟩
    rintro rfl
    exact line (by rw [whole]; simp [member])

/-- Labels are at most as long as their text, and as long only where all values are plain. -/
theorem readLabels_spec {fuel : Nat} {text rest : List Char} {labels : List (String × String)}
    (read : readLabels fuel text = some (labels, rest)) (line : '\n' ∉ text) :
    ∃ used, text = used ++ '}' :: rest ∧ (labels.map labelLength).sum ≤ used.length + 1 ∧
      ((labels.map labelLength).sum = used.length + 1 → ∀ label ∈ labels, Plain label.2) := by
  induction fuel generalizing text labels with
  | zero => cases read
  | succ fuel inductionHypothesis =>
      unfold readLabels at read
      obtain ⟨firstGap, firstEq⟩ := dropWhile_suffix isBlank text
      split at read
      next => cases read
      next char after first =>
      rw [first] at firstEq
      split at read
      next brace =>
        obtain ⟨rfl, rfl⟩ := Prod.mk.inj (Option.some.inj read)
        refine ⟨firstGap, by rw [firstEq, brace], Nat.zero_le _, fun _ => ?_⟩
        simp
      next =>
      obtain ⟨⟨label, afterLabel⟩, labelled, read⟩ := Option.bind_eq_some_iff.mp read
      have shortLine : '\n' ∉ char :: after := fun member =>
        line (by rw [firstEq]; exact List.mem_append_right _ member)
      obtain ⟨used, usedEq, shorter, same⟩ := readLabel_spec labelled shortLine
      obtain ⟨secondGap, secondEq⟩ := dropWhile_suffix isBlank afterLabel
      dsimp only at read
      split at read
      next => cases read
      next separator later second =>
      rw [second] at secondEq
      split at read
      next brace =>
        obtain ⟨rfl, rfl⟩ := Prod.mk.inj (Option.some.inj read)
        refine ⟨firstGap ++ used ++ secondGap, ?_, ?_, fun long => ?_⟩
        · rw [firstEq, usedEq, secondEq, brace]
          simp
        · simp only [List.map_cons, List.map_nil, List.sum_cons, List.sum_nil, List.length_append]
          omega
        · simp only [List.map_cons, List.map_nil, List.sum_cons, List.sum_nil,
            List.length_append] at long
          simpa using same (by omega)
      next =>
      split at read
      next comma =>
        obtain ⟨⟨labels', last⟩, more, read⟩ := Option.bind_eq_some_iff.mp read
        obtain ⟨rfl, rfl⟩ := Prod.mk.inj (Option.some.inj read)
        have laterLine : '\n' ∉ later := fun member => shortLine (by
          rw [usedEq, secondEq]
          simp [member])
        obtain ⟨usedLater, laterEq, shorterLater, sameLater⟩ := inductionHypothesis more laterLine
        refine ⟨firstGap ++ used ++ secondGap ++ ',' :: usedLater, ?_, ?_, fun long => ?_⟩
        · rw [firstEq, usedEq, secondEq, comma, laterEq]
          simp
        · simp only [List.map_cons, List.sum_cons, List.length_append, List.length_cons]
          omega
        · simp only [List.map_cons, List.sum_cons, List.length_append, List.length_cons] at long
          have plain := same (by omega)
          have plainLater := sameLater (by omega)
          intro other member
          rcases List.mem_cons.mp member with rfl | member
          · exact plain
          · exact plainLater other member
      next => cases read

end Accounting

/-! ## What is written plainly is read back -/

section ReadingBack

variable {Value : Type} (format : NumberFormat Value)

/-- What is not blank stays where blanks are skipped. -/
theorem skip_of_head {char : Char} (solid : isBlank char = false) (rest : List Char) :
    (char :: rest).dropWhile isBlank = char :: rest :=
  List.dropWhile_cons_of_neg (by rw [solid]; exact Bool.false_ne_true)

theorem natural_chars (value : Nat) : ∀ char ∈ natural value, isAsciiDigit char = true := by
  intro char member
  unfold natural at member
  split at member
  · rw [List.mem_singleton.mp member]
    decide
  · obtain ⟨digit, digits, rfl⟩ := List.mem_map.mp member
    have small : digit < 10 := Nat.digits_lt_base (by decide) (List.mem_reverse.mp digits)
    have every : ∀ digit < 10, isAsciiDigit (Nat.digitChar digit) = true := by decide
    exact every digit small

theorem natural_ne_nil (value : Nat) : natural value ≠ [] := by
  unfold natural
  split
  · exact List.cons_ne_nil _ _
  · rename_i positive
    rw [Ne, List.map_eq_nil_iff, List.reverse_eq_nil_iff]
    exact Nat.digits_ne_nil_iff_ne_zero.mpr positive

/-- The characters of an integer. -/
theorem decimal_chars (value : Int) :
    ∀ char ∈ decimal value, char = '-' ∨ isAsciiDigit char = true := by
  intro char member
  cases value with
  | ofNat value => exact .inr (natural_chars value char member)
  | negSucc value =>
      rcases List.mem_cons.mp member with rfl | member
      · exact .inl rfl
      · exact .inr (natural_chars _ char member)

theorem decimal_ne_nil (value : Int) : decimal value ≠ [] := by
  cases value with
  | ofNat value => exact natural_ne_nil value
  | negSucc value => exact List.cons_ne_nil _ _

/-- A character that is neither a sign nor a digit is in no integer. -/
theorem not_mem_decimal {char : Char} (value : Int) (sign : char ≠ '-')
    (digit : isAsciiDigit char = false) : char ∉ decimal value := fun member =>
  (decimal_chars value char member).elim sign fun found =>
    absurd (digit.symm.trans found) Bool.false_ne_true

theorem not_isBlank_decimal (value : Int) : ∀ char ∈ decimal value, (!isBlank char) = true := by
  intro char member
  rw [Bool.not_eq_true', isBlank, Bool.or_eq_false_iff, decide_eq_false_iff_not,
    decide_eq_false_iff_not]
  constructor
  · rintro rfl
    exact not_mem_decimal value (by decide) (by decide) member
  · rintro rfl
    exact not_mem_decimal value (by decide) (by decide) member

/-- A name is not empty. -/
theorem isName_cons {start other : Char → Bool} {name : List Char}
    (named : isName start other name = true) :
    ∃ char rest, name = char :: rest ∧ start char = true ∧ rest.all other = true := by
  cases name with
  | nil => cases named
  | cons char rest => exact ⟨char, rest, rfl, Bool.and_eq_true_iff.mp named⟩

theorem isName_chars {start other : Char → Bool} {name : List Char}
    (starts : ∀ char, start char = true → other char = true)
    (named : isName start other name = true) : ∀ char ∈ name, other char = true := by
  obtain ⟨char, rest, rfl, first, others⟩ := isName_cons named
  intro other member
  rcases List.mem_cons.mp member with rfl | member
  · exact starts _ first
  · exact List.all_eq_true.mp others other member

theorem isLabelChar_of_start (char : Char) (start : isLabelStart char = true) :
    isLabelChar char = true := by
  rw [isLabelChar, start, Bool.true_or]

theorem isMetricChar_of_start (char : Char) (start : isMetricStart char = true) :
    isMetricChar char = true := by
  rw [isMetricChar, start, Bool.true_or]

/-- A character that is in no metric name. -/
theorem not_mem_metricName {char : Char} (name : MetricName) (other : isMetricChar char = false) :
    char ∉ name.val.toList := fun member =>
  absurd (other.symm.trans (isName_chars isMetricChar_of_start name.property char member))
    Bool.false_ne_true

/-- A character that is in no label name. -/
theorem not_mem_labelName {char : Char} (name : LabelName) (other : isLabelChar char = false) :
    char ∉ name.val.toList := fun member =>
  absurd (other.symm.trans (isName_chars isLabelChar_of_start name.property char member))
    Bool.false_ne_true

/-- A name is read back up to a character that is in no name. -/
theorem readName_name {start other : Char → Bool} {name : List Char}
    (named : isName start other name = true) {char : Char} (ends : other char = false)
    (rest : List Char) :
    readName start other (name ++ char :: rest) = some (name, char :: rest) := by
  obtain ⟨first, others, rfl, starts, all⟩ := isName_cons named
  have pass := List.all_eq_true.mp all
  have stop : ¬other char = true := by rw [ends]; exact Bool.false_ne_true
  rw [List.cons_append, readName, if_pos starts, List.takeWhile_append_of_pos pass,
    List.dropWhile_append_of_pos pass, List.takeWhile_cons_of_neg stop,
    List.dropWhile_cons_of_neg stop, List.append_nil]

/-- A plain value is read back. -/
theorem readValue_plain {value : List Char} (plain : ∀ char ∈ value, char ≠ '"' ∧ char ≠ '\\')
    (rest : List Char) : readValue (value ++ '"' :: rest) = some (value, rest) := by
  induction value with
  | nil =>
      rw [List.nil_append, readValue.eq_def]
      exact if_pos rfl
  | cons char value inductionHypothesis =>
      obtain ⟨quote, backslash⟩ := plain char List.mem_cons_self
      rw [List.cons_append, readValue.eq_def]
      dsimp only
      rw [if_neg quote, if_neg backslash,
        inductionHypothesis fun other member => plain other (List.mem_cons_of_mem _ member)]
      rfl

/-- A label as the reader returns it. -/
abbrev Line.pair (label : LabelName × String) : String × String := (label.1.val, label.2)

theorem readLabel_label {label : LabelName × String} (plain : Plain label.2) (rest : List Char) :
    readLabel (Line.label label ++ rest) = some (Line.pair label, rest) := by
  have value := readValue_plain
    (fun char member => ⟨(plain char member).1, (plain char member).2.1⟩) rest
  have text : Line.label label ++ rest =
      label.1.val.toList ++ '=' :: ('"' :: (label.2.toList ++ '"' :: rest)) := by
    simp [Line.label]
  unfold readLabel
  rw [text, readName_name label.1.property (by decide)]
  dsimp only [Option.bind_eq_bind, Option.bind_some]
  rw [skip_of_head (by decide), expect, if_pos rfl]
  dsimp only [Option.bind_some]
  rw [skip_of_head (by decide), expect, if_pos rfl]
  dsimp only [Option.bind_some]
  rw [value]
  dsimp only [Option.bind_some]
  rw [String.ofList_toList, String.ofList_toList]

/-- A label begins with a character that is neither blank nor a closing brace. -/
theorem label_cons (label : LabelName × String) :
    ∃ char rest, Line.label label = char :: rest ∧ isBlank char = false ∧ char ≠ '}' := by
  obtain ⟨char, rest, name, start, -⟩ := isName_cons label.1.property
  refine ⟨char, rest ++ '=' :: '"' :: (label.2.toList ++ ['"']), by rw [Line.label, name]; rfl,
    ?_, ?_⟩
  · rw [isBlank, Bool.or_eq_false_iff, decide_eq_false_iff_not, decide_eq_false_iff_not]
    constructor
    · rintro rfl
      exact absurd start (by decide)
    · rintro rfl
      exact absurd start (by decide)
  · rintro rfl
    exact absurd start (by decide)

theorem readLabels_labels {labels : List (LabelName × String)} (some' : labels ≠ [])
    (plain : ∀ label ∈ labels, Plain label.2) {fuel : Nat} (enough : labels.length ≤ fuel)
    (rest : List Char) :
    readLabels fuel ([','].intercalate (labels.map Line.label) ++ '}' :: rest) =
      some (labels.map Line.pair, rest) := by
  induction labels generalizing fuel with
  | nil => exact absurd rfl some'
  | cons label labels inductionHypothesis =>
      cases fuel with
      | zero => exact absurd enough (Nat.not_succ_le_zero _)
      | succ fuel =>
          have first := fun later => readLabel_label (plain label List.mem_cons_self) later
          obtain ⟨char, more, begins, solid, open_⟩ := label_cons label
          rw [begins] at first
          cases labels with
          | nil =>
              rw [List.map_singleton, List.intercalate_singleton, begins, readLabels]
              rw [List.cons_append, skip_of_head solid]
              dsimp only
              rw [if_neg open_, ← List.cons_append, first]
              dsimp only [Option.bind_eq_bind, Option.bind_some]
              rw [skip_of_head (by decide)]
              dsimp only
              rw [if_pos rfl, List.map_singleton]
          | cons next labels =>
              have later := inductionHypothesis (List.cons_ne_nil _ _)
                (fun label member => plain label (List.mem_cons_of_mem _ member))
                (Nat.le_of_succ_le_succ enough)
              rw [List.map_cons, List.map_cons, List.intercalate_cons_cons, begins, readLabels]
              rw [List.append_assoc, List.append_assoc, List.cons_append, skip_of_head solid]
              dsimp only
              rw [if_neg open_, ← List.cons_append, first]
              dsimp only [Option.bind_eq_bind, Option.bind_some]
              rw [List.singleton_append, skip_of_head (by decide)]
              dsimp only
              rw [if_neg (by decide), if_pos rfl, ← List.map_cons, later]
              rfl

/-- A text that is read as a number and is one word without braces. -/
structure Numeral (text : List Char) (value : Value) : Prop where
  nonempty : text ≠ []
  solid : ∀ char ∈ text, (!isBlank char) = true
  unbraced : ∀ char ∈ text, char ≠ '{'
  line : '\n' ∉ text
  read : format.read text = some value

theorem Numeral.decimal (value : Int) : Numeral format (decimal value) (format.ofInt value) where
  nonempty := decimal_ne_nil value
  solid := not_isBlank_decimal value
  unbraced char member same := not_mem_decimal value (by decide) (by decide) (same ▸ member)
  line := not_mem_decimal value (by decide) (by decide)
  read := format.read_decimal value

variable {format}

/-- Behind a blank a number begins with a character that is neither blank nor a brace. -/
theorem Numeral.skip {number : List Char} {value : Value} (numeral : Numeral format number value) :
    ∃ char rest, (' ' :: number).dropWhile isBlank = char :: rest ∧ number = char :: rest ∧
      isBlank char = false ∧ char ≠ '{' := by
  obtain ⟨char, rest, rfl⟩ := List.exists_cons_of_ne_nil numeral.nonempty
  have solid := numeral.solid char List.mem_cons_self
  rw [Bool.not_eq_true'] at solid
  refine ⟨char, rest, ?_, rfl, solid, numeral.unbraced char List.mem_cons_self⟩
  rw [List.dropWhile_cons_of_pos (by decide), skip_of_head solid]

theorem readNumber_numeral {number : List Char} {value : Value}
    (numeral : Numeral format number value) :
    readNumber format (' ' :: number) = some value := by
  obtain ⟨char, rest, skip, whole, -, -⟩ := numeral.skip
  have take := List.takeWhile_eq_self_iff.mpr numeral.solid
  have drop := List.dropWhile_eq_nil_iff.mpr numeral.solid
  unfold readNumber
  dsimp only
  rw [skip, ← whole, take, drop, numeral.read]
  rfl

/-! ## Decimal notation -/

/-- The number that digits stand for. -/
def digitsValue (digits : List Char) : Nat :=
  digits.foldl (fun value digit => 10 * value + (digit.toNat - '0'.toNat)) 0

/-- An exponent of ten, where there is one. -/
def readExponent : List Char → Option ℚ
  | [] => some 1
  | mark :: text =>
      if mark = 'e' ∨ mark = 'E' then
        let digits := text.dropWhile fun char => char = '+' || char = '-'
        if digits = [] ∨ digits.all isAsciiDigit = false ∨ digits.length + 1 < text.length then none
        else if text.head? = some '-' then some (1 / 10 ^ digitsValue digits)
        else some (10 ^ digitsValue digits)
      else none

/-- A number without a sign: digits, maybe a fraction, maybe an exponent. -/
def readUnsigned (text : List Char) : Option ℚ :=
  let whole := text.takeWhile isAsciiDigit
  let later := text.dropWhile isAsciiDigit
  let pointed := later.head? = some '.'
  let fraction := if pointed then later.tail.takeWhile isAsciiDigit else []
  let exponent := if pointed then later.tail.dropWhile isAsciiDigit else later
  if whole ++ fraction = [] then none
  else (readExponent exponent).map fun power =>
    digitsValue (whole ++ fraction) / 10 ^ fraction.length * power

/-- A number with its sign. -/
def readDecimal : List Char → Option ℚ
  | '-' :: text => (readUnsigned text).map fun value => -value
  | '+' :: text => readUnsigned text
  | text => readUnsigned text

theorem digitsValue_natural (value : Nat) : digitsValue (natural value) = value := by
  unfold natural
  split
  next zero =>
    rw [zero]
    rfl
  next =>
    have each : ∀ digit < 10, (Nat.digitChar digit).toNat - '0'.toNat = digit := by decide
    have fold : ∀ digits : List Nat, (∀ digit ∈ digits, digit < 10) →
        digitsValue (digits.reverse.map Nat.digitChar) = Nat.ofDigits 10 digits := by
      intro digits small
      rw [digitsValue, List.foldl_map, List.foldl_reverse]
      induction digits with
      | nil => rfl
      | cons digit digits inductionHypothesis =>
          rw [List.foldr_cons, inductionHypothesis fun other member =>
            small other (List.mem_cons_of_mem _ member), each digit (small digit List.mem_cons_self),
            Nat.ofDigits_cons]
          exact Nat.add_comm _ _
    rw [fold _ fun digit member => Nat.digits_lt_base (by decide) member, Nat.ofDigits_digits]

theorem readUnsigned_natural (value : Nat) : readUnsigned (natural value) = some (value : ℚ) := by
  have take := List.takeWhile_eq_self_iff.mpr (natural_chars value)
  have drop := List.dropWhile_eq_nil_iff.mpr (natural_chars value)
  unfold readUnsigned
  simp only [take, drop]
  simp [natural_ne_nil, readExponent, digitsValue_natural]

theorem digitsValue_append (front back : List Char) :
    digitsValue (front ++ back) = digitsValue front * 10 ^ back.length + digitsValue back := by
  have from_ : ∀ start : Nat, back.foldl (fun value digit =>
      10 * value + (digit.toNat - '0'.toNat)) start =
        start * 10 ^ back.length + digitsValue back := by
    induction back with
    | nil => exact fun start => (Nat.mul_one start).symm
    | cons digit back inductionHypothesis =>
        intro start
        have single : digitsValue (digit :: back) =
            (digit.toNat - '0'.toNat) * 10 ^ back.length + digitsValue back := by
          rw [digitsValue, List.foldl_cons, inductionHypothesis, Nat.mul_zero, Nat.zero_add]
        rw [List.foldl_cons, inductionHypothesis, single, List.length_cons]
        ring
  rw [digitsValue, List.foldl_append, from_]
  rfl

/-- A number in decimal notation with a point. -/
theorem readDecimal_point {whole fraction : List Char} (nonempty : whole ≠ [])
    (digits : ∀ char ∈ whole, isAsciiDigit char = true)
    (others : ∀ char ∈ fraction, isAsciiDigit char = true) :
    readDecimal (whole ++ '.' :: fraction) =
      some (digitsValue (whole ++ fraction) / 10 ^ fraction.length : ℚ) := by
  have point : ¬isAsciiDigit '.' = true := by decide
  have takeWhole : (whole ++ '.' :: fraction).takeWhile isAsciiDigit = whole := by
    rw [List.takeWhile_append_of_pos digits, List.takeWhile_cons_of_neg point, List.append_nil]
  have dropWhole : (whole ++ '.' :: fraction).dropWhile isAsciiDigit = '.' :: fraction := by
    rw [List.dropWhile_append_of_pos digits, List.dropWhile_cons_of_neg point]
  have take := List.takeWhile_eq_self_iff.mpr others
  have drop := List.dropWhile_eq_nil_iff.mpr others
  have unsigned : readUnsigned (whole ++ '.' :: fraction) =
      some (digitsValue (whole ++ fraction) / 10 ^ fraction.length : ℚ) := by
    unfold readUnsigned
    simp only [takeWhole, dropWhole, List.head?_cons, if_true, List.tail_cons, take, drop]
    rw [if_neg fun none' => nonempty (List.append_eq_nil_iff.mp none').1, readExponent,
      Option.map_some, mul_one]
  obtain ⟨char, rest, begins⟩ := List.exists_cons_of_ne_nil nonempty
  have digit := digits char (begins ▸ List.mem_cons_self)
  rw [begins, List.cons_append] at unsigned ⊢
  rw [readDecimal, unsigned]
  · rintro text same
    obtain rfl := (List.cons.inj same).1
    exact absurd digit (by decide)
  · rintro text same
    obtain rfl := (List.cons.inj same).1
    exact absurd digit (by decide)

/-- Decimal notation with a fraction and an exponent. -/
def decimals : NumberFormat ℚ where
  read := readDecimal
  ofInt := Int.cast
  read_decimal value := by
    cases value with
    | ofNat value =>
        have unsigned := readUnsigned_natural value
        obtain ⟨char, rest, begins⟩ := List.exists_cons_of_ne_nil (natural_ne_nil value)
        have digit := natural_chars value char (begins ▸ List.mem_cons_self)
        have minus : char ≠ '-' := by
          rintro rfl
          exact absurd digit (by decide)
        have plus : char ≠ '+' := by
          rintro rfl
          exact absurd digit (by decide)
        rw [decimal, readDecimal, unsigned]
        · rfl
        · intro text same
          exact minus (List.cons.inj (begins.symm.trans same)).1
        · intro text same
          exact plus (List.cons.inj (begins.symm.trans same)).1
    | negSucc value =>
        rw [decimal, readDecimal, readUnsigned_natural, Option.map_some, Int.cast_negSucc]

end ReadingBack

namespace Line

/-- Labels are at least as many characters as labels. -/
theorem length_intercalate {labels : List (LabelName × String)} (some' : labels ≠ []) :
    ([','].intercalate (labels.map label)).length + 1 =
      ((labels.map pair).map labelLength).sum := by
  have one : ∀ other : LabelName × String, (label other).length + 1 = labelLength (pair other) := by
    intro other
    simp only [label, labelLength, List.length_append, List.length_cons, List.length_nil,
      String.length_toList]
    omega
  induction labels with
  | nil => exact absurd rfl some'
  | cons first labels inductionHypothesis =>
      cases labels with
      | nil =>
          rw [List.map_singleton, List.intercalate_singleton, one]
          simp
      | cons next labels =>
          have later := inductionHypothesis (List.cons_ne_nil _ _)
          have step : ((first :: next :: labels).map pair).map labelLength =
              labelLength (pair first) :: ((next :: labels).map pair).map labelLength := rfl
          have joined : [','].intercalate ((first :: next :: labels).map label) =
              label first ++ [','] ++ [','].intercalate ((next :: labels).map label) :=
            List.intercalate_cons_cons
          rw [step, joined, List.sum_cons, ← later, ← one]
          simp only [List.length_append, List.length_singleton]
          omega

theorem length_le_intercalate {labels : List (LabelName × String)} (some' : labels ≠ []) :
    labels.length ≤ ([','].intercalate (labels.map label)).length := by
  have total := length_intercalate some'
  have each : ∀ labels : List (LabelName × String),
      4 * labels.length ≤ ((labels.map pair).map labelLength).sum := by
    intro labels
    induction labels with
    | nil => exact Nat.le_refl _
    | cons label labels inductionHypothesis =>
        have step : ((((label :: labels).map pair).map labelLength).sum : Nat) =
            labelLength (pair label) + ((labels.map pair).map labelLength).sum := rfl
        have long : 4 ≤ labelLength (pair label) := Nat.le_add_left _ _
        rw [List.length_cons, step]
        omega
  have many := each labels
  have one : 1 ≤ labels.length := List.length_pos_iff.mpr some'
  omega

theorem head_nil (name : MetricName) : head name [] = name.val.toList := rfl

theorem head_of_ne_nil (name : MetricName) {labels : List (LabelName × String)}
    (some' : labels ≠ []) :
    head name labels =
      name.val.toList ++ '{' :: ([','].intercalate (labels.map label) ++ ['}']) := by
  cases labels with
  | nil => exact absurd rfl some'
  | cons first labels => rfl

theorem text_sample (name : MetricName) (labels : List (LabelName × String)) (value : Int) :
    text (.sample name labels value) = head name labels ++ ' ' :: decimal value := rfl

section Heads

variable {Value : Type} {format : NumberFormat Value} {number : List Char} {value : Value}

/-- A sample is read back where its label values are plain. -/
theorem readSample_head (numeral : Numeral format number value) {name : MetricName}
    {labels : List (LabelName × String)} (plain : ∀ label ∈ labels, Plain label.2) :
    readSample format (head name labels ++ ' ' :: number) =
      some ⟨name.val, inOrder (labels.map pair), value⟩ := by
  have reads := readNumber_numeral numeral
  have blankOther : isMetricChar ' ' = false := by decide
  have braceOther : isMetricChar '{' = false := by decide
  unfold readSample
  cases labels with
  | nil =>
      obtain ⟨char, rest, skip, -, solid, other⟩ := numeral.skip
      have braces : readBraces (char :: rest) = some ([], char :: rest) := if_neg other
      have reads' : readNumber format (char :: rest) = some value := by
        unfold readNumber at reads ⊢
        rw [skip] at reads
        rw [skip_of_head solid]
        exact reads
      rw [head_nil, readName_name name.property blankOther]
      dsimp only [Option.bind_eq_bind, Option.bind_some]
      rw [skip, braces]
      dsimp only [Option.bind_some]
      rw [reads']
      dsimp only [Option.bind_some]
      rw [String.ofList_toList]
      rfl
  | cons label labels =>
      have some' := List.cons_ne_nil label labels
      generalize label :: labels = labels at plain some'
      have enough : labels.length ≤ ([','].intercalate (labels.map Line.label) ++
          '}' :: (' ' :: number)).length + 1 := by
        have enough := length_le_intercalate some'
        rw [List.length_append]
        omega
      have braces : readBraces ('{' :: ([','].intercalate (labels.map Line.label) ++
          '}' :: (' ' :: number))) = some (labels.map pair, ' ' :: number) :=
        readLabels_labels some' plain enough _
      rw [head_of_ne_nil name some', List.append_assoc, List.cons_append, List.append_assoc,
        List.singleton_append, readName_name name.property braceOther]
      dsimp only [Option.bind_eq_bind, Option.bind_some]
      rw [skip_of_head (by decide), braces]
      dsimp only [Option.bind_some]
      rw [reads]
      dsimp only [Option.bind_some]
      rw [String.ofList_toList]

/-- A text that begins with a name is neither blank nor a comment. -/
theorem readLine_name (name : MetricName) (rest : List Char) :
    readLine format (name.val.toList ++ rest) =
      (readSample format (name.val.toList ++ rest)).map fun sample => [sample] := by
  obtain ⟨char, more, begins, start, -⟩ := isName_cons name.property
  have solid : isBlank char = false := by
    rw [isBlank, Bool.or_eq_false_iff, decide_eq_false_iff_not, decide_eq_false_iff_not]
    constructor
    · rintro rfl
      exact absurd start (by decide)
    · rintro rfl
      exact absurd start (by decide)
  have comment : char ≠ '#' := by
    rintro rfl
    exact absurd start (by decide)
  unfold readLine
  rw [begins, List.cons_append, skip_of_head solid]
  dsimp only
  rw [if_neg comment]

/-- The head of a sample begins with its name. -/
theorem head_append (name : MetricName) (labels : List (LabelName × String)) (rest : List Char) :
    ∃ more, head name labels ++ rest = name.val.toList ++ more := by
  cases labels with
  | nil => exact ⟨rest, rfl⟩
  | cons label labels =>
      rw [head_of_ne_nil name (List.cons_ne_nil _ _), List.append_assoc]
      exact ⟨_, rfl⟩

theorem readLine_head (numeral : Numeral format number value) {name : MetricName}
    {labels : List (LabelName × String)} (plain : ∀ label ∈ labels, Plain label.2) :
    readLine format (head name labels ++ ' ' :: number) =
      some [⟨name.val, inOrder (labels.map pair), value⟩] := by
  have sample := @readSample_head _ _ _ _ numeral name _ plain
  obtain ⟨more, whole⟩ := head_append name labels (' ' :: number)
  rw [whole] at sample ⊢
  rw [readLine_name, sample]
  rfl

end Heads

/-- A line is read back where its values are plain. -/
theorem readLine_text {Value : Type} (format : NumberFormat Value) {line : Line}
    (plain : ∀ value ∈ line.values, Plain value) :
    readLine format line.text = some (line.written format) := by
  cases line with
  | type name kind => rfl
  | sample name labels value =>
      exact readLine_head (.decimal format value) fun label member =>
        plain label.2 (List.mem_map_of_mem member)

end Line

/-! ## Lines and texts -/

section Texts

variable {Value : Type} {format : NumberFormat Value}

/-- What comes before the first closing character is no longer than what comes before any. -/
theorem length_le_of_not_mem {closing : Char} {first rest before after : List Char}
    (same : first ++ rest = before ++ closing :: after) (none' : closing ∉ first) :
    first.length ≤ before.length := by
  rcases List.append_eq_append_iff.mp same with ⟨more, rfl, -⟩ | ⟨more, rfl, later⟩
  · rw [List.length_append]
    exact Nat.le_add_right _ _
  · cases more with
    | nil => simp
    | cons char more =>
        obtain ⟨rfl, -⟩ := List.cons.inj later
        exact absurd (by simp) none'

/-- What comes before a closing character is no longer than what comes before the last. -/
theorem length_le_of_last {closing : Char} {first rest before after : List Char}
    (same : first ++ closing :: rest = before ++ closing :: after) (last : closing ∉ after) :
    first.length ≤ before.length := by
  rcases List.append_eq_append_iff.mp same with ⟨more, rfl, -⟩ | ⟨more, rfl, later⟩
  · rw [List.length_append]
    exact Nat.le_add_right _ _
  · cases more with
    | nil => simp
    | cons char more =>
        obtain ⟨-, rfl⟩ := List.cons.inj later
        exact absurd (by simp) last

theorem lengths_append (first second : List (Sample Value)) :
    lengths (first ++ second) = lengths first + lengths second := by
  rw [lengths, List.map_append, List.sum_append_nat]
  rfl

theorem lengths_singleton (sample : Sample Value) : lengths [sample] = sample.length :=
  Nat.add_zero _

theorem inOrder_nil : inOrder [] = [] := List.mergeSort_of_pairwise .nil

/-- Where there are labels, there are braces around them. -/
theorem readBraces_spec {text rest : List Char} {labels : List (String × String)}
    (read : readBraces text = some (labels, rest)) (line : '\n' ∉ text) :
    labels = [] ∨ ∃ used, text = '{' :: (used ++ '}' :: rest) ∧
      (labels.map labelLength).sum ≤ used.length + 1 ∧
        ((labels.map labelLength).sum = used.length + 1 → ∀ label ∈ labels, Plain label.2) := by
  cases text with
  | nil => exact .inl (Prod.mk.inj (Option.some.inj read)).1.symm
  | cons char text =>
      rw [readBraces] at read
      split at read
      next brace =>
        obtain ⟨used, rfl, spec⟩ := readLabels_spec read fun member =>
          line (List.mem_cons_of_mem _ member)
        exact .inr ⟨used, by rw [brace], spec⟩
      next => exact .inl (Prod.mk.inj (Option.some.inj read)).1.symm

/-- A sample is at most as long as its text up to the closing brace, if it has one. -/
theorem readSample_spec {text : List Char} {sample : Sample Value}
    (read : readSample format text = some sample) (line : '\n' ∉ text) :
    (sample.labels = [] ∧ '}' ∉ sample.name.toList ∧ ∃ rest, text = sample.name.toList ++ rest) ∨
      ∃ used rest, text = used ++ '}' :: rest ∧ sample.length ≤ used.length ∧
        (sample.length = used.length → sample.Plain) := by
  obtain ⟨⟨name, afterName⟩, named, read⟩ := Option.bind_eq_some_iff.mp read
  obtain ⟨⟨labels, afterLabels⟩, labelled, read⟩ := Option.bind_eq_some_iff.mp read
  obtain ⟨number, -, read⟩ := Option.bind_eq_some_iff.mp read
  obtain rfl := Option.some.inj read
  have whole := readName_eq named
  obtain ⟨gap, gapEq⟩ := dropWhile_suffix isBlank afterName
  have shortLine : '\n' ∉ afterName.dropWhile isBlank := fun member =>
    line (by rw [whole, gapEq]; exact List.mem_append_right _ (List.mem_append_right _ member))
  rcases readBraces_spec labelled shortLine with rfl | ⟨used, usedEq, shorter, same⟩
  · refine .inl ⟨inOrder_nil, ?_, afterName, ?_⟩
    · rw [String.toList_ofList]
      intro member
      exact absurd (readName_chars isMetricChar_of_start named '}' member) (by decide)
    · rw [String.toList_ofList]
      exact whole
  · refine .inr ⟨name ++ gap ++ '{' :: used, afterLabels, ?_, ?_, fun long => ?_⟩
    · rw [whole, gapEq, usedEq]
      simp
    · simp only [Sample.length, sum_inOrder, String.length_ofList, List.length_append,
        List.length_cons]
      omega
    · simp only [Sample.length, sum_inOrder, String.length_ofList, List.length_append,
        List.length_cons] at long
      have plain := same (by omega)
      exact fun label member => plain label ((inOrder_perm labels).mem_iff.mp member)

/-- A line is blank, a comment or a sample behind blanks. -/
theorem readLine_spec {line : List Char} {samples : List (Sample Value)}
    (read : readLine format line = some samples) :
    samples = [] ∨ ∃ gap text sample, line = gap ++ text ∧ (∀ char ∈ gap, isBlank char = true) ∧
      readSample format text = some sample ∧ samples = [sample] := by
  have gap := List.takeWhile_append_dropWhile (p := isBlank) (l := line)
  unfold readLine at read
  split at read
  next => exact .inl (Option.some.inj read).symm
  next char rest first =>
    split at read
    next => exact .inl (Option.some.inj read).symm
    next =>
      obtain ⟨sample, sampled, rfl⟩ := Option.map_eq_some_iff.mp read
      rw [first] at gap
      exact .inr ⟨_, _, sample, gap.symm, List.all_eq_true.mp List.all_takeWhile, sampled, rfl⟩

/-- What is read from a line is at most as long as what comes before its last closing brace. -/
theorem readLine_closed {before after : List Char} {samples : List (Sample Value)}
    (read : readLine format (before ++ '}' :: after) = some samples) (last : '}' ∉ after)
    (line : '\n' ∉ before ++ '}' :: after) :
    lengths samples ≤ before.length ∧
      (lengths samples = before.length → ∀ sample ∈ samples, sample.Plain) := by
  rcases readLine_spec read with rfl | ⟨gap, text, sample, whole, blank, sampled, rfl⟩
  · exact ⟨Nat.zero_le _, fun _ sample member => absurd member List.not_mem_nil⟩
  · have shortLine : '\n' ∉ text := fun member =>
      line (by rw [whole]; exact List.mem_append_right _ member)
    rw [lengths_singleton]
    rcases readSample_spec sampled shortLine with
      ⟨none', unbraced, rest, rfl⟩ | ⟨used, rest, rfl, shorter, same⟩
    · have unlabelled : sample.length = sample.name.length := by
        rw [Sample.length, none']
        rfl
      have short : (gap ++ sample.name.toList).length ≤ before.length := by
        have same : (gap ++ sample.name.toList) ++ rest = before ++ '}' :: after := by
          rw [List.append_assoc, ← whole]
        refine length_le_of_not_mem same fun member => ?_
        rcases List.mem_append.mp member with member | member
        · exact absurd (blank _ member) (by decide)
        · exact unbraced member
      rw [List.length_append, String.length_toList] at short
      refine ⟨by omega, fun _ other member => ?_⟩
      obtain rfl := List.mem_singleton.mp member
      exact fun label found => absurd (none' ▸ found) List.not_mem_nil
    · have closed : (gap ++ used) ++ '}' :: rest = before ++ '}' :: after := by
        rw [List.append_assoc, ← whole]
      have short : (gap ++ used).length ≤ before.length := length_le_of_last closed last
      rw [List.length_append] at short
      refine ⟨by omega, fun long other member => ?_⟩
      obtain rfl := List.mem_singleton.mp member
      exact same (by omega)

/-- What is read from a line is at most as long as the line. -/
theorem readLine_length {line : List Char} {samples : List (Sample Value)}
    (read : readLine format line = some samples) (one : '\n' ∉ line) :
    lengths samples ≤ line.length := by
  rcases readLine_spec read with rfl | ⟨gap, text, sample, rfl, -, sampled, rfl⟩
  · exact Nat.zero_le _
  · have shortLine : '\n' ∉ text := fun member => one (List.mem_append_right _ member)
    rw [lengths_singleton, List.length_append]
    rcases readSample_spec sampled shortLine with
      ⟨none', -, rest, rfl⟩ | ⟨used, rest, rfl, shorter, -⟩
    · have unlabelled : sample.length = sample.name.length := by
        rw [Sample.length, none']
        rfl
      rw [List.length_append, String.length_toList]
      omega
    · rw [List.length_append]
      omega

theorem readLines_append (first second : List (List Char)) :
    readLines format (first ++ second) =
      (readLines format first).bind fun samples =>
        (readLines format second).map fun more => samples ++ more := by
  induction first with
  | nil =>
      rw [List.nil_append, readLines]
      cases readLines format second <;> rfl
  | cons line lines inductionHypothesis =>
      rw [List.cons_append, readLines, readLines, inductionHypothesis]
      cases readLine format line with
      | none => rfl
      | some samples =>
          cases readLines format lines with
          | none => rfl
          | some later =>
              cases readLines format second with
              | none => rfl
              | some more => exact congrArg some (List.append_assoc _ _ _).symm

/-- What is read from the lines of a text that is closed by a brace is at most as long as what
comes before the brace, and shorter where a line feed or a value that is not plain is in it. -/
theorem readLines_closed {before after : List Char} {samples : List (Sample Value)}
    (read : readLines format ((before ++ '}' :: after).splitOn '\n') = some samples)
    (last : '}' ∉ after) (end_ : '\n' ∉ after) :
    lengths samples ≤ before.length ∧
      (lengths samples = before.length → ∀ sample ∈ samples, sample.Plain) := by
  induction long : before.length using Nat.strong_induction_on generalizing before samples with
  | _ length inductionHypothesis =>
      by_cases broken : '\n' ∈ before
      · obtain ⟨line, rest, rfl, one⟩ := List.eq_append_cons_of_mem broken
        rw [List.append_assoc, List.cons_append,
          List.splitOn_append_cons_self_of_not_mem one] at read
        obtain ⟨first, readFirst, read⟩ := Option.bind_eq_some_iff.mp read
        obtain ⟨more, readMore, read⟩ := Option.bind_eq_some_iff.mp read
        obtain rfl := Option.some.inj read
        rw [List.length_append, List.length_cons] at long
        have short := readLine_length readFirst one
        have shortMore := (inductionHypothesis rest.length (by omega) readMore rfl).1
        rw [lengths_append]
        exact ⟨by omega, fun same => absurd same (by omega)⟩
      · have one : '\n' ∉ before ++ '}' :: after := by
          intro member
          rcases List.mem_append.mp member with member | member
          · exact broken member
          · rcases List.mem_cons.mp member with closing | member
            · exact absurd closing (by decide)
            · exact end_ member
        rw [List.splitOn_eq_singleton one] at read
        obtain ⟨first, readFirst, read⟩ := Option.bind_eq_some_iff.mp read
        obtain rfl := Option.some.inj read
        rw [List.append_nil, ← long]
        exact readLine_closed readFirst last one

/-- The samples a line is written for are plain where its values are. -/
theorem Line.written_plain {line : Line} :
    (∀ sample ∈ line.written format, sample.Plain) ↔ ∀ value ∈ line.values, Plain value := by
  cases line with
  | type name kind => simp [Line.written, Line.values]
  | sample name labels value =>
      constructor
      · intro plain found member
        obtain ⟨label, labelled, rfl⟩ := List.mem_map.mp member
        exact plain _ (List.mem_singleton_self _) (Line.pair label)
          ((inOrder_perm _).mem_iff.mpr (List.mem_map_of_mem labelled))
      · intro plain sample member label labelled
        obtain rfl := List.mem_singleton.mp member
        obtain ⟨other, found, rfl⟩ := List.mem_map.mp ((inOrder_perm _).mem_iff.mp labelled)
        exact plain other.2 (List.mem_map_of_mem found)

theorem mem_intercalate {separator char : Char} {texts : List (List Char)}
    (member : char ∈ [separator].intercalate texts) :
    char = separator ∨ ∃ text ∈ texts, char ∈ text := by
  induction texts with
  | nil => cases member
  | cons text texts inductionHypothesis =>
      cases texts with
      | nil =>
          rw [List.intercalate_singleton] at member
          exact .inr ⟨text, List.mem_cons_self, member⟩
      | cons next texts =>
          rw [List.intercalate_cons_cons] at member
          rcases List.mem_append.mp member with member | member
          · rcases List.mem_append.mp member with member | member
            · exact .inr ⟨text, List.mem_cons_self, member⟩
            · exact .inl (List.mem_singleton.mp member)
          · rcases inductionHypothesis member with separated | ⟨other, found, member⟩
            · exact .inl separated
            · exact .inr ⟨other, List.mem_cons_of_mem _ found, member⟩

/-- The head of a sample with plain values is one line. -/
theorem Line.not_mem_head {name : MetricName} {labels : List (LabelName × String)}
    (plain : ∀ label ∈ labels, Plain label.2) : '\n' ∉ Line.head name labels := by
  have named := not_mem_metricName name (show isMetricChar '\n' = false by decide)
  by_cases none' : labels = []
  · rw [none', Line.head_nil]
    exact named
  · have inner : '\n' ∉ [','].intercalate (labels.map Line.label) := by
      intro member
      rcases mem_intercalate member with separator | ⟨text, member, found⟩
      · exact absurd separator (by decide)
      · obtain ⟨label, labelled, rfl⟩ := List.mem_map.mp member
        have labelNamed := not_mem_labelName label.1 (show isLabelChar '\n' = false by decide)
        have valued : '\n' ∉ label.2.toList := fun member =>
          (plain label labelled _ member).2.2 rfl
        simp [Line.label, labelNamed, valued] at found
    rw [Line.head_of_ne_nil name none']
    simp [named, inner]

/-- A line with plain values is one line. -/
theorem Line.one_line {line : Line} (plain : ∀ value ∈ line.values, Plain value) :
    '\n' ∉ line.text := by
  cases line with
  | type name kind =>
      intro member
      have named := not_mem_metricName name (show isMetricChar '\n' = false by decide)
      have kinded := not_mem_labelName kind (show isLabelChar '\n' = false by decide)
      have comment : '\n' ∉ "# TYPE ".toList := by decide +kernel
      have whole : (Line.type name kind).text =
          "# TYPE ".toList ++ name.val.toList ++ ' ' :: kind.val.toList := rfl
      rw [whole] at member
      rcases List.mem_append.mp member with member | member
      · exact (List.mem_append.mp member).elim comment named
      · rcases List.mem_cons.mp member with blank | member
        · exact absurd blank (by decide)
        · exact kinded member
  | sample name labels value =>
      have begins := @Line.not_mem_head name _ fun label member =>
        plain label.2 (List.mem_map_of_mem (f := Prod.snd) member)
      have number : '\n' ∉ decimal value := not_mem_decimal value (by decide) (by decide)
      rw [Line.text_sample]
      simp [begins, number]

/-- What is read from the text of a line is at most as long as what it was written for, and as long
only where it is plain. -/
theorem Line.readLines_text {line : Line} {samples : List (Sample Value)}
    (read : readLines format (line.text.splitOn '\n') = some samples) :
    lengths samples ≤ lengths (line.written format) ∧
      (lengths samples = lengths (line.written format) → ∀ sample ∈ samples, sample.Plain) := by
  by_cases plain : ∀ value ∈ line.values, Plain value
  · rw [List.splitOn_eq_singleton (Line.one_line plain), readLines, Line.readLine_text format plain]
      at read
    obtain rfl := Option.some.inj read
    rw [List.append_nil]
    exact ⟨Nat.le_refl _, fun _ => Line.written_plain.mpr plain⟩
  · cases line with
    | type name kind => exact absurd (by simp [Line.values]) plain
    | sample name labels value =>
        have some' : labels ≠ [] := by
          rintro rfl
          exact plain (by simp [Line.values])
        rw [Line.text_sample, Line.head_of_ne_nil name some', List.append_assoc, List.cons_append,
          List.append_assoc, List.singleton_append] at read
        have whole : name.val.toList ++ '{' :: ([','].intercalate (labels.map Line.label) ++
              '}' :: (' ' :: decimal value)) =
            (name.val.toList ++ '{' :: [','].intercalate (labels.map Line.label)) ++
              '}' :: (' ' :: decimal value) := by
          simp
        have long : lengths ((Line.sample name labels value).written format) =
            (name.val.toList ++ '{' :: [','].intercalate (labels.map Line.label)).length := by
          have inner := Line.length_intercalate some'
          rw [Line.written, lengths_singleton, Sample.length, sum_inOrder, List.length_append,
            List.length_cons, String.length_toList, inner]
        rw [whole] at read
        rw [long]
        refine readLines_closed read ?_ ?_
        · have number : '}' ∉ decimal value := not_mem_decimal value (by decide) (by decide)
          simp [number]
        · have number : '\n' ∉ decimal value := not_mem_decimal value (by decide) (by decide)
          simp [number]

theorem splitOn_lines (line : List Char) (rest : List Char) :
    (line ++ ['\n'] ++ rest).splitOn '\n' = line.splitOn '\n' ++ rest.splitOn '\n' := by
  rw [List.append_assoc, List.singleton_append, List.splitOn_append_cons_self]

theorem readLines_nil : readLines format (([] : List Char).splitOn '\n') = some [] := rfl

/-- From a text that begins with a name and a brace a sample of this name is read. -/
theorem readLines_named {name : MetricName} {rest : List Char} {samples : List (Sample Value)}
    (read : readLines format ((name.val.toList ++ '{' :: rest).splitOn '\n') = some samples) :
    ∃ sample ∈ samples, sample.name = name.val := by
  have named := not_mem_metricName name (show isMetricChar '\n' = false by decide)
  have first : ∃ line lines, (name.val.toList ++ '{' :: rest).splitOn '\n' =
      (name.val.toList ++ '{' :: line) :: lines := by
    by_cases broken : '\n' ∈ rest
    · obtain ⟨line, later, rfl, one⟩ := List.eq_append_cons_of_mem broken
      refine ⟨line, later.splitOn '\n', ?_⟩
      rw [← List.cons_append, ← List.append_assoc,
        List.splitOn_append_cons_self_of_not_mem (by simp [named, one])]
    · exact ⟨rest, [], List.splitOn_eq_singleton (by simp [named, broken])⟩
  obtain ⟨line, lines, split⟩ := first
  rw [split] at read
  obtain ⟨found, readFirst, read⟩ := Option.bind_eq_some_iff.mp read
  obtain ⟨more, -, read⟩ := Option.bind_eq_some_iff.mp read
  obtain rfl := Option.some.inj read
  rw [Line.readLine_name] at readFirst
  obtain ⟨sample, sampled, rfl⟩ := Option.map_eq_some_iff.mp readFirst
  unfold readSample at sampled
  rw [readName_name name.property (by decide)] at sampled
  dsimp only [Option.bind_eq_bind, Option.bind_some] at sampled
  obtain ⟨⟨labels, afterLabels⟩, -, sampled⟩ := Option.bind_eq_some_iff.mp sampled
  obtain ⟨number, -, sampled⟩ := Option.bind_eq_some_iff.mp sampled
  obtain rfl := Option.some.inj sampled
  exact ⟨_, List.mem_cons_self, String.ofList_toList⟩

/-- The samples of a text are at most as long as what it was written for, and as long only where
they are plain. -/
theorem parse_write {lines : List Line} {samples : List (Sample Value)}
    (read : parse format (write lines) = some samples) :
    lengths samples ≤ lengths (lines.flatMap (Line.written format)) ∧
      (lengths samples = lengths (lines.flatMap (Line.written format)) →
        ∀ sample ∈ samples, sample.Plain) := by
  rw [parse, write, String.toList_ofList] at read
  induction lines generalizing samples with
  | nil =>
      obtain rfl := Option.some.inj (readLines_nil.symm.trans read)
      exact ⟨Nat.le_refl _, fun _ sample member => absurd member List.not_mem_nil⟩
  | cons line lines inductionHypothesis =>
      rw [List.flatMap_cons, splitOn_lines, readLines_append] at read
      obtain ⟨first, readFirst, read⟩ := Option.bind_eq_some_iff.mp read
      obtain ⟨more, readMore, rfl⟩ := Option.map_eq_some_iff.mp read
      obtain ⟨short, same⟩ := Line.readLines_text readFirst
      obtain ⟨shortMore, sameMore⟩ := inductionHypothesis readMore
      rw [List.flatMap_cons, lengths_append, lengths_append]
      refine ⟨by omega, fun long sample member => ?_⟩
      rcases List.mem_append.mp member with member | member
      · exact same (by omega) sample member
      · exact sameMore (by omega) sample member

/-- A text with plain values is read as the samples it was written for. -/
theorem parse_write_plain {lines : List Line}
    (plain : ∀ line ∈ lines, ∀ value ∈ line.values, Plain value) :
    parse format (write lines) = some (lines.flatMap (Line.written format)) := by
  rw [parse, write, String.toList_ofList]
  induction lines with
  | nil => exact readLines_nil
  | cons line lines inductionHypothesis =>
      have first := plain line List.mem_cons_self
      have later := inductionHypothesis fun other member =>
        plain other (List.mem_cons_of_mem _ member)
      rw [List.flatMap_cons, splitOn_lines, readLines_append,
        List.splitOn_eq_singleton (Line.one_line first), later, readLines,
        Line.readLine_text format first]
      simp [readLines]

/-- A text is read as the samples it was written for exactly where all its values are plain. -/
theorem parse_write_iff (format : NumberFormat Value) (lines : List Line) :
    (∃ samples, parse format (write lines) = some samples ∧
        samples.Perm (lines.flatMap (Line.written format))) ↔
      ∀ line ∈ lines, ∀ value ∈ line.values, Plain value := by
  constructor
  · rintro ⟨samples, read, same⟩ line member
    have long : lengths samples = lengths (lines.flatMap (Line.written format)) :=
      (same.map Sample.length).sum_nat
    have plain := (parse_write read).2 long
    exact Line.written_plain.mp fun sample written =>
      plain sample (same.mem_iff.mpr (List.mem_flatMap.mpr ⟨line, member, written⟩))
  · exact fun plain => ⟨_, parse_write_plain plain, .refl _⟩

end Texts

end Exposition
