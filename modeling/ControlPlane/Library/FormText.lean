import ControlPlane.Library.Json
import Mathlib.Data.List.TakeWhile

/-!
# Form-encoded texts

`urllib.parse.parse_qsl` with `keep_blank_values`, down to the bytes of the
percent escapes, which are read as UTF-8 with replacement characters for what is
malformed.
-/

namespace FormText

/-- A continuation byte, between bounds that depend on the byte before it. -/
def within (low high byte : Nat) : Bool := low ≤ byte && byte ≤ high

/-- The second byte that may follow a leading byte, and how many bytes there are in all. -/
def sequence? (lead : Nat) : Option (Nat × Nat × Nat) :=
  if within 0xc2 0xdf lead then some (2, 0x80, 0xbf)
  else if lead = 0xe0 then some (3, 0xa0, 0xbf)
  else if lead = 0xed then some (3, 0x80, 0x9f)
  else if within 0xe1 0xef lead then some (3, 0x80, 0xbf)
  else if lead = 0xf0 then some (4, 0x90, 0xbf)
  else if lead = 0xf4 then some (4, 0x80, 0x8f)
  else if within 0xf1 0xf3 lead then some (4, 0x80, 0xbf)
  else none

/-- The payload of a leading byte. -/
def leadBits (length lead : Nat) : Nat :=
  if length = 2 then lead % 32 else if length = 3 then lead % 16 else lead % 8

/-- `bytes.decode("utf-8", "replace")`. -/
def decode : Nat → List Nat → List Char
  | 0, _ => []
  | _ + 1, [] => []
  | fuel + 1, lead :: rest =>
      if lead < 0x80 then Char.ofNat lead :: decode fuel rest
      else
        match sequence? lead with
        | none => '\ufffd' :: decode fuel rest
        | some (length, low, high) =>
            let second := rest.take 1 |>.takeWhile (within low high)
            let others := if second = [] then [] else
              (rest.drop 1).take (length - 2) |>.takeWhile (within 0x80 0xbf)
            let tail := second ++ others
            -- A sequence that breaks off is replaced as far as it goes.
            let char := if tail.length + 1 = length then
                Char.ofNat (tail.foldl (fun code byte => code * 64 + byte % 64)
                  (leadBits length lead))
              else '\ufffd'
            char :: decode fuel (rest.drop tail.length)

/-- `unquote_to_bytes` of ASCII characters. -/
def unquoteToBytes : List Char → List Nat
  | '%' :: first :: second :: rest =>
      match PythonJson.hex? first, PythonJson.hex? second with
      | some high, some low => (high * 16 + low) :: unquoteToBytes rest
      | _, _ => '%'.toNat :: unquoteToBytes (first :: second :: rest)
  | char :: rest => char.toNat :: unquoteToBytes rest
  | [] => []

/-- `unquote`: runs of ASCII characters are decoded, other characters are kept. -/
def unquote : Nat → List Char → List Char
  | 0, _ => []
  | _ + 1, [] => []
  | fuel + 1, char :: rest =>
      if char.toNat < 0x80 then
        let run := (char :: rest).takeWhile fun char => char.toNat < 0x80
        let bytes := unquoteToBytes run
        decode bytes.length bytes ++ unquote fuel ((char :: rest).drop run.length)
      else char :: unquote fuel rest

/-- A name or a value of a form. -/
def field (chars : List Char) : String :=
  String.ofList (unquote chars.length (chars.map fun char => if char = '+' then ' ' else char))

/-- `parse_qsl(text, keep_blank_values=True)`. -/
def parseQsl (text : String) : List (String × String) :=
  ((PythonText.split '&' text).filter fun item => item ≠ "").map fun item =>
    (field (item.toList.takeWhile (· ≠ '=')), field ((item.toList.dropWhile (· ≠ '=')).drop 1))

/-- `items[key] = value` in a dictionary that lists its items in the order of their keys. -/
def setItem (key value : String) : List (String × String) → List (String × String)
  | [] => [(key, value)]
  | item :: rest =>
      if key < item.1 then (key, value) :: item :: rest
      else if key = item.1 then (key, value) :: rest
      else item :: setItem key value rest

/-- `dict(items)`, with its items in the order of their keys. -/
def dict (items : List (String × String)) : List (String × String) :=
  items.foldl (fun values item => setItem item.1 item.2 values) []

/-- `values.get(key)`. -/
def get (values : List (String × String)) (key : String) : Option String :=
  (values.find? fun item => item.1 = key).map Prod.snd

/-- `separator.join(lines)`. -/
def join (separator : Char) (lines : List String) : String :=
  String.ofList ([separator].intercalate (lines.map String.toList))

/-! ## Texts without escapes -/

theorem parseQsl_append (first second : String) :
    parseQsl (first ++ "&" ++ second) = parseQsl first ++ parseQsl second := by
  have split : PythonText.split '&' (first ++ "&" ++ second) =
      PythonText.split '&' first ++ PythonText.split '&' second :=
    PythonText.split_append '&' first second
  rw [parseQsl, split, List.filter_append, List.map_append]
  rfl

/-- Bytes of ASCII characters are decoded as the characters. -/
theorem decode_ascii {chars : List Char} (ascii : ∀ char ∈ chars, char.toNat < 0x80) :
    decode chars.length (chars.map Char.toNat) = chars := by
  induction chars with
  | nil => rfl
  | cons char chars inductionHypothesis =>
      have first := ascii char List.mem_cons_self
      rw [List.length_cons, List.map_cons, decode, if_pos first, Char.ofNat_toNat,
        inductionHypothesis fun other member => ascii other (List.mem_cons_of_mem _ member)]

/-- Without percent signs there are no escapes. -/
theorem unquoteToBytes_plain {chars : List Char} (plain : '%' ∉ chars) :
    unquoteToBytes chars = chars.map Char.toNat := by
  induction chars with
  | nil => rfl
  | cons char chars inductionHypothesis =>
      rw [List.mem_cons, not_or] at plain
      rw [unquoteToBytes.eq_def]
      split
      next same => exact absurd (List.cons.inj same).1.symm plain.1
      next same =>
        obtain ⟨rfl, rfl⟩ := List.cons.inj same
        rw [inductionHypothesis plain.2, List.map_cons]
      next same => cases same

/-- A field of ASCII characters without escapes stands for itself. -/
theorem field_plain {chars : List Char} (ascii : ∀ char ∈ chars, char.toNat < 0x80)
    (plain : '%' ∉ chars) (signs : '+' ∉ chars) : field chars = String.ofList chars := by
  have spaced : (chars.map fun char => if char = '+' then ' ' else char) = chars := by
    refine (List.map_congr_left fun char member => ?_).trans (List.map_id _)
    exact if_neg fun same : char = '+' => signs (same ▸ member)
  rw [field, spaced]
  cases chars with
  | nil => rfl
  | cons char rest =>
      have run : (char :: rest).takeWhile (fun char => char.toNat < 0x80) = char :: rest :=
        List.takeWhile_eq_self_iff.mpr fun other member => decide_eq_true (ascii other member)
      have bytes := unquoteToBytes_plain plain
      have text := decode_ascii ascii
      rw [List.length_cons, unquote, if_pos (ascii char List.mem_cons_self)]
      dsimp only
      rw [run, bytes, List.length_map, text, List.drop_length]
      cases rest <;> simp [unquote]

/-! ## Setting items -/

/-- Setting an item changes the value of its key only. -/
theorem get_setItem (key value name : String) (values : List (String × String)) :
    get (setItem key value values) name = if key = name then some value else get values name := by
  induction values with
  | nil =>
      unfold setItem get
      by_cases own : key = name <;> simp [own]
  | cons head rest inductionHypothesis =>
      unfold setItem
      unfold get at inductionHypothesis ⊢
      by_cases own : key = name
      · subst own
        simp only [if_true] at inductionHypothesis ⊢
        split_ifs with before same
        · simp
        · simp
        · rw [List.find?_cons_of_neg (by simpa using fun found => same found.symm)]
          exact inductionHypothesis
      · simp only [own, if_false] at inductionHypothesis ⊢
        split_ifs with before same
        · rw [List.find?_cons_of_neg (by simpa using own)]
        · rw [List.find?_cons_of_neg (by simpa using own),
            List.find?_cons_of_neg (by simpa [← same] using own)]
        · rw [List.find?_cons, List.find?_cons]
          split
          · rfl
          · exact inductionHypothesis

/-- The other items stay as they are. -/
theorem filter_setItem (key value : String) (values : List (String × String)) :
    (setItem key value values).filter (fun item => item.1 ≠ key) =
      values.filter fun item => item.1 ≠ key := by
  induction values with
  | nil => simp [setItem]
  | cons head rest inductionHypothesis =>
      unfold setItem
      split_ifs with before same
      · rw [List.filter_cons_of_neg (by simp)]
      · rw [List.filter_cons_of_neg (by simp), List.filter_cons_of_neg (by simp [same])]
      · rw [List.filter_cons, List.filter_cons, inductionHypothesis]

theorem dict_append (items : List (String × String)) (key value : String) :
    dict (items ++ [(key, value)]) = setItem key value (dict items) := by
  rw [dict, List.foldl_append]
  rfl

/-! ## Sorted dictionaries and joined lines -/

/-- The items are in the order of their keys, which are different. -/
abbrev Sorted (values : List (String × String)) : Prop :=
  values.Pairwise fun first second => first.1 < second.1

/-- The keys after setting an item. -/
theorem mem_setItem {key value : String} {values : List (String × String)}
    {item : String × String} (member : item ∈ setItem key value values) :
    item = (key, value) ∨ item ∈ values := by
  induction values with
  | nil => exact .inl (List.mem_singleton.mp member)
  | cons head rest inductionHypothesis =>
      unfold setItem at member
      split at member
      · exact List.mem_cons.mp member
      · split at member
        · rcases List.mem_cons.mp member with same | old
          · exact .inl same
          · exact .inr (List.mem_cons_of_mem _ old)
        · rcases List.mem_cons.mp member with rfl | later
          · exact .inr List.mem_cons_self
          · exact (inductionHypothesis later).imp_right (List.mem_cons_of_mem _)

theorem setItem_sorted (key value : String) {values : List (String × String)}
    (sorted : Sorted values) : Sorted (setItem key value values) := by
  induction values with
  | nil => exact List.pairwise_singleton ..
  | cons head rest inductionHypothesis =>
      obtain ⟨least, later⟩ := List.pairwise_cons.mp sorted
      unfold setItem
      split
      · rename_i before
        refine List.pairwise_cons.mpr ⟨fun item member => ?_, sorted⟩
        rcases List.mem_cons.mp member with rfl | old
        · exact before
        · exact before.trans (least item old)
      · split
        · rename_i same
          exact List.pairwise_cons.mpr ⟨fun item old => same ▸ least item old, later⟩
        · rename_i notBefore different
          refine List.pairwise_cons.mpr ⟨fun item member => ?_, inductionHypothesis later⟩
          rcases mem_setItem member with rfl | old
          · exact lt_of_le_of_ne (not_lt.mp notBefore) fun same => different same.symm
          · exact least item old

theorem dict_sorted (items : List (String × String)) : Sorted (dict items) := by
  have general : ∀ values, Sorted values →
      Sorted (items.foldl (fun values item => setItem item.1 item.2 values) values) := by
    induction items with
    | nil => exact fun _ sorted => sorted
    | cons item items inductionHypothesis =>
        exact fun values sorted => inductionHypothesis _ (setItem_sorted item.1 item.2 sorted)
  exact general [] List.Pairwise.nil

/-- Lines without the separator can be read back from their join. -/
theorem join_injective {separator : Char} {first second : List String}
    (firstPlain : ∀ line ∈ first, separator ∉ line.toList)
    (secondPlain : ∀ line ∈ second, separator ∉ line.toList) (firstLines : first ≠ [])
    (secondLines : second ≠ []) (same : join separator first = join separator second) :
    first = second := by
  have chars : [separator].intercalate (first.map String.toList) =
      [separator].intercalate (second.map String.toList) := by
    have toList := congrArg String.toList same
    unfold join at toList
    rwa [String.toList_ofList, String.toList_ofList] at toList
  have split := congrArg (List.splitOn separator) chars
  rw [List.splitOn_intercalate separator (by simpa using firstPlain) (by simpa using firstLines),
    List.splitOn_intercalate separator (by simpa using secondPlain) (by simpa using secondLines)]
    at split
  exact List.map_injective_iff.mpr (fun _ _ => String.toList_injective) split

/-- A line `key=value`. -/
def line (item : String × String) : String := item.1 ++ "=" ++ item.2

/-- A text comes before the longer ones that it begins. -/
theorem lt_append (chars : List Char) (char : Char) (rest : List Char) :
    chars < chars ++ char :: rest := by
  induction chars with
  | nil => exact List.nil_lt_cons ..
  | cons head chars inductionHypothesis =>
      exact List.cons_lt_cons_iff.mpr (.inr ⟨rfl, inductionHypothesis⟩)

/-- A line that begins like that of a name is the line of a key no smaller than the name. -/
theorem le_of_begins {name : String} (plain : '=' ∉ name.toList) {item : String × String}
    (begins : (name ++ "=").toList <+: (line item).toList) : name ≤ item.1 := by
  obtain ⟨rest, same⟩ := begins
  have chars : name.toList ++ '=' :: rest = item.1.toList ++ '=' :: item.2.toList := by
    simpa [line, String.toList_append] using same
  rcases List.append_eq_append_iff.mp chars with ⟨more, key, _⟩ | ⟨more, longer, tail⟩
  · cases more with
    | nil => exact le_of_eq (String.toList_injective (by simpa using key.symm))
    | cons char more =>
        refine le_of_lt (String.lt_iff_toList_lt.mpr ?_)
        rw [key]
        exact lt_append ..
  · cases more with
    | nil => exact le_of_eq (String.toList_injective (by simpa using longer))
    | cons char more =>
        have equals : char = '=' := (List.cons.inj tail).1.symm
        refine absurd ?_ plain
        rw [longer, equals]
        exact List.mem_append_right _ List.mem_cons_self

/-- The value of a name is found in the lines: it is on the first one that begins with it. -/
theorem find_line {name value : String} (plain : '=' ∉ name.toList)
    {values : List (String × String)} (sorted : Sorted values)
    (found : get values name = some value) :
    ((values.map line).find? fun text => (name ++ "=").toList.isPrefixOf text.toList) =
      some (line (name, value)) := by
  induction values with
  | nil => cases found
  | cons head rest inductionHypothesis =>
      obtain ⟨least, later⟩ := List.pairwise_cons.mp sorted
      unfold get at found
      rw [List.find?_cons] at found
      rw [List.map_cons, List.find?_cons]
      by_cases own : head.1 = name
      · rw [decide_eq_true own] at found
        have same : head = (name, value) := Prod.ext own (Option.some.inj found)
        have begins : (name ++ "=").toList.isPrefixOf (line head).toList = true := by
          rw [same, List.isPrefixOf_iff_prefix]
          unfold line
          rw [String.toList_append (s := name ++ "=")]
          exact List.prefix_append ..
        rw [begins, same]
      · rw [decide_eq_false own] at found
        have member : (name, value) ∈ rest := by
          obtain ⟨item, present, same⟩ := Option.map_eq_some_iff.mp found
          have key : item.1 = name := by simpa using List.find?_some present
          rw [← key, ← same]
          exact List.mem_of_find?_eq_some present
        have other : (name ++ "=").toList.isPrefixOf (line head).toList = false := by
          rw [Bool.eq_false_iff]
          intro begins
          exact absurd (least _ member)
            (not_lt.mpr (le_of_begins plain (List.isPrefixOf_iff_prefix.mp begins)))
        rw [other]
        exact inductionHypothesis later found

end FormText
