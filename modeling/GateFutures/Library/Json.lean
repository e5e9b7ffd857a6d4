/-
This file defines a reader of JSON texts and proves rules for it.

`Json.parse` reads a text by the grammar of the format: values with blanks around them, numbers
with fraction and exponent, strings with escapes. The rules say of a compact text, one without
blanks and escapes, what is read from it. There is one rule for each way to write such a text, so
that a text written piece by piece is read rule by rule. `Reads text value` is the judgement they
share: whatever delimiter follows, the reader takes exactly `text` and returns `value`.
-/

import Mathlib.Algebra.Field.Rat
import Mathlib.Data.List.Forall2
import Mathlib.Data.List.TakeDrop
import Mathlib.Tactic.Ring

namespace GateFutures.Library

/-- A JSON value. Numbers are exact, and an object keeps its members in the order written. -/
inductive Json
  | null
  | bool (value : Bool)
  | number (value : ℚ)
  | string (text : String)
  | array (elements : List Json)
  | object (members : List (String × Json))

namespace Json

/-- The first member with a name. -/
def get? (name : String) : Json → Option Json
  | .object members => members.lookup name
  | _ => none

/-- The member that a list of names leads to. -/
def path? : List String → Json → Option Json
  | [], value => some value
  | name :: names, value => (value.get? name).bind (path? names)

/-! ### Numbers -/

/-- The value of one or more digits. -/
def digits (text : List Char) : Option ℕ :=
  if text ≠ [] ∧ text.all Char.isDigit then some (Nat.ofDigitChars 10 text 0) else none

/-- The whole part of a number: `0`, or digits of which the first is not `0`. -/
def wholePart (text : List Char) : Option ℕ :=
  if text.head? = some '0' ∧ text ≠ ['0'] then none else digits text

/-- The fraction of a number, with its point. -/
def fractionPart : List Char → Option ℚ
  | [] => some 0
  | _ :: text => (digits text).map fun value => value / 10 ^ text.length

/-- The exponent of a number, with its letter. -/
def exponentPart : List Char → Option ℤ
  | [] => some 0
  | _ :: '-' :: text => (digits text).map fun value => -value
  | _ :: '+' :: text => (digits text).map fun value => value
  | _ :: text => (digits text).map fun value => value

/-- The value of a number without a sign. -/
def unsignedNumber (text : List Char) : Option ℚ := do
  let (mantissa, exponent) := text.span fun c => c ≠ 'e' && c ≠ 'E'
  let (whole, fraction) := mantissa.span fun c => c ≠ '.'
  let whole ← wholePart whole
  let fraction ← fractionPart fraction
  let exponent ← exponentPart exponent
  return (whole + fraction) * 10 ^ exponent

/-- The value of a number. -/
def numberValue : List Char → Option ℚ
  | '-' :: text => (unsignedNumber text).map fun value => -value
  | text => unsignedNumber text

/-- The characters of numbers. -/
def isNumberChar (c : Char) : Bool :=
  c.isDigit || c = '-' || c = '+' || c = '.' || c = 'e' || c = 'E'

/-! ### The reader -/

/-- A reader takes a value from the front of a text. -/
abbrev Reader (Value : Type) := List Char → Option (Value × List Char)

/-- A blank of the format. -/
def isSpace (c : Char) : Bool := c = ' ' || c = '\t' || c = '\n' || c = '\r'

/-- Skip blanks. -/
def skipSpace (text : List Char) : List Char := text.dropWhile isSpace

/-- The escapes of one character, and what they stand for. -/
def escapes : List (Char × Char) :=
  [('"', '"'), ('\\', '\\'), ('/', '/'), ('b', '\x08'), ('f', '\x0c'), ('n', '\n'), ('r', '\r'),
    ('t', '\t')]

/-- The value of a hexadecimal digit. -/
def hexDigit (c : Char) : Option ℕ :=
  if c.isDigit then some (c.toNat - '0'.toNat)
  else if 'a' ≤ c ∧ c ≤ 'f' then some (c.toNat - 'a'.toNat + 10)
  else if 'A' ≤ c ∧ c ≤ 'F' then some (c.toNat - 'A'.toNat + 10)
  else none

/-- The character of an escape by its code. A half of a pair is no character. -/
def codeEscape (first second third fourth : Char) : Option Char := do
  let code := (((← hexDigit first) * 16 + (← hexDigit second)) * 16 + (← hexDigit third)) * 16 +
    (← hexDigit fourth)
  if code.isValidChar then return Char.ofNat code else none

/-- Read a string after its opening quote. -/
def readString : Reader (List Char)
  | '"' :: rest => some ([], rest)
  | '\\' :: 'u' :: a :: b :: c :: d :: rest => do
    let escaped ← codeEscape a b c d
    let (text, rest) ← readString rest
    return (escaped :: text, rest)
  | '\\' :: letter :: rest => do
    let escaped ← escapes.lookup letter
    let (text, rest) ← readString rest
    return (escaped :: text, rest)
  | c :: rest =>
    if c = '\\' || c.toNat < 0x20 then none
    else do
      let (text, rest) ← readString rest
      return (c :: text, rest)
  | [] => none

/-- Read one or more items with commas between them, and the closing character. -/
def readSeparated {Item : Type} (read : Reader Item) (close : Char) : ℕ → Reader (List Item)
  | 0, _ => none
  | fuel + 1, text => do
    let (item, text) ← read text
    match skipSpace text with
    | [] => none
    | c :: rest =>
      if c = close then return ([item], rest)
      else if c = ',' then
        let (items, rest) ← readSeparated read close fuel rest
        return (item :: items, rest)
      else none

/-- Read any number of items with commas between them, and the closing character. -/
def readItems {Item : Type} (read : Reader Item) (close : Char) (fuel : ℕ) :
    Reader (List Item) := fun text =>
  match skipSpace text with
  | [] => none
  | c :: rest => if c = close then some ([], rest) else readSeparated read close fuel (c :: rest)

/-- Read a member of an object. -/
def readMember (read : Reader Json) : Reader (String × Json) := fun text =>
  match skipSpace text with
  | '"' :: text => do
    let (name, text) ← readString text
    match skipSpace text with
    | ':' :: text => do
      let (value, text) ← read text
      return ((String.ofList name, value), text)
    | _ => none
  | _ => none

/-- Read a word or a number. -/
def readScalar : Reader Json
  | 'n' :: 'u' :: 'l' :: 'l' :: rest => some (.null, rest)
  | 't' :: 'r' :: 'u' :: 'e' :: rest => some (.bool true, rest)
  | 'f' :: 'a' :: 'l' :: 's' :: 'e' :: rest => some (.bool false, rest)
  | text =>
    let (token, rest) := text.span isNumberChar
    (numberValue token).map fun value => (.number value, rest)

/-- Read a value. The first argument bounds the depth and the number of items. -/
def readValue : ℕ → Reader Json
  | 0, _ => none
  | fuel + 1, text =>
    match skipSpace text with
    | '\x7b' :: text => do
      let (members, text) ← readItems (readMember (readValue fuel)) '\x7d' fuel text
      return (.object members, text)
    | '[' :: text => do
      let (elements, text) ← readItems (readValue fuel) ']' fuel text
      return (.array elements, text)
    | '"' :: text => do
      let (characters, text) ← readString text
      return (.string (String.ofList characters), text)
    | text => readScalar text

/-- The value of a text. Its length is more than its depth and the number of its items. -/
def parse (text : String) : Option Json := do
  let (value, rest) ← readValue text.toList.length text.toList
  if skipSpace rest = [] then return value else none

example : (parse "[1, -0.5e1]").isSome = true := by decide +kernel

example : (parse "[1, -0.5e1,]").isNone = true := by decide +kernel

/-! ### Compact texts -/

/-- A character that strings hold without an escape. -/
def isPlainChar (c : Char) : Bool := c ≠ '"' && c ≠ '\\' && 0x20 ≤ c.toNat

/-- No character needs an escape in a string. -/
def IsPlain (text : List Char) : Prop := text.all isPlainChar = true

/-- The text of a number. -/
structure IsNumber (text : List Char) (value : ℚ) : Prop where
  characters : ∀ c ∈ text, isNumberChar c = true
  denotes : numberValue text = some value

/-- The text of a string. -/
@[simp] def stringText (text : List Char) : List Char := '"' :: (text ++ ['"'])

/-- Texts with commas between them. -/
@[simp] def joined (texts : List (List Char)) : List Char := [','].intercalate texts

/-- The text of an array. -/
@[simp] def arrayText (elements : List (List Char)) : List Char := '[' :: (joined elements ++ [']'])

/-- The text of a member of an object. -/
@[simp] def memberText (member : String × List Char) : List Char :=
  stringText member.1.toList ++ ':' :: member.2

/-- The text of an object. -/
@[simp] def objectText (members : List (String × List Char)) : List Char :=
  '\x7b' :: (joined (members.map memberText) ++ ['\x7d'])

/-- What may follow a value: the end, or the next punctuation. -/
def IsDelimited (rest : List Char) : Prop := ∀ c ∈ rest.head?, c = ',' ∨ c = ']' ∨ c = '\x7d'

/-- A value starts with a character that is neither a blank nor a closing bracket. -/
def Opens (text : List Char) : Prop :=
  ∃ c rest, text = c :: rest ∧ isSpace c = false ∧ c ≠ ']' ∧ c ≠ '\x7d'

/-- The reader takes exactly the text, whatever delimiter follows, and returns the value. -/
structure Reads (text : List Char) (value : Json) : Prop where
  opens : Opens text
  takes : ∀ fuel rest, text.length ≤ fuel → IsDelimited rest →
    readValue fuel (text ++ rest) = some (value, rest)

/-- The text of a member reads as a member. -/
structure ReadsMember (member : String × List Char) (value : String × Json) : Prop where
  name : member.1 = value.1
  plain : IsPlain member.1.toList
  reads : Reads member.2 value.2

/-! ### Rules for characters -/

theorem isDelimited_nil : IsDelimited [] := nofun

theorem isDelimited_cons {c : Char} (delimiter : c = ',' ∨ c = ']' ∨ c = '\x7d')
    (rest : List Char) : IsDelimited (c :: rest) := by
  rintro _ ⟨⟩
  exact delimiter

/-- A character that is not blank is not skipped. -/
theorem skipSpace_cons {c : Char} (written : isSpace c = false) (rest : List Char) :
    skipSpace (c :: rest) = c :: rest := by
  rw [skipSpace, List.dropWhile_cons, written, if_neg Bool.false_ne_true]

/-- A delimiter is not skipped. -/
theorem IsDelimited.skipSpace {rest : List Char} (delimited : IsDelimited rest) :
    skipSpace rest = rest := by
  cases rest with
  | nil => rfl
  | cons c rest =>
    rcases delimited c rfl with rfl | rfl | rfl <;> exact skipSpace_cons rfl rest

/-- The longest front of characters of a kind, when the text splits there. -/
theorem span_append (kind : Char → Bool) {text rest : List Char}
    (all : ∀ c ∈ text, kind c = true) (stops : ∀ c ∈ rest.head?, kind c = false) :
    (text ++ rest).span kind = (text, rest) := by
  rw [List.span_eq_takeWhile_dropWhile, List.takeWhile_append_of_pos all,
    List.dropWhile_append_of_pos all]
  cases rest with
  | nil => rw [List.takeWhile_nil, List.dropWhile_nil, List.append_nil]
  | cons c rest =>
    rw [List.takeWhile_cons, List.dropWhile_cons, stops c rfl, if_neg Bool.false_ne_true,
      if_neg Bool.false_ne_true, List.append_nil]

/-- The longest front of characters of a kind, when all are. -/
theorem span_all (kind : Char → Bool) {text : List Char} (all : ∀ c ∈ text, kind c = true) :
    text.span kind = (text, []) := by
  have split : (text ++ []).span kind = (text, []) := span_append kind all nofun
  rwa [List.append_nil] at split

/-! ### Rules for numbers -/

/-- The digits of a natural number start with zero only for zero. -/
theorem toDigits_head (n : ℕ) (zero : (Nat.toDigits 10 n).head? = some '0') : n = 0 := by
  induction n using Nat.strongRecOn with
  | _ n inductionHypothesis =>
    rw [Nat.toDigits_eq_if (by decide)] at zero
    split at zero
    next => exact Nat.digitChar_eq_zero.mp (Option.some.inj zero)
    next large =>
      have quotient : (Nat.toDigits 10 (n / 10)).head? = some '0' := by
        rw [List.head?_append] at zero
        cases front : (Nat.toDigits 10 (n / 10)).head? with
        | none => exact absurd (List.head?_eq_none_iff.mp front) Nat.toDigits_ne_nil
        | some c => rwa [front] at zero
      have small := inductionHypothesis (n / 10) (by omega) quotient
      omega

theorem digits_toDigits (n : ℕ) : digits (Nat.toDigits 10 n) = some n := by
  have all : (Nat.toDigits 10 n).all Char.isDigit = true :=
    List.all_eq_true.mpr fun c member => Nat.isDigit_of_mem_toDigits (by decide) (by decide) member
  rw [digits, if_pos ⟨Nat.toDigits_ne_nil, all⟩, Nat.ofDigitChars_ten_toDigits]

theorem wholePart_toDigits (n : ℕ) : wholePart (Nat.toDigits 10 n) = some n := by
  have regular : ¬ ((Nat.toDigits 10 n).head? = some '0' ∧ Nat.toDigits 10 n ≠ ['0']) := by
    rintro ⟨zero, other⟩
    rw [toDigits_head n zero] at other
    exact other rfl
  rw [wholePart, if_neg regular, digits_toDigits]

theorem toDigits_isDigit {n : ℕ} {c : Char} (member : c ∈ Nat.toDigits 10 n) :
    c.isDigit = true :=
  Nat.isDigit_of_mem_toDigits (by decide) (by decide) member

section Scaled

variable {exponent : List Char} {power : ℤ}

/-- A natural number with an exponent. -/
theorem unsignedNumber_toDigits (n : ℕ) (starts : ∀ c ∈ exponent.head?, c = 'e')
    (read : exponentPart exponent = some power) :
    unsignedNumber (Nat.toDigits 10 n ++ exponent) = some ((n : ℚ) * 10 ^ power) := by
  have mantissa : (Nat.toDigits 10 n ++ exponent).span (fun c => c ≠ 'e' && c ≠ 'E') =
      (Nat.toDigits 10 n, exponent) := by
    refine span_append _ (fun c member => ?_) fun c member => ?_
    · have digit := toDigits_isDigit member
      rcases eq_or_ne c 'e' with rfl | lower
      · exact absurd digit (by decide)
      rcases eq_or_ne c 'E' with rfl | upper
      · exact absurd digit (by decide)
      simp [lower, upper]
    · rw [starts c member]
      rfl
  have whole : (Nat.toDigits 10 n).span (fun c => c ≠ '.') = (Nat.toDigits 10 n, []) := by
    refine span_all _ fun c member => ?_
    rcases eq_or_ne c '.' with rfl | other
    · exact absurd (toDigits_isDigit member) (by decide)
    simp [other]
  simp only [unsignedNumber, mantissa, whole, wholePart_toDigits, fractionPart, read]
  show some (((n : ℚ) + 0) * 10 ^ power) = _
  rw [add_zero]

/-- A natural number has no sign. -/
theorem numberValue_toDigits (n : ℕ) :
    numberValue (Nat.toDigits 10 n ++ exponent) =
      unsignedNumber (Nat.toDigits 10 n ++ exponent) := by
  cases front : Nat.toDigits 10 n with
  | nil => exact absurd front Nat.toDigits_ne_nil
  | cons c rest =>
    have digit : c.isDigit = true := toDigits_isDigit (n := n) (front ▸ List.mem_cons_self)
    rw [List.cons_append]
    unfold numberValue
    split
    next sign => exact absurd digit (by rw [(List.cons.inj sign).1]; decide)
    next => rfl

/-- An integer with an exponent. -/
theorem isNumber_int (value : ℤ) (starts : ∀ c ∈ exponent.head?, c = 'e')
    (characters : ∀ c ∈ exponent, isNumberChar c = true)
    (read : exponentPart exponent = some power) :
    IsNumber ((toString value).toList ++ exponent) (value * 10 ^ power) := by
  have natural : ∀ c ∈ Nat.toDigits 10 value.natAbs ++ exponent, isNumberChar c = true := by
    intro c member
    rcases List.mem_append.mp member with digit | other
    · simp [isNumberChar, toDigits_isDigit digit]
    · exact characters c other
  rw [Int.toString_eq_repr, Int.repr_eq_if]
  split
  next nonnegative =>
    have same : value.toNat = value.natAbs := by omega
    rw [Nat.toList_repr, same]
    refine ⟨natural, ?_⟩
    rw [numberValue_toDigits, unsignedNumber_toDigits _ starts read]
    have cast : ((value.natAbs : ℤ) : ℚ) = value := congrArg Int.cast (by omega)
    rw [← cast, Int.cast_natCast]
  next negative =>
    have same : (-value).toNat = value.natAbs := by omega
    rw [String.toList_append, Nat.toList_repr, same, List.append_assoc]
    refine ⟨fun c member => ?_, ?_⟩
    · rcases List.mem_cons.mp member with rfl | member
      · rfl
      · exact natural c member
    · show (unsignedNumber (Nat.toDigits 10 value.natAbs ++ exponent)).map _ = _
      rw [unsignedNumber_toDigits _ starts read]
      have cast : ((value.natAbs : ℤ) : ℚ) = -value := by
        rw [← Int.cast_neg]
        exact congrArg Int.cast (by omega)
      rw [Option.map_some, ← Int.cast_natCast, cast]
      ring_nf

end Scaled

/-- An integer. -/
theorem isNumber_integer (value : ℤ) : IsNumber (toString value).toList value := by
  have scaled : IsNumber ((toString value).toList ++ []) ((value : ℚ) * 10 ^ (0 : ℤ)) :=
    isNumber_int value nofun (List.forall_mem_nil _) rfl
  rwa [List.append_nil, zpow_zero, mul_one] at scaled

/-- A natural number. -/
theorem isNumber_natural (value : ℕ) : IsNumber (toString value).toList value :=
  isNumber_integer value

/-- A digit needs no escape, and neither does any other character of numbers. -/
theorem isNumberChar_plain {c : Char} (character : isNumberChar c = true) :
    isPlainChar c = true := by
  simp only [isNumberChar, Bool.or_eq_true, decide_eq_true_eq] at character
  rcases character with ((((digit | rfl) | rfl) | rfl) | rfl) | rfl
  · have bounds : 48 ≤ c.toNat ∧ c.toNat ≤ 57 := Char.isDigit_iff_toNat.mp digit
    have noQuote : c ≠ '"' := fun same => absurd digit (same ▸ Bool.false_ne_true)
    have noEscape : c ≠ '\\' := fun same => absurd digit (same ▸ Bool.false_ne_true)
    simp only [isPlainChar, noQuote, noEscape, ne_eq, not_false_eq_true, decide_true,
      Bool.and_self, Bool.true_and, decide_eq_true_eq]
    omega
  all_goals rfl

/-- The text of a number needs no escape. -/
theorem IsNumber.isPlain {text : List Char} {value : ℚ} (number : IsNumber text value) :
    IsPlain text :=
  List.all_eq_true.mpr fun c member => isNumberChar_plain (number.characters c member)

/-! ### Rules for values -/

section Values

variable {text : List Char} {value : Json}

/-- A text that opens a value is read with some fuel. -/
theorem Reads.of_succ {c : Char} {text : List Char} (visible : isSpace c = false)
    (bracket : c ≠ ']' ∧ c ≠ '\x7d')
    (takes : ∀ fuel rest, text.length ≤ fuel → IsDelimited rest →
      readValue (fuel + 1) (c :: (text ++ rest)) = some (value, rest)) :
    Reads (c :: text) value := by
  refine ⟨⟨c, text, rfl, visible, bracket⟩, fun fuel rest enough delimited => ?_⟩
  cases fuel with
  | zero => exact absurd enough (Nat.not_succ_le_zero _)
  | succ fuel => exact takes fuel rest (Nat.le_of_succ_le_succ enough) delimited

/-- A text that is read is the text of its value. -/
theorem Reads.parse {text : String} (reads : Reads text.toList value) :
    parse text = some value := by
  have whole := reads.takes text.toList.length [] (Nat.le_refl _) isDelimited_nil
  rw [List.append_nil] at whole
  rw [Json.parse, whole]
  rfl

theorem readString_plain (plain : IsPlain text) (rest : List Char) :
    readString (text ++ '"' :: rest) = some (text, rest) := by
  induction text with
  | nil => rfl
  | cons c text inductionHypothesis =>
    obtain ⟨first, others⟩ := Bool.and_eq_true_iff.mp plain
    simp only [isPlainChar, Bool.and_eq_true, decide_eq_true_eq] at first
    obtain ⟨⟨noQuote, noEscape⟩, noControl⟩ := first
    have allowed : ¬ (c = '\\' || c.toNat < 0x20) = true := by
      simp [noEscape, noControl]
    rw [List.cons_append, readString, if_neg allowed, inductionHypothesis others]
    · rfl
    · exact fun same => noQuote same
    · exact fun _ _ _ _ _ same => absurd same noEscape
    · exact fun _ _ same => absurd same noEscape

/-- A plain string is read. -/
theorem Reads.string {text : String} (plain : IsPlain text.toList) :
    Reads (stringText text.toList) (.string text) := by
  refine .of_succ rfl (by decide) fun fuel rest _ _ => ?_
  have characters := readString_plain plain rest
  rw [List.append_assoc, List.singleton_append, readValue, skipSpace_cons rfl]
  simp only [characters]
  show some (Json.string (String.ofList text.toList), rest) = _
  rw [String.ofList_toList]

/-- A truth value is read. -/
theorem Reads.bool (value : Bool) : Reads (toString value).toList (.bool value) := by
  cases value with
  | false =>
    refine .of_succ rfl (by decide) fun fuel rest _ _ => ?_
    rw [readValue, skipSpace_cons rfl]
    rfl
  | true =>
    refine .of_succ rfl (by decide) fun fuel rest _ _ => ?_
    rw [readValue, skipSpace_cons rfl]
    rfl

/-- A character of numbers is no other character. -/
theorem isNumberChar_ne {c d : Char} (character : isNumberChar c = true)
    (other : isNumberChar d = false) : c ≠ d := by
  rintro rfl
  rw [other] at character
  exact Bool.false_ne_true character

theorem isNumberChar_visible {c : Char} (character : isNumberChar c = true) :
    isSpace c = false := by
  have other : ∀ d, isNumberChar d = false → c ≠ d := fun _ => isNumberChar_ne character
  simp [isSpace, other ' ' rfl, other '\t' rfl, other '\n' rfl, other '\r' rfl]

/-- No word, string, array or object starts with a character of numbers. -/
theorem readValue_number {c : Char} (character : isNumberChar c = true) (fuel : ℕ)
    (rest : List Char) :
    readValue (fuel + 1) (c :: rest) =
      (numberValue ((c :: rest).span isNumberChar).1).map fun value =>
        (.number value, ((c :: rest).span isNumberChar).2) := by
  have other : ∀ {d tail others}, isNumberChar d = false → c :: tail ≠ d :: others :=
    fun no same => isNumberChar_ne character no (List.cons.inj same).1
  rw [readValue, skipSpace_cons (isNumberChar_visible character)]
  split
  next same => exact absurd same (other rfl)
  next same => exact absurd same (other rfl)
  next same => exact absurd same (other rfl)
  next =>
    unfold readScalar
    split
    next same => exact absurd same (other rfl)
    next same => exact absurd same (other rfl)
    next same => exact absurd same (other rfl)
    next => rfl

/-- A number is read. -/
theorem Reads.number {value : ℚ} (number : IsNumber text value) : Reads text (.number value) := by
  obtain ⟨characters, denotes⟩ := number
  cases text with
  | nil => cases denotes
  | cons c tail =>
    have character := characters c List.mem_cons_self
    refine .of_succ (isNumberChar_visible character)
      ⟨isNumberChar_ne character rfl, isNumberChar_ne character rfl⟩
      fun fuel rest _ delimited => ?_
    have token : (c :: tail ++ rest).span isNumberChar = (c :: tail, rest) := by
      refine span_append _ characters fun c member => ?_
      rcases delimited c member with rfl | rfl | rfl <;> rfl
    rw [List.cons_append] at token
    rw [readValue_number character, token, denotes]
    rfl

end Values

/-! ### Rules for arrays and objects -/

theorem joined_cons_cons (first second : List Char) (texts : List (List Char)) :
    joined (first :: second :: texts) = first ++ ',' :: joined (second :: texts) := by
  rw [joined, List.intercalate_cons_cons, List.append_assoc]
  rfl

theorem joined_nil : joined [] = [] := List.intercalate_nil

theorem joined_singleton (text : List Char) : joined [text] = text := List.intercalate_singleton

/-- Each of the joined texts is no longer than all together. -/
theorem length_le_joined {texts : List (List Char)} {text : List Char} (member : text ∈ texts) :
    text.length ≤ (joined texts).length := by
  induction texts with
  | nil => cases member
  | cons first texts inductionHypothesis =>
    cases texts with
    | nil => rw [List.mem_singleton.mp member, joined_singleton]
    | cons second texts =>
      rw [joined_cons_cons, List.length_append, List.length_cons]
      rcases List.mem_cons.mp member with rfl | later
      · exact Nat.le_add_right _ _
      · have shorter := inductionHypothesis later
        omega

/-- The joined texts are no more than their characters and one. -/
theorem count_le_joined (texts : List (List Char)) :
    texts.length ≤ (joined texts).length + 1 := by
  induction texts with
  | nil => exact Nat.zero_le _
  | cons first texts inductionHypothesis =>
    cases texts with
    | nil => exact Nat.le_add_left _ _
    | cons second texts =>
      have shorter : (second :: texts).length ≤ (joined (second :: texts)).length + 1 :=
        inductionHypothesis
      rw [joined_cons_cons, List.length_append, List.length_cons (a := ','),
        List.length_cons (a := first)]
      omega

section Items

variable {Item : Type} {read : Reader Item} {close : Char}

/-- A reader takes a text whatever delimiter follows. -/
def ReadsItem (read : Reader Item) (text : List Char) (item : Item) : Prop :=
  ∀ rest, IsDelimited rest → read (text ++ rest) = some (item, rest)

/-- The closing character ends the items. -/
theorem readSeparated_last {text rest : List Char} {item : Item} (fuel : ℕ)
    (closed : IsDelimited (close :: rest)) (taken : read text = some (item, close :: rest)) :
    readSeparated read close (fuel + 1) text = some ([item], rest) := by
  simp [readSeparated, taken, closed.skipSpace]

/-- A comma is followed by more items. -/
theorem readSeparated_more {text more rest : List Char} {item : Item} {items : List Item}
    {fuel : ℕ} (other : ',' ≠ close) (taken : read text = some (item, ',' :: more))
    (later : readSeparated read close fuel more = some (items, rest)) :
    readSeparated read close (fuel + 1) text = some (item :: items, rest) := by
  have comma : skipSpace (',' :: more) = ',' :: more := skipSpace_cons rfl more
  simp [readSeparated, taken, comma, other, later]

/-- Joined texts are read one by one. -/
theorem readSeparated_joined (closes : close = ']' ∨ close = '\x7d') {texts : List (List Char)}
    {items : List Item} (reads : List.Forall₂ (ReadsItem read) texts items)
    (written : texts ≠ []) {fuel : ℕ} (enough : texts.length ≤ fuel) (rest : List Char) :
    readSeparated read close fuel (joined texts ++ close :: rest) = some (items, rest) := by
  have closed : IsDelimited (close :: rest) := isDelimited_cons (Or.inr closes) rest
  have other : ',' ≠ close := by
    rcases closes with rfl | rfl <;> decide
  induction reads generalizing fuel with
  | nil => exact absurd rfl written
  | @cons text item texts items first others inductionHypothesis =>
    obtain _ | fuel := fuel
    · exact absurd enough (Nat.not_succ_le_zero _)
    cases texts with
    | nil =>
      cases others
      rw [joined_singleton]
      exact readSeparated_last fuel closed (first _ closed)
    | cons second texts =>
      have later := inductionHypothesis (List.cons_ne_nil _ _) (Nat.le_of_succ_le_succ enough)
      rw [joined_cons_cons, List.append_assoc]
      exact readSeparated_more other (first _ (isDelimited_cons (Or.inl rfl) _)) later

/-- Joined texts between brackets are read one by one. -/
theorem readItems_joined (closes : close = ']' ∨ close = '\x7d') {texts : List (List Char)}
    {items : List Item} (reads : List.Forall₂ (ReadsItem read) texts items)
    (opens : ∀ text ∈ texts, Opens text)
    {fuel : ℕ} (enough : texts.length ≤ fuel) (rest : List Char) :
    readItems read close fuel (joined texts ++ close :: rest) = some (items, rest) := by
  cases texts with
  | nil =>
    cases reads
    have closed : IsDelimited (close :: rest) := isDelimited_cons (Or.inr closes) rest
    rw [joined_nil, List.nil_append, readItems, closed.skipSpace]
    exact if_pos rfl
  | cons text texts =>
    obtain ⟨c, tail, rfl, visible, noBracket, noBrace⟩ := opens text List.mem_cons_self
    have other : c ≠ close := by
      rcases closes with rfl | rfl
      · exact noBracket
      · exact noBrace
    have separated := readSeparated_joined closes reads (List.cons_ne_nil _ _) enough rest
    obtain ⟨others, front⟩ : ∃ others, joined ((c :: tail) :: texts) = c :: others := by
      cases texts with
      | nil => exact ⟨tail, joined_singleton _⟩
      | cons second texts => exact ⟨_, joined_cons_cons _ second texts⟩
    rw [front, List.cons_append] at separated ⊢
    rw [readItems, skipSpace_cons visible]
    exact (if_neg other).trans separated

end Items

/-- An array of values that are read is read. -/
theorem Reads.array {texts : List (List Char)} {elements : List Json}
    (reads : List.Forall₂ Reads texts elements) : Reads (arrayText texts) (.array elements) := by
  have opens : ∀ text ∈ texts, Opens text :=
    ((List.forall₂_and_left texts elements).mp
      (reads.imp fun _ _ element => ⟨element.opens, element⟩)).1
  refine .of_succ rfl (by decide) fun fuel rest enough _ => ?_
  rw [List.length_append, List.length_singleton] at enough
  have count := count_le_joined texts
  have shorter : ∀ text ∈ texts, text.length ≤ fuel := by
    intro text member
    have bound := length_le_joined member
    omega
  have items : List.Forall₂ (ReadsItem (readValue fuel)) texts elements :=
    ((List.forall₂_and_left texts elements).mpr ⟨shorter, reads⟩).imp
      fun _ _ element rest => element.2.takes fuel rest element.1
  have taken : readItems (readValue fuel) ']' fuel (joined texts ++ ']' :: rest) =
      some (elements, rest) :=
    readItems_joined (Or.inl rfl) items opens (by omega) rest
  rw [List.append_assoc, List.singleton_append, readValue, skipSpace_cons rfl]
  simp only [taken]
  rfl

theorem memberText_append (name : String) (text rest : List Char) :
    memberText (name, text) ++ rest = '"' :: (name.toList ++ '"' :: ':' :: (text ++ rest)) := by
  simp

/-- The text of a member is read. -/
theorem ReadsMember.takes {member : String × List Char} {value : String × Json}
    (reads : ReadsMember member value) {fuel : ℕ}
    (enough : (memberText member).length ≤ fuel) :
    ReadsItem (readMember (readValue fuel)) (memberText member) value := by
  intro rest delimited
  obtain ⟨name, text⟩ := member
  obtain ⟨_, json⟩ := value
  obtain ⟨rfl, plain, reads⟩ := reads
  have characters := readString_plain plain (':' :: (text ++ rest))
  have short : text.length ≤ fuel := by
    have written := congrArg List.length (memberText_append name text [])
    simp only [List.append_nil, List.length_append, List.length_cons] at written
    omega
  have taken : readValue fuel (text ++ rest) = some (json, rest) :=
    reads.takes fuel rest short delimited
  have colon : skipSpace (':' :: (text ++ rest)) = ':' :: (text ++ rest) := skipSpace_cons rfl _
  rw [memberText_append, readMember, skipSpace_cons rfl]
  simp [characters, colon, taken]

/-- An object of members that are read is read. -/
theorem Reads.object {members : List (String × List Char)} {values : List (String × Json)}
    (reads : List.Forall₂ ReadsMember members values) :
    Reads (objectText members) (.object values) := by
  have opens : ∀ text ∈ members.map memberText, Opens text := by
    intro text listed
    obtain ⟨member, -, rfl⟩ := List.mem_map.mp listed
    exact ⟨'"', _, rfl, rfl, by decide⟩
  refine .of_succ rfl (by decide) fun fuel rest enough _ => ?_
  rw [List.length_append, List.length_singleton] at enough
  have count := count_le_joined (members.map memberText)
  have shorter : ∀ member ∈ members, (memberText member).length ≤ fuel := by
    intro member listed
    have bound := length_le_joined (List.mem_map_of_mem (f := memberText) listed)
    omega
  have items : List.Forall₂ (ReadsItem (readMember (readValue fuel))) (members.map memberText)
      values :=
    List.forall₂_map_left_iff.mpr
      (((List.forall₂_and_left members values).mpr ⟨shorter, reads⟩).imp
        fun _ _ member => member.2.takes member.1)
  have taken : readItems (readMember (readValue fuel)) '\x7d' fuel
      (joined (members.map memberText) ++ '\x7d' :: rest) = some (values, rest) :=
    readItems_joined (Or.inr rfl) items opens (by omega) rest
  rw [List.append_assoc, List.singleton_append, readValue, skipSpace_cons rfl]
  simp only [taken]
  rfl

end Json

end GateFutures.Library
