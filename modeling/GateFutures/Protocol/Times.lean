/-
This file models how the durations of the exchange's messages are decoded, and proves which
instants decode to what the exchange wrote.

One function per unit decodes every shape a duration has on the wire. A number with a fraction
counts seconds. A number without one counts the unit of the field. The exchange writes an instant
as a number of seconds, whichever shape that gives.
-/

import GateFutures.Library.Decimals
import Mathlib.Algebra.Order.Ring.Int
import Mathlib.Tactic.Linarith

namespace GateFutures.Protocol

open Library Library.Json

/-! ### Decoding -/

/-- `core::json::Value`, with exact numbers. -/
inductive Value
  | null
  | bool (value : Bool)
  | int64 (value : BitVec 64)
  | double (value : ℚ)
  | string (text : String)
  | object
  | array

/-- `std::bad_cast`, or an exception of a parser of texts. -/
inductive BadCast
  | badCast | badText
  deriving DecidableEq

/-- The host's parsers of texts, `utils::charconv::from_chars`. -/
structure Charconv where
  milliseconds : String → Except BadCast (BitVec 64)
  double : String → Except BadCast ℚ

/-- `static_cast<int64_t>` of a `double`: its fraction is dropped. -/
def toInt64 (value : ℚ) : BitVec 64 := .ofInt 64 (value.num.tdiv value.den)

/-- What the functions `update` of durations share. They differ in how many units make a second,
and in how a text is parsed. -/
def updateDuration (unitsPerSecond : ℚ) (fromChars : String → Except BadCast (BitVec 64)) :
    Value → Except BadCast (BitVec 64)
  | .null => .ok 0
  | .bool _ => .error .badCast
  | .int64 value => .ok value
  | .double value => .ok (toInt64 (value * unitsPerSecond))
  | .string text => fromChars text
  | .object => .error .badCast
  | .array => .error .badCast

/-- `update<std::chrono::milliseconds>`. -/
def updateMilliseconds (charconv : Charconv) : Value → Except BadCast (BitVec 64) :=
  updateDuration (10 ^ 3) charconv.milliseconds

/-- `update<std::chrono::microseconds>`. -/
def updateMicroseconds (charconv : Charconv) : Value → Except BadCast (BitVec 64) :=
  updateDuration (10 ^ 6) fun text => do
    let seconds ← charconv.double text
    return toInt64 (seconds * 10 ^ 6)

/-- The fields with an instant that the exchange writes as a number of seconds: the times of an
order in the order results, those of `OrderBookAck`, and the time of a trade in `UserTradesItem`. -/
inductive SecondsField
  | createTime | updateTime | finishTime
  | current | update
  | userTradesCreateTime

/-- How many decimals of a second the declared duration has. -/
def SecondsField.decimals : SecondsField → ℕ
  | createTime | updateTime | finishTime | current | update => 3
  | userTradesCreateTime => 6

/-- The decoder of the declared duration. -/
def SecondsField.decode (charconv : Charconv) : SecondsField → Value → Except BadCast (BitVec 64)
  | createTime | updateTime | finishTime | current | update => updateMilliseconds charconv
  | userTradesCreateTime => updateMicroseconds charconv

theorem SecondsField.decimals_pos (field : SecondsField) : 0 < field.decimals := by
  cases field <;> decide

/-- The units of the decoder are the decimals of the duration. -/
theorem SecondsField.decode_eq (charconv : Charconv) (field : SecondsField) :
    ∃ fromChars, field.decode charconv = updateDuration (10 ^ field.decimals) fromChars := by
  cases field <;> exact ⟨_, rfl⟩

/-! ### Numbers on the wire -/

/-- How the JSON reader delivers the text of a number: without fraction and exponent as an
`int64_t`, and otherwise as a `double`. -/
def readNumber (text : List Char) : Option Value :=
  (numberValue text).map fun value =>
    if HasFraction text then .double value else .int64 (.ofInt 64 value.num)

/-- The text of a number is decoded to an instant. -/
def Decodes (update : Value → Except BadCast (BitVec 64)) (text : List Char)
    (instant : BitVec 64) : Prop :=
  ∃ value, readNumber text = some value ∧ update value = .ok instant

theorem decodes_of_read {update : Value → Except BadCast (BitVec 64)} {text : List Char}
    {value : Value} (read : readNumber text = some value) (instant : BitVec 64) :
    Decodes update text instant ↔ update value = .ok instant := by
  constructor
  · rintro ⟨other, same, decoded⟩
    cases read.symm.trans same
    exact decoded
  · exact fun decoded => ⟨value, read, decoded⟩

/-- A whole number of seconds is read as an integer. -/
theorem readNumber_seconds (decimals : ℕ) (seconds : ℤ) :
    readNumber (decimalText decimals (10 ^ decimals * seconds)) =
      some (.int64 (.ofInt 64 seconds)) := by
  have power : (10 : ℚ) ^ decimals ≠ 0 := pow_ne_zero _ (by norm_num)
  have whole : ¬ HasFraction (decimalText decimals (10 ^ decimals * seconds)) := fun fraction =>
    (hasFraction_decimalText _ _).mp fraction ⟨seconds, rfl⟩
  have value : (((10 ^ decimals * seconds : ℤ) : ℚ) / 10 ^ decimals) = (seconds : ℚ) := by
    rw [Int.cast_mul, Int.cast_pow]
    exact mul_div_cancel_left₀ _ power
  unfold readNumber
  rw [numberValue_decimalText, Option.map_some, if_neg whole, value, Rat.num_intCast]

/-- Any other instant is read as a number with a fraction. -/
theorem readNumber_fraction {decimals : ℕ} {units : ℤ} (part : ¬ (10 ^ decimals : ℤ) ∣ units) :
    readNumber (decimalText decimals units) = some (.double ((units : ℚ) / 10 ^ decimals)) := by
  have fraction := (hasFraction_decimalText decimals units).mpr part
  unfold readNumber
  rw [numberValue_decimalText, Option.map_some, if_pos fraction]

theorem toInt64_intCast (units : ℤ) : toInt64 units = .ofInt 64 units := by
  unfold toInt64
  rw [Rat.num_intCast, Rat.den_intCast, Nat.cast_one, Int.tdiv_one]

/-- The number of seconds of an instant is the instant only at zero. -/
theorem ofInt_seconds {decimals : ℕ} (fractional : 0 < decimals) {instant : BitVec 64}
    {seconds : ℤ} (same : instant.toInt = 10 ^ decimals * seconds) :
    BitVec.ofInt 64 seconds = instant ↔ instant = 0 := by
  have large : (10 : ℤ) ≤ 10 ^ decimals :=
    calc (10 : ℤ) = 10 ^ 1 := (pow_one 10).symm
      _ ≤ 10 ^ decimals := pow_le_pow_right₀ (by decide) fractional
  have lower : -2 ^ 63 ≤ seconds := by
    have bound : -2 ^ 63 ≤ instant.toInt := BitVec.le_toInt instant
    rcases le_total 0 seconds with positive | negative <;> nlinarith
  have upper : seconds < 2 ^ 63 := by
    have bound : instant.toInt < 2 ^ 63 := BitVec.toInt_lt
    rcases le_total 0 seconds with positive | negative <;> nlinarith
  have read : (BitVec.ofInt 64 seconds).toInt = seconds :=
    BitVec.toInt_ofInt_eq_self (by decide) lower upper
  constructor
  · rintro rfl
    rw [read] at same
    have zero : seconds = 0 := by
      rcases lt_trichotomy 0 seconds with positive | zero | negative
      · nlinarith
      · exact zero.symm
      · nlinarith
    rw [zero]
    rfl
  · rintro rfl
    have zero : seconds = 0 :=
      (mul_eq_zero.mp same.symm).resolve_left (pow_ne_zero _ (by norm_num))
    rw [zero]
    rfl

/-- An instant counted in units is written as a number of seconds. It is decoded to itself
exactly if it is no whole second, or zero. -/
theorem decodes_iff {decimals : ℕ} (fractional : 0 < decimals)
    (fromChars : String → Except BadCast (BitVec 64)) (instant : BitVec 64) :
    Decodes (updateDuration (10 ^ decimals) fromChars) (decimalText decimals instant.toInt)
        instant ↔
      ¬ (10 ^ decimals : ℤ) ∣ instant.toInt ∨ instant = 0 := by
  by_cases whole : (10 ^ decimals : ℤ) ∣ instant.toInt
  · obtain ⟨seconds, same⟩ := whole
    have decoded : Decodes (updateDuration (10 ^ decimals) fromChars)
        (decimalText decimals instant.toInt) instant ↔ BitVec.ofInt 64 seconds = instant := by
      rw [same, decodes_of_read (readNumber_seconds decimals seconds)]
      exact ⟨Except.ok.inj, congrArg _⟩
    have divides : (10 ^ decimals : ℤ) ∣ instant.toInt := ⟨seconds, same⟩
    rw [decoded, ofInt_seconds fractional same]
    exact (or_iff_right (not_not_intro divides)).symm
  · refine iff_of_true ?_ (Or.inl whole)
    rw [decodes_of_read (readNumber_fraction whole)]
    have power : (10 : ℚ) ^ decimals ≠ 0 := pow_ne_zero _ (by norm_num)
    show Except.ok (toInt64 ((instant.toInt : ℚ) / 10 ^ decimals * 10 ^ decimals)) = _
    rw [div_mul_cancel₀ _ power, toInt64_intCast, BitVec.ofInt_toInt]

/-! ### Instants -/

/-- An instant is written as a number of seconds with the decimals of its field, in the shortest
form. The field is decoded to that instant exactly if the instant is no whole second, or the
epoch. -/
theorem instants_decode_iff (charconv : Charconv) (field : SecondsField) (instant : BitVec 64) :
    Decodes (field.decode charconv) (decimalText field.decimals instant.toInt) instant ↔
      ¬ (10 ^ field.decimals : ℤ) ∣ instant.toInt ∨ instant = 0 := by
  obtain ⟨fromChars, same⟩ := field.decode_eq charconv
  rw [same]
  exact decodes_iff field.decimals_pos fromChars instant

/-- A host that parses no text. -/
def noTexts : Charconv where
  milliseconds _ := .error .badText
  double _ := .error .badText

/-- The order that is created on a whole second is decoded to an instant in January 1970. -/
theorem whole_second_misread :
    ¬ ∀ (charconv : Charconv) (field : SecondsField) (instant : BitVec 64),
      Decodes (field.decode charconv) (decimalText field.decimals instant.toInt) instant := by
  intro decodes
  have decoded := (decodes_iff (by decide) _ 1727232753000#64).mp (decodes noTexts .createTime _)
  revert decoded
  decide

end GateFutures.Protocol
