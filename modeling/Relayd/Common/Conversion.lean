import Mathlib.Data.Rat.Floor

/-!
# Conversions of contract values

`conversion.ts`: what a contract answers are integers of the package ethers; a
conversion makes JavaScript numbers and texts of them. How the language and the
package convert is a `Js`, of which `Js.Exact` says what is relied on.
-/

namespace Relayd.Common
set_option autoImplicit false

/-- A value of JavaScript: a number is `none` when it is `NaN`, `big` is an integer of ethers. -/
inductive JsValue
  | undefined
  | number (n : Option Rat)
  | text (s : String)
  | big (n : Int)
  deriving DecidableEq

/-- The conversions of the language and of ethers. -/
structure Js where
  /-- The number that a text stands for -/
  number : String → Option Rat
  /-- The number next to an exact result -/
  nearest : Rat → Rat
  formatUnits : JsValue → Nat → Except String String
  commify : JsValue → Except String String
  /-- `toISOString` of a date, in milliseconds -/
  isoDate : Int → String
  /-- `toUTCString` of a date, in milliseconds -/
  utcDate : Int → String
  /-- `new Date(text).valueOf()` -/
  parseDate : String → Option Int
  /-- A value as string concatenation renders it -/
  render : JsValue → String

inductive ValueTypeDate
  | DATE_EPOCH_MS
  | DATE_ISO
  | DATE_UTC
  | DATE_RAW
  deriving DecidableEq

structure ConversionConfig where
  decimals : Option Nat := none
  divider : Option Rat := none
  commify : Bool := false
  date : Option ValueTypeDate := none

inductive ValueType
  | PRICE
  | DATE
  | NUMBER

/-- An integer of ethers as a number, when it is not too large for one. -/
def toNumber : JsValue → Except String JsValue
  | .big n =>
    if n.natAbs < 2 ^ 53 then .ok (.number (some n))
    else .error ("Error: overflow (operation=\"toNumber\", value=\"" ++ toString n ++ "\")")
  | .undefined => .error "TypeError: Cannot read property 'toNumber' of undefined"
  | _ => .error "TypeError: toNumber is not a function"

/-- `value?.toNumber()` -/
def optionalToNumber : JsValue → Except String JsValue
  | .undefined => .ok .undefined
  | value => toNumber value

namespace Js
variable (js : Js)

/-- The number that a value is converted to. -/
def toNumeric : JsValue → Option Rat
  | .undefined => none
  | .number n => n
  | .text s => js.number s
  | .big n => js.number (toString n)

/-- The date at a time in milliseconds, if there is one. -/
def dateOf (timeMs : Option Rat) : Option Int :=
  (timeMs.filter fun ms => |ms| ≤ 8640000000000000).map fun ms => ms.num.tdiv ms.den

/-- The number at the end of a conversion. Only a value that is a number already is divided. -/
def divided (divider : Option Rat) (result : JsValue) : JsValue :=
  match result, divider with
  | .number (some n), some divider => .number (some (if divider = 0 then n else js.nearest (n / divider)))
  | result, _ => .number (js.toNumeric result)

def convertValue (value : JsValue) (type : ValueType) (converter : ConversionConfig) : Except String JsValue :=
  match type with
  | .DATE =>
    -- the contracts give their times in seconds
    let timeMs := (js.toNumeric value).map fun seconds => js.nearest (seconds * 1000)
    match converter.date.getD .DATE_ISO with
    | .DATE_EPOCH_MS => .ok (.number timeMs)
    | .DATE_ISO =>
      match dateOf timeMs with
      | some date => .ok (.text (js.isoDate date))
      | none => .error "RangeError: Invalid time value"
    | .DATE_UTC => .ok (.text ((dateOf timeMs).elim "Invalid Date" js.utcDate))
    | .DATE_RAW => .ok (.number (js.toNumeric value))
  | .PRICE => do
    let result ←
      match converter.decimals.filter fun decimals => 0 < decimals with
      | some decimals => (js.formatUnits value decimals).map JsValue.text
      | none => .ok value
    if converter.commify then (js.commify result).map JsValue.text else .ok (js.divided converter.divider result)
  | .NUMBER =>
    if converter.commify then (js.commify value).map JsValue.text else .ok (js.divided converter.divider value)

/-- The conversions are exact for an integer that is safe as a number, and its price in the decimals is a number with
its sign. A number is refused by `formatUnits` from the largest safe one on. -/
structure Exact (decimals : Nat) (n : Int) : Prop where
  number : n.natAbs < 2 ^ 53 → js.number (toString n) = some (n : Rat)
  nearest : n.natAbs < 2 ^ 53 → js.nearest n = n
  formatUnits : ∃ text, js.formatUnits (.big n) decimals = .ok text ∧
    (n.natAbs < 2 ^ 53 - 1 → js.formatUnits (.number (some n)) decimals = .ok text) ∧
    ∃ price, js.number text = some price ∧ (0 < price ↔ 0 < n)
  overflow : 2 ^ 53 - 1 ≤ n.natAbs → ∃ error, js.formatUnits (.number (some n)) decimals = .error error

variable {js} {decimals : Nat} {n : Int}

/-- A price is the number of the text that its units are formatted as. -/
theorem convertValue_price (positive : 0 < decimals) {value : JsValue} {text : String}
    (formatted : js.formatUnits value decimals = .ok text) :
    js.convertValue value .PRICE { decimals := some decimals } = .ok (.number (js.number text)) := by
  have given : (some decimals).filter (fun decimals => decide (0 < decimals)) = some decimals :=
    Option.filter_eq_some_iff.2 ⟨rfl, decide_eq_true positive⟩
  simp only [convertValue, given, formatted, Except.map, bind, Except.bind, Bool.false_eq_true, ↓reduceIte, divided, toNumeric]

/-- There is no price of what cannot be formatted. -/
theorem convertValue_price_error (positive : 0 < decimals) {value : JsValue} {error : String}
    (failed : js.formatUnits value decimals = .error error) :
    js.convertValue value .PRICE { decimals := some decimals } = .error error := by
  have given : (some decimals).filter (fun decimals => decide (0 < decimals)) = some decimals :=
    Option.filter_eq_some_iff.2 ⟨rfl, decide_eq_true positive⟩
  simp only [convertValue, given, failed, Except.map, bind, Except.bind]

theorem convertValue_number (text : String) (decimals : Option Nat) :
    js.convertValue (.text text) .NUMBER { decimals := decimals } = .ok (.number (js.number text)) := rfl

/-- The date at a whole number of milliseconds. -/
theorem dateOf_int {ms : Int} (isDate : ms.natAbs ≤ 8640000000000000) : dateOf (some (ms : Rat)) = some ms := by
  have bounded : |(ms : Rat)| ≤ 8640000000000000 := by
    rw [← Int.cast_abs, Int.abs_eq_natAbs]
    exact_mod_cast isDate
  have given : (some (ms : Rat)).filter (fun ms => decide (|ms| ≤ 8640000000000000)) = some (ms : Rat) :=
    Option.filter_eq_some_iff.2 ⟨rfl, decide_eq_true bounded⟩
  rw [dateOf, given, Option.map_some, Rat.num_intCast, Rat.den_intCast, Nat.cast_one, Int.tdiv_one]

/-- A time in seconds that is a date. -/
theorem convertValue_date {value : JsValue} {seconds : Int} (isNumber : js.toNumeric value = some (seconds : Rat))
    (exact : js.Exact decimals (seconds * 1000)) (isDate : seconds.natAbs ≤ 8640000000000) {converter : ConversionConfig}
    (iso : converter.date = none) :
    js.convertValue value .DATE converter = .ok (.text (js.isoDate (seconds * 1000))) := by
  have milliseconds : (seconds * 1000).natAbs ≤ 8640000000000000 := by omega
  have safe : (seconds * 1000).natAbs < 2 ^ 53 := by omega
  have timeMs : js.nearest ((seconds : Rat) * 1000) = ((seconds * 1000 : Int) : Rat) := by
    rw [← exact.nearest safe, Int.cast_mul]
    rfl
  simp only [convertValue, isNumber, Option.map_some, timeMs, iso, Option.getD_none, dateOf_int milliseconds]

end Js

end Relayd.Common
