import Provenance.Error
import Provenance.Decimal.Text
import Provenance.Text.Quoted
import Provenance.Text.Truncate
import Provenance.Time.Text
import Provenance.Time.Zone

/-!
The values that statements take as parameters and return in columns, and what a column must hold to
be read as a number, an id, a text or a time.
-/

set_option autoImplicit false
set_option relaxedAutoImplicit false

namespace Provenance

/-- Bytes that are the UTF-8 form of no text. -/
structure Garbled where
  bytes : List UInt8
  isNoText : (ByteArray.mk bytes.toArray).validateUTF8 = false
deriving DecidableEq, Repr

/-- An integer is one of 64 bits with a sign. -/
inductive Value where
  | null
  | int (value : Int)
  | real (value : Binary64)
  | text (value : String)
  | timestamp (value : DateTime)
  | blob (bytes : List UInt8)
  /-- A text that somebody else has put into a store in another form than UTF-8. No statement takes
  one, and none gives one out. -/
  | garbled (value : Garbled)
deriving DecidableEq, Repr

/-- The columns of one result row. -/
abbrev Row := List Value

/-- How columns are read: texts are cut to `limit` bytes, and times are those of `zone`. -/
structure Reader where
  limit : Nat
  zone : Zone
deriving DecidableEq, Repr

namespace Value

def isNull : Value → Bool
  | null => true
  | _ => false

theorem eq_null_of_isNull {value : Value} (h : value.isNull = true) : value = null := by
  cases value <;> first
    | rfl
    | cases h

def isGarbled : Value → Bool
  | garbled _ => true
  | _ => false

@[simp] theorem isGarbled_null : null.isGarbled = false := rfl

@[simp] theorem isGarbled_int (value : Int) : (int value).isGarbled = false := rfl

@[simp] theorem isGarbled_text (value : String) : (text value).isGarbled = false := rfl

def asInt : Value → Option Int
  | int value => some value
  | _ => none

def asText : Value → Option String
  | text value => some value
  | _ => none

def asReal : Value → Option Binary64
  | real value => some value
  | _ => none

/-- A time, held as such or written as text. -/
def asTimestamp : Value → Option DateTime
  | timestamp value => some value
  | text value => DateTime.ofText? value
  | _ => none

/-- Bytes inside a message. -/
def bytesDebug (bytes : List UInt8) : String :=
  "[" ++ ", ".intercalate (bytes.map fun byte ↦ toString byte.toNat) ++ "]"

/-- The value inside a message. -/
def debug : Value → String
  | null => "Null"
  | int value => s!"Int({value})"
  | real value => "Float(" ++ value.text ++ ")"
  | text value => "Text(" ++ Text.quoted value ++ ")"
  | timestamp value => "Timestamp(" ++ value.debugText ++ ")"
  | blob bytes => "Blob(" ++ bytesDebug bytes ++ ")"
  | garbled value => "Garbled(" ++ bytesDebug value.bytes ++ ")"

/-- The error for a column that holds something else than what was asked for. -/
def mismatch (expected : String) (value : Value) : Error :=
  .invalidType ("expected " ++ expected ++ ", got " ++ value.debug)

def toInt (value : Value) : Except Error Int :=
  match value.asInt with
  | some i => .ok i
  | none => .error (mismatch "integer" value)

/-- An id is an integer that is not negative. -/
def toId (value : Value) : Except Error Nat :=
  match value.asInt with
  | some i => if 0 ≤ i then .ok i.toNat else .error (mismatch "non-negative integer" value)
  | none => .error (mismatch "non-negative integer" value)

def toText (reader : Reader) (value : Value) : Except Error String :=
  match value.asText with
  | some s => .ok (Text.truncate reader.limit s)
  | none => .error (mismatch "text" value)

/-- Seconds since the epoch: a local time, or an integer as it is. On a local time without an
instant the program panics (`Error.calendarUnderflow`). -/
def toEpoch (reader : Reader) (value : Value) : Except Error Int :=
  match value.asTimestamp with
  | some t =>
    match reader.zone.toEpoch t with
    | some epoch => .ok epoch
    | none => .error .calendarUnderflow
  | none =>
    match value.asInt with
    | some i => .ok i
    | none => .error (mismatch "timestamp" value)

/-- The form in which a value reaches a store: times are written out in whole seconds. -/
def bound : Value → Value
  | timestamp t => text t.boundText
  | value => value

end Value

end Provenance
