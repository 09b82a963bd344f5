import FrameBus.Frame.Bytes
import FrameBus.Numeral
import FrameBus.Text.Blank
import FrameBus.Text.Split
import FrameBus.Text.Utf8

/-!
# Event ids and payloads as a probe shows them

A payload that is a text without control characters, line feeds apart, is shown between quotes; any
other by its first 64 bytes in hexadecimal. The first 8 bytes of a ping tell its number.
-/

namespace FrameBus.Probe

/-! ## Event ids -/

/-- An event id that cannot be read; the text is without the blanks around it. -/
structure EventIdError where
  text : String
  reason : NumeralError
deriving DecidableEq, Repr

def EventIdError.message (e : EventIdError) : String :=
  "Invalid event id '" ++ e.text ++ "': " ++ e.reason.message

/-- An event id in decimal, or in hexadecimal behind `0x`. -/
def readEventId (s : String) : Except EventIdError UInt32 :=
  let cs := Text.trim s.toList
  let value :=
    match (Text.after? ['0', 'x'] cs).or (Text.after? ['0', 'X'] cs) with
    | some digits => Numeral.read 16 0xFFFFFFFF digits
    | none => Numeral.read 10 0xFFFFFFFF cs
  match value with
  | .ok n => .ok (UInt32.ofNat n)
  | .error reason => .error ⟨String.ofList cs, reason⟩

/-! ## Payloads -/

/-- The number of a ping, the low byte first. -/
def readSequence (payload : List UInt8) : Option Nat :=
  if payload.length < 8 then none else some (Bytes.ofLittle (payload.take 8))

def isControl (c : Char) : Bool :=
  decide (c.toNat < 0x20) || (decide (0x7F ≤ c.toNat) && decide (c.toNat < 0xA0))

/-- A character that a payload shown as text may hold. -/
def isShown (c : Char) : Bool := !isControl c || c == '\n'

/-- The bytes of a payload that are shown in hexadecimal. -/
def shownBytes : Nat := 64

def renderHex (payload : List UInt8) : List Char :=
  [' '].intercalate ((payload.take shownBytes).map fun b => Numeral.hexBytes [b])

def renderPayload (payload : List UInt8) : List Char :=
  match Text.Utf8.decode? payload with
  | some cs => if cs.all isShown then '"' :: cs ++ ['"'] else renderHex payload
  | none => renderHex payload

end FrameBus.Probe
