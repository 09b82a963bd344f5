import FrameBus.Numeral
import FrameBus.PortId.Basic
import FrameBus.Text.Blank
import FrameBus.Text.Split

/-!
# Port ids as text

An id is written `x.y.z`. It is read from that form, from `0x` and hexadecimal digits, from a
plain decimal number, or from the word `broadcast` in any case; blanks around it are skipped. Error
texts quote the trimmed text.
-/

namespace FrameBus.PortId

/-! ## Algorithm -/

inductive ReadError where
  /-- a hexadecimal or decimal form that is no number of 16 bits -/
  | number (text : String) (reason : NumeralError)
  | domain (text : String)
  | channel (text : String)
  | role (text : String)
  | domainRange (text : String)
  | roleRange (text : String)
  /-- neither one nor three parts -/
  | shape (text : String)
deriving DecidableEq, Repr

def ReadError.message : ReadError → String
  | .number text reason => "Invalid port id '" ++ text ++ "': " ++ reason.message
  | .domain text => "Invalid domain in '" ++ text ++ "'"
  | .channel text => "Invalid channel in '" ++ text ++ "'"
  | .role text => "Invalid role in '" ++ text ++ "'"
  | .domainRange text => "Domain must be 0 or 1 in '" ++ text ++ "'"
  | .roleRange text => "Role must be at most 127 in '" ++ text ++ "'"
  | .shape text => "Invalid port id '" ++ text ++ "' (expected x.y.z)"

/-- The digits after `0x` or `0X`. -/
def hexDigits? (cs : List Char) : Option (List Char) :=
  (Text.after? ['0', 'x'] cs).or (Text.after? ['0', 'X'] cs)

/-- An id from the value of its raw number. -/
def ofNumber (text : String) : Except NumeralError Nat → Except ReadError PortId
  | .ok n => .ok ⟨UInt16.ofNat n⟩
  | .error e => .error (.number text e)

/-- An id from its three parts; syntax is judged from left to right before the ranges. -/
def readParts (text : String) (x y z : List Char) : Except ReadError PortId :=
  match Numeral.read 10 255 x with
  | .error _ => .error (.domain text)
  | .ok d =>
    match Numeral.read 10 255 y with
    | .error _ => .error (.channel text)
    | .ok c =>
      match Numeral.read 10 255 z with
      | .error _ => .error (.role text)
      | .ok r =>
        if 1 < d then .error (.domainRange text)
        else if 127 < r then .error (.roleRange text)
        else .ok (ofParts d c r)

/-- Reads a text that has no blanks around it. -/
def readTrimmed (cs : List Char) : Except ReadError PortId :=
  let text := String.ofList cs
  if Text.sameLetters cs "broadcast".toList then .ok broadcast
  else
    match hexDigits? cs with
    | some digits => ofNumber text (Numeral.read 16 65535 digits)
    | none =>
      match Text.splitAt '.' cs with
      | [raw] => ofNumber text (Numeral.read 10 65535 raw)
      | [x, y, z] => readParts text x y z
      | _ => .error (.shape text)

def read (cs : List Char) : Except ReadError PortId := readTrimmed (Text.trim cs)

/-- The id as `x.y.z`. -/
def render (id : PortId) : String :=
  Numeral.decimal id.domain ++ "." ++ Numeral.decimal id.channel ++ "." ++ Numeral.decimal id.role

/-- The id in both of its forms, for diagnostic texts. -/
def inspect (id : PortId) : String :=
  "PortId(" ++ id.render ++ " = 0x" ++ Numeral.hex 4 id.raw.toNat ++ ")"

end FrameBus.PortId
