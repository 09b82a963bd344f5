import FrameBus.Numeral
import FrameBus.Value.Basic

/-!
# Values as JSON

Reading and writing values as JSON. A number with a fraction or an exponent, or one beyond the
64-bit integers, is a `float`; every other number is an `int`. Tables come out sorted by name. The
writer answers ASCII without blanks.
-/

namespace FrameBus.Value.Json

/-! ## Reading -/

def isSpace (c : Char) : Bool := c == ' ' || c == '\t' || c == '\n' || c == '\r'

def skip (cs : List Char) : List Char := cs.dropWhile isSpace

/-- Four hexadecimal digits. -/
def readUnit? : List Char → Option (Nat × List Char)
  | a :: b :: c :: d :: rest =>
    match Numeral.readDigits 16 0xFFFF 0 [a, b, c, d] with
    | .ok n => some (n, rest)
    | .error _ => none
  | _ => none

/-- A character from one code unit, or from two that form a surrogate pair. -/
def readUnits? (cs : List Char) : Option (Char × List Char) := do
  let (u, rest) ← readUnit? cs
  if 0xD800 ≤ u ∧ u < 0xDC00 then
    match rest with
    | '\\' :: 'u' :: rest =>
      let (v, rest) ← readUnit? rest
      if 0xDC00 ≤ v ∧ v < 0xE000 then
        return (Char.ofNat (0x10000 + (u - 0xD800) * 0x400 + (v - 0xDC00)), rest)
      else none
    | _ => none
  else if 0xDC00 ≤ u ∧ u < 0xE000 then none
  else return (Char.ofNat u, rest)

def escaped? : Char → Option Char
  | '"' => some '"'
  | '\\' => some '\\'
  | '/' => some '/'
  | 'b' => some '\x08'
  | 'f' => some '\x0c'
  | 'n' => some '\n'
  | 'r' => some '\r'
  | 't' => some '\t'
  | _ => none

/-- The characters up to the closing quote; `done` holds those before, the last one first. -/
def readText? : (fuel : Nat) → (done : List Char) → List Char → Option (String × List Char)
  | 0, _, _ => none
  | _ + 1, _, [] => none
  | _ + 1, done, '"' :: rest => some (String.ofList done.reverse, rest)
  | fuel + 1, done, '\\' :: 'u' :: rest =>
    match readUnits? rest with
    | some (c, rest) => readText? fuel (c :: done) rest
    | none => none
  | fuel + 1, done, '\\' :: c :: rest =>
    match escaped? c with
    | some c => readText? fuel (c :: done) rest
    | none => none
  | _ + 1, _, ['\\'] => none
  | fuel + 1, done, c :: rest => if c.toNat < 0x20 then none else readText? fuel (c :: done) rest

/-- `significand * 10 ^ exponent`, by one multiplication or division with a power of ten. -/
def scale (significand : Nat) (exponent : Int) : Float :=
  let f := Float.ofNat significand
  if 0 ≤ exponent then f * Float.ofScientific 1 false exponent.toNat
  else if -308 ≤ exponent then f / Float.ofScientific 1 false (-exponent).toNat
  else f / Float.ofScientific 1 false 308 / Float.ofScientific 1 false (-exponent - 308).toNat

def digit (c : Char) : Nat := c.toNat - '0'.toNat

/-- A significand with one more digit, if that fits into 64 bits. -/
def extend? (n : Nat) (c : Char) : Option Nat :=
  if n * 10 + digit c < 0x10000000000000000 then some (n * 10 + digit c) else none

/-- The significand of the digits before the point, and the count of those that it cannot take: all
from the first one that does not fit. -/
def significand : (n : Nat) → List Char → Nat × Nat
  | n, [] => (n, 0)
  | n, c :: cs =>
    match extend? n c with
    | some n => significand n cs
    | none => (n, cs.length + 1)

/-- The same for the digits behind the point, with the count of those that it takes. -/
def fraction : (n taken : Nat) → List Char → Nat × Nat
  | n, taken, [] => (n, taken)
  | n, taken, c :: cs =>
    match extend? n c with
    | some n => fraction n (taken + 1) cs
    | none => (n, taken)

def float (negative : Bool) (f : Float) : Value :=
  .float (if negative then -f else f).toBits

def readExponent? (cs : List Char) : Option (Int × List Char) :=
  let (negative, cs) :=
    match cs with
    | '-' :: cs => (true, cs)
    | '+' :: cs => (false, cs)
    | cs => (false, cs)
  match cs.span Char.isDigit with
  | ([], _) => none
  | (ds, rest) =>
    let n := ds.foldl (fun n c => n * 10 + digit c) 0
    some (if negative then -(n : Int) else n, rest)

def readNumber? (cs : List Char) : Option (Value × List Char) := do
  let (negative, cs) := match cs with | '-' :: cs => (true, cs) | cs => (false, cs)
  let (whole, rest) := cs.span Char.isDigit
  if whole.isEmpty then none
  let (places, rest, fractional) ← match rest with
    | '.' :: rest =>
      let (ds, rest) := rest.span Char.isDigit
      if ds.isEmpty then none else some (ds, rest, true)
    | rest => some ([], rest, false)
  let (exponent, rest, fractional) ← match rest with
    | 'e' :: rest | 'E' :: rest => (readExponent? rest).map fun (e, r) => (e, r, true)
    | rest => some (0, rest, fractional)
  let (n, left) := significand 0 whole
  if fractional then
    let (n, taken) := fraction n 0 places
    return (float negative (scale n (exponent + left - taken)), rest)
  else if left = 0 ∧ negative = false then return (.int n, rest)
  else if left = 0 ∧ 0 < n ∧ n ≤ 0x8000000000000000 then return (.int (-(n : Int)), rest)
  else return (float negative (scale n left), rest)

mutual

def readValue? : (fuel : Nat) → List Char → Option (Value × List Char)
  | 0, _ => none
  | fuel + 1, cs =>
    match skip cs with
    | '{' :: rest =>
      match skip rest with
      | '}' :: rest => some (.table [], rest)
      | rest => readEntries? fuel [] rest
    | '[' :: rest =>
      match skip rest with
      | ']' :: rest => some (.list [], rest)
      | rest => readItems? fuel [] rest
    | '"' :: rest => (readText? (rest.length + 1) [] rest).map fun (s, r) => (.text s, r)
    | 't' :: 'r' :: 'u' :: 'e' :: rest => some (.bool true, rest)
    | 'f' :: 'a' :: 'l' :: 's' :: 'e' :: rest => some (.bool false, rest)
    | 'n' :: 'u' :: 'l' :: 'l' :: rest => some (.null, rest)
    | rest => readNumber? rest

/-- The items up to the closing bracket; `done` holds those before, the last one first. -/
def readItems? : (fuel : Nat) → (done : List Value) → List Char → Option (Value × List Char)
  | 0, _, _ => none
  | fuel + 1, done, cs =>
    match readValue? fuel cs with
    | none => none
    | some (v, rest) =>
      match skip rest with
      | ',' :: rest => readItems? fuel (v :: done) rest
      | ']' :: rest => some (.list (v :: done).reverse, rest)
      | _ => none

/-- The entries up to the closing brace; `done` holds those before, the last one first. -/
def readEntries? : (fuel : Nat) → (done : List (String × Value)) → List Char →
    Option (Value × List Char)
  | 0, _, _ => none
  | fuel + 1, done, cs =>
    match skip cs with
    | '"' :: rest =>
      match readText? (rest.length + 1) [] rest with
      | none => none
      | some (name, rest) =>
        match skip rest with
        | ':' :: rest =>
          match readValue? fuel rest with
          | none => none
          | some (v, rest) =>
            match skip rest with
            | ',' :: rest => readEntries? fuel ((name, v) :: done) rest
            | '}' :: rest => some (sorted ((name, v) :: done).reverse, rest)
            | _ => none
        | _ => none
    | _ => none

end

/-- The value that a whole text says. -/
def read? (s : String) : Option Value :=
  let cs := s.toList
  match readValue? (cs.length + 1) cs with
  | some (v, rest) => if (skip rest).isEmpty then some v else none
  | none => none

/-! ## Writing -/

def unit (n : Nat) : List Char := '\\' :: 'u' :: Numeral.padLeft '0' 4 (Numeral.digits 16 n)

def writeChar (c : Char) : List Char :=
  let n := c.toNat
  if c = '"' then ['\\', '"']
  else if c = '\\' then ['\\', '\\']
  else if 0x20 ≤ n ∧ n < 0x7F then [c]
  else if n < 0x10000 then unit n
  else unit (0xD800 + (n - 0x10000) / 0x400) ++ unit (0xDC00 + (n - 0x10000) % 0x400)

def writeText (s : String) : String :=
  s.foldl (fun out c => (writeChar c).foldl String.push out) "\"" ++ "\""

mutual

def write : Value → String
  | .null => "null"
  | .bool b => if b then "true" else "false"
  | .int n => toString n
  | .float bits => writeText (Numeral.hex 16 bits.toNat)
  | .text s => writeText s
  | .moment s => writeText s
  | .list items => "[" ++ writeItems "" items ++ "]"
  | .table entries => "\x7b" ++ writeEntries "" entries ++ "\x7d"

def writeItems (lead : String) : List Value → String
  | [] => ""
  | v :: vs => lead ++ write v ++ writeItems "," vs

def writeEntries (lead : String) : List (String × Value) → String
  | [] => ""
  | (name, v) :: es => lead ++ writeText name ++ ":" ++ write v ++ writeEntries "," es

end

end FrameBus.Value.Json
