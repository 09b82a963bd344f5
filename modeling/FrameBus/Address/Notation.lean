import FrameBus.Address.Basic
import FrameBus.Numeral

/-!
# Socket addresses as text

Version 4 is written `a.b.c.d:port` and version 6 `[groups]:port`, with a scope behind `%` if it is
not 0. The longest run of two or more zero groups, the first of equals, is written `::`, and an
address that stands for one of version 4 ends in its dotted form. Reading also takes any other run
that `::` can stand for, a dotted form in place of the last two groups, and leading zeros but for
those of a dotted form.
-/

namespace FrameBus

/-! ## Writing -/

namespace Ipv4

def render (ip : Ipv4) : List Char :=
  List.intercalate ['.'] (ip.octets.map fun o => Numeral.digits 10 o.toNat)

end Ipv4

namespace Ipv6

/-- The lengths of the runs of zeros that begin at the groups. -/
def zeroRuns : List UInt16 → List Nat
  | [] => []
  | g :: gs =>
    let runs := zeroRuns gs
    (if g = 0 then runs.headD 0 + 1 else 0) :: runs

/-- Start and length of the longest run of zeros, the first of equals. -/
def longestRun (groups : List UInt16) : Nat × Nat :=
  let runs := zeroRuns groups
  let length := runs.foldl max 0
  (runs.findIdx (· == length), length)

def renderGroups (groups : List UInt16) : List Char :=
  List.intercalate [':'] (groups.map fun g => Numeral.digits 16 g.toNat)

def render (ip : Ipv6) : List Char :=
  match ip.mapped? with
  | some v4 => [':', ':', 'f', 'f', 'f', 'f', ':'] ++ v4.render
  | none =>
    let (start, length) := longestRun ip.groups
    if 1 < length then
      renderGroups (ip.groups.take start) ++ [':', ':'] ++
        renderGroups (ip.groups.drop (start + length))
    else renderGroups ip.groups

end Ipv6

namespace SocketAddress

def renderChars : SocketAddress → List Char
  | .v4 ip port => ip.render ++ ':' :: Numeral.digits 10 port.toNat
  | .v6 ip scope port =>
    '[' :: ip.render ++ (if scope = 0 then [] else '%' :: Numeral.digits 10 scope.toNat) ++
      [']', ':'] ++ Numeral.digits 10 port.toNat

def render (a : SocketAddress) : String := String.ofList (renderChars a)

end SocketAddress

/-! ## Reading -/

namespace SocketAddress

/-- The digits at the front of a text as a number up to `limit`. -/
def number? (radix limit maxDigits : Nat) (zeros : Bool) (cs : List Char) :
    Option (Nat × List Char) :=
  let (ds, rest) := cs.span fun c => (Numeral.digit? radix c).isSome
  if ds.isEmpty || decide (maxDigits < ds.length) then none
  else if !zeros && ds.head? == some '0' && decide (1 < ds.length) then none
  else
    match Numeral.readDigits radix limit 0 ds with
    | .ok n => some (n, rest)
    | .error _ => none

/-- The text behind a character at its front. -/
def char? (c : Char) : List Char → Option (List Char)
  | d :: rest => if c = d then some rest else none
  | [] => none

def octet? (cs : List Char) : Option (UInt8 × List Char) :=
  (number? 10 255 3 false cs).map fun (n, rest) => (UInt8.ofNat n, rest)

def ipv4? (cs : List Char) : Option (Ipv4 × List Char) := do
  let (a, cs) ← octet? cs
  let cs ← char? '.' cs
  let (b, cs) ← octet? cs
  let cs ← char? '.' cs
  let (c, cs) ← octet? cs
  let cs ← char? '.' cs
  let (d, cs) ← octet? cs
  return (⟨a, b, c, d⟩, cs)

/-- The text behind the colon that stands between two groups. -/
def nextGroup? (first : Bool) (cs : List Char) : Option (List Char) :=
  if first then some cs else char? ':' cs

/-- Up to `limit` groups, a dotted form counting as two; also whether it ended in a dotted form. -/
def groups : (limit : Nat) → (first : Bool) → List Char → List UInt16 × Bool × List Char
  | 0, _, cs => ([], false, cs)
  | limit + 1, first, cs =>
    match (if 0 < limit then (nextGroup? first cs).bind ipv4? else none) with
    | some (ip, rest) => (ip.toGroups, true, rest)
    | none =>
      match (nextGroup? first cs).bind (number? 16 0xFFFF 4 true) with
      | some (n, rest) =>
        let (gs, dotted, rest) := groups limit false rest
        (UInt16.ofNat n :: gs, dotted, rest)
      | none => ([], false, cs)

/-- Eight groups, of which one run of zeros may be written `::`. -/
def ipv6? (cs : List Char) : Option (Ipv6 × List Char) := do
  let (head, dotted, cs) := groups 8 true cs
  if h : head.length = 8 then return (⟨head, h⟩, cs)
  else if dotted then none
  else
    let cs ← char? ':' cs
    let cs ← char? ':' cs
    let (tail, _, cs) := groups (7 - head.length) true cs
    let all := head ++ List.replicate (8 - head.length - tail.length) 0 ++ tail
    if h : all.length = 8 then return (⟨all, h⟩, cs) else none

def port? (cs : List Char) : Option (UInt16 × List Char) := do
  let cs ← char? ':' cs
  let (n, cs) ← number? 10 0xFFFF cs.length true cs
  return (UInt16.ofNat n, cs)

/-- The scope behind `%`; 0 where none is written. -/
def scope (cs : List Char) : UInt32 × List Char :=
  match (char? '%' cs).bind fun cs => number? 10 0xFFFFFFFF cs.length true cs with
  | some (n, rest) => (UInt32.ofNat n, rest)
  | none => (0, cs)

def v4? (cs : List Char) : Option (SocketAddress × List Char) := do
  let (ip, cs) ← ipv4? cs
  let (port, cs) ← port? cs
  return (.v4 ip port, cs)

def v6? (cs : List Char) : Option (SocketAddress × List Char) := do
  let cs ← char? '[' cs
  let (ip, cs) ← ipv6? cs
  let (scope, cs) := scope cs
  let cs ← char? ']' cs
  let (port, cs) ← port? cs
  return (.v6 ip scope port, cs)

/-- The address that a whole text says. -/
def read? (cs : List Char) : Option SocketAddress :=
  match (v4? cs).or (v6? cs) with
  | some (a, []) => some a
  | _ => none

/-- What is said of a text that is no address. -/
def readFailure : String := "invalid socket address syntax"

end SocketAddress

end FrameBus
