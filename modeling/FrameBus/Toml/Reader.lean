import FrameBus.Numeral
import FrameBus.Toml.Tree

/-!
# Reading TOML

A document is a run of entries, headers, comments and blank lines. The result is its value, or
nothing if the text is no document. Nesting goes to a depth of 79.
-/

namespace FrameBus.Toml.Reader

/-! ## Characters -/

def isBlank (c : Char) : Bool := c == ' ' || c == '\t'

def isComment (c : Char) : Bool := c == '\t' || decide (0x20 ≤ c.toNat)

def isLiteral (c : Char) : Bool :=
  c == '\t' || (decide (0x20 ≤ c.toNat) && c != '\'' && c.toNat != 0x7F)

def isBasic (c : Char) : Bool :=
  c == '\t' || (decide (0x20 ≤ c.toNat) && c != '"' && c != '\\' && c.toNat != 0x7F)

def isBare (c : Char) : Bool := c.isAlphanum || c == '-' || c == '_'

def skip (cs : List Char) : List Char := cs.dropWhile isBlank

def newline? : List Char → Option (List Char)
  | '\n' :: rest => some rest
  | '\r' :: '\n' :: rest => some rest
  | _ => none

/-- A comment, if one begins here. -/
def skipComment : List Char → List Char
  | '#' :: rest => rest.dropWhile isComment
  | cs => cs

/-- The end of a line that holds nothing more: blanks, a comment, and a line end or the end of the
text. -/
def lineEnd? (cs : List Char) : Option (List Char) :=
  let cs := skipComment (skip cs)
  if cs.isEmpty then some [] else newline? cs

/-- Blanks, comments and line ends between the items of an array. -/
def skipLines : (fuel : Nat) → List Char → Option (List Char)
  | 0, _ => none
  | fuel + 1, cs =>
    match skip cs with
    | '#' :: rest =>
      let rest := rest.dropWhile isComment
      if rest.isEmpty then some [] else (newline? rest).bind (skipLines fuel)
    | cs =>
      match newline? cs with
      | some rest => skipLines fuel rest
      | none => some cs

/-! ## Strings -/

/-- A character by its code point in a fixed count of hexadecimal digits. -/
def codePoint? (n : Nat) (cs : List Char) : Option (Char × List Char) :=
  let ds := cs.take n
  if ds.length < n then none
  else
    match Numeral.readDigits 16 0xFFFFFFFF 0 ds with
    | .error _ => none
    | .ok v => if v.isValidChar then some (Char.ofNat v, cs.drop n) else none

/-- The character that an escape stands for, behind its backslash. -/
def escape? : List Char → Option (Char × List Char)
  | 'b' :: rest => some ('\x08', rest)
  | 't' :: rest => some ('\t', rest)
  | 'n' :: rest => some ('\n', rest)
  | 'f' :: rest => some ('\x0c', rest)
  | 'r' :: rest => some ('\r', rest)
  | '"' :: rest => some ('"', rest)
  | '\\' :: rest => some ('\\', rest)
  | 'u' :: rest => codePoint? 4 rest
  | 'U' :: rest => codePoint? 8 rest
  | _ => none

/-- A basic string up to its closing quote; `done` holds the characters before, the last first. -/
def basic? : (fuel : Nat) → (done : List Char) → List Char → Option (List Char × List Char)
  | 0, _, _ => none
  | _ + 1, done, '"' :: rest => some (done.reverse, rest)
  | fuel + 1, done, '\\' :: rest =>
    match escape? rest with
    | some (c, rest) => basic? fuel (c :: done) rest
    | none => none
  | fuel + 1, done, c :: rest => if isBasic c then basic? fuel (c :: done) rest else none
  | _ + 1, _, [] => none

def literal? (cs : List Char) : Option (List Char × List Char) :=
  match cs.span isLiteral with
  | (text, '\'' :: rest) => some (text, rest)
  | _ => none

/-- The line end and blanks behind a backslash at the end of a line. -/
def lineJoin? (cs : List Char) : Option (List Char) :=
  (newline? (skip cs)).map fun rest =>
    let rec go : (fuel : Nat) → List Char → List Char
      | 0, cs => cs
      | fuel + 1, cs =>
        let cs := skip cs
        match newline? cs with
        | some rest => go fuel rest
        | none => cs
    go (rest.length + 1) rest

/-- How a run of quotes in a string of many lines reads: its quotes that are text, and whether it
ends the string. -/
def closing (run : Nat) : Nat × Bool :=
  if run < 3 then (run, false) else (min (run - 3) 2, true)

/-- A string of many lines up to its closing quotes; `quote` says which kind it is. -/
def multiline? (quote : Char) : (fuel : Nat) → (done : List Char) → List Char →
    Option (List Char × List Char)
  | 0, _, _ => none
  | _ + 1, _, [] => none
  | fuel + 1, done, c :: rest =>
    if c = quote then
      let run := ((c :: rest).takeWhile (· == quote)).length
      let (kept, ends) := closing run
      let done := List.replicate kept quote ++ done
      if ends then some (done.reverse, (c :: rest).drop (kept + 3))
      else multiline? quote fuel done ((c :: rest).drop kept)
    else
      match newline? (c :: rest) with
      | some rest => multiline? quote fuel ('\n' :: done) rest
      | none =>
        if quote = '"' ∧ c = '\\' then
          match lineJoin? rest with
          | some rest => multiline? quote fuel done rest
          | none =>
            match escape? rest with
            | some (c, rest) => multiline? quote fuel (c :: done) rest
            | none => none
        else if (if quote = '"' then isBasic c else isLiteral c) then
          multiline? quote fuel (c :: done) rest
        else none

/-- A line end right behind the opening quotes is no part of the string. -/
def opening (cs : List Char) : List Char := (newline? cs).getD cs

def string? : List Char → Option (List Char × List Char)
  | '"' :: '"' :: '"' :: rest => multiline? '"' (rest.length + 1) [] (opening rest)
  | '"' :: rest => basic? (rest.length + 1) [] rest
  | '\'' :: '\'' :: '\'' :: rest => multiline? '\'' (rest.length + 1) [] (opening rest)
  | '\'' :: rest => literal? rest
  | _ => none

/-! ## Keys -/

def simpleKey? : List Char → Option (String × List Char)
  | '"' :: rest => (basic? (rest.length + 1) [] rest).map fun (t, r) => (String.ofList t, r)
  | '\'' :: rest => (literal? rest).map fun (t, r) => (String.ofList t, r)
  | cs =>
    match cs.span isBare with
    | ([], _) => none
    | (text, rest) => some (String.ofList text, rest)

/-- A key of one or more parts, with blanks around each. -/
def key? : (fuel : Nat) → List Char → Option (List String × List Char)
  | 0, _ => none
  | fuel + 1, cs => do
    let (name, rest) ← simpleKey? (skip cs)
    match skip rest with
    | '.' :: rest =>
      let (names, rest) ← key? fuel rest
      return (name :: names, rest)
    | rest => return ([name], rest)

/-- The nesting that is refused. -/
def depthLimit : Nat := 80

/-- A key that is not too deep, as its path and its last part. -/
def path? (cs : List Char) : Option (List String × String × List Char) := do
  let (names, rest) ← key? (cs.length + 1) cs
  if depthLimit ≤ names.length then none
  else return (names.dropLast, Draft.lastName names, rest)

/-! ## Numbers and times -/

/-- Digits, which single underscores may part. -/
def digits? (isDigit : Char → Bool) (cs : List Char) : Option (List Char × List Char) :=
  match cs with
  | c :: rest =>
    if isDigit c then
      let rec go : (fuel : Nat) → (done : List Char) → List Char → List Char × List Char
        | 0, done, cs => (done.reverse, cs)
        | fuel + 1, done, '_' :: d :: rest =>
          if isDigit d then go fuel (d :: done) rest else (done.reverse, '_' :: d :: rest)
        | fuel + 1, done, d :: rest =>
          if isDigit d then go fuel (d :: done) rest else (done.reverse, d :: rest)
        | _ + 1, done, [] => (done.reverse, [])
      some (go (rest.length + 1) [c] rest)
    else none
  | [] => none

def sign : List Char → Bool × List Char
  | '-' :: rest => (true, rest)
  | '+' :: rest => (false, rest)
  | cs => (false, cs)

/-- A decimal number without a leading zero. -/
def decimal? (cs : List Char) : Option (List Char × List Char) :=
  match cs with
  | '0' :: rest => some (['0'], rest)
  | cs => digits? Char.isDigit cs

def isRadix (radix : Nat) (c : Char) : Bool := (Numeral.digit? radix c).isSome

def radix? (radix : Nat) (cs : List Char) : Option (Value × List Char) := do
  let (ds, rest) ← digits? (isRadix radix) cs
  match Numeral.readDigits radix 0x7FFFFFFFFFFFFFFF 0 ds with
  | .ok n => return (.int n, rest)
  | .error _ => none

def integer? (cs : List Char) : Option (Value × List Char) :=
  match cs with
  | '0' :: 'x' :: rest => radix? 16 rest
  | '0' :: 'o' :: rest => radix? 8 rest
  | '0' :: 'b' :: rest => radix? 2 rest
  | cs => do
    let (negative, rest) := sign cs
    let (ds, rest) ← decimal? rest
    match Numeral.readDigits 10 (if negative then 0x8000000000000000 else 0x7FFFFFFFFFFFFFFF) 0
      ds with
    | .ok n => return (.int (if negative then -(n : Int) else n), rest)
    | .error _ => none

def value10 (ds : List Char) : Nat := ds.foldl (fun n c => n * 10 + (c.toNat - '0'.toNat)) 0

def exponent? : List Char → Option (Int × List Char)
  | c :: rest =>
    if c = 'e' ∨ c = 'E' then do
      let (negative, rest) := sign rest
      let (ds, rest) ← digits? Char.isDigit rest
      return (if negative then -(value10 ds : Int) else value10 ds, rest)
    else none
  | [] => none

def fraction? : List Char → Option (List Char × List Char)
  | '.' :: rest => digits? Char.isDigit rest
  | _ => none

/-- `±n * 10 ^ e`; nothing beyond the greatest number. -/
def scale? (negative : Bool) (n : Nat) (e : Int) : Option Value :=
  let e := max (-100000) (min 100000 e)
  let f := if n = 0 then 0 else Float.ofScientific n (decide (e < 0)) e.natAbs
  if f.isInf then none else some (.float (if negative then -f else f).toBits)

def special? (negative : Bool) : List Char → Option (Value × List Char)
  | 'i' :: 'n' :: 'f' :: rest =>
    let f : Float := 1 / 0
    some (.float (if negative then -f else f).toBits, rest)
  | 'n' :: 'a' :: 'n' :: rest => some (.float (0 / 0 : Float).toBits, rest)
  | _ => none

def float? (cs : List Char) : Option (Value × List Char) :=
  let (negative, rest) := sign cs
  match special? negative rest with
  | some r => some r
  | none => do
    let (whole, rest) ← decimal? rest
    match fraction? rest with
    | some (ds, rest) =>
      let (e, rest) := (exponent? rest).getD (0, rest)
      let v ← scale? negative (value10 (whole ++ ds)) (e - ds.length)
      return (v, rest)
    | none =>
      let (e, rest) ← exponent? rest
      let v ← scale? negative (value10 whole) e
      return (v, rest)

/-- A number of exactly `n` digits between two bounds. -/
def field? (n low high : Nat) (cs : List Char) : Option (Nat × List Char) :=
  let ds := cs.take n
  if ds.length = n ∧ ds.all Char.isDigit ∧ low ≤ value10 ds ∧ value10 ds ≤ high then
    some (value10 ds, cs.drop n)
  else none

def mark? (p : Char → Bool) : List Char → Option (List Char)
  | c :: rest => if p c then some rest else none
  | [] => none

def daysIn (year month : Nat) : Nat :=
  if month = 2 then
    if year % 4 = 0 ∧ (year % 100 ≠ 0 ∨ year % 400 = 0) then 29 else 28
  else if month = 4 ∨ month = 6 ∨ month = 9 ∨ month = 11 then 30
  else 31

def date? (cs : List Char) : Option (List Char) := do
  let (year, cs) ← field? 4 0 9999 cs
  let cs ← mark? (· == '-') cs
  let (month, cs) ← field? 2 1 12 cs
  let cs ← mark? (· == '-') cs
  let (_, cs) ← field? 2 1 (daysIn year month) cs
  return cs

def time? (cs : List Char) : Option (List Char) := do
  let (_, cs) ← field? 2 0 23 cs
  let cs ← mark? (· == ':') cs
  let (_, cs) ← field? 2 0 59 cs
  let cs ← mark? (· == ':') cs
  let (_, cs) ← field? 2 0 60 cs
  match cs with
  | '.' :: rest =>
    let (ds, rest) := rest.span Char.isDigit
    if ds.isEmpty then none else return rest
  | cs => return cs

def offset? : List Char → Option (List Char)
  | 'Z' :: rest | 'z' :: rest => some rest
  | c :: rest =>
    if c = '+' ∨ c = '-' then do
      let (_, rest) ← field? 2 0 23 rest
      let rest ← mark? (· == ':') rest
      let (_, rest) ← field? 2 0 59 rest
      return rest
    else none
  | [] => none

/-- A date, a time, or both with or without an offset. -/
def moment? (cs : List Char) : Option (Value × List Char) := do
  let rest ← match date? cs with
    | some rest =>
      match (mark? (fun c => c == 'T' || c == 't' || c == ' ') rest).bind time? with
      | some later => some ((offset? later).getD later)
      | none => some rest
    | none => time? cs
  return (.moment (String.ofList (cs.take (cs.length - rest.length))), rest)

/-! ## Values -/

/-- The value of an inline table from its entries in order. -/
def inlineTable? (pairs : List (List String × String × Value)) : Option Value := do
  let es ← pairs.foldlM (fun es (path, name, v) => insert path name (.value v) es) []
  return .table (entriesToValues es)

mutual

def value? : (fuel depth : Nat) → List Char → Option (Value × List Char)
  | 0, _, _ => none
  | fuel + 1, depth, cs =>
    match cs with
    | '"' :: _ | '\'' :: _ => (string? cs).map fun (t, rest) => (.text (String.ofList t), rest)
    | '[' :: rest => if depthLimit ≤ depth + 1 then none else array? fuel (depth + 1) [] rest
    | '{' :: rest =>
      if depthLimit ≤ depth + 1 then none
      else
        match skip rest with
        | '}' :: rest => some (.table [], rest)
        | rest => inline? fuel (depth + 1) [] rest
    | 't' :: 'r' :: 'u' :: 'e' :: rest => some (.bool true, rest)
    | 'f' :: 'a' :: 'l' :: 's' :: 'e' :: rest => some (.bool false, rest)
    | cs => ((moment? cs).or (float? cs)).or (integer? cs)

/-- The items of an array up to its closing bracket; `done` holds those before, the last first. -/
def array? : (fuel depth : Nat) → (done : List Value) → List Char → Option (Value × List Char)
  | 0, _, _, _ => none
  | fuel + 1, depth, done, cs =>
    match skipLines (cs.length + 1) cs with
    | none => none
    | some (']' :: rest) => some (.list done.reverse, rest)
    | some cs =>
      match value? fuel depth cs with
      | none => none
      | some (v, rest) =>
        match skipLines (rest.length + 1) rest with
        | some (',' :: rest) => array? fuel depth (v :: done) rest
        | some (']' :: rest) => some (.list (v :: done).reverse, rest)
        | _ => none

/-- The entries of an inline table up to its closing brace; `done` holds those before. -/
def inline? : (fuel depth : Nat) → (done : List (List String × String × Value)) → List Char →
    Option (Value × List Char)
  | 0, _, _, _ => none
  | fuel + 1, depth, done, cs =>
    match path? cs with
    | none => none
    | some (path, name, rest) =>
      match rest with
      | '=' :: rest =>
        match value? fuel depth (skip rest) with
        | none => none
        | some (v, rest) =>
          match skip rest with
          | ',' :: rest => inline? fuel depth (done ++ [(path, name, v)]) rest
          | '}' :: rest => (inlineTable? (done ++ [(path, name, v)])).map fun t => (t, rest)
          | _ => none
      | _ => none

end

/-! ## Documents -/

/-- A header behind its first bracket. -/
def header? (d : Draft) (cs : List Char) : Option (Draft × List Char) := do
  match cs with
  | '[' :: cs =>
    let (path, name, rest) ← path? cs
    match rest with
    | ']' :: ']' :: rest =>
      let rest ← lineEnd? rest
      let d ← d.openArray (path ++ [name])
      return (d, rest)
    | _ => none
  | cs =>
    let (path, name, rest) ← path? cs
    match rest with
    | ']' :: rest =>
      let rest ← lineEnd? rest
      let d ← d.openTable (path ++ [name])
      return (d, rest)
    | _ => none

def entry? (d : Draft) (cs : List Char) : Option (Draft × List Char) := do
  let (path, name, rest) ← path? cs
  match rest with
  | '=' :: rest =>
    let (v, rest) ← value? (rest.length + 1) 0 (skip rest)
    let rest ← lineEnd? rest
    let d ← d.insert path name v
    return (d, rest)
  | _ => none

def lines? : (fuel : Nat) → Draft → List Char → Option Draft
  | 0, _, _ => none
  | fuel + 1, d, cs =>
    match skip cs with
    | [] => some d
    | '#' :: rest => (lineEnd? ('#' :: rest)).bind (lines? fuel d)
    | '[' :: rest =>
      match header? d rest with
      | some (d, rest) => lines? fuel d rest
      | none => none
    | cs =>
      match newline? cs with
      | some rest => lines? fuel d rest
      | none =>
        match entry? d cs with
        | some (d, rest) => lines? fuel d rest
        | none => none

/-- The value of a document. A byte order mark in front is skipped. -/
def read? (text : String) : Option Value := do
  let cs := match text.toList with
    | c :: rest => if c.toNat = 0xFEFF then rest else c :: rest
    | [] => []
  let d ← lines? (cs.length + 1) {} cs
  let root ← d.finish
  return .table (entriesToValues root)

end FrameBus.Toml.Reader
