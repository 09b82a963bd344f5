import FrameBus.Numeral

/-!
# Writing TOML

Entries and their values. A text is written in the first of four ways that needs no escape for it:
between double quotes, between single quotes, and over many lines between three double or three
single quotes. If none does, it is written with escapes, over many lines if it has line ends.
-/

namespace FrameBus.Toml.Writer

/-! ## Texts -/

/-- A control character that only an escape can stand for. -/
def needsCode (c : Char) : Bool :=
  (decide (c.toNat < 0x20) && c != '\t' && c != '\n') || c.toNat == 0x7F

/-- The longest run of a character, after a run of `run` before the text. -/
def longestRun (q : Char) : (run : Nat) → List Char → Nat
  | run, [] => run
  | run, c :: cs => if c = q then longestRun q (run + 1) cs else max run (longestRun q 0 cs)

/-- An escape for a character. -/
def escape (c : Char) : List Char :=
  match c with
  | '\x08' => ['\\', 'b']
  | '\t' => ['\\', 't']
  | '\n' => ['\\', 'n']
  | '\x0c' => ['\\', 'f']
  | '\r' => ['\\', 'r']
  | '"' => ['\\', '"']
  | '\\' => ['\\', '\\']
  | c => '\\' :: 'u' :: (Numeral.padLeft '0' 4 (Numeral.digits 16 c.toNat)).map Char.toUpper

/-- A text with escapes: double quotes beyond a run of `quotes`, and line ends unless `multi`. -/
def escaped (multi : Bool) (quotes : Nat) : (run : Nat) → List Char → List Char
  | _, [] => []
  | run, c :: cs =>
    if c = '"' then
      if quotes ≤ run then escape c ++ escaped multi quotes 0 cs
      else c :: escaped multi quotes (run + 1) cs
    else if needsCode c || c = '\t' || c = '\\' || (c = '\n' && !multi) then
      escape c ++ escaped multi quotes 0 cs
    else c :: escaped multi quotes 0 cs

/-- A text of many lines begins behind the line of its opening quotes. -/
def opened (quotes : List Char) (cs : List Char) : List Char :=
  quotes ++ (if cs.contains '\n' then ['\n'] else [])

def basic (cs : List Char) : List Char := '"' :: escaped false 0 0 cs ++ ['"']

def literal (cs : List Char) : List Char := '\'' :: cs ++ ['\'']

def multiBasic (cs : List Char) : List Char :=
  opened ['"', '"', '"'] cs ++ escaped true 2 0 cs ++ ['"', '"', '"']

def multiLiteral (cs : List Char) : List Char :=
  opened ['\'', '\'', '\''] cs ++ cs ++ ['\'', '\'', '\'']

def textChars (cs : List Char) : List Char :=
  let codes := cs.any needsCode
  let newline := cs.contains '\n'
  let backslash := cs.contains '\\'
  let double := longestRun '"' 0 cs
  let single := longestRun '\'' 0 cs
  if !codes && !backslash && double == 0 && !newline then basic cs
  else if !codes && single == 0 && !newline then literal cs
  else if !codes && !backslash && decide (double ≤ 2) then multiBasic cs
  else if !codes && decide (single ≤ 2) then multiLiteral cs
  else if newline then multiBasic cs
  else basic cs

def text (s : String) : String := String.ofList (textChars s.toList)

/-! ## Entries -/

/-- A number, if it is one of TOML's. -/
def number? (n : Nat) : Option String :=
  if n < 0x8000000000000000 then some (Numeral.decimal n) else none

def entry (name value : String) : String := name ++ " = " ++ value

end FrameBus.Toml.Writer
