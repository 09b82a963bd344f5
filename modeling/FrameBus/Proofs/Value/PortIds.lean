import FrameBus.Proofs.Config.Records
import FrameBus.Proofs.Notation.Grammar
import FrameBus.Proofs.Toml.Documents
import FrameBus.Value.Json

/-!
# Port ids as values

A value is read as a port id where it is an integer of 16 bits or a text of the grammar, and an id
is written as the text of its three parts. (A number of JSON with a fraction or an exponent is no
integer, and neither is `-0`, which its reader takes for a float.) That text needs no escape, so
JSON has it between quotes as it is (`Json.read?_write_text`), and TOML reads every text that it
writes (`Toml.read?_entry`). Either way an id comes back as itself.
-/

namespace FrameBus

namespace Value.Json

/-- A character that stands for itself in a text. -/
structure Plain (c : Char) : Prop where
  printable : 0x20 ≤ c.toNat ∧ c.toNat < 0x7F
  quote : c ≠ '"'
  backslash : c ≠ '\\'

variable {cs : List Char} {s : String}

theorem writeChar_plain {c : Char} (h : Plain c) : writeChar c = [c] := by
  simp only [writeChar, if_neg h.quote, if_neg h.backslash, if_pos h.printable]

theorem toList_writeText (plain : ∀ c ∈ s.toList, Plain c) :
    (writeText s).toList = '"' :: (s.toList ++ ['"']) := by
  have fold (out : String) : (s.toList.foldl (fun out c => (writeChar c).foldl String.push out)
      out).toList = out.toList ++ s.toList := by
    generalize s.toList = cs at plain
    induction cs generalizing out with
    | nil => simp
    | cons c cs ih =>
      have first := writeChar_plain (plain c List.mem_cons_self)
      rw [List.foldl_cons, first, ih _ fun c mem => plain c (List.mem_cons_of_mem _ mem)]
      simp
  rw [writeText, String.foldl_eq_foldl_toList, String.toList_append, fold]
  rfl

theorem readText?_cons {c : Char} (h : Plain c) (fuel : Nat) (done rest : List Char) :
    readText? (fuel + 1) done (c :: rest) = readText? fuel (c :: done) rest := by
  have quote := h.quote
  have backslash := h.backslash
  have printable : ¬ c.toNat < 0x20 := Nat.not_lt.2 h.printable.1
  rw [readText?, if_neg printable] <;> simp [quote, backslash]

/-- Plain characters are read up to the closing quote. -/
theorem readText?_plain (plain : ∀ c ∈ cs, Plain c) (fuel : Nat) (enough : cs.length < fuel)
    (done rest : List Char) : readText? fuel done (cs ++ '"' :: rest) =
      some (String.ofList (done.reverse ++ cs), rest) := by
  induction cs generalizing fuel done with
  | nil =>
    obtain ⟨fuel, rfl⟩ := Nat.exists_eq_add_one_of_ne_zero (Nat.ne_zero_of_lt enough)
    simp [readText?]
  | cons c cs ih =>
    obtain ⟨fuel, rfl⟩ := Nat.exists_eq_add_one_of_ne_zero (Nat.ne_zero_of_lt enough)
    rw [List.cons_append, readText?_cons (plain c List.mem_cons_self),
      ih (fun c mem => plain c (List.mem_cons_of_mem _ mem)) fuel (by simpa using enough)]
    simp

theorem read?_write_text (plain : ∀ c ∈ s.toList, Plain c) :
    read? (write (.text s)) = some (.text s) := by
  have text : (write (.text s)).toList = '"' :: (s.toList ++ ['"']) := by
    rw [write, toList_writeText plain]
  have body := readText?_plain plain ((s.toList ++ ['"']).length + 1)
    (by rw [List.length_append]; omega) [] []
  have whole (fuel : Nat) : readValue? (fuel + 1) ('"' :: (s.toList ++ ['"'])) =
      some (.text s, []) := by
    have first : skip ('"' :: (s.toList ++ ['"'])) = '"' :: (s.toList ++ ['"']) := rfl
    rw [readValue?, first]
    simp only [body]
    simp
  simp only [read?, text, whole]
  rfl

end Value.Json

namespace Toml

/-- A document with one entry. -/
theorem read?_entry {name : String} (bare : Reader.Bare name) (s : String) :
    Reader.read? (Writer.entry name (Writer.text s) ++ "\n") =
      some (.table [(name, .text s)]) := by
  have passes := Reader.passes_entry (d := {}) bare (Reader.spells_text s) (Draft.insert_new rfl)
  obtain ⟨c, more, whole, isBare⟩ := bare.eq_cons
  have first : c.toNat ≠ 0xFEFF := by
    intro mark
    rw [← Char.ofNat_toNat c, mark] at isBare
    exact absurd isBare (by decide)
  have chars : Reader.chars [Writer.entry name (Writer.text s)] =
      c :: (more ++ (" = " ++ Writer.text s).toList ++ ['\n']) := by
    simp [Reader.chars, Writer.entry, whole]
  have read := read?_of_passes passes rfl chars first
  simpa [String.join, entriesToValues, Node.toValue] using read

end Toml

namespace Value

open PortId

/-- An integer of 16 bits or a text of the grammar, and the raw number that it says. -/
inductive SaysId : Value → Nat → Prop
  | int {n : Nat} (fits : n ≤ 65535) : SaysId (.int n) n
  | text {s : String} {n : Nat} (spelled : Says s.toList n) : SaysId (.text s) n

theorem toPortId_answers_iff {v : Value} {n : Nat} : Answers v.toPortId n ↔ SaysId v n := by
  constructor
  · rintro ⟨id, read, rfl⟩
    unfold toPortId at read
    split at read
    · next m =>
      split at read
      · next fits =>
        cases read
        obtain ⟨n, rfl⟩ := Int.eq_ofNat_of_zero_le fits.1
        have small : n ≤ 65535 := by omega
        rw [Int.toNat_natCast, raw_ofNat small]
        exact .int small
      · cases read
    · next s =>
      split at read
      · next id' accepted =>
        cases read
        exact .text (read_answers_iff.1 ⟨id, accepted, rfl⟩)
      · cases read
    · cases read
  · rintro (fits | spelled)
    · refine ⟨⟨UInt16.ofNat n⟩, ?_, raw_ofNat fits⟩
      rw [toPortId, if_pos (by omega), Int.toNat_natCast]
    · obtain ⟨id, read, raw⟩ := read_answers_iff.2 spelled
      exact ⟨id, by simp only [toPortId, read], raw⟩

end Value

namespace PortId

/-- The text of an id needs no escape. -/
theorem plain_render (id : PortId) : ∀ c ∈ id.render.toList, Value.Json.Plain c := by
  have digit {n : Nat} : ∀ c ∈ Numeral.digits 10 n, Value.Json.Plain c := by
    intro c mem
    obtain ⟨d, hd, rfl⟩ := Numeral.eq_digitChar_of_mem (by decide) mem
    have table : ∀ d < 10, (0x20 ≤ d.digitChar.toNat ∧ d.digitChar.toNat < 0x7F) ∧
        d.digitChar ≠ '"' ∧ d.digitChar ≠ '\\' := by decide
    obtain ⟨printable, quote, backslash⟩ := table d hd
    exact ⟨printable, quote, backslash⟩
  have dot : Value.Json.Plain '.' := ⟨by decide, by decide, by decide⟩
  simp only [toList_render, List.forall_mem_append, List.forall_mem_cons]
  exact ⟨digit, dot, digit, dot, digit⟩

/-- What port ids are read from, as texts and as values, and that what is written for an id is read
as it. -/
structure Legible : Prop where
  text : ∀ (s : String) (n : Nat), Answers (read s.toList) n ↔ Says s.toList n
  printed : ∀ id : PortId, read id.render.toList = .ok id
  value : ∀ (v : Value) (n : Nat), Answers v.toPortId n ↔ v.SaysId n
  json : ∀ id : PortId, ∃ v, Value.Json.read? (Value.Json.write (.text id.render)) = some v ∧
    v.toPortId = .ok id
  toml : ∀ (id : PortId) (name : String), Toml.Reader.Bare name →
    ∃ v, Toml.Reader.read? (Toml.Writer.entry name (Toml.Writer.text id.render) ++ "\n") =
      some (.table [(name, v)]) ∧ v.toPortId = .ok id

theorem exact_grammar : Legible where
  text := fun _ _ => read_answers_iff
  printed := read_render
  value := fun _ _ => Value.toPortId_answers_iff
  json := fun id => ⟨_, Value.Json.read?_write_text id.plain_render, Value.toPortId_render id⟩
  toml := fun id _ bare => ⟨_, Toml.read?_entry bare id.render, Value.toPortId_render id⟩

end PortId

end FrameBus
