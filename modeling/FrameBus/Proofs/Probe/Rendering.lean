import FrameBus.Probe.Payload
import FrameBus.Proofs.Notation.Numerals
import FrameBus.Proofs.Text.Utf8

/-!
# Payloads that are read off what is shown

A payload that is shown as a text is that text between quotes, and one that is shown in hexadecimal
is the digits of its bytes. A text begins with a quote and no byte does, so the two are told apart;
the quotes within a text need no escape, since the last one is the end. What is shown tells the
whole payload, unless bytes were left out (`readRendering?_renderPayload`), and so no two payloads
look the same (`renderPayload_lossless`).
-/

namespace FrameBus

namespace Numeral

/-- A byte as two digits. -/
def pair (b : UInt8) : List Char := [(b.toNat / 16).digitChar, (b.toNat % 16).digitChar]

theorem hexBytes_singleton (b : UInt8) : hexBytes [b] = pair b := by
  have lt := b.toNat_lt
  have single : hexBytes [b] = padLeft '0' 2 (digits 16 b.toNat) := by simp [hexBytes]
  rw [single, pair]
  by_cases one : b.toNat < 16
  · rw [digits_of_lt one, Nat.div_eq_of_lt one, Nat.mod_eq_of_lt one]
    rfl
  · rw [digits_of_le (by decide) (by omega), digits_of_lt (by omega : b.toNat / 16 < 16)]
    rfl

theorem readHexBytes?_pairs (bytes : List UInt8) :
    readHexBytes? (bytes.flatMap pair) = some bytes := by
  induction bytes with
  | nil => rfl
  | cons b bytes ih =>
    have lt := b.toNat_lt
    have high : digit? 16 (b.toNat / 16).digitChar = some (b.toNat / 16) :=
      digit?_digitChar (Nat.le_refl _) (by omega)
    have low : digit? 16 (b.toNat % 16).digitChar = some (b.toNat % 16) :=
      digit?_digitChar (Nat.le_refl _) (by omega)
    have whole : UInt8.ofNat (b.toNat / 16 * 16 + b.toNat % 16) = b := by
      rw [Nat.div_add_mod', UInt8.ofNat_toNat]
    simp only [List.flatMap_cons, pair, List.cons_append, List.nil_append, readHexBytes?, high, low,
      ih, Option.bind_eq_bind, Option.bind_some, whole]
    rfl

/-- A digit is neither a blank nor a quote. -/
theorem apart_of_mem_pair {b : UInt8} {c : Char} (h : c ∈ pair b) : c ≠ ' ' ∧ c ≠ '"' := by
  have digit : ∀ d < 16, d.digitChar ≠ ' ' ∧ d.digitChar ≠ '"' := by decide
  have lt := b.toNat_lt
  simp only [pair, List.mem_cons, List.not_mem_nil, or_false] at h
  rcases h with rfl | rfl
  · exact digit _ (by omega)
  · exact digit _ (by omega)

end Numeral

/-- Pieces that are joined by something that is in none of them are taken apart again. -/
theorem filter_intercalate {sep : Char} {pieces : List (List Char)}
    (none : ∀ piece ∈ pieces, ∀ c ∈ piece, c ≠ sep) :
    ([sep].intercalate pieces).filter (· != sep) = pieces.flatten := by
  have kept {piece : List Char} (mem : piece ∈ pieces) : piece.filter (· != sep) = piece :=
    List.filter_eq_self.2 fun c hc => by simpa using none piece mem c hc
  induction pieces with
  | nil => rfl
  | cons piece pieces ih =>
    have rest := ih (fun p mem => none p (List.mem_cons_of_mem _ mem))
      (fun mem => kept (List.mem_cons_of_mem _ mem))
    cases pieces with
    | nil => simpa [List.intercalate] using kept List.mem_cons_self
    | cons next pieces =>
      rw [List.flatten_cons, ← rest, List.intercalate, List.intersperse_cons_cons,
        List.flatten_cons, List.flatten_cons, List.filter_append, kept List.mem_cons_self]
      simp [List.intercalate]

namespace Probe

open Numeral (pair)

variable {p q : List UInt8} {text : List Char}

/-! ## What is shown -/

/-- A control character. -/
def Control (c : Char) : Prop := c.toNat ≤ 0x1F ∨ 0x7F ≤ c.toNat ∧ c.toNat ≤ 0x9F

/-- A payload is the UTF-8 form of a text in which every control character is a line feed. -/
def Spells (p : List UInt8) (text : List Char) : Prop :=
  p = text.flatMap String.utf8EncodeChar ∧ ∀ c ∈ text, Control c → c = '\n'

/-- Nothing of a payload is left out where it is shown. -/
def Whole (p : List UInt8) : Prop := (∃ text, Spells p text) ∨ p.length ≤ 64

theorem isShown_iff (c : Char) : isShown c = true ↔ (Control c → c = '\n') := by
  have control : isControl c = true ↔ Control c := by
    simp only [isControl, Control, Bool.or_eq_true, Bool.and_eq_true, decide_eq_true_eq]
    omega
  rw [isShown, Bool.or_eq_true, Bool.not_eq_true', beq_iff_eq, ← Bool.not_eq_true,
    ← Decidable.imp_iff_not_or, control]

theorem spells_iff :
    Spells p text ↔ Text.Utf8.decode? p = some text ∧ text.all isShown = true := by
  simp only [Spells, Text.Utf8.decode?_eq_some_iff, Text.Utf8.encode_eq, List.all_eq_true,
    isShown_iff]

theorem renderPayload_of_spells (h : Spells p text) : renderPayload p = '"' :: text ++ ['"'] := by
  obtain ⟨decoded, shown⟩ := spells_iff.1 h
  simp only [renderPayload, decoded, if_pos shown]

theorem renderHex_eq (p : List UInt8) : renderHex p = [' '].intercalate ((p.take 64).map pair) := by
  simp only [renderHex, shownBytes, Numeral.hexBytes_singleton]

theorem renderPayload_of_not_spells (h : ¬ ∃ text, Spells p text) :
    renderPayload p = [' '].intercalate ((p.take 64).map pair) := by
  rw [← renderHex_eq, renderPayload]
  split
  · next text decoded =>
    rw [if_neg]
    exact fun shown => h ⟨text, spells_iff.2 ⟨decoded, shown⟩⟩
  · rfl

/-! ## Reading it -/

/-- The payload that is shown. -/
def readRendering? : List Char → Option (List UInt8)
  | '"' :: cs => some (Text.Utf8.encode cs.dropLast)
  | cs => Numeral.readHexBytes? (cs.filter (· != ' '))

theorem readRendering?_text (text : List Char) :
    readRendering? ('"' :: text ++ ['"']) = some (Text.Utf8.encode text) := by
  simp [readRendering?]

theorem readRendering?_pairs (p : List UInt8) :
    readRendering? ([' '].intercalate (p.map pair)) = some p := by
  have digits : ([' '].intercalate (p.map pair)).filter (· != ' ') = p.flatMap pair := by
    rw [filter_intercalate, List.flatMap_def]
    simp only [List.mem_map, forall_exists_index, and_imp, forall_apply_eq_imp_iff₂]
    exact fun b _ c mem => (Numeral.apart_of_mem_pair mem).1
  -- the first digit is no quote
  have no_quote (cs : List Char) : [' '].intercalate (p.map pair) ≠ '"' :: cs := by
    intro quote
    cases p with
    | nil => cases quote
    | cons b p =>
      have first : (b.toNat / 16).digitChar = '"' := by
        cases p <;> exact (List.cons.inj quote).1
      exact (Numeral.apart_of_mem_pair (b := b) List.mem_cons_self).2 first
  unfold readRendering?
  split
  · next cs quote => exact absurd quote (no_quote cs)
  · rw [digits, Numeral.readHexBytes?_pairs]

/-- A payload is read off what is shown, if nothing is left out. -/
theorem readRendering?_renderPayload (h : Whole p) : readRendering? (renderPayload p) = some p := by
  by_cases plain : ∃ text, Spells p text
  · obtain ⟨text, spells⟩ := plain
    rw [renderPayload_of_spells spells, readRendering?_text, Text.Utf8.encode_eq, ← spells.1]
  · have short : p.length ≤ 64 := h.resolve_left plain
    rw [renderPayload_of_not_spells plain, List.take_of_length_le short, readRendering?_pairs]

/-- A payload is shown as the text that it is, or else by the digits of its first 64 bytes; it is
read off what is shown, unless bytes are left out, and two such payloads are never shown alike. -/
theorem renderPayload_lossless (p : List UInt8) :
    (∀ text, Spells p text → renderPayload p = '"' :: text ++ ['"']) ∧
    ((¬ ∃ text, Spells p text) →
      renderPayload p = [' '].intercalate ((p.take 64).map pair)) ∧
    (Whole p → readRendering? (renderPayload p) = some p) ∧
    ∀ q, Whole p → Whole q → p ≠ q → renderPayload p ≠ renderPayload q := by
  refine ⟨fun _ => renderPayload_of_spells, renderPayload_of_not_spells,
    readRendering?_renderPayload, fun q hp hq other same => other ?_⟩
  have read := readRendering?_renderPayload hp
  rw [same, readRendering?_renderPayload hq] at read
  exact (Option.some.inj read).symm

/-- A line feed, and the overlong form of one, which is no text. -/
theorem renderPayload_overlong :
    renderPayload [0x0A] = ['"', '\n', '"'] ∧ renderPayload [0xC0, 0x8A] = "c0 8a".toList ∧
    readRendering? "c0 8a".toList = some [0xC0, 0x8A] ∧
    renderPayload [0x0A] ≠ renderPayload [0xC0, 0x8A] := by
  have line : Spells [0x0A] ['\n'] := ⟨by decide, by simp⟩
  have overlong : ¬ ∃ text, Spells [0xC0, 0x8A] text := by
    rintro ⟨text, spells⟩
    have read := (spells_iff.1 spells).1
    rw [show Text.Utf8.decode? [0xC0, 0x8A] = none by decide] at read
    cases read
  obtain ⟨text, -, -, apart⟩ := renderPayload_lossless [0x0A]
  obtain ⟨-, hex, back, -⟩ := renderPayload_lossless [0xC0, 0x8A]
  have shown : renderPayload [0xC0, 0x8A] = "c0 8a".toList := hex overlong
  refine ⟨text _ line, shown, ?_, apart _ (.inl ⟨_, line⟩) (.inr (by decide)) (by decide)⟩
  rw [← shown]
  exact back (.inr (by decide))

end Probe

end FrameBus
