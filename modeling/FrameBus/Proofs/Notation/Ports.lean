import FrameBus.PortId.Notation
import FrameBus.Proofs.Notation.Numerals

/-!
# Port ids that are read back

The text of a port id has no blanks around it, is no other form of an id than that of three parts,
and is read as the id again (`PortId.read_render`).
-/

namespace FrameBus

namespace Text

/-- A text that begins and ends with something to see is not trimmed. -/
theorem trim_of_ends {cs : List Char} (first : Stops isBlank cs) (last : Stops isBlank cs.reverse) :
    trim cs = cs := by
  rw [trim, trimStart, dropWhile_of_stops first, trimEnd, dropWhile_of_stops last,
    List.reverse_reverse]

/-- Blanks around a text make no difference to what is left of it. -/
theorem trim_append {lead cs trail : List Char} (before : ∀ c ∈ lead, isBlank c = true)
    (behind : ∀ c ∈ trail, isBlank c = true) : trim (lead ++ cs ++ trail) = trim cs := by
  have nothing : trail.dropWhile isBlank = [] := by
    rw [← List.append_nil trail, List.dropWhile_append_of_pos behind, List.dropWhile_nil]
  rw [trim, trimStart, List.append_assoc, List.dropWhile_append_of_pos before,
    List.dropWhile_append, trim, trimStart]
  split
  · next none => rw [List.isEmpty_iff.1 none, nothing]
  · rw [trimEnd, List.reverse_append,
      List.dropWhile_append_of_pos fun c mem => behind c (List.mem_reverse.1 mem), trimEnd]

theorem splitAt_of_not_mem {sep : Char} {cs : List Char} (h : sep ∉ cs) :
    splitAt sep cs = [cs] := by
  induction cs with
  | nil => rfl
  | cons c cs ih =>
    simp only [List.mem_cons, not_or] at h
    rw [splitAt, if_neg (Ne.symm h.1), ih h.2]

/-- A text is cut at its first separator. -/
theorem splitAt_append {sep : Char} {cs : List Char} (h : sep ∉ cs) (rest : List Char) :
    splitAt sep (cs ++ sep :: rest) = cs :: splitAt sep rest := by
  induction cs with
  | nil => simp [splitAt]
  | cons c cs ih =>
    simp only [List.mem_cons, not_or] at h
    rw [List.cons_append, splitAt, if_neg (Ne.symm h.1), ih h.2]

end Text

namespace Numeral

variable {n : Nat} {c : Char}

theorem isBlank_digit (h : c ∈ digits 10 n) : Text.isBlank c = false := by
  obtain ⟨d, hd, rfl⟩ := eq_digitChar_of_mem (by decide) h
  exact (by decide : ∀ d < 10, Text.isBlank d.digitChar = false) d hd

theorem dot_not_mem : '.' ∉ digits 10 n := by
  intro h
  obtain ⟨d, hd, e⟩ := eq_digitChar_of_mem (by decide) h
  exact (by decide : ∀ d < 10, '.' ≠ d.digitChar) d hd e

end Numeral

namespace PortId

open Numeral

/-- The text of an id, as characters. -/
theorem toList_render (id : PortId) : id.render.toList =
    digits 10 id.domain ++ '.' :: (digits 10 id.channel ++ '.' :: digits 10 id.role) := by
  simp [render, decimal]

theorem trim_render (id : PortId) : Text.trim id.render.toList = id.render.toList := by
  refine Text.trim_of_ends ?_ ?_ <;> rw [toList_render]
  · exact stops_append (digits_ne_nil _ _) (fun _ => isBlank_digit) _
  · simp only [List.reverse_append, List.reverse_cons, List.append_assoc]
    exact stops_append (by simp) (fun c hc => isBlank_digit (List.mem_reverse.1 hc)) _

theorem readParts_digits {d c r : Nat} (text : String) (hd : d < 2) (hc : c < 256) (hr : r < 128) :
    readParts text (digits 10 d) (digits 10 c) (digits 10 r) = .ok (ofParts d c r) := by
  simp only [readParts, read_digits (by decide : 1 < 10) (by decide : 10 ≤ 16)
    (by omega : d ≤ 255), read_digits (by decide : 1 < 10) (by decide : 10 ≤ 16)
    (by omega : c ≤ 255), read_digits (by decide : 1 < 10) (by decide : 10 ≤ 16)
    (by omega : r ≤ 255)]
  rw [if_neg (by omega), if_neg (by omega)]

theorem readTrimmed_render (id : PortId) : readTrimmed id.render.toList = .ok id := by
  have parts : Text.splitAt '.' id.render.toList =
      [digits 10 id.domain, digits 10 id.channel, digits 10 id.role] := by
    rw [toList_render, Text.splitAt_append dot_not_mem, Text.splitAt_append dot_not_mem,
      Text.splitAt_of_not_mem dot_not_mem]
  -- the text begins with 0 or 1 and a dot, unlike the other forms
  have others : Text.sameLetters id.render.toList "broadcast".toList = false ∧
      hexDigits? id.render.toList = none := by
    rw [toList_render]
    rcases (by have := id.domain_lt; omega : id.domain = 0 ∨ id.domain = 1) with h | h <;>
      simp [h, digits_of_lt, Text.sameLetters, hexDigits?, Text.after?]
  simp only [readTrimmed, others, parts, Bool.false_eq_true, if_false]
  rw [readParts_digits _ id.domain_lt id.channel_lt id.role_lt, ofParts_parts]

theorem read_render (id : PortId) : read id.render.toList = .ok id := by
  rw [read, trim_render, readTrimmed_render]

end PortId

end FrameBus
