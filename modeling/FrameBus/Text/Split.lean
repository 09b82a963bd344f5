/-!
# Cutting a text at a separator

`splitAt sep` cuts at every occurrence of a character, `cut? sep` at the first one only.
The pieces joined by the separator are the text again (`intercalate_splitAt`).
-/

namespace FrameBus.Text

/-! ## Algorithm -/

/-- The pieces between the occurrences of `sep`; a text without one is a single piece. -/
def splitAt (sep : Char) : List Char → List (List Char)
  | [] => [[]]
  | c :: cs =>
    if c = sep then [] :: splitAt sep cs
    else
      match splitAt sep cs with
      | [] => [[c]]
      | piece :: pieces => (c :: piece) :: pieces

/-- The texts before and after the first `sep`, if there is one. -/
def cut? (sep : Char) : List Char → Option (List Char × List Char)
  | [] => none
  | c :: cs => if c = sep then some ([], cs) else (cut? sep cs).map fun p => (c :: p.1, p.2)

/-- The text after `lead`, if it begins so. -/
def after? : (lead : List Char) → List Char → Option (List Char)
  | [], cs => some cs
  | _ :: _, [] => none
  | l :: ls, c :: cs => if l = c then after? ls cs else none

/-- Equality up to the case of the ASCII letters. -/
def sameLetters (a b : List Char) : Bool := a.map Char.toLower == b.map Char.toLower

/-! ## Lemmas -/

theorem splitAt_ne_nil (sep : Char) (cs : List Char) : splitAt sep cs ≠ [] := by
  cases cs with
  | nil => simp [splitAt]
  | cons c cs =>
    simp only [splitAt]
    split
    · simp
    · split <;> simp

theorem intercalate_splitAt (sep : Char) (cs : List Char) :
    [sep].intercalate (splitAt sep cs) = cs := by
  induction cs with
  | nil => rfl
  | cons c cs ih =>
    simp only [splitAt]
    cases h : splitAt sep cs with
    | nil => exact absurd h (splitAt_ne_nil sep cs)
    | cons piece pieces =>
      rw [h] at ih
      split
      · next hc => subst hc; simpa [List.intercalate] using ih
      · cases pieces <;> simp_all [List.intercalate]

end FrameBus.Text
