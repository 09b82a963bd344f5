import FrameBus.Numeral
import Mathlib.Data.List.Basic
import Mathlib.Data.List.TakeDrop

/-!
# Whole numbers that are read back

The digits of a number are read as that number (`readDigits_digits`), also with zeros in front and
with letters of the other case. There is a digit at least, and the first one is no zero unless it is
the only one (`length_digits_of_zero`). A reader that takes digits as long as there are any takes
all of them and no more (`span_digits`), if what comes behind them begins otherwise (`Stops`).
-/

namespace FrameBus

/-- A text that does not begin with a character of a kind. -/
def Stops (p : Char → Bool) (cs : List Char) : Prop := ∀ c ∈ cs.head?, p c = false

theorem stops_nil (p : Char → Bool) : Stops p [] := fun _ h => nomatch h

theorem stops_cons {p : Char → Bool} {c : Char} {cs : List Char} :
    Stops p (c :: cs) ↔ p c = false := by
  simp [Stops]

theorem stops_append {p : Char → Bool} {cs : List Char} (some : cs ≠ [])
    (none : ∀ c ∈ cs, p c = false) (rest : List Char) : Stops p (cs ++ rest) := by
  cases cs with
  | nil => exact absurd rfl some
  | cons c cs => exact stops_cons.2 (none c List.mem_cons_self)

theorem takeWhile_of_stops {p : Char → Bool} {cs : List Char} (stop : Stops p cs) :
    cs.takeWhile p = [] := by
  cases cs with
  | nil => rfl
  | cons c cs => simp [stops_cons.1 stop]

theorem dropWhile_of_stops {p : Char → Bool} {cs : List Char} (stop : Stops p cs) :
    cs.dropWhile p = cs := by
  cases cs with
  | nil => rfl
  | cons c cs => simp [stops_cons.1 stop]

theorem span_append {p : Char → Bool} {cs rest : List Char} (all : ∀ c ∈ cs, p c = true)
    (stop : Stops p rest) : (cs ++ rest).span p = (cs, rest) := by
  rw [List.span_eq_takeWhile_dropWhile, List.takeWhile_append_of_pos all,
    List.dropWhile_append_of_pos all, takeWhile_of_stops stop, dropWhile_of_stops stop,
    List.append_nil]

namespace Numeral

variable {radix limit n : Nat}

/-! ## Digits -/

theorem digit?_digitChar {d : Nat} (hr : radix ≤ 16) (hd : d < radix) :
    digit? radix d.digitChar = some d := by
  have value : ∀ d < 16, digitValue d.digitChar = d := by decide
  simp [digit?, value d (Nat.lt_of_lt_of_le hd hr), hd]

theorem digits_of_lt (h : n < radix) : digits radix n = [n.digitChar] := Nat.toDigits_of_lt_base h

theorem digits_of_le (hr : 1 < radix) (h : radix ≤ n) :
    digits radix n = digits radix (n / radix) ++ [(n % radix).digitChar] :=
  Nat.toDigits_of_base_le hr h

@[simp] theorem digits_ne_nil (radix n : Nat) : digits radix n ≠ [] := Nat.toDigits_ne_nil

/-- The digits of a number, from those of the number without its last digit. -/
theorem digits_induction {motive : Nat → Prop} (hr : 1 < radix)
    (last : ∀ n < radix, motive n) (step : ∀ n, radix ≤ n → motive (n / radix) → motive n)
    (n : Nat) : motive n := by
  induction n using Nat.strongRecOn with
  | ind n ih =>
    by_cases h : n < radix
    · exact last n h
    · have fewer : n / radix < n := Nat.div_lt_self (by omega) hr
      exact step n (Nat.le_of_not_lt h) (ih _ fewer)

/-- Every character of a number's digits is the digit of something. -/
theorem eq_digitChar_of_mem (hr : 1 < radix) {c : Char} (h : c ∈ digits radix n) :
    ∃ d < radix, c = d.digitChar := by
  induction n using digits_induction hr with
  | last n lt =>
    rw [digits_of_lt lt, List.mem_singleton] at h
    exact ⟨n, lt, h⟩
  | step n le ih =>
    rw [digits_of_le hr le, List.mem_append, List.mem_singleton] at h
    rcases h with h | h
    · exact ih h
    · exact ⟨_, Nat.mod_lt _ (by omega), h⟩

theorem isSome_digit? (hr : 1 < radix) (hr' : radix ≤ 16) {c : Char} (h : c ∈ digits radix n) :
    (digit? radix c).isSome = true := by
  obtain ⟨d, hd, rfl⟩ := eq_digitChar_of_mem hr h
  rw [digit?_digitChar hr' hd]
  rfl

theorem span_digits (hr : 1 < radix) (hr' : radix ≤ 16) {rest : List Char}
    (stop : Stops (fun c => (digit? radix c).isSome) rest) :
    (digits radix n ++ rest).span (fun c => (digit? radix c).isSome) = (digits radix n, rest) :=
  span_append (fun _ => isSome_digit? hr hr') stop

theorem length_digits_of_zero (hr : 1 < radix) (hr' : radix ≤ 16)
    (h : (digits radix n).head? = some '0') : (digits radix n).length = 1 := by
  have zero (d : Nat) (hd : d < radix) (h : d.digitChar = '0') : d = 0 := by
    have value : ∀ d < 16, d.digitChar = '0' → d = 0 := by decide
    exact value d (by omega) h
  have more (n : Nat) (pos : 0 < n) : (digits radix n).head? ≠ some '0' := by
    induction n using digits_induction hr with
    | last n lt =>
      rw [digits_of_lt lt]
      intro h
      have := zero n lt (Option.some.inj h)
      omega
    | step n le ih =>
      rw [digits_of_le hr le, List.head?_append_of_ne_nil _ (digits_ne_nil _ _)]
      exact ih (Nat.div_pos le (by omega))
  cases n with
  | zero => rw [digits_of_lt (by omega)]; rfl
  | succ n => exact absurd h (more _ (Nat.succ_pos n))

/-! ## Reading -/

theorem readDigits_append (value : Nat) (cs rest : List Char) :
    readDigits radix limit value (cs ++ rest) =
      (readDigits radix limit value cs).bind fun v => readDigits radix limit v rest := by
  induction cs generalizing value with
  | nil => rfl
  | cons c cs ih =>
    simp only [List.cons_append, readDigits]
    split
    · rfl
    · split
      · exact ih _
      · rfl

theorem readDigits_digits (hr : 1 < radix) (hr' : radix ≤ 16) (h : n ≤ limit) :
    readDigits radix limit 0 (digits radix n) = .ok n := by
  induction n using digits_induction hr with
  | last n lt => simp [digits_of_lt lt, readDigits, digit?_digitChar hr' lt, h]
  | step n le ih =>
    have sum : n / radix * radix + n % radix = n := Nat.div_add_mod' n radix
    rw [digits_of_le hr le, readDigits_append, ih (Nat.le_trans (Nat.div_le_self _ _) h)]
    simp [Except.bind, readDigits, digit?_digitChar hr' (Nat.mod_lt n (by omega)), sum, h]

theorem readDigits_zeros (hr : 0 < radix) (k : Nat) (cs : List Char) :
    readDigits radix limit 0 (List.replicate k '0' ++ cs) = readDigits radix limit 0 cs := by
  induction k with
  | zero => rfl
  | succ k ih =>
    have zero : digit? radix '0' = some 0 := by simp [digit?, digitValue, hr]
    simpa [List.replicate_succ, readDigits, zero] using ih

theorem readDigits_padLeft (hr : 1 < radix) (hr' : radix ≤ 16) (h : n ≤ limit) (width : Nat) :
    readDigits radix limit 0 (padLeft '0' width (digits radix n)) = .ok n := by
  rw [padLeft, readDigits_zeros (by omega), readDigits_digits hr hr' h]

theorem readDigits_map {f : Char → Char} {cs : List Char} (same : ∀ c ∈ cs, digit? radix (f c) =
    digit? radix c) (value : Nat) :
    readDigits radix limit value (cs.map f) = readDigits radix limit value cs := by
  induction cs generalizing value with
  | nil => rfl
  | cons c cs ih =>
    simp only [List.map_cons, readDigits, same c List.mem_cons_self]
    split
    · rfl
    · split
      · exact ih (fun c hc => same c (List.mem_cons_of_mem _ hc)) _
      · rfl

theorem plus_not_mem (hr : 1 < radix) (hr' : radix ≤ 16) : '+' ∉ digits radix n := by
  intro h
  have none : digit? radix '+' = none := by
    rw [digit?, if_neg]
    exact fun lt => absurd (Nat.lt_of_lt_of_le lt hr') (by decide)
  have some := isSome_digit? hr hr' h
  rw [none] at some
  cases some

theorem read_digits (hr : 1 < radix) (hr' : radix ≤ 16) (h : n ≤ limit) :
    read radix limit (digits radix n) = .ok n := by
  rw [← readDigits_digits hr hr' h]
  unfold read
  split
  · next e => exact absurd e (digits_ne_nil _ _)
  · next e => exact absurd (e ▸ List.mem_singleton.2 rfl) (plus_not_mem hr hr')
  · next e => exact absurd (e ▸ List.mem_cons_self) (plus_not_mem hr hr')
  · rfl

end Numeral

end FrameBus
