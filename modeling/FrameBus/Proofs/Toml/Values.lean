import FrameBus.Proofs.Toml.Texts

/-!
# Values of TOML that are read back

What is written for a text or a number spells that value for a reader (`Spells`), if a line ends
behind it. Digits are no beginning of a date or a time, as neither `-` nor `:` comes behind them,
and no number with a fraction, as there is neither a dot nor an exponent.
-/

namespace FrameBus.Toml.Reader

open Numeral

variable {n : Nat} {cs ds rest : List Char}

/-- What a text spells as the value of an entry. -/
structure Spells (cs : List Char) (v : Value) : Prop where
  read : ∀ fuel depth rest, value? (fuel + 1) depth (cs ++ '\n' :: rest) = some (v, '\n' :: rest)
  first : ∀ rest, Stops isBlank (cs ++ rest)

/-! ## Texts -/

theorem quote_of_textChars (cs : List Char) :
    ∃ text, Writer.textChars cs = '"' :: text ∨ Writer.textChars cs = '\'' :: text := by
  simp only [Writer.textChars]
  split
  · exact ⟨_, .inl rfl⟩
  split
  · exact ⟨_, .inr rfl⟩
  split
  · exact ⟨_, .inl rfl⟩
  split
  · exact ⟨_, .inr rfl⟩
  split <;> exact ⟨_, .inl rfl⟩

theorem spells_text (s : String) : Spells (Writer.text s).toList (.text s) := by
  obtain ⟨text, h⟩ := quote_of_textChars s.toList
  have chars : (Writer.text s).toList = Writer.textChars s.toList := String.toList_ofList
  rw [chars]
  refine ⟨fun fuel depth rest => ?_, fun rest => ?_⟩
  · have read := string?_textChars s.toList rest
    rcases h with h | h <;> rw [h, List.cons_append] at read ⊢ <;>
      simp only [value?, read, Option.map_some, String.ofList_toList]
  · rcases h with h | h <;> rw [h] <;> exact stops_cons.2 (by decide)

/-! ## Numbers -/

def AllDigits (ds : List Char) : Prop := ∀ c ∈ ds, c.isDigit = true

theorem allDigits_digits (n : Nat) : AllDigits (digits 10 n) :=
  fun _ h => Nat.isDigit_of_mem_toDigits (by decide) (by decide) h

/-- The first digit, and what cannot be behind it. -/
theorem digits_eq_cons (n : Nat) : ∃ c ds, digits 10 n = c :: ds ∧ c.isDigit = true ∧
    AllDigits ds ∧ (c = '0' → ds = []) := by
  have all := allDigits_digits n
  have zero : (digits 10 n).head? = some '0' → (digits 10 n).length = 1 :=
    length_digits_of_zero (by decide) (by decide)
  cases h : digits 10 n with
  | nil => exact absurd h (digits_ne_nil _ _)
  | cons c ds =>
    rw [h] at all zero
    refine ⟨c, ds, rfl, all c List.mem_cons_self, fun d hd => all d (List.mem_cons_of_mem _ hd), ?_⟩
    rintro rfl
    simpa using zero

theorem field?_digits {width low high m : Nat} {after : List Char} (all : AllDigits ds)
    (h : field? width low high (ds ++ '\n' :: rest) = some (m, after)) :
    ∃ more, AllDigits more ∧ after = more ++ '\n' :: rest := by
  simp only [field?] at h
  split at h
  · next fits =>
    cases h
    by_cases inside : width ≤ ds.length
    · exact ⟨ds.drop width, fun c hc => all c (List.mem_of_mem_drop hc),
        List.drop_append_of_le_length inside⟩
    -- a field that goes beyond the digits has the line end in it
    · obtain ⟨k, hk⟩ : ∃ k, width - ds.length = k + 1 := ⟨width - ds.length - 1, by omega⟩
      have mem : '\n' ∈ (ds ++ '\n' :: rest).take width := by
        rw [List.take_append, hk, List.take_succ_cons]
        simp
      exact absurd (List.all_eq_true.1 fits.2.1 _ mem) (by decide)
  · cases h

theorem ne_of_isDigit {c d : Char} (hc : c.isDigit = true) (hd : d.isDigit = false) : c ≠ d := by
  rintro rfl
  rw [hd] at hc
  cases hc

theorem mark?_digits {d : Char} (all : AllDigits ds) (other : d.isDigit = false)
    (newline : '\n' ≠ d) : mark? (· == d) (ds ++ '\n' :: rest) = none := by
  cases ds with
  | nil => simp [mark?, newline]
  | cons c ds => simp [mark?, ne_of_isDigit (all c List.mem_cons_self) other]

theorem moment?_digits (all : AllDigits ds) (rest : List Char) :
    moment? (ds ++ '\n' :: rest) = none := by
  have no_date : date? (ds ++ '\n' :: rest) = none := by
    unfold date?
    cases h : field? 4 0 9999 (ds ++ '\n' :: rest) with
    | none => rfl
    | some p =>
      obtain ⟨more, all, e⟩ := field?_digits all h
      simp [e, mark?_digits all (d := '-') (by decide) (by decide)]
  have no_time : time? (ds ++ '\n' :: rest) = none := by
    unfold time?
    cases h : field? 2 0 23 (ds ++ '\n' :: rest) with
    | none => rfl
    | some p =>
      obtain ⟨more, all, e⟩ := field?_digits all h
      simp [e, mark?_digits all (d := ':') (by decide) (by decide)]
  simp [moment?, no_date, no_time]

theorem go_digits {fuel : Nat} (done rest : List Char) (all : AllDigits ds)
    (more : ds.length < fuel) :
    digits?.go Char.isDigit fuel done (ds ++ '\n' :: rest) =
      (done.reverse ++ ds, '\n' :: rest) := by
  induction ds generalizing fuel done with
  | nil =>
    obtain ⟨fuel, rfl⟩ := Nat.exists_eq_add_one_of_ne_zero (Nat.ne_zero_of_lt more)
    rw [List.nil_append, digits?.go, if_neg (by decide), List.append_nil]
    rintro d more h
    exact absurd h (by decide)
  | cons c ds ih =>
    obtain ⟨fuel, rfl⟩ := Nat.exists_eq_add_one_of_ne_zero (Nat.ne_zero_of_lt more)
    have digit := all c List.mem_cons_self
    rw [List.cons_append, digits?.go, if_pos digit,
      ih (c :: done) (fun d hd => all d (List.mem_cons_of_mem _ hd)) (Nat.lt_of_succ_lt_succ more)]
    · simp
    · rintro d more h
      exact absurd h (ne_of_isDigit digit (by decide))

theorem decimal?_digits (n : Nat) (rest : List Char) :
    decimal? (digits 10 n ++ '\n' :: rest) = some (digits 10 n, '\n' :: rest) := by
  obtain ⟨c, ds, e, digit, all, zero⟩ := digits_eq_cons n
  rw [e]
  by_cases first : c = '0'
  · rw [zero first, first]
    rfl
  · have enough : ds.length < (ds ++ '\n' :: rest).length + 1 := by
      rw [List.length_append]
      omega
    have read := go_digits [c] rest all enough
    rw [List.cons_append, decimal?, digits?, if_pos digit, read]
    · rfl
    · rintro more h
      exact first (List.cons.inj h).1

theorem sign_digits (n : Nat) (rest : List Char) :
    sign (digits 10 n ++ rest) = (false, digits 10 n ++ rest) := by
  obtain ⟨c, ds, e, digit, -, -⟩ := digits_eq_cons n
  rw [e, List.cons_append, sign]
  · rintro more h
    exact ne_of_isDigit digit (by decide) (List.cons.inj h).1
  · rintro more h
    exact ne_of_isDigit digit (by decide) (List.cons.inj h).1

theorem float?_digits (n : Nat) (rest : List Char) :
    float? (digits 10 n ++ '\n' :: rest) = none := by
  have none : special? false (digits 10 n ++ '\n' :: rest) = none := by
    obtain ⟨c, ds, e, digit, -, -⟩ := digits_eq_cons n
    rw [e, List.cons_append]
    unfold special?
    split
    · next h => exact absurd (List.cons.inj h).1 (ne_of_isDigit digit (by decide))
    · next h => exact absurd (List.cons.inj h).1 (ne_of_isDigit digit (by decide))
    · rfl
  simp only [float?, sign_digits, none, decimal?_digits]
  rfl

theorem integer?_digits (h : n ≤ 0x7FFFFFFFFFFFFFFF) (rest : List Char) :
    integer? (digits 10 n ++ '\n' :: rest) = some (.int n, '\n' :: rest) := by
  have no_radix (c : Char) (hc : '\n' ≠ c) (more : List Char) :
      digits 10 n ++ '\n' :: rest ≠ '0' :: c :: more := by
    obtain ⟨d, ds, e, -, -, zero⟩ := digits_eq_cons n
    rw [e]
    intro h
    obtain ⟨first, second⟩ := List.cons.inj h
    rw [zero first] at second
    exact hc (List.cons.inj second).1
  unfold integer?
  split
  · next e => exact absurd e (no_radix 'x' (by decide) _)
  · next e => exact absurd e (no_radix 'o' (by decide) _)
  · next e => exact absurd e (no_radix 'b' (by decide) _)
  · have value : readDigits 10 0x7FFFFFFFFFFFFFFF 0 (digits 10 n) = .ok n :=
      readDigits_digits (by decide) (by decide) h
    simp [sign_digits, decimal?_digits, value]

theorem spells_decimal (h : n ≤ 0x7FFFFFFFFFFFFFFF) : Spells (decimal n).toList (.int n) := by
  obtain ⟨c, ds, e, digit, -, -⟩ := digits_eq_cons n
  have chars : (decimal n).toList = digits 10 n := String.toList_ofList
  rw [chars]
  refine ⟨fun fuel depth rest => ?_, fun rest => ?_⟩
  · have read := integer?_digits h rest
    have fraction := float?_digits n rest
    have moment := moment?_digits (allDigits_digits n) rest
    rw [e, List.cons_append] at read fraction moment ⊢
    rw [value?, moment, fraction, read]
    · rfl
    -- a digit begins no other value
    all_goals exact fun _ h => ne_of_isDigit digit (by decide) (List.cons.inj h).1
  · rw [e]
    exact stops_cons.2 (by simp [isBlank, ne_of_isDigit digit])

end FrameBus.Toml.Reader
