import FrameBus.Proofs.Notation.Numerals
import FrameBus.Toml.Reader
import FrameBus.Toml.Writer

/-!
# Texts of TOML that are read back

Whatever a text is made of, it is read from what is written for it (`string?_textChars`). An escape
stands for its character (`escape?_escape`). In a text of many lines quotes are read run by run
(`Reads`): a run of up to two is text, and the run at the end holds up to two of the text before the
three that close it.
-/

namespace FrameBus.Toml.Reader

open Writer

variable {c : Char} {cs done rest : List Char}

/-! ## Escapes -/

/-- The code point of an escape with four digits. -/
theorem codePoint?_digits (h : c.toNat < 0x10000) (rest : List Char) :
    codePoint? 4 ((Numeral.padLeft '0' 4 (Numeral.digits 16 c.toNat)).map Char.toUpper ++ rest) =
      some (c, rest) := by
  have short : (Numeral.digits 16 c.toNat).length ≤ 4 :=
    (Nat.length_toDigits_le_iff (by decide) (by decide)).2 (by omega)
  have length : ((Numeral.padLeft '0' 4 (Numeral.digits 16 c.toNat)).map Char.toUpper).length =
      4 := by
    rw [List.length_map, Numeral.padLeft, List.length_append, List.length_replicate]
    omega
  have upper : ∀ d ∈ Numeral.padLeft '0' 4 (Numeral.digits 16 c.toNat),
      Numeral.digit? 16 d.toUpper = Numeral.digit? 16 d := by
    intro d hd
    obtain ⟨k, hk, rfl⟩ : ∃ k < 16, d = k.digitChar := by
      rcases List.mem_append.1 hd with hd | hd
      · exact ⟨0, by decide, List.eq_of_mem_replicate hd⟩
      · exact Numeral.eq_digitChar_of_mem (by decide) hd
    exact (by decide : ∀ k < 16, Numeral.digit? 16 k.digitChar.toUpper =
      Numeral.digit? 16 k.digitChar) k hk
  have value : Numeral.readDigits 16 0xFFFFFFFF 0
      ((Numeral.padLeft '0' 4 (Numeral.digits 16 c.toNat)).map Char.toUpper) = .ok c.toNat := by
    rw [Numeral.readDigits_map upper,
      Numeral.readDigits_padLeft (by decide) (by decide) (by omega)]
  have valid : c.toNat.isValidChar := c.valid
  simp only [codePoint?, List.take_left' length, List.drop_left' length, value, length,
    Nat.lt_irrefl, if_false, valid, if_true, Char.ofNat_toNat]

/-- Every escape that is written stands for its character, and joins no lines. -/
theorem escape?_escape (h : c.toNat < 0x10000) :
    ∃ code, escape c = '\\' :: code ∧
      ∀ rest, escape? (code ++ rest) = some (c, rest) ∧ lineJoin? (code ++ rest) = none := by
  unfold escape
  split
  case h_8 => exact ⟨_, rfl, fun rest => ⟨codePoint?_digits h rest, rfl⟩⟩
  all_goals exact ⟨_, rfl, fun _ => ⟨rfl, rfl⟩⟩

/-- What is written as an escape. -/
def escapes (multi : Bool) (c : Char) : Bool :=
  needsCode c || c = '\t' || c = '\\' || (c = '\n' && !multi)

theorem lt_of_escapes {multi : Bool} (h : escapes multi c = true) : c.toNat < 0x10000 := by
  simp only [escapes, needsCode, Bool.or_eq_true, Bool.and_eq_true, decide_eq_true_eq,
    beq_iff_eq] at h
  rcases h with (((⟨⟨low, -⟩, -⟩ | del) | rfl) | rfl) | ⟨rfl, -⟩
  · omega
  · omega
  · decide
  · decide
  · decide

/-- What is written without an escape can be read without one. -/
theorem isBasic_of_not_escapes {multi : Bool} (h : escapes multi c = false) (quote : c ≠ '"')
    (newline : c ≠ '\n') : isBasic c = true := by
  simp only [escapes, needsCode, Bool.or_eq_false_iff, decide_eq_false_iff_not] at h
  obtain ⟨⟨⟨⟨low, del⟩, tab⟩, backslash⟩, -⟩ := h
  have high : 0x20 ≤ c.toNat := by simpa [tab, newline] using low
  simp only [beq_eq_false_iff_ne] at del
  simp [isBasic, high, quote, backslash, del]

theorem escaped_escape {multi : Bool} {quotes run : Nat} (quote : c ≠ '"')
    (h : escapes multi c = true) (cs : List Char) :
    escaped multi quotes run (c :: cs) = escape c ++ escaped multi quotes 0 cs := by
  rw [escaped, if_neg quote]
  exact if_pos h

theorem escaped_plain {multi : Bool} {quotes run : Nat} (quote : c ≠ '"')
    (h : escapes multi c = false) (cs : List Char) :
    escaped multi quotes run (c :: cs) = c :: escaped multi quotes 0 cs := by
  rw [escaped, if_neg quote]
  exact if_neg (Bool.not_eq_true _ ▸ h)

theorem escaped_quote {multi : Bool} {quotes run : Nat} (h : quotes ≤ run) (cs : List Char) :
    escaped multi quotes run ('"' :: cs) = escape '"' ++ escaped multi quotes 0 cs := by
  rw [escaped, if_pos rfl, if_pos h]

theorem escaped_keep {multi : Bool} {quotes run : Nat} (h : run < quotes) (cs : List Char) :
    escaped multi quotes run ('"' :: cs) = '"' :: escaped multi quotes (run + 1) cs := by
  rw [escaped, if_pos rfl, if_neg (by omega)]

/-! ## Texts of one line -/

theorem basic?_escape (fuel : Nat) (done : List Char) (lt : c.toNat < 0x10000) (rest : List Char) :
    basic? (fuel + 1) done (escape c ++ rest) = basic? fuel (c :: done) rest := by
  obtain ⟨code, e, read⟩ := escape?_escape lt
  rw [e, List.cons_append, basic?, (read rest).1]

theorem basic?_plain (fuel : Nat) (done : List Char) (h : isBasic c = true) (rest : List Char) :
    basic? (fuel + 1) done (c :: rest) = basic? fuel (c :: done) rest := by
  rw [basic?, if_pos h]
  · rintro rfl
    cases h
  · rintro rfl
    cases h

theorem length_escape_pos (lt : c.toNat < 0x10000) : 0 < (escape c).length := by
  obtain ⟨code, e, -⟩ := escape?_escape lt
  simp [e]

/-- A basic string is read up to its closing quote. -/
theorem basic?_escaped (fuel : Nat) (cs done rest : List Char)
    (more : (escaped false 0 0 cs ++ '"' :: rest).length < fuel) :
    basic? fuel done (escaped false 0 0 cs ++ '"' :: rest) = some (done.reverse ++ cs, rest) := by
  induction cs generalizing fuel done with
  | nil =>
    obtain ⟨fuel, rfl⟩ := Nat.exists_eq_add_one_of_ne_zero (Nat.ne_zero_of_lt more)
    simp [escaped, basic?]
  | cons c cs ih =>
    obtain ⟨fuel, rfl⟩ := Nat.exists_eq_add_one_of_ne_zero (Nat.ne_zero_of_lt more)
    have coded (lt : c.toNat < 0x10000)
        (e : escaped false 0 0 (c :: cs) = escape c ++ escaped false 0 0 cs) :
        basic? (fuel + 1) done (escaped false 0 0 (c :: cs) ++ '"' :: rest) =
          some (done.reverse ++ c :: cs, rest) := by
      have some := length_escape_pos lt
      rw [e, List.append_assoc, List.length_append] at more
      rw [e, List.append_assoc, basic?_escape fuel done lt, ih fuel (c :: done) (by omega)]
      simp
    by_cases quote : c = '"'
    · subst quote
      exact coded (by decide) (escaped_quote (Nat.zero_le _) cs)
    · cases h : escapes false c with
      | true => exact coded (lt_of_escapes h) (escaped_escape quote h cs)
      | false =>
        have basic := isBasic_of_not_escapes h quote (by rintro rfl; cases h)
        rw [escaped_plain quote h, List.cons_append, List.length_cons] at more
        rw [escaped_plain quote h, List.cons_append, basic?_plain fuel done basic,
          ih fuel (c :: done) (by omega)]
        simp

theorem literal?_literal (h : ∀ c ∈ cs, isLiteral c = true) (rest : List Char) :
    literal? (cs ++ '\'' :: rest) = some (cs, rest) := by
  rw [literal?, span_append h (stops_cons.2 (by decide))]
  rfl

/-! ## Texts of many lines -/

/-- A reader of many lines that has enough steps comes to a result. -/
def Reads (quote : Char) (done cs : List Char) (result : List Char × List Char) : Prop :=
  ∀ fuel, cs.length < fuel → multiline? quote fuel done cs = some result

variable {quote : Char} {result : List Char × List Char}

/-- A run of quotes, whatever it is for. -/
theorem multiline?_run (fuel k : Nat) (done : List Char) (stop : Stops (· == quote) rest) :
    multiline? quote (fuel + 1) done (List.replicate (k + 1) quote ++ rest) =
      if (closing (k + 1)).2 then
        some ((List.replicate (closing (k + 1)).1 quote ++ done).reverse,
          (List.replicate (k + 1) quote ++ rest).drop ((closing (k + 1)).1 + 3))
      else multiline? quote fuel (List.replicate (closing (k + 1)).1 quote ++ done)
        ((List.replicate (k + 1) quote ++ rest).drop (closing (k + 1)).1) := by
  have run : ((List.replicate (k + 1) quote ++ rest).takeWhile (· == quote)).length = k + 1 := by
    rw [List.takeWhile_append_of_pos (by simp), takeWhile_of_stops stop, List.append_nil,
      List.length_replicate]
  rw [List.replicate_succ, List.cons_append] at run ⊢
  rw [multiline?, if_pos rfl, run]

theorem reads_quotes {k : Nat} (few : k ≤ 2) (stop : Stops (· == quote) rest)
    (h : Reads quote (List.replicate k quote ++ done) rest result) :
    Reads quote done (List.replicate k quote ++ rest) result := by
  intro fuel more
  cases k with
  | zero => exact h fuel more
  | succ k =>
    obtain ⟨fuel, rfl⟩ := Nat.exists_eq_add_one_of_ne_zero (Nat.ne_zero_of_lt more)
    have text : closing (k + 1) = (k + 1, false) := by rw [closing, if_pos (by omega)]
    rw [multiline?_run fuel k done stop, text]
    simp only [Bool.false_eq_true, if_false]
    rw [List.drop_left' List.length_replicate]
    simp only [List.length_append, List.length_replicate] at more
    exact h fuel (by omega)

/-- The closing quotes, with those of the text before them. -/
theorem reads_closing {k : Nat} (few : k ≤ 2) (stop : Stops (· == quote) rest) (done : List Char) :
    Reads quote done (List.replicate k quote ++ (List.replicate 3 quote ++ rest))
      (done.reverse ++ List.replicate k quote, rest) := by
  intro fuel more
  obtain ⟨fuel, rfl⟩ := Nat.exists_eq_add_one_of_ne_zero (Nat.ne_zero_of_lt more)
  have ends : closing (k + 2 + 1) = (k, true) := by
    rw [closing, if_neg (by omega)]
    simp only [Prod.mk.injEq, and_true]
    omega
  rw [← List.append_assoc, List.replicate_append_replicate,
    multiline?_run fuel (k + 2) done stop, ends, if_pos rfl,
    List.drop_left' List.length_replicate, List.reverse_append, List.reverse_replicate]

theorem reads_newline (h : Reads quote ('\n' :: done) rest result) (other : '\n' ≠ quote) :
    Reads quote done ('\n' :: rest) result := by
  intro fuel more
  obtain ⟨fuel, rfl⟩ := Nat.exists_eq_add_one_of_ne_zero (Nat.ne_zero_of_lt more)
  rw [multiline?, if_neg other]
  exact h fuel (Nat.lt_of_succ_lt_succ more)

theorem newline?_of_ne (newline : c ≠ '\n') (return_ : c ≠ '\r') : newline? (c :: rest) = none := by
  unfold newline?
  split
  · next e => exact absurd (List.cons.inj e).1 newline
  · next e => exact absurd (List.cons.inj e).1 return_
  · rfl

theorem reads_plain (h : Reads quote (c :: done) rest result)
    (plain : (if quote = '"' then isBasic c else isLiteral c) = true) (other : c ≠ quote) :
    Reads quote done (c :: rest) result := by
  intro fuel more
  obtain ⟨fuel, rfl⟩ := Nat.exists_eq_add_one_of_ne_zero (Nat.ne_zero_of_lt more)
  have none : newline? (c :: rest) = none := by
    apply newline?_of_ne <;> rintro rfl <;> split at plain <;> cases plain
  have no_escape : ¬ (quote = '"' ∧ c = '\\') := by
    rintro ⟨rfl, rfl⟩
    cases plain
  rw [multiline?, if_neg other, none]
  simp only [no_escape, if_false, plain, if_true]
  exact h fuel (Nat.lt_of_succ_lt_succ more)

theorem reads_escape (h : Reads '"' (c :: done) rest result) (lt : c.toNat < 0x10000) :
    Reads '"' done (escape c ++ rest) result := by
  intro fuel more
  obtain ⟨fuel, rfl⟩ := Nat.exists_eq_add_one_of_ne_zero (Nat.ne_zero_of_lt more)
  obtain ⟨code, e, read⟩ := escape?_escape lt
  rw [e, List.cons_append] at more ⊢
  rw [multiline?, if_neg (by decide), newline?_of_ne (by decide) (by decide)]
  simp only [(read rest).1, (read rest).2, and_self, if_true]
  refine h fuel ?_
  simp only [List.length_cons, List.length_append] at more
  omega

/-! ## Texts with escapes -/

theorem stops_escape (lt : c.toNat < 0x10000) (rest : List Char) :
    Stops (· == '"') (escape c ++ rest) := by
  obtain ⟨code, e, -⟩ := escape?_escape lt
  rw [e]
  exact stops_cons.2 (by decide)

/-- A text with escapes, behind quotes that are not read yet. -/
theorem reads_escaped (stop : Stops (· == '"') rest) (cs : List Char) (run : Nat) (few : run ≤ 2)
    (done : List Char) :
    Reads '"' done (List.replicate run '"' ++ (escaped true 2 run cs ++ '"' :: '"' :: '"' :: rest))
      (done.reverse ++ List.replicate run '"' ++ cs, rest) := by
  induction cs generalizing run done with
  | nil => simpa [escaped] using reads_closing few stop done
  | cons c cs ih =>
    have next : Reads '"' (c :: (List.replicate run '"' ++ done))
        (escaped true 2 0 cs ++ '"' :: '"' :: '"' :: rest)
        (done.reverse ++ List.replicate run '"' ++ c :: cs, rest) := by
      simpa using ih 0 (by decide) (c :: (List.replicate run '"' ++ done))
    have coded (lt : c.toNat < 0x10000)
        (e : escaped true 2 run (c :: cs) = escape c ++ escaped true 2 0 cs) :
        Reads '"' done (List.replicate run '"' ++
          (escaped true 2 run (c :: cs) ++ '"' :: '"' :: '"' :: rest))
          (done.reverse ++ List.replicate run '"' ++ c :: cs, rest) := by
      rw [e, List.append_assoc]
      exact reads_quotes few (stops_escape lt _) (reads_escape next lt)
    by_cases quote : c = '"'
    · subst quote
      by_cases room : run < 2
      · have longer := ih (run + 1) room done
        rw [List.replicate_succ'] at longer
        simpa [escaped_keep room] using longer
      · exact coded (by decide) (escaped_quote (by omega) cs)
    · cases h : escapes true c with
      | true => exact coded (lt_of_escapes h) (escaped_escape quote h cs)
      | false =>
        rw [escaped_plain quote h, List.cons_append]
        refine reads_quotes few (stops_cons.2 (by simpa using quote)) ?_
        by_cases newline : c = '\n'
        · subst newline
          exact reads_newline next (by decide)
        · exact reads_plain next (isBasic_of_not_escapes h quote newline) quote

/-- What needs no code can stand in a literal string, but for quotes and line ends. -/
theorem isLiteral_of_not_needsCode (h : needsCode c = false) (quote : c ≠ '\'')
    (newline : c ≠ '\n') : isLiteral c = true := by
  simp only [needsCode, Bool.or_eq_false_iff, beq_eq_false_iff_ne] at h
  by_cases tab : c = '\t'
  · simp [isLiteral, tab]
  · have high : 0x20 ≤ c.toNat := by simpa [tab, newline] using h.1
    simp [isLiteral, high, quote, h.2]

/-- A text as it stands, behind quotes that are not read yet. -/
theorem reads_literal (stop : Stops (· == '\'') rest) (cs : List Char) (run : Nat)
    (few : longestRun '\'' run cs ≤ 2) (codes : ∀ c ∈ cs, needsCode c = false) (done : List Char) :
    Reads '\'' done (List.replicate run '\'' ++ (cs ++ '\'' :: '\'' :: '\'' :: rest))
      (done.reverse ++ List.replicate run '\'' ++ cs, rest) := by
  induction cs generalizing run done with
  | nil =>
    rw [longestRun] at few
    simpa using reads_closing few stop done
  | cons c cs ih =>
    have codes_cs : ∀ c ∈ cs, needsCode c = false := fun d hd => codes d (List.mem_cons_of_mem _ hd)
    by_cases quote : c = '\''
    · subst quote
      rw [longestRun, if_pos rfl] at few
      have longer := ih (run + 1) few codes_cs done
      rw [List.replicate_succ'] at longer
      simpa using longer
    · rw [longestRun, if_neg quote] at few
      have next : Reads '\'' (c :: (List.replicate run '\'' ++ done))
          (cs ++ '\'' :: '\'' :: '\'' :: rest)
          (done.reverse ++ List.replicate run '\'' ++ c :: cs, rest) := by
        simpa using ih 0 (by omega) codes_cs (c :: (List.replicate run '\'' ++ done))
      rw [List.cons_append]
      refine reads_quotes (by omega) (stops_cons.2 (by simpa using quote)) ?_
      by_cases newline : c = '\n'
      · subst newline
        exact reads_newline next (by decide)
      · exact reads_plain next
          (isLiteral_of_not_needsCode (codes c List.mem_cons_self) quote newline) quote

/-! ## Whole texts -/

/-- Behind the line end that a text of many lines is written with, its first character is no line
end that is dropped. -/
theorem opening_opened {cs text : List Char}
    (first : '\n' ∉ cs → newline? text = none) :
    opening ((if cs.contains '\n' then ['\n'] else []) ++ text) = text := by
  split
  · rfl
  · next h => rw [List.nil_append, opening, first (by simpa using h), Option.getD_none]

/-- A text of one line with escapes does not begin with a quote. -/
theorem stops_escaped (c : Char) (cs rest : List Char) :
    Stops (· == '"') (escaped false 0 0 (c :: cs) ++ rest) := by
  by_cases quote : c = '"'
  · subst quote
    rw [escaped_quote (Nat.zero_le _), List.append_assoc]
    exact stops_escape (by decide) _
  · cases h : escapes false c with
    | true =>
      rw [escaped_escape quote h, List.append_assoc]
      exact stops_escape (lt_of_escapes h) _
    | false =>
      rw [escaped_plain quote h]
      exact stops_cons.2 (by simpa using quote)

theorem string?_basic (cs rest : List Char) :
    string? (basic cs ++ '\n' :: rest) = some (cs, '\n' :: rest) := by
  have text : basic cs ++ '\n' :: rest = '"' :: (escaped false 0 0 cs ++ '"' :: '\n' :: rest) := by
    simp [basic]
  rw [text, string?, basic?_escaped _ cs [] _ (Nat.lt_succ_self _)]
  · rfl
  -- the opening quote does not begin a text of many lines
  · intro more e
    cases cs with
    | nil => simp [escaped] at e
    | cons c cs =>
      have first := stops_escaped c cs ('"' :: '\n' :: rest)
      rw [e] at first
      exact absurd (stops_cons.1 first) (by decide)

theorem string?_literal (h : ∀ c ∈ cs, isLiteral c = true) (rest : List Char) :
    string? (literal cs ++ '\n' :: rest) = some (cs, '\n' :: rest) := by
  have text : literal cs ++ '\n' :: rest = '\'' :: (cs ++ '\'' :: '\n' :: rest) := by
    simp [literal]
  rw [text, string?, literal?_literal h]
  · intro more e
    cases cs with
    | nil => simp at e
    | cons c cs =>
      have quote : c = '\'' := (List.cons.inj e).1
      have literal := h c List.mem_cons_self
      rw [quote] at literal
      cases literal

/-- The first character of a text with escapes is no line end, unless the text has one. -/
theorem newline?_escaped (h : '\n' ∉ cs) (rest : List Char) :
    newline? (escaped true 2 0 cs ++ '"' :: rest) = none := by
  cases cs with
  | nil => exact newline?_of_ne (by decide) (by decide)
  | cons c cs =>
    have coded (lt : c.toNat < 0x10000) (more : List Char) :
        newline? (escape c ++ more) = none := by
      obtain ⟨code, e, -⟩ := escape?_escape lt
      rw [e]
      exact newline?_of_ne (by decide) (by decide)
    simp only [List.mem_cons, not_or] at h
    by_cases quote : c = '"'
    · subst quote
      rw [escaped_keep (by decide)]
      exact newline?_of_ne (by decide) (by decide)
    · cases he : escapes true c with
      | true =>
        rw [escaped_escape quote he, List.append_assoc]
        exact coded (lt_of_escapes he) _
      | false =>
        rw [escaped_plain quote he]
        refine newline?_of_ne (Ne.symm h.1) ?_
        rintro rfl
        cases he

theorem string?_multiBasic (cs rest : List Char) :
    string? (multiBasic cs ++ '\n' :: rest) = some (cs, '\n' :: rest) := by
  have reads := reads_escaped (stops_cons.2 (by decide) : Stops (· == '"') ('\n' :: rest)) cs
    0 (by decide) []
  have text : multiBasic cs ++ '\n' :: rest = '"' :: '"' :: '"' ::
      ((if cs.contains '\n' then ['\n'] else []) ++
        (escaped true 2 0 cs ++ '"' :: '"' :: '"' :: '\n' :: rest)) := by
    simp [multiBasic, opened]
  rw [text, string?, opening_opened fun h => newline?_escaped h _]
  refine reads _ ?_
  simp only [List.length_append, List.replicate_zero, List.nil_append]
  omega

theorem string?_multiLiteral (few : longestRun '\'' 0 cs ≤ 2)
    (codes : ∀ c ∈ cs, needsCode c = false) (rest : List Char) :
    string? (multiLiteral cs ++ '\n' :: rest) = some (cs, '\n' :: rest) := by
  have reads := reads_literal (stops_cons.2 (by decide) : Stops (· == '\'') ('\n' :: rest)) cs 0 few
    codes []
  have text : multiLiteral cs ++ '\n' :: rest = '\'' :: '\'' :: '\'' ::
      ((if cs.contains '\n' then ['\n'] else []) ++
        (cs ++ '\'' :: '\'' :: '\'' :: '\n' :: rest)) := by
    simp [multiLiteral, opened]
  have first (h : '\n' ∉ cs) : newline? (cs ++ '\'' :: '\'' :: '\'' :: '\n' :: rest) = none := by
    cases cs with
    | nil => exact newline?_of_ne (by decide) (by decide)
    | cons c cs =>
      refine newline?_of_ne (fun e => h (e ▸ List.mem_cons_self)) ?_
      rintro rfl
      cases codes '\r' List.mem_cons_self
  rw [text, string?, opening_opened first]
  refine reads _ ?_
  simp only [List.length_append, List.replicate_zero, List.nil_append]
  omega

theorem le_longestRun (q : Char) (run : Nat) (cs : List Char) : run ≤ longestRun q run cs := by
  induction cs generalizing run with
  | nil => exact Nat.le_refl _
  | cons c cs ih =>
    rw [longestRun]
    split
    · exact Nat.le_trans (Nat.le_succ run) (ih (run + 1))
    · exact Nat.le_max_left _ _

theorem not_mem_of_longestRun {q : Char} (run : Nat) (h : longestRun q run cs = 0) : q ∉ cs := by
  induction cs generalizing run with
  | nil => exact List.not_mem_nil
  | cons c cs ih =>
    rw [longestRun] at h
    split at h
    · have := le_longestRun q (run + 1) cs
      omega
    · next other =>
      exact List.not_mem_cons_of_ne_of_not_mem (Ne.symm other) (ih 0 (by omega))

/-- Every text is read from what is written for it. -/
theorem string?_textChars (cs rest : List Char) :
    string? (textChars cs ++ '\n' :: rest) = some (cs, '\n' :: rest) := by
  have plain (h : (!cs.any needsCode) = true) : ∀ c ∈ cs, needsCode c = false := by
    simpa using h
  simp only [textChars, Bool.and_eq_true, decide_eq_true_eq, beq_iff_eq]
  split
  · exact string?_basic cs rest
  split
  · next h =>
    obtain ⟨⟨codes, single⟩, newline⟩ := h
    refine string?_literal (fun c hc => isLiteral_of_not_needsCode (plain codes c hc) ?_ ?_) rest
    · rintro rfl
      exact not_mem_of_longestRun 0 single hc
    · rintro rfl
      simp [hc] at newline
  split
  · exact string?_multiBasic cs rest
  split
  · next h => exact string?_multiLiteral h.2 (plain h.1) rest
  split
  · exact string?_multiBasic cs rest
  · exact string?_basic cs rest

end FrameBus.Toml.Reader
