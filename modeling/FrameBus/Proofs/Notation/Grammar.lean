import FrameBus.Proofs.Notation.Ports
import Mathlib.Data.List.Forall2
import Mathlib.Data.List.TakeWhile
import Mathlib.Data.Nat.Digits.Defs

/-!
# The grammar of port ids

What a port id may be written as is said without the reader: digits by a table, a number by the
value of its digits (`Numeral.Number`), and the four forms of an id by their parts
(`PortId.Written`). The reader accepts this grammar and nothing else, and answers the value that it
gives (`PortId.readTrimmed_iff`, `PortId.read_answers_iff`). The reader tries the forms in an order,
the grammar does not: the word begins with `b`, and behind the first zero of a hexadecimal number
there is an `x`, while the other forms have digits, dots and signs only (`PortId.plain_forms`).
-/

namespace FrameBus

/-- What holds of the first 128 characters. -/
theorem forall_ascii {P : Char → Prop} (all : ∀ n < 128, P (Char.ofNat n)) {c : Char}
    (ascii : c.toNat < 128) : P c := by
  have holds := all c.toNat ascii
  rwa [Char.ofNat_toNat] at holds

/-- What holds of everything that is related to an entry of a list. -/
theorem forall_mem_of_forall₂ {α β : Type} {R : α → β → Prop} {P : α → Prop} {as : List α}
    {bs : List β} (all : List.Forall₂ R as bs) (holds : ∀ a, ∀ b ∈ bs, R a b → P a) :
    ∀ a ∈ as, P a := by
  induction all with
  | nil => exact fun _ mem => absurd mem List.not_mem_nil
  | cons first _ ih =>
    exact List.forall_mem_cons.2 ⟨holds _ _ List.mem_cons_self first,
      ih fun a b mem => holds a b (List.mem_cons_of_mem _ mem)⟩

namespace Numeral

variable {radix limit n value : Nat} {cs : List Char} {c : Char}

/-! ## Digits -/

/-- A character is the digit of a number below the radix, a letter in either case. -/
def IsDigit (radix : Nat) (c : Char) (d : Nat) : Prop :=
  d < radix ∧
    ("0123456789abcdef".toList[d]? = some c ∨ "0123456789ABCDEF".toList[d]? = some c)

theorem isDigit_of_digitValue (lt : digitValue c < 16) : IsDigit 16 c (digitValue c) := by
  have ascii : c.toNat < 128 := by
    unfold digitValue at lt
    split at lt
    · next range => exact Nat.lt_of_le_of_lt range.2 (by decide)
    split at lt
    · next range => exact Nat.lt_of_le_of_lt range.2 (by decide)
    split at lt
    · next range => exact Nat.lt_of_le_of_lt range.2 (by decide)
    · exact absurd lt (by decide)
  have table : digitValue c < 16 → "0123456789abcdef".toList[digitValue c]? = some c ∨
      "0123456789ABCDEF".toList[digitValue c]? = some c := by
    apply forall_ascii _ ascii
    decide +kernel
  exact ⟨lt, table lt⟩

theorem digitValue_of_isDigit {d : Nat} (h : IsDigit 16 c d) : digitValue c = d := by
  have table : ∀ d < 16, ("0123456789abcdef".toList[d]?).map digitValue = some d ∧
      ("0123456789ABCDEF".toList[d]?).map digitValue = some d := by decide
  obtain ⟨lower, upper⟩ := table d h.1
  rcases h.2 with entry | entry
  · rw [entry] at lower
    exact Option.some.inj lower
  · rw [entry] at upper
    exact Option.some.inj upper

theorem digit?_iff (small : radix ≤ 16) {d : Nat} :
    digit? radix c = some d ↔ IsDigit radix c d := by
  constructor
  · intro read
    unfold digit? at read
    split at read
    · next lt =>
      cases read
      exact ⟨lt, (isDigit_of_digitValue (Nat.lt_of_lt_of_le lt small)).2⟩
    · cases read
  · rintro ⟨lt, entry⟩
    have value := digitValue_of_isDigit ⟨Nat.lt_of_lt_of_le lt small, entry⟩
    rw [digit?, value, if_pos lt]

theorem IsDigit.mem_of_ten {d : Nat} (h : IsDigit 10 c d) : c ∈ "0123456789".toList := by
  have table : ∀ d < 10, "0123456789abcdef".toList[d]? = "0123456789".toList[d]? ∧
      "0123456789ABCDEF".toList[d]? = "0123456789".toList[d]? := by decide
  obtain ⟨lower, upper⟩ := table d h.1
  rcases h.2 with entry | entry
  · exact List.mem_of_getElem? (lower ▸ entry)
  · exact List.mem_of_getElem? (upper ▸ entry)

theorem IsDigit.mem {d : Nat} (h : IsDigit radix c d) : c ∈ "0123456789abcdefABCDEF".toList := by
  have lower : ∀ c ∈ "0123456789abcdef".toList, c ∈ "0123456789abcdefABCDEF".toList :=
    List.forall_iff_forall_mem.1 (by decide)
  have upper : ∀ c ∈ "0123456789ABCDEF".toList, c ∈ "0123456789abcdefABCDEF".toList :=
    List.forall_iff_forall_mem.1 (by decide)
  rcases h.2 with entry | entry
  · exact lower c (List.mem_of_getElem? entry)
  · exact upper c (List.mem_of_getElem? entry)

/-! ## Numbers -/

/-- One or more digits, and the number that they are worth. -/
def Digits (radix : Nat) (cs : List Char) (n : Nat) : Prop :=
  ∃ ds, ds ≠ [] ∧ List.Forall₂ (IsDigit radix) cs ds ∧ Nat.ofDigits radix ds.reverse = n

/-- Digits, with or without a sign in front. -/
inductive Number (radix : Nat) : List Char → Nat → Prop
  | plain {ds : List Char} {v : Nat} (digits : Digits radix ds v) : Number radix ds v
  | signed {ds : List Char} {v : Nat} (digits : Digits radix ds v) : Number radix ('+' :: ds) v

/-- The worth of digits behind a number, by its first digit. -/
theorem worth_cons (radix value d : Nat) (ds : List Nat) :
    value * radix ^ (d :: ds).length + Nat.ofDigits radix (d :: ds).reverse =
      (value * radix + d) * radix ^ ds.length + Nat.ofDigits radix ds.reverse := by
  rw [List.reverse_cons, Nat.ofDigits_append, Nat.ofDigits_singleton, List.length_reverse,
    List.length_cons, Nat.pow_succ]
  ring

/-- Digits that come behind a number which was read before them. -/
theorem readDigits_iff (pos : 0 < radix) (small : radix ≤ 16) (fits : value ≤ limit) :
    readDigits radix limit value cs = .ok n ↔ ∃ ds, List.Forall₂ (IsDigit radix) cs ds ∧
      value * radix ^ ds.length + Nat.ofDigits radix ds.reverse = n ∧ n ≤ limit := by
  induction cs generalizing value with
  | nil =>
    simp only [readDigits, Except.ok.injEq, List.forall₂_nil_left_iff, exists_eq_left,
      List.length_nil, Nat.pow_zero, Nat.mul_one, List.reverse_nil, Nat.ofDigits_nil, Nat.add_zero]
    constructor
    · rintro rfl
      exact ⟨rfl, fits⟩
    · exact fun h => h.1
  | cons c cs ih =>
    rw [readDigits]
    constructor
    · intro read
      split at read
      · cases read
      · next d digit =>
        split at read
        · next le =>
          obtain ⟨ds, digits, rfl, most⟩ := (ih le).1 read
          exact ⟨d :: ds, .cons ((digit?_iff small).1 digit) digits, worth_cons .., most⟩
        · cases read
    · rintro ⟨_, all, rfl, most⟩
      obtain ⟨d, ds, digit, digits, rfl⟩ := List.forall₂_cons_left_iff.1 all
      rw [worth_cons] at most
      have le : value * radix + d ≤ limit := by
        have grows := Nat.le_mul_of_pos_right (value * radix + d) (Nat.pow_pos (n := ds.length) pos)
        omega
      rw [(digit?_iff small).2 digit]
      simp only [if_pos le]
      exact (ih le).2 ⟨ds, digits, (worth_cons ..).symm, by rwa [worth_cons]⟩

theorem readDigits_zero_iff (pos : 0 < radix) (small : radix ≤ 16) (some : cs ≠ []) :
    readDigits radix limit 0 cs = .ok n ↔ Digits radix cs n ∧ n ≤ limit := by
  rw [readDigits_iff pos small (Nat.zero_le limit)]
  simp only [Nat.zero_mul, Nat.zero_add]
  constructor
  · rintro ⟨ds, digits, worth, most⟩
    refine ⟨⟨ds, ?_, digits, worth⟩, most⟩
    rintro rfl
    cases digits
    exact some rfl
  · rintro ⟨⟨ds, -, digits, worth⟩, most⟩
    exact ⟨ds, digits, worth, most⟩

/-- A sign is no digit. -/
theorem not_digits_signed (small : radix ≤ 16) : ¬ Digits radix ('+' :: cs) n := by
  rintro ⟨_, -, all, -⟩
  obtain ⟨d, ds, sign, -⟩ := List.forall₂_cons_left_iff.1 all
  have value := digitValue_of_isDigit ⟨Nat.lt_of_lt_of_le sign.1 small, sign.2⟩
  have := sign.1
  rw [← value] at this
  exact absurd (Nat.lt_of_lt_of_le this small) (by decide)

theorem not_digits_nil : ¬ Digits radix [] n := by
  rintro ⟨_, some, ⟨⟩, -⟩
  exact some rfl

theorem number_signed_iff (small : radix ≤ 16) :
    Number radix ('+' :: cs) n ↔ Digits radix cs n := by
  constructor
  · rintro (digits | digits)
    · exact absurd digits (not_digits_signed small)
    · exact digits
  · exact .signed

/-- The reader of numbers, by what it accepts. -/
theorem read_iff (pos : 0 < radix) (small : radix ≤ 16) :
    read radix limit cs = .ok n ↔ Number radix cs n ∧ n ≤ limit := by
  unfold read
  split
  · constructor
    · nofun
    · rintro ⟨⟨digits⟩, -⟩
      exact absurd digits not_digits_nil
  · rw [number_signed_iff small]
    constructor
    · nofun
    · exact fun h => absurd h.1 not_digits_nil
  · next more =>
    rw [number_signed_iff small, readDigits_zero_iff pos small (by rintro rfl; exact more rfl)]
  · next some _ unsigned =>
    rw [readDigits_zero_iff pos small (by rintro rfl; exact some rfl)]
    refine and_congr_left fun _ => ⟨.plain, ?_⟩
    rintro (digits | @⟨ds, v, digits⟩)
    · exact digits
    · exact absurd rfl (unsigned ds)

/-- What holds of the sign and of every digit holds of all that a number is written with. -/
theorem Number.forall_mem {P : Char → Prop} (sign : P '+')
    (digit : ∀ c d, IsDigit radix c d → P c) (h : Number radix cs n) : ∀ c ∈ cs, P c := by
  have of_digits {cs : List Char} (digits : Digits radix cs n) : ∀ c ∈ cs, P c := by
    obtain ⟨ds, -, all, -⟩ := digits
    exact forall_mem_of_forall₂ all fun c d _ => digit c d
  cases h with
  | plain digits => exact of_digits digits
  | signed digits => exact List.forall_mem_cons.2 ⟨sign, of_digits digits⟩

theorem Number.ne_nil (h : Number radix cs n) : cs ≠ [] := by
  rintro rfl
  cases h with
  | plain digits => exact not_digits_nil digits

end Numeral

namespace Text

variable {cs : List Char}

/-- A character is its lower case, or the upper case of that. -/
theorem eq_or_eq_toUpper (c : Char) : c = c.toLower ∨ c = c.toLower.toUpper := by
  by_cases ascii : c.toNat < 128
  · apply forall_ascii _ ascii
    decide +kernel
  · have other : ¬ (c.val ≥ 'A'.val ∧ c.val ≤ 'Z'.val) := by
      rintro ⟨-, le⟩
      have : c.toNat ≤ 90 := le
      omega
    have same : c.toLower = c := dif_neg other
    exact .inl same.symm

/-- A text is a word of small letters up to case if each of its characters is the letter or its
upper case. -/
theorem sameLetters_iff {word : List Char}
    (small : ∀ l ∈ word, l.toLower = l ∧ l.toUpper.toLower = l) :
    sameLetters cs word = true ↔ List.Forall₂ (fun c l => c = l ∨ c = l.toUpper) cs word := by
  rw [sameLetters, beq_iff_eq]
  induction word generalizing cs with
  | nil => simp
  | cons l word ih =>
    have rest (cs : List Char) := @ih cs fun l mem => small l (List.mem_cons_of_mem _ mem)
    obtain ⟨lower, upper⟩ := small l List.mem_cons_self
    cases cs with
    | nil => simp
    | cons c cs =>
      rw [List.map_cons, List.map_cons, List.cons.injEq, lower, rest, List.forall₂_cons]
      refine and_congr_left fun _ => ⟨?_, ?_⟩
      · rintro rfl
        exact eq_or_eq_toUpper c
      · rintro (rfl | rfl)
        · exact lower
        · exact upper

/-- What is trimmed is blank. -/
theorem exists_trim (cs : List Char) : ∃ lead trail, cs = lead ++ trim cs ++ trail ∧
    (∀ c ∈ lead, isBlank c = true) ∧ ∀ c ∈ trail, isBlank c = true := by
  have last : trimStart cs = trim cs ++ ((trimStart cs).reverse.takeWhile isBlank).reverse := by
    rw [trim, trimEnd, ← List.reverse_append, List.takeWhile_append_dropWhile, List.reverse_reverse]
  refine ⟨cs.takeWhile isBlank, ((trimStart cs).reverse.takeWhile isBlank).reverse, ?_, ?_, ?_⟩
  · rw [List.append_assoc, ← last, trimStart, List.takeWhile_append_dropWhile]
  · exact fun c mem => List.mem_takeWhile_imp mem
  · exact fun c mem => List.mem_takeWhile_imp (List.mem_reverse.1 mem)

/-- Blanks around a text that has none are trimmed. -/
theorem trim_around {lead trail : List Char} (some : cs ≠ []) (seen : ∀ c ∈ cs, isBlank c = false)
    (before : ∀ c ∈ lead, isBlank c = true) (behind : ∀ c ∈ trail, isBlank c = true) :
    trim (lead ++ cs ++ trail) = cs := by
  have first : Stops isBlank cs := by
    rw [← List.append_nil cs]
    exact stops_append some seen []
  have last : Stops isBlank cs.reverse := by
    rw [← List.append_nil cs.reverse]
    exact stops_append (by simpa using some) (fun c mem => seen c (List.mem_reverse.1 mem)) []
  rw [trim_append before behind, trim_of_ends first last]

theorem eq_append_of_after? {lead rest : List Char} (h : after? lead cs = some rest) :
    cs = lead ++ rest := by
  induction lead generalizing cs with
  | nil => exact Option.some.inj h
  | cons l lead ih =>
    cases cs with
    | nil => cases h
    | cons c cs =>
      rw [after?] at h
      split at h
      · next same => rw [← same, ih h, List.cons_append]
      · cases h

end Text

namespace PortId

open Numeral

/-- A text without blanks around it, and the raw number of the id that it says. -/
inductive Written : List Char → Nat → Prop
  | word {cs : List Char}
      (letters : List.Forall₂ (fun c l => c = l ∨ c = l.toUpper) cs "broadcast".toList) :
      Written cs 65535
  | hexadecimal {x : Char} {cs : List Char} {n : Nat} (mark : x = 'x' ∨ x = 'X')
      (number : Number 16 cs n) (fits : n ≤ 65535) : Written ('0' :: x :: cs) n
  | decimal {cs : List Char} {n : Nat} (number : Number 10 cs n) (fits : n ≤ 65535) : Written cs n
  | parts {xs ys zs : List Char} {x y z : Nat}
      (domain : Number 10 xs x) (channel : Number 10 ys y) (role : Number 10 zs z)
      (domain_le : x ≤ 1) (channel_le : y ≤ 255) (role_le : z ≤ 127) :
      Written (xs ++ '.' :: (ys ++ '.' :: zs)) (x * 32768 + y * 128 + z)

/-- A text says a raw number, with blanks around or without. -/
def Says (s : List Char) (n : Nat) : Prop :=
  ∃ lead cs trail, s = lead ++ cs ++ trail ∧ (∀ c ∈ lead, Text.isBlank c = true) ∧
    (∀ c ∈ trail, Text.isBlank c = true) ∧ Written cs n

/-- A reader answers the id with a raw number. -/
def Answers {ε : Type} (result : Except ε PortId) (n : Nat) : Prop :=
  ∃ id, result = .ok id ∧ id.raw.toNat = n

variable {cs : List Char} {id : PortId} {n : Nat}

theorem eq_of_raw {a b : PortId} (same : a.raw.toNat = b.raw.toNat) : a = b := by
  cases a
  cases b
  exact congrArg PortId.mk (UInt16.toNat_inj.1 same)

/-- A number of 16 bits is the raw number of an id. -/
theorem raw_ofNat (fits : n ≤ 65535) : (UInt16.ofNat n).toNat = n :=
  UInt16.toNat_ofNat_of_lt' (Nat.lt_succ_of_le fits)

/-! ## The forms apart -/

theorem sameLetters_broadcast_iff : Text.sameLetters cs "broadcast".toList = true ↔
    List.Forall₂ (fun c l => c = l ∨ c = l.toUpper) cs "broadcast".toList :=
  Text.sameLetters_iff (List.forall_iff_forall_mem.1 (by decide))

theorem hexDigits?_eq_some_iff {ds : List Char} : hexDigits? cs = some ds ↔
    ∃ x, (x = 'x' ∨ x = 'X') ∧ cs = '0' :: x :: ds := by
  constructor
  · intro h
    rcases Option.or_eq_some_iff.1 h with h | ⟨-, h⟩
    · exact ⟨'x', .inl rfl, Text.eq_append_of_after? h⟩
    · exact ⟨'X', .inr rfl, Text.eq_append_of_after? h⟩
  · rintro ⟨x, rfl | rfl, rfl⟩ <;> simp [hexDigits?, Text.after?]

theorem first_of_word (word : Text.sameLetters cs "broadcast".toList = true) :
    ∃ c rest, cs = c :: rest ∧ (c = 'b' ∨ c = 'B') := by
  rw [sameLetters_broadcast_iff] at word
  obtain ⟨c, rest, first, -, whole⟩ := List.forall₂_cons_right_iff.1 word
  exact ⟨c, rest, whole, first⟩

/-- A text of digits, dots and signs is neither the word nor hexadecimal. -/
theorem plain_forms (plain : ∀ c ∈ cs, c ∈ "+.0123456789".toList) :
    Text.sameLetters cs "broadcast".toList = false ∧ hexDigits? cs = none := by
  constructor
  · rw [Bool.eq_false_iff]
    intro word
    obtain ⟨c, rest, rfl, first⟩ := first_of_word word
    have mem := plain c List.mem_cons_self
    rcases first with rfl | rfl <;> exact absurd mem (by decide)
  · rw [Option.eq_none_iff_forall_not_mem]
    intro ds hex
    obtain ⟨x, mark, rfl⟩ := hexDigits?_eq_some_iff.1 hex
    have mem := plain x (List.mem_cons_of_mem _ List.mem_cons_self)
    rcases mark with rfl | rfl <;> exact absurd mem (by decide)

theorem mem_plain_of_number (h : Number 10 cs n) :
    (∀ c ∈ cs, c ∈ "+.0123456789".toList) ∧ '.' ∉ cs := by
  have all : ∀ c ∈ cs, c = '+' ∨ c ∈ "0123456789".toList :=
    h.forall_mem (.inl rfl) fun c d digit => .inr digit.mem_of_ten
  have digit : ∀ c ∈ "0123456789".toList, c ∈ "+.0123456789".toList ∧ c ≠ '.' :=
    List.forall_iff_forall_mem.1 (by decide)
  constructor
  · intro c mem
    rcases all c mem with rfl | mem
    · decide
    · exact (digit c mem).1
  · intro dot
    rcases all '.' dot with e | mem
    · cases e
    · exact (digit '.' mem).2 rfl

/-- What an id is written with, the letters of its word apart. -/
def letters : List Char := "+.xX0123456789abcdefABCDEF".toList

/-- What holds of the letters and of those of the word holds of all that an id is written with. -/
theorem Written.forall_mem {P : Char → Prop} (plain : ∀ c ∈ letters, P c)
    (word : ∀ l ∈ "broadcast".toList, P l ∧ P l.toUpper) (h : Written cs n) : ∀ c ∈ cs, P c := by
  have digit : ∀ c ∈ "0123456789abcdefABCDEF".toList, c ∈ letters :=
    List.forall_iff_forall_mem.1 (by decide)
  have number {radix n : Nat} {cs : List Char} (h : Number radix cs n) : ∀ c ∈ cs, P c :=
    h.forall_mem (plain _ (by decide)) fun c _ hd => plain c (digit c hd.mem)
  cases h with
  | word same =>
    refine forall_mem_of_forall₂ same ?_
    rintro c l mem (rfl | rfl)
    · exact (word c mem).1
    · exact (word l mem).2
  | hexadecimal mark digits =>
    refine List.forall_mem_cons.2 ⟨plain _ (by decide), List.forall_mem_cons.2 ⟨?_, number digits⟩⟩
    rcases mark with rfl | rfl <;> exact plain _ (by decide)
  | decimal digits => exact number digits
  | parts domain channel role =>
    have dot : P '.' := plain _ (by decide)
    simp only [List.forall_mem_append, List.forall_mem_cons]
    exact ⟨number domain, dot, number channel, dot, number role⟩

theorem Written.ne_nil (h : Written cs n) : cs ≠ [] := by
  cases h with
  | word same =>
    rintro rfl
    cases same
  | hexadecimal => exact List.cons_ne_nil _ _
  | decimal digits => exact digits.ne_nil
  | parts => simp

theorem Written.seen (h : Written cs n) : ∀ c ∈ cs, Text.isBlank c = false :=
  h.forall_mem (List.forall_iff_forall_mem.1 (by decide)) (List.forall_iff_forall_mem.1 (by decide))

/-! ## Reading -/

theorem ofNumber_iff {radix : Nat} (pos : 0 < radix) (small : radix ≤ 16) (text : String) :
    ofNumber text (Numeral.read radix 65535 cs) = .ok id ↔ Number radix cs id.raw.toNat := by
  constructor
  · intro read
    cases e : Numeral.read radix 65535 cs with
    | error why =>
      rw [e] at read
      cases read
    | ok n =>
      rw [e] at read
      cases read
      obtain ⟨number, most⟩ := (Numeral.read_iff pos small).1 e
      rwa [raw_ofNat most]
  · intro number
    have most := id.raw.toNat_lt
    rw [(Numeral.read_iff pos small).2 ⟨number, by omega⟩, ofNumber, UInt16.ofNat_toNat]

theorem eq_ofParts_iff {d c r : Nat} (hd : d ≤ 1) (hc : c ≤ 255) (hr : r ≤ 127) :
    ofParts d c r = id ↔ id.raw.toNat = d * 32768 + c * 128 + r := by
  have raw := raw_ofParts d c r
  rw [Nat.mod_eq_of_lt (by omega), Nat.mod_eq_of_lt (by omega), Nat.mod_eq_of_lt (by omega)] at raw
  constructor
  · rintro rfl
    exact raw
  · intro same
    exact eq_of_raw (raw.trans same.symm)

theorem readParts_iff {text : String} {xs ys zs : List Char} :
    readParts text xs ys zs = .ok id ↔ ∃ x y z, Number 10 xs x ∧ Number 10 ys y ∧
      Number 10 zs z ∧ x ≤ 1 ∧ y ≤ 255 ∧ z ≤ 127 ∧
      id.raw.toNat = x * 32768 + y * 128 + z := by
  have byte {cs : List Char} {n : Nat} :
      Numeral.read 10 255 cs = .ok n ↔ Number 10 cs n ∧ n ≤ 255 :=
    Numeral.read_iff (by decide) (by decide)
  constructor
  · intro read
    unfold readParts at read
    split at read
    · cases read
    next x hx =>
    split at read
    · cases read
    next y hy =>
    split at read
    · cases read
    next z hz =>
    split at read
    · cases read
    next domain =>
    split at read
    · cases read
    next role =>
    obtain ⟨xs_number, -⟩ := byte.1 hx
    obtain ⟨ys_number, channel⟩ := byte.1 hy
    obtain ⟨zs_number, -⟩ := byte.1 hz
    have raw := (eq_ofParts_iff (by omega) channel (by omega)).1 (Except.ok.inj read)
    exact ⟨x, y, z, xs_number, ys_number, zs_number, by omega, channel, by omega, raw⟩
  · rintro ⟨x, y, z, hx, hy, hz, domain, channel, role, raw⟩
    rw [readParts, byte.2 ⟨hx, by omega⟩, byte.2 ⟨hy, channel⟩, byte.2 ⟨hz, by omega⟩]
    simp only [if_neg (Nat.not_lt.2 domain), if_neg (Nat.not_lt.2 role),
      (eq_ofParts_iff domain channel role).2 raw]

/-- The reader of trimmed texts accepts the grammar, and answers the number that it gives. -/
theorem readTrimmed_iff : readTrimmed cs = .ok id ↔ Written cs id.raw.toNat := by
  have most : id.raw.toNat ≤ 65535 := by
    have := id.raw.toNat_lt
    omega
  constructor
  · intro read
    simp only [readTrimmed] at read
    split at read
    · next word =>
      cases read
      exact .word (sameLetters_broadcast_iff.1 word)
    split at read
    · next digits hex =>
      obtain ⟨x, mark, rfl⟩ := hexDigits?_eq_some_iff.1 hex
      exact .hexadecimal mark ((ofNumber_iff (by decide) (by decide) _).1 read) most
    have joined := Text.intercalate_splitAt '.' cs
    split at read
    · next raw cut =>
      rw [cut, List.intercalate_singleton] at joined
      subst joined
      exact .decimal ((ofNumber_iff (by decide) (by decide) _).1 read) most
    · next xs ys zs cut =>
      rw [cut] at joined
      have whole : xs ++ '.' :: (ys ++ '.' :: zs) = cs := by simpa [List.intercalate] using joined
      obtain ⟨x, y, z, hx, hy, hz, domain, channel, role, raw⟩ := readParts_iff.1 read
      rw [← whole, raw]
      exact .parts hx hy hz domain channel role
    · cases read
  · generalize raw : id.raw.toNat = n
    intro written
    cases written with
    | word letters =>
      have broadcast : id = .broadcast := eq_of_raw raw
      rw [readTrimmed, if_pos (sameLetters_broadcast_iff.2 letters), broadcast]
    | @hexadecimal x cs n mark number =>
      have other : ¬ Text.sameLetters ('0' :: x :: cs) "broadcast".toList = true := by
        intro word
        obtain ⟨c, rest, whole, first⟩ := first_of_word word
        obtain ⟨rfl, -⟩ := List.cons.inj whole
        exact absurd first (by decide)
      have hex : hexDigits? ('0' :: x :: cs) = some cs :=
        hexDigits?_eq_some_iff.2 ⟨x, mark, rfl⟩
      simp only [readTrimmed, if_neg other, hex]
      exact (ofNumber_iff (by decide) (by decide) _).2 (raw ▸ number)
    | decimal number =>
      obtain ⟨plain, dots⟩ := mem_plain_of_number number
      obtain ⟨word, hex⟩ := plain_forms plain
      simp only [readTrimmed, word, hex, Text.splitAt_of_not_mem dots]
      exact (ofNumber_iff (by decide) (by decide) _).2 (raw ▸ number)
    | @parts xs ys zs x y z domain channel role domain_le channel_le role_le =>
      obtain ⟨plain_x, dots_x⟩ := mem_plain_of_number domain
      obtain ⟨plain_y, dots_y⟩ := mem_plain_of_number channel
      obtain ⟨plain_z, dots_z⟩ := mem_plain_of_number role
      have plain : ∀ c ∈ xs ++ '.' :: (ys ++ '.' :: zs), c ∈ "+.0123456789".toList := by
        simp only [List.forall_mem_append, List.forall_mem_cons]
        exact ⟨plain_x, by decide, plain_y, by decide, plain_z⟩
      obtain ⟨word, hex⟩ := plain_forms plain
      have cut : Text.splitAt '.' (xs ++ '.' :: (ys ++ '.' :: zs)) = [xs, ys, zs] := by
        rw [Text.splitAt_append dots_x, Text.splitAt_append dots_y, Text.splitAt_of_not_mem dots_z]
      simp only [readTrimmed, word, hex, cut]
      exact readParts_iff.2
        ⟨x, y, z, domain, channel, role, domain_le, channel_le, role_le, raw⟩

theorem Written.le (h : Written cs n) : n ≤ 65535 := by
  cases h with
  | word => exact Nat.le_refl _
  | hexadecimal _ _ fits => exact fits
  | decimal _ fits => exact fits
  | parts => omega

/-- The reader of ids, by what it accepts and what it answers. -/
theorem read_answers_iff {s : List Char} : Answers (read s) n ↔ Says s n := by
  constructor
  · rintro ⟨id, read, rfl⟩
    obtain ⟨lead, trail, whole, before, behind⟩ := Text.exists_trim s
    exact ⟨lead, _, trail, whole, before, behind, readTrimmed_iff.1 read⟩
  · rintro ⟨lead, cs, trail, rfl, before, behind, written⟩
    have raw := raw_ofNat written.le
    refine ⟨⟨UInt16.ofNat n⟩, ?_, raw⟩
    rw [read, Text.trim_around written.ne_nil written.seen before behind, readTrimmed_iff, raw]
    exact written

example : read "\t0X+00fF ".toList = .ok ⟨255⟩ := by decide

end PortId

end FrameBus
