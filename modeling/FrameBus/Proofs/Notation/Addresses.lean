import FrameBus.Address.Notation
import FrameBus.Proofs.Notation.Numerals

/-!
# Socket addresses that are read back

Every socket address is read from its text (`SocketAddress.read?_render`). A text of version 6 is of
one of three forms: all groups; two lists of groups around `::`, which stands for the longest run of
zeros (`Ipv6.groups_eq_run`); or a dotted form behind `::ffff:`. A reader of groups takes as many as
it finds; it stops at `::` and behind the last group (`groups_behind`).
-/

namespace FrameBus

open Numeral

namespace SocketAddress

variable {radix limit maxDigits n : Nat} {zeros : Bool} {cs rest : List Char}

/-- A text that does not go on with a digit. -/
abbrev Ends (radix : Nat) (cs : List Char) : Prop := Stops (fun c => (digit? radix c).isSome) cs

/-! ## Numbers -/

theorem number?_digits (zeros : Bool) (hr : 1 < radix) (hr' : radix ≤ 16) (le : n ≤ limit)
    (short : (digits radix n).length ≤ maxDigits) (stop : Ends radix rest) :
    number? radix limit maxDigits zeros (digits radix n ++ rest) = some (n, rest) := by
  have single : ¬ ((digits radix n).head? = some '0' ∧ 1 < (digits radix n).length) := by
    rintro ⟨zero, more⟩
    have := length_digits_of_zero hr hr' zero
    omega
  simp only [number?, span_digits hr hr' stop, readDigits_digits hr hr' le]
  rw [if_neg (by simp [short]), if_neg (by simpa using fun _ => by simpa using single)]

theorem number?_of_ends (stop : Ends radix cs) : number? radix limit maxDigits zeros cs = none := by
  have none : cs.span (fun c => (digit? radix c).isSome) = ([], cs) := by
    rw [List.span_eq_takeWhile_dropWhile, takeWhile_of_stops stop, dropWhile_of_stops stop]
  simp only [number?, none, List.isEmpty_nil, Bool.true_or, if_true]

theorem octet?_digits (o : UInt8) (stop : Ends 10 rest) :
    octet? (digits 10 o.toNat ++ rest) = some (o, rest) := by
  have lt := o.toNat_lt
  have short : (digits 10 o.toNat).length ≤ 3 :=
    (Nat.length_toDigits_le_iff (by decide) (by decide)).2 (by omega)
  simp [octet?, number?_digits false (by decide) (by decide) (by omega : o.toNat ≤ 255) short stop]

theorem char?_of_stops {c : Char} (stop : Stops (· == c) cs) : char? c cs = none := by
  cases cs with
  | nil => rfl
  | cons d cs =>
    have other : ¬ c = d := fun e => by simp [e, stops_cons] at stop
    rw [char?, if_neg other]

theorem ends_cons {c : Char} (h : digit? radix c = none) : Ends radix (c :: cs) := by
  simp [Ends, stops_cons, h]

/-! ## Version 4 -/

theorem render_v4 (ip : Ipv4) : ip.render = digits 10 ip.a.toNat ++ '.' :: (digits 10 ip.b.toNat ++
    '.' :: (digits 10 ip.c.toNat ++ '.' :: digits 10 ip.d.toNat)) := by
  simp [Ipv4.render, Ipv4.octets, List.intercalate]

theorem ipv4?_render (ip : Ipv4) (stop : Ends 10 rest) :
    ipv4? (ip.render ++ rest) = some (ip, rest) := by
  have dot (cs : List Char) : Ends 10 ('.' :: cs) := ends_cons (by decide)
  simp [render_v4, ipv4?, octet?_digits, dot, char?, stop]

theorem port?_digits (port : UInt16) : port? (':' :: digits 10 port.toNat) = some (port, []) := by
  have lt := port.toNat_lt
  have number := number?_digits true (by decide) (by decide)
    (by omega : port.toNat ≤ 0xFFFF) (Nat.le_refl _) (stops_nil fun c => (digit? 10 c).isSome)
  rw [List.append_nil] at number
  simp [port?, char?, number]

theorem read?_v4 (ip : Ipv4) (port : UInt16) :
    read? (renderChars (.v4 ip port)) = some (.v4 ip port) := by
  have stop (cs : List Char) : Ends 10 (':' :: cs) := ends_cons (by decide)
  simp [renderChars, read?, v4?, ipv4?_render ip (stop _), port?_digits]

/-! ## Groups of version 6 -/

/-- A text in which no group ends in front and none begins. -/
structure Apart (cs : List Char) : Prop where
  digit : Ends 16 cs
  dot : Stops (· == '.') cs

theorem apart_cons {c : Char} (digit : digit? 16 c = none) (dot : c ≠ '.') : Apart (c :: cs) :=
  ⟨ends_cons digit, stops_cons.2 (by simpa using dot)⟩

theorem number?_rest {m : Nat} (h : number? radix limit maxDigits zeros cs = some (m, rest)) :
    rest = cs.dropWhile fun c => (digit? radix c).isSome := by
  simp only [number?, List.span_eq_takeWhile_dropWhile] at h
  split at h
  · cases h
  · split at h
    · cases h
    · split at h
      · cases h
        rfl
      · cases h

theorem ends_of_ends (stop : Ends 16 cs) : Ends 10 cs := by
  intro c hc
  have none := stop c hc
  simp only [digit?] at none ⊢
  split at none
  · cases none
  · rw [if_neg (by omega)]
    rfl

theorem ipv4?_of_ends (stop : Ends 10 cs) : ipv4? cs = none := by
  simp [ipv4?, octet?, number?_of_ends stop]

/-- A group is no beginning of a dotted form. -/
theorem ipv4?_group (g : UInt16) (apart : Apart rest) :
    ipv4? (digits 16 g.toNat ++ rest) = none := by
  -- what is left of the group behind its decimal digits has no dot in front
  have no_dot (cs : List Char) (h : '.' ∉ cs) :
      Stops (· == '.') ((cs ++ rest).dropWhile fun c => (digit? 10 c).isSome) := by
    induction cs with
    | nil =>
      rw [List.nil_append, dropWhile_of_stops (ends_of_ends apart.digit)]
      exact apart.dot
    | cons c cs ih =>
      simp only [List.mem_cons, not_or] at h
      rw [List.cons_append, List.dropWhile_cons]
      split
      · exact ih h.2
      · exact stops_cons.2 (by simpa using Ne.symm h.1)
  have letters : '.' ∉ digits 16 g.toNat := by
    intro h
    obtain ⟨d, hd, e⟩ := eq_digitChar_of_mem (by decide) h
    exact (by decide : ∀ d < 16, '.' ≠ d.digitChar) d hd e
  unfold ipv4?
  cases h : octet? (digits 16 g.toNat ++ rest) with
  | none => rfl
  | some p =>
    obtain ⟨⟨m, after⟩, hm, e⟩ := Option.map_eq_some_iff.1 h
    cases e
    obtain rfl := number?_rest hm
    simp [char?_of_stops (no_dot _ letters)]

theorem number?_group (g : UInt16) (stop : Ends 16 rest) :
    number? 16 0xFFFF 4 true (digits 16 g.toNat ++ rest) = some (g.toNat, rest) := by
  have lt := g.toNat_lt
  have short : (digits 16 g.toNat).length ≤ 4 :=
    (Nat.length_toDigits_le_iff (by decide) (by decide)).2 (by omega)
  exact number?_digits true (by decide) (by decide) (by omega) short stop

variable {first : Bool}

/-- One group is read. -/
theorem groups_group (limit : Nat) (g : UInt16) (apart : Apart rest)
    (next : nextGroup? first cs = some (digits 16 g.toNat ++ rest)) :
    groups (limit + 1) first cs =
      (g :: (groups limit false rest).1, (groups limit false rest).2) := by
  have none : (if 0 < limit then (nextGroup? first cs).bind ipv4? else none) = none := by
    rw [next, Option.bind_some, ipv4?_group g apart, ite_self]
  simp only [groups, none]
  simp only [next, Option.bind_some, number?_group g apart.digit, UInt16.ofNat_toNat]

/-- A dotted form is read. -/
theorem groups_dotted (limit : Nat) (ip : Ipv4) (stop : Ends 10 rest)
    (next : nextGroup? first cs = some (ip.render ++ rest)) :
    groups (limit + 2) first cs = (ip.toGroups, true, rest) := by
  have some : (if 0 < limit + 1 then (nextGroup? first cs).bind ipv4? else none) =
      some (ip, rest) := by
    rw [if_pos (Nat.succ_pos _), next, Option.bind_some, ipv4?_render ip stop]
  simp only [groups, some]

/-- No group is read. -/
theorem groups_of_ends (limit : Nat) (stop : ∀ after, nextGroup? first cs = some after →
    Ends 16 after) : groups limit first cs = ([], false, cs) := by
  cases limit with
  | zero => rfl
  | succ limit =>
    cases h : nextGroup? first cs with
    | none => simp [groups, h]
    | some after =>
      have none := stop after h
      simp [groups, h, ipv4?_of_ends (ends_of_ends none), number?_of_ends none]

/-- Groups that stand behind others. -/
def behind (gs : List UInt16) : List Char := gs.flatMap fun g => ':' :: digits 16 g.toNat

theorem apart_behind (gs : List UInt16) (apart : Apart rest) : Apart (behind gs ++ rest) := by
  cases gs with
  | nil => exact apart
  | cons g gs => exact apart_cons (by decide) (by decide)

theorem groups_behind (limit : Nat) (gs : List UInt16) (apart : Apart rest) :
    groups (gs.length + limit) false (behind gs ++ rest) =
      (gs ++ (groups limit false rest).1, (groups limit false rest).2) := by
  induction gs with
  | nil => simp [behind]
  | cons g gs ih =>
    have next : nextGroup? false (behind (g :: gs) ++ rest) =
        some (digits 16 g.toNat ++ (behind gs ++ rest)) := by
      simp [behind, nextGroup?, char?]
    rw [List.length_cons, Nat.add_right_comm, groups_group _ g (apart_behind gs apart) next, ih,
      List.cons_append]

theorem renderGroups_cons (g : UInt16) (gs : List UInt16) :
    Ipv6.renderGroups (g :: gs) = digits 16 g.toNat ++ behind gs := by
  induction gs generalizing g with
  | nil => simp [Ipv6.renderGroups, behind, List.intercalate]
  | cons h gs ih =>
    have rest := ih h
    simp only [Ipv6.renderGroups, List.map_cons, List.intercalate, List.intersperse_cons_cons,
      List.flatten_cons] at rest ⊢
    rw [rest]
    simp [behind]

/-- All groups of a text are read, if no group comes behind them. -/
theorem groups_render {limit : Nat} {gs : List UInt16} (room : gs.length ≤ limit)
    (apart : Apart rest)
    (last : ∀ after, nextGroup? gs.isEmpty rest = some after → Ends 16 after) :
    groups limit true (Ipv6.renderGroups gs ++ rest) = (gs, false, rest) := by
  cases gs with
  | nil => exact groups_of_ends limit last
  | cons g gs =>
    obtain ⟨more, rfl⟩ : ∃ more, limit = gs.length + more + 1 :=
      ⟨limit - gs.length - 1, by rw [List.length_cons] at room; omega⟩
    have none : groups more false rest = ([], false, rest) := groups_of_ends more last
    rw [renderGroups_cons, List.append_assoc, groups_group _ g (apart_behind gs apart) rfl,
      groups_behind _ gs apart, none]
    simp

/-! ## Version 6 -/

end SocketAddress

namespace Ipv6

/-- A run of zeros that begins at a group. -/
theorem run_of_zeroRuns {gs : List UInt16} {i length : Nat} (h : (zeroRuns gs)[i]? = some length) :
    ∃ rest, gs.drop i = List.replicate length 0 ++ rest := by
  induction gs generalizing i length with
  | nil => cases h
  | cons g gs ih =>
    simp only [zeroRuns] at h
    cases i with
    | succ i => exact ih h
    | zero =>
      simp only [List.getElem?_cons_zero, Option.some.injEq] at h
      subst h
      by_cases zero : g = 0
      · subst zero
        cases first : (zeroRuns gs).head? with
        | none =>
          refine ⟨gs, ?_⟩
          simp [List.headD_eq_head?_getD, first]
        | some more =>
          obtain ⟨rest, e⟩ := ih (i := 0) (by simpa [List.head?_eq_getElem?] using first)
          refine ⟨rest, ?_⟩
          simpa [List.headD_eq_head?_getD, first, List.replicate_succ] using e
      · exact ⟨g :: gs, by simp [zero]⟩

theorem foldl_max_mem (l : List Nat) (a : Nat) : l.foldl max a = a ∨ l.foldl max a ∈ l := by
  induction l generalizing a with
  | nil => exact .inl rfl
  | cons b l ih =>
    rw [List.foldl_cons]
    rcases ih (max a b) with h | h
    · rw [h, List.mem_cons]
      omega
    · exact .inr (List.mem_cons_of_mem _ h)

/-- The groups around the longest run of zeros. -/
theorem groups_eq_run {gs : List UInt16} {start length : Nat}
    (h : longestRun gs = (start, length)) (pos : 0 < length) :
    gs = gs.take start ++ (List.replicate length 0 ++ gs.drop (start + length)) := by
  obtain ⟨rfl, rfl⟩ := Prod.mk.inj h
  set length := (zeroRuns gs).foldl max 0
  have mem : length ∈ zeroRuns gs := (foldl_max_mem _ 0).resolve_left (by omega)
  have lt : (zeroRuns gs).findIdx (· == length) < (zeroRuns gs).length :=
    List.findIdx_lt_length_of_exists ⟨length, mem, beq_self_eq_true length⟩
  have here : (zeroRuns gs)[(zeroRuns gs).findIdx (· == length)]? = some length := by
    rw [List.getElem?_eq_getElem lt]
    simpa using List.findIdx_getElem (w := lt)
  obtain ⟨rest, e⟩ := run_of_zeroRuns here
  have behind : gs.drop ((zeroRuns gs).findIdx (· == length) + length) = rest := by
    rw [← List.drop_drop, e, List.drop_left' List.length_replicate]
  rw [behind, ← e, List.take_append_drop]

end Ipv6

namespace SocketAddress

variable {rest : List Char}

theorem toGroups_ofGroups (high low : UInt16) :
    (Ipv4.ofGroups high low).toGroups = [high, low] := by
  have := high.toNat_lt
  have := low.toNat_lt
  have key (g : UInt16) : g.toNat / 256 % 2 ^ 8 * 256 + g.toNat % 256 % 2 ^ 8 = g.toNat := by
    have := g.toNat_lt
    omega
  simp only [Ipv4.toGroups, Ipv4.ofGroups, UInt8.toNat_ofNat', key, UInt16.ofNat_toNat]

/-- No group comes behind the last one. -/
theorem ends_of_last (apart : Apart rest) (colon : Stops (· == ':') rest) {first : Bool}
    {after : List Char} (h : nextGroup? first rest = some after) : Ends 16 after := by
  cases first with
  | true =>
    cases h
    exact apart.digit
  | false => simp [nextGroup?, char?_of_stops colon] at h

/-- Groups before `::`. -/
theorem groups_head {gs : List UInt16} (short : gs.length ≤ 8) (tail : List Char) :
    groups 8 true (Ipv6.renderGroups gs ++ ':' :: ':' :: tail) =
      (gs, false, ':' :: ':' :: tail) := by
  refine groups_render short (apart_cons (by decide) (by decide)) fun after h => ?_
  cases hg : gs.isEmpty <;> rw [hg] at h <;> cases h <;> exact ends_cons (by decide)

/-- Groups on both sides of `::`. -/
theorem ipv6?_around {ip : Ipv6} {front back : List UInt16} {text : List Char} {dotted : Bool}
    (short : front.length < 8)
    (tail : groups (7 - front.length) true text = (back, dotted, rest))
    (all : front ++ List.replicate (8 - front.length - back.length) 0 ++ back = ip.groups) :
    ipv6? (Ipv6.renderGroups front ++ ':' :: ':' :: text) = some (ip, rest) := by
  have eight : (front ++ List.replicate (8 - front.length - back.length) 0 ++ back).length = 8 := by
    rw [all, ip.length_groups]
  simp only [ipv6?, groups_head (Nat.le_of_lt short)]
  rw [dif_neg (Nat.ne_of_lt short)]
  simp only [Bool.false_eq_true, if_false, char?, if_true, Option.bind_eq_bind, Option.bind_some,
    tail]
  rw [dif_pos eight]
  simp only [all]
  rfl

theorem ipv6?_mapped {ip : Ipv6} {v4 : Ipv4} (mapped : ip.mapped? = some v4) (stop : Ends 10 rest) :
    ipv6? (ip.render ++ rest) = some (ip, rest) := by
  have ffff : digits 16 (0xFFFF : UInt16).toNat = ['f', 'f', 'f', 'f'] := by decide
  have text : ip.render ++ rest = Ipv6.renderGroups [] ++ ':' :: ':' ::
      (digits 16 (0xFFFF : UInt16).toNat ++ ':' :: (v4.render ++ rest)) := by
    rw [ffff]
    simp [Ipv6.render, mapped, Ipv6.renderGroups, List.intercalate]
  have tail : groups 7 true (digits 16 (0xFFFF : UInt16).toNat ++ ':' :: (v4.render ++ rest)) =
      (0xFFFF :: v4.toGroups, true, rest) := by
    rw [groups_group 6 0xFFFF (apart_cons (by decide) (by decide)) rfl, groups_dotted 4 v4 stop rfl]
  rw [text]
  refine ipv6?_around (by decide) tail ?_
  unfold Ipv6.mapped? at mapped
  split at mapped
  · next high low e =>
    cases mapped
    rw [e, toGroups_ofGroups]
    rfl
  · cases mapped

theorem ipv6?_render (ip : Ipv6) (apart : Apart rest) (colon : Stops (· == ':') rest) :
    ipv6? (ip.render ++ rest) = some (ip, rest) := by
  have last {first : Bool} (after : List Char) : nextGroup? first rest = some after →
      Ends 16 after := ends_of_last apart colon
  cases mapped : ip.mapped? with
  | some v4 => exact ipv6?_mapped mapped (ends_of_ends apart.digit)
  | none =>
    obtain ⟨start, length, run⟩ : ∃ start length, Ipv6.longestRun ip.groups = (start, length) :=
      ⟨_, _, rfl⟩
    by_cases long : 1 < length
    · have text : ip.render ++ rest = Ipv6.renderGroups (ip.groups.take start) ++ ':' :: ':' ::
          (Ipv6.renderGroups (ip.groups.drop (start + length)) ++ rest) := by
        simp [Ipv6.render, mapped, run, long]
      have all := Ipv6.groups_eq_run run (by omega)
      have eight := ip.length_groups
      have inside : start + length ≤ 8 := by
        have sum := congrArg List.length all
        simp only [List.length_append, List.length_replicate, List.length_take, List.length_drop,
          eight] at sum
        omega
      have front : (ip.groups.take start).length = start := by
        rw [List.length_take, eight]
        omega
      have back : (ip.groups.drop (start + length)).length = 8 - (start + length) := by
        rw [List.length_drop, eight]
      rw [text]
      refine ipv6?_around (by omega) (groups_render (by omega) apart last) ?_
      rw [front, back, show 8 - start - (8 - (start + length)) = length by omega,
        List.append_assoc]
      exact all.symm
    · have text : ip.render = Ipv6.renderGroups ip.groups := by
        simp [Ipv6.render, mapped, run, long]
      simp only [ipv6?, text, groups_render (Nat.le_of_eq ip.length_groups) apart last]
      rw [dif_pos ip.length_groups]
      rfl

/-- The text of a scope, which there is unless the scope is 0. -/
def scopeText (scope : UInt32) : List Char :=
  if scope = 0 then [] else '%' :: digits 10 scope.toNat

theorem scope_render (scope : UInt32) (rest : List Char) :
    SocketAddress.scope (scopeText scope ++ ']' :: rest) = (scope, ']' :: rest) := by
  unfold scopeText
  split
  · next none => simp [SocketAddress.scope, char?, none]
  · have lt := scope.toNat_lt
    have number := number?_digits true (by decide) (by decide)
      (by omega : scope.toNat ≤ 0xFFFFFFFF)
      (by simp : (digits 10 scope.toNat).length ≤ (digits 10 scope.toNat ++ ']' :: rest).length)
      (ends_cons (by decide) : Ends 10 (']' :: rest))
    rw [List.cons_append]
    simp only [SocketAddress.scope, char?, if_true, Option.bind_some, number, UInt32.ofNat_toNat]

/-- What begins behind the groups. -/
theorem first_scopeText (scope : UInt32) (rest : List Char) :
    ∀ c ∈ (scopeText scope ++ ']' :: rest).head?, c = '%' ∨ c = ']' := by
  unfold scopeText
  split <;> simp

theorem apart_scopeText (scope : UInt32) (rest : List Char) :
    Apart (scopeText scope ++ ']' :: rest) := by
  constructor <;> intro c hc <;> rcases first_scopeText scope rest c hc with rfl | rfl <;> decide

theorem colon_scopeText (scope : UInt32) (rest : List Char) :
    Stops (· == ':') (scopeText scope ++ ']' :: rest) := by
  intro c hc
  rcases first_scopeText scope rest c hc with rfl | rfl <;> decide

theorem read?_v6 (ip : Ipv6) (scope : UInt32) (port : UInt16) :
    read? (renderChars (.v6 ip scope port)) = some (.v6 ip scope port) := by
  have text : renderChars (.v6 ip scope port) = '[' :: (ip.render ++
      (scopeText scope ++ ']' :: ':' :: digits 10 port.toNat)) := by
    simp [renderChars, scopeText]
  have groups := ipv6?_render ip (apart_scopeText scope (':' :: digits 10 port.toNat))
    (colon_scopeText scope _)
  have no_v4 : v4? (renderChars (.v6 ip scope port)) = none := by
    rw [text, v4?, ipv4?_of_ends (ends_cons (by decide))]
    rfl
  simp only [read?, no_v4, Option.none_or]
  simp [text, v6?, char?, groups, scope_render, port?_digits]

/-- Every socket address is read from its text. -/
theorem read?_render (a : SocketAddress) : read? a.renderChars = some a := by
  cases a with
  | v4 ip port => exact read?_v4 ip port
  | v6 ip scope port => exact read?_v6 ip scope port

end SocketAddress

end FrameBus
