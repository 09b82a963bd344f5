import FrameBus.Job.Probe
import FrameBus.Proofs.Frame.Corruption
import FrameBus.Proofs.Log

/-!
# Trials

A trial is a run of pings with what the run does not write down: whether a ping is waited for, and
the answers that came, with how many of them were taken. A ping is sent when the wait for the one
before it is over. Until its own wait ends, numbers are taken from the channel, and answers come at
any time: late, again, out of order, to pings that were never sent, or too short for a number.

    send i, take k, .., take i      i is answered
    send i, take k, .., expire      i is lost

The moments of a trial tell for every ping that counts whether it has a latency: it has one if an
answer with its number was taken while it was waited for (`Trial.samples_attributed`). What the
program makes of a network is a trial (`Trial.course_of_pingAll`).
-/

namespace FrameBus

/-! ## Numbers in answers -/

/-- Numbers that fit into 8 bytes are told by them. -/
theorem Bytes.ofLittle_eq_iff {bytes : List UInt8} {i : Nat} (long : bytes.length = 8)
    (small : i < 18446744073709551616) : ofLittle bytes = i ↔ bytes = little 8 i := by
  constructor
  · rintro rfl
    have back := big_ofBig bytes.reverse
    rw [List.length_reverse, long] at back
    rw [little, ofLittle, back, List.reverse_reverse]
  · rintro rfl
    rw [ofLittle, little, List.reverse_reverse, ofBig_big]
    exact Nat.mod_eq_of_lt small

namespace Probe

/-- The number that an answer tells, if it is long enough for one. -/
def number (payload : List UInt8) : Nat := Bytes.ofLittle (payload.take 8)

theorem number_eq_iff {payload : List UInt8} {i : Nat} (long : 8 ≤ payload.length)
    (small : i < 18446744073709551616) : number payload = i ↔ payload.take 8 = Bytes.little 8 i :=
  Bytes.ofLittle_eq_iff (by rw [List.length_take]; omega) small

theorem readSequence_of_long {payload : List UInt8} (long : 8 ≤ payload.length) :
    readSequence payload = some (number payload) :=
  if_neg (by omega)

theorem readSequence_of_short {payload : List UInt8} (short : payload.length < 8) :
    readSequence payload = none :=
  if_pos short

theorem length_pingPayload (size i : Nat) : (pingPayload size i).length = max size 8 := by
  simp only [pingPayload, Bytes.little, List.length_append, List.length_reverse, Bytes.length_big,
    List.length_replicate]
  omega

theorem take_pingPayload (size i : Nat) : (pingPayload size i).take 8 = Bytes.little 8 i := by
  have eight : (Bytes.little 8 i).length = 8 := by simp [Bytes.little]
  rw [pingPayload, List.take_append_of_le_length (by omega), List.take_of_length_le (by omega)]

/-- Whoever echoes a ping answers with its number. -/
theorem readSequence_pingPayload {size i : Nat} (small : i < 18446744073709551616) :
    readSequence (pingPayload size i) = some i := by
  have long : 8 ≤ (pingPayload size i).length := by rw [length_pingPayload]; omega
  rw [readSequence_of_long long, (number_eq_iff long small).2 (take_pingPayload size i)]

/-! ## Single steps of a run -/

namespace Pings

variable {p : Pings} {i : Nat} {rest : List Nat} {latency : UInt64}

theorem step_take (going : p.isDone = false) (next : p.channel = i :: rest) :
    p.step (.take latency) =
      if i = p.current then ({ p with channel := rest } : Pings).answered latency
      else { p with channel := rest } := by
  simp [step, going, next]

theorem current_step_take (p : Pings) (latency : UInt64) :
    (p.step (.take latency)).current = p.current ∨
      (p.step (.take latency)).current = p.current + 1 := by
  simp only [step, answered]
  grind

theorem length_channel_step_take (p : Pings) (latency : UInt64) :
    p.channel.length ≤ (p.step (.take latency)).channel.length + 1 := by
  simp only [step, answered]
  grind

theorem step_expire (going : p.isDone = false) : p.step .expire = p.missed := by
  simp [step, going]

/-- Only a ping that counts has a latency. -/
theorem samples_answered (p : Pings) (latency : UInt64) : (p.answered latency).samples =
    if p.warmup ≤ p.current then p.samples ++ [latency] else p.samples := by
  simp only [answered, measured, decide_eq_true_eq]

/-- Only a ping that counts is lost. -/
theorem lost_missed (p : Pings) :
    p.missed.lost = if p.warmup ≤ p.current then p.lost + 1 else p.lost := by
  simp only [missed, measured, decide_eq_true_eq]

theorem step_pong (payload : List UInt8) :
    p.step (.pong payload) = { p with channel := p.channel ++ (readSequence payload).toList } := by
  cases h : readSequence payload <;> simp [step, h]

end Pings

/-! ## Trials -/

structure Trial where
  pings : Pings
  /-- whether the current ping was sent, and its wait is not over -/
  waiting : Bool := false
  /-- the answers that told a number, in order of arrival -/
  answers : List (List UInt8) := []
  /-- how many of them were taken -/
  taken : Nat := 0

namespace Trial

variable {size warmup count i : Nat} {s t u : Trial}

/-- A run before its first ping. -/
def start (warmup count : Nat) : Trial := { pings := { warmup, count } }

inductive Move where
  | send (payload : List UInt8)
  | happens (what : Pings.Happening)

/-- One move of a trial whose pings have at least so many bytes. The loop sends, takes and lets a
wait end; answers come whenever they like. -/
inductive Step (size : Nat) : Trial → Move → Trial → Prop
  | send {t : Trial} : t.pings.isDone = false → t.waiting = false →
      Step size t (.send (pingPayload size t.pings.current)) { t with waiting := true }
  | pong (t : Trial) (payload : List UInt8) :
      Step size t (.happens (.pong payload)) { t with
        pings := t.pings.step (.pong payload)
        answers := if 8 ≤ payload.length then t.answers ++ [payload] else t.answers }
  | take {t : Trial} (latency : UInt64) : t.waiting = true → t.pings.channel ≠ [] →
      Step size t (.happens (.take latency)) { t with
        pings := t.pings.step (.take latency)
        waiting := decide ((t.pings.step (.take latency)).current = t.pings.current)
        taken := t.taken + 1 }
  | expire {t : Trial} : t.waiting = true →
      Step size t (.happens .expire) { t with pings := t.pings.step .expire, waiting := false }

/-- A move with the trial before and after it. -/
structure Moment where
  before : Trial
  move : Move
  after : Trial

/-- What a trial went through, the oldest moment first. -/
inductive Course (size : Nat) (s : Trial) : List Moment → Trial → Prop
  | start : Course size s [] s
  | next {ms : List Moment} {t u : Trial} {m : Move} : Course size s ms t → Step size t m u →
      Course size s (ms ++ [⟨t, m, u⟩]) u

/-- What happened to the run of pings, in order. -/
def happenings (ms : List Moment) : List Pings.Happening :=
  ms.filterMap fun m =>
    match m.move with
    | .send _ => none
    | .happens what => some what

/-- The figures of a trial are those of the run to which the same happens. -/
theorem pings_of_course {ms : List Moment} (c : Course size s ms t) :
    t.pings = s.pings.run (happenings ms) := by
  induction c with
  | start => rfl
  | next c step ih =>
    rw [happenings, List.filterMap_append, Pings.run_append, ← happenings, ← ih]
    cases step <;> rfl

/-! ## What moments tell -/

namespace Moment

/-- Ping `i` is sent. -/
def Sends (size i : Nat) (m : Moment) : Prop :=
  m.before.pings.current = i ∧ m.move = .send (pingPayload size i)

/-- The wait for ping `i` ends, with an answer or without one. -/
def Ends (i : Nat) (m : Moment) : Prop :=
  m.before.pings.current = i ∧ m.after.pings.current ≠ i

/-- The `k`th answer is taken from the channel. -/
def Takes (k : Nat) (payload : List UInt8) (m : Moment) : Prop :=
  (∃ latency, m.move = .happens (.take latency)) ∧ m.before.taken = k ∧
    m.before.answers[k]? = some payload

/-- Ping `i` contributes a latency. -/
def Samples (i : Nat) (latency : UInt64) (m : Moment) : Prop :=
  m.before.pings.current = i ∧ m.move = .happens (.take latency) ∧
    m.after.pings.samples = m.before.pings.samples ++ [latency]

/-- An answer with the number of ping `i` is taken. -/
def Meets (i : Nat) (m : Moment) : Prop :=
  ∃ k payload, m.Takes k payload ∧ payload.take 8 = Bytes.little 8 i

end Moment

variable {ms : List Moment} {m : Moment} {move : Move}

/-- Ping `i` was sent, and its wait has not ended since. -/
def Awaits (size i : Nat) (ms : List Moment) : Prop :=
  ∃ sent : Moment, sent.Sends size i ∧ Since sent (Moment.Ends i) ms

/-- While ping `i` was waited for, an answer with its number was taken. -/
def Answered (size i : Nat) (ms : List Moment) : Prop :=
  ∃ before m after, ms = before ++ m :: after ∧ Awaits size i before ∧ m.Meets i

def Contributes (i : Nat) (ms : List Moment) : Prop := ∃ m ∈ ms, ∃ latency, m.Samples i latency

theorem awaits_concat : Awaits size i (ms ++ [m]) ↔
    m.Sends size i ∨ Awaits size i ms ∧ ¬ m.Ends i := by
  constructor
  · rintro ⟨sent, sends, since⟩
    rcases (since_concat ms m).1 since with rfl | ⟨since, still⟩
    · exact .inl sends
    · exact .inr ⟨⟨sent, sends, since⟩, still⟩
  · rintro (sends | ⟨⟨sent, sends, since⟩, still⟩)
    · exact ⟨m, sends, (since_concat ms m).2 (.inl rfl)⟩
    · exact ⟨sent, sends, (since_concat ms m).2 (.inr ⟨since, still⟩)⟩

theorem answered_concat : Answered size i (ms ++ [m]) ↔
    Answered size i ms ∨ Awaits size i ms ∧ m.Meets i := by
  constructor
  · rintro ⟨before, x, after, split, awaits, meets⟩
    rcases concat_eq_append_cons_iff.1 split with ⟨rfl, rfl, -⟩ | ⟨rest, -, rfl⟩
    · exact .inr ⟨awaits, meets⟩
    · exact .inl ⟨before, x, rest, rfl, awaits, meets⟩
  · rintro (⟨before, x, after, rfl, awaits, meets⟩ | ⟨awaits, meets⟩)
    · exact ⟨before, x, after ++ [m], by simp, awaits, meets⟩
    · exact ⟨ms, m, [], rfl, awaits, meets⟩

theorem contributes_concat : Contributes i (ms ++ [m]) ↔
    Contributes i ms ∨ ∃ latency, m.Samples i latency := by
  simp only [Contributes, List.mem_append, List.mem_singleton, or_and_right, exists_or,
    exists_eq_left]

/-! ## What every trial keeps -/

/-- A trial whose parts belong together. -/
structure Sound (warmup count : Nat) (t : Trial) : Prop where
  same_warmup : t.pings.warmup = warmup
  same_count : t.pings.count = count
  within : t.pings.current ≤ warmup + count
  going : t.waiting = true → t.pings.current < warmup + count
  /-- each ping that counts and is over has a latency or is lost -/
  tally : t.pings.samples.length + t.pings.lost = t.pings.current - warmup
  long : ∀ payload ∈ t.answers, 8 ≤ payload.length
  taken : t.taken ≤ t.answers.length
  channel : t.pings.channel = (t.answers.drop t.taken).map number

/-- What a move comes to. -/
inductive Outcome (size : Nat) (t : Trial) : Move → Trial → Prop
  | sent : t.waiting = false → t.pings.isDone = false →
      Outcome size t (.send (pingPayload size t.pings.current)) { t with waiting := true }
  | came {payload : List UInt8} : 8 ≤ payload.length →
      Outcome size t (.happens (.pong payload)) { t with
        pings := { t.pings with channel := t.pings.channel ++ [number payload] }
        answers := t.answers ++ [payload] }
  /-- an answer is too short for a number -/
  | ignored {payload : List UInt8} : payload.length < 8 →
      Outcome size t (.happens (.pong payload)) t
  /-- the number of another ping is taken -/
  | passed {latency : UInt64} {payload : List UInt8} : t.waiting = true →
      t.answers[t.taken]? = some payload → 8 ≤ payload.length →
      number payload ≠ t.pings.current →
      Outcome size t (.happens (.take latency)) { t with
        pings := { t.pings with channel := t.pings.channel.tail }
        taken := t.taken + 1 }
  /-- the number of the current ping is taken -/
  | met {latency : UInt64} {payload : List UInt8} : t.waiting = true →
      t.answers[t.taken]? = some payload → 8 ≤ payload.length →
      number payload = t.pings.current →
      Outcome size t (.happens (.take latency)) { t with
        pings := ({ t.pings with channel := t.pings.channel.tail } : Pings).answered latency
        waiting := false
        taken := t.taken + 1 }
  | lost : t.waiting = true →
      Outcome size t (.happens .expire) { t with pings := t.pings.missed, waiting := false }

namespace Sound

theorem start : Sound warmup count (Trial.start warmup count) where
  same_warmup := rfl
  same_count := rfl
  within := Nat.zero_le _
  going h := by cases h
  tally := (Nat.zero_sub _).symm
  long payload h := by cases h
  taken := Nat.zero_le _
  channel := rfl

theorem isDone_eq_false (h : Sound warmup count t) :
    t.pings.isDone = false ↔ t.pings.current < warmup + count := by
  rw [Pings.isDone, Pings.total, h.same_warmup, h.same_count, decide_eq_false_iff_not, Nat.not_le]

/-- The next number in the channel is that of the next answer. -/
theorem next (h : Sound warmup count t) (ready : t.pings.channel ≠ []) :
    ∃ payload, t.answers[t.taken]? = some payload ∧ 8 ≤ payload.length ∧
      t.pings.channel = number payload :: t.pings.channel.tail := by
  have inside : t.taken < t.answers.length := by
    by_contra beyond
    apply ready
    rw [h.channel, List.drop_eq_nil_of_le (by omega), List.map_nil]
  have long := h.long _ (List.getElem_mem inside)
  refine ⟨t.answers[t.taken], List.getElem?_eq_getElem inside, long, ?_⟩
  rw [h.channel, List.drop_eq_getElem_cons inside, List.map_cons, List.tail_cons]

theorem outcome (h : Sound warmup count t) (step : Step size t move u) : Outcome size t move u := by
  cases step with
  | send going rests => exact .sent rests going
  | pong payload =>
    by_cases long : 8 ≤ payload.length
    · rw [Pings.step_pong, readSequence_of_long long, if_pos long]
      exact .came long
    · have short : payload.length < 8 := by omega
      rw [Pings.step_pong, readSequence_of_short short, if_neg long, Option.toList_none,
        List.append_nil]
      exact .ignored short
  | take latency waits ready =>
    obtain ⟨payload, first, long, next⟩ := h.next ready
    rw [Pings.step_take (h.isDone_eq_false.2 (h.going waits)) next]
    by_cases same : number payload = t.pings.current
    · have past : t.pings.current + 1 ≠ t.pings.current := by omega
      simp only [if_pos same, Pings.answered, decide_eq_false past]
      exact .met waits first long same
    · simp only [if_neg same, decide_true]
      rw [← waits]
      exact .passed waits first long same
  | expire waits =>
    rw [Pings.step_expire (h.isDone_eq_false.2 (h.going waits))]
    exact .lost waits

theorem channel_taken (h : Sound warmup count t) :
    t.pings.channel.tail = (t.answers.drop (t.taken + 1)).map number := by
  rw [h.channel, ← List.map_tail, List.tail_drop]

theorem of_outcome (h : Sound warmup count t) (o : Outcome size t move u) :
    Sound warmup count u := by
  have tally := h.tally
  cases o with
  | sent rests going => exact { h with going := fun _ => h.isDone_eq_false.1 going }
  | @came payload long =>
    refine { h with long := ?_, taken := ?_, channel := ?_ }
    · intro x hx
      rcases List.mem_append.1 hx with hx | hx
      · exact h.long x hx
      · rwa [List.mem_singleton.1 hx]
    · exact Nat.le_trans h.taken (by simp)
    · show t.pings.channel ++ [number payload] = ((t.answers ++ [payload]).drop t.taken).map number
      rw [h.channel, List.drop_append_of_le_length h.taken, List.map_append, List.map_singleton]
  | ignored => exact h
  | passed _ first =>
    have inside := (List.getElem?_eq_some_iff.1 first).1
    exact { h with taken := inside, channel := h.channel_taken }
  | met waits first =>
    have inside := (List.getElem?_eq_some_iff.1 first).1
    refine { h with
      within := h.going waits, going := nofun, tally := ?_, taken := inside
      channel := h.channel_taken }
    rw [Pings.samples_answered, h.same_warmup]
    simp only [Pings.answered]
    split
    · rw [List.length_append, List.length_singleton]
      omega
    · omega
  | lost waits =>
    refine { h with within := h.going waits, going := nofun, tally := ?_ }
    rw [Pings.lost_missed, h.same_warmup]
    simp only [Pings.missed]
    split <;> omega

/-- At the end every ping that counts has a latency or is lost. -/
theorem whole (h : Sound warmup count t) (ended : t.pings.isDone = true) :
    t.pings.samples.length + t.pings.lost = count := by
  have within := h.within
  have past : ¬ t.pings.current < warmup + count := by
    rw [← h.isDone_eq_false, ended]
    exact Bool.noConfusion
  rw [h.tally]
  omega

theorem of_course (h : Sound warmup count s) (c : Course size s ms t) : Sound warmup count t := by
  induction c with
  | start => exact h
  | next _ step ih => exact ih.of_outcome (ih.outcome step)

end Sound

/-- Every moment of a trial is an outcome of a sound one. -/
theorem outcome_of_mem (c : Course size (start warmup count) ms t) (hm : m ∈ ms) :
    Sound warmup count m.before ∧ Outcome size m.before m.move m.after := by
  induction c with
  | start => cases hm
  | next c step ih =>
    rcases List.mem_append.1 hm with hm | hm
    · exact ih hm
    · obtain rfl := List.mem_singleton.1 hm
      have sound := Sound.start.of_course c
      exact ⟨sound, sound.outcome step⟩

/-! ## Waits and takes -/

/-- The ping that is waited for is the current one, and it was sent. -/
theorem awaits_iff (c : Course size (start warmup count) ms t) :
    Awaits size i ms ↔ t.waiting = true ∧ t.pings.current = i := by
  induction c with
  | start => simp [Awaits, start]
  | next c step ih =>
    rw [awaits_concat, ih]
    cases (Sound.start.of_course c).outcome step with
    | sent rests => simp +contextual [Moment.Sends, rests]
    | came => simp [Moment.Sends, Moment.Ends]
    | ignored => simp [Moment.Sends, Moment.Ends]
    | passed waits => simp [Moment.Sends, Moment.Ends, waits]
    | met => grind [Moment.Sends, Moment.Ends, Pings.answered]
    | lost => grind [Moment.Sends, Moment.Ends, Pings.missed]

/-- A take meets the ping whose number the next answer tells. -/
theorem meets_iff {latency : UInt64} {payload : List UInt8}
    (first : t.answers[t.taken]? = some payload) :
    Moment.Meets i ⟨t, .happens (.take latency), u⟩ ↔ payload.take 8 = Bytes.little 8 i := by
  constructor
  · rintro ⟨_, other, ⟨-, rfl, same⟩, told⟩
    obtain rfl := Option.some.inj (first.symm.trans same)
    exact told
  · intro told
    exact ⟨t.taken, payload, ⟨⟨latency, rfl⟩, rfl, first⟩, told⟩

/-- A ping contributes if it counts and an answer to it is taken while it is waited for. -/
theorem Sound.samples_iff (h : Sound warmup count t) (fits : warmup + count < 18446744073709551616)
    (o : Outcome size t move u) :
    (∃ latency, Moment.Samples i latency ⟨t, move, u⟩) ↔
      warmup ≤ i ∧ (t.waiting = true ∧ t.pings.current = i) ∧ Moment.Meets i ⟨t, move, u⟩ := by
  cases o with
  | sent | came | ignored | lost => simp [Moment.Samples, Moment.Meets, Moment.Takes]
  | passed waits first long other =>
    rw [meets_iff first]
    have small := h.going waits
    constructor
    · rintro ⟨_, -, -, more⟩
      simp at more
    · rintro ⟨-, ⟨-, rfl⟩, told⟩
      exact absurd ((number_eq_iff long (by omega)).2 told) other
  | @met latency payload waits first long same =>
    rw [meets_iff first]
    have small := h.going waits
    have told := (number_eq_iff long (by omega)).1 same
    constructor
    · rintro ⟨_, rfl, -, more⟩
      refine ⟨?_, ⟨waits, rfl⟩, told⟩
      by_contra warm
      simp [Pings.samples_answered, h.same_warmup, warm] at more
    · rintro ⟨counted, ⟨-, rfl⟩, -⟩
      refine ⟨latency, rfl, rfl, ?_⟩
      simp [Pings.samples_answered, h.same_warmup, counted]

theorem contributes_iff (fits : warmup + count < 18446744073709551616)
    (c : Course size (start warmup count) ms t) :
    Contributes i ms ↔ warmup ≤ i ∧ Answered size i ms := by
  induction c with
  | start => simp [Contributes, Answered]
  | next c step ih =>
    have sound := Sound.start.of_course c
    rw [contributes_concat, answered_concat, ih, sound.samples_iff fits (sound.outcome step),
      awaits_iff c, and_or_left]

/-! ## Shares -/

/-- Either the samples stay, or there is one more, for the current ping, which is then over. -/
theorem samples_of_outcome (o : Outcome size t move u) :
    u.pings.samples = t.pings.samples ∧ t.pings.current ≤ u.pings.current ∧
        (∀ i latency, ¬ Moment.Samples i latency ⟨t, move, u⟩) ∨
      ∃ latency, u.pings.samples = t.pings.samples ++ [latency] ∧
        t.pings.current < u.pings.current ∧
        ∀ i x, Moment.Samples i x ⟨t, move, u⟩ ↔ i = t.pings.current ∧ x = latency := by
  cases o with
  | sent | came | ignored => exact .inl ⟨rfl, Nat.le_refl _, by simp [Moment.Samples]⟩
  | passed => exact .inl ⟨rfl, Nat.le_refl _, by simp [Moment.Samples]⟩
  | lost => exact .inl ⟨rfl, Nat.le_succ _, by simp [Moment.Samples]⟩
  | @met latency =>
    by_cases counted : t.pings.warmup ≤ t.pings.current
    · refine .inr ⟨latency, ?_, Nat.lt_succ_self _, ?_⟩ <;>
        simp [Moment.Samples, Pings.samples_answered, counted, eq_comm]
    · refine .inl ⟨?_, Nat.le_succ _, ?_⟩ <;>
        simp [Moment.Samples, Pings.samples_answered, counted]

/-- The latencies with the pings that contributed them: the samples in order, one for a ping. -/
theorem shares_of_course (c : Course size (start warmup count) ms t) :
    ∃ shares : List (Nat × UInt64), shares.map Prod.snd = t.pings.samples ∧
      (shares.map Prod.fst).Pairwise (· < ·) ∧ (∀ share ∈ shares, share.1 < t.pings.current) ∧
      ∀ i latency, (i, latency) ∈ shares ↔ ∃ m ∈ ms, m.Samples i latency := by
  induction c with
  | start => exact ⟨[], rfl, .nil, by simp, by simp⟩
  | @next ms t u move c step ih =>
    obtain ⟨shares, samples, sorted, past, told⟩ := ih
    have member : ∀ i x, (∃ m ∈ ms ++ [⟨t, move, u⟩], m.Samples i x) ↔
        (i, x) ∈ shares ∨ Moment.Samples i x ⟨t, move, u⟩ := by
      intro i x
      simp only [told, List.mem_append, List.mem_singleton, or_and_right, exists_or,
        exists_eq_left]
    rcases samples_of_outcome ((Sound.start.of_course c).outcome step) with
      ⟨same, on, nothing⟩ | ⟨latency, more, on, this⟩
    · refine ⟨shares, samples.trans same.symm, sorted, ?_, ?_⟩
      · exact fun share h => Nat.lt_of_lt_of_le (past share h) on
      · intro i x
        rw [member, or_iff_left (nothing i x)]
    · refine ⟨shares ++ [(t.pings.current, latency)], ?_, ?_, ?_, ?_⟩
      · rw [List.map_append, samples, more]
        rfl
      · rw [List.map_append, List.pairwise_append]
        refine ⟨sorted, List.pairwise_singleton _ _, ?_⟩
        intro i hi j hj
        obtain ⟨share, hs, rfl⟩ := List.mem_map.1 hi
        rw [List.map_singleton, List.mem_singleton] at hj
        exact hj ▸ past share hs
      · intro share h
        rcases List.mem_append.1 h with h | h
        · exact Nat.lt_trans (past share h) on
        · rw [List.mem_singleton.1 h]
          exact on
      · intro i x
        rw [member, this, List.mem_append, List.mem_singleton, Prod.mk.injEq]

/-- Pings that are for warming up leave the figures as they are. -/
theorem figures_of_warming (h : Sound warmup count t) (o : Outcome size t move u)
    (warm : t.pings.current < warmup) :
    u.pings.samples = t.pings.samples ∧ u.pings.lost = t.pings.lost := by
  have uncounted : ¬ warmup ≤ t.pings.current := Nat.not_le.2 warm
  cases o with
  | sent | came | ignored | passed => exact ⟨rfl, rfl⟩
  | met => exact ⟨by simp [Pings.samples_answered, h.same_warmup, uncounted], rfl⟩
  | lost => exact ⟨rfl, by simp [Pings.lost_missed, h.same_warmup, uncounted]⟩

/-- What was taken is behind. -/
theorem takes_lt {k : Nat} {payload : List UInt8} (c : Course size s ms t) (hm : m ∈ ms)
    (takes : m.Takes k payload) : k < t.taken := by
  induction c with
  | start => cases hm
  | next c step ih =>
    rcases List.mem_append.1 hm with hm | hm
    · have before := ih hm
      cases step <;> first | exact before | exact Nat.lt_succ_of_lt before
    · obtain rfl := List.mem_singleton.1 hm
      obtain ⟨⟨latency, rfl⟩, rfl, -⟩ := takes
      cases step
      exact Nat.lt_succ_self _

/-- Answers are taken in the order in which they came, so none is taken twice. -/
theorem takes_in_order {a b j k : Nat} {n : Moment} {p q : List UInt8} (c : Course size s ms t)
    (ordered : a < b) (ha : ms[a]? = some m) (hb : ms[b]? = some n) (first : m.Takes j p)
    (second : n.Takes k q) : j < k := by
  induction c with
  | start => cases ha
  | @next ms t u move c step ih =>
    obtain ⟨inside, -⟩ := List.getElem?_eq_some_iff.1 hb
    rw [List.length_append, List.length_singleton] at inside
    rw [List.getElem?_append_left (by omega)] at ha
    by_cases last : b = ms.length
    · rw [last, List.getElem?_concat_length] at hb
      obtain rfl := Option.some.inj hb
      rw [← second.2.1]
      exact takes_lt c (List.mem_of_getElem? ha) first
    · rw [List.getElem?_append_left (by omega)] at hb
      exact ih ha hb

/-! ## The end of a trial -/

theorem course_append {ns : List Moment} (c : Course size s ms t) (d : Course size t ns u) :
    Course size s (ms ++ ns) u := by
  induction d with
  | start => rwa [List.append_nil]
  | next _ step ih =>
    rw [← List.append_assoc]
    exact .next ih step

theorem course_of_step (step : Step size t move u) : Course size t [⟨t, move, u⟩] u :=
  .next .start step

/-- However a trial stands, its waits can end one after another until it is done. -/
theorem exists_end (h : Sound warmup count t) :
    ∃ ns u, Course size t ns u ∧ u.pings.isDone = true := by
  induction hn : warmup + count - t.pings.current generalizing t with
  | zero =>
    have ended : t.pings.isDone = true := by
      rw [← Bool.not_eq_false, h.isDone_eq_false]
      omega
    exact ⟨[], t, .start, ended⟩
  | succ n ih =>
    have going : t.pings.current < warmup + count := by omega
    have undone := h.isDone_eq_false.2 going
    have sent : ∃ ns, Course size t ns { t with waiting := true } := by
      cases waits : t.waiting with
      | false => exact ⟨_, course_of_step (.send undone waits)⟩
      | true =>
        rw [← waits]
        exact ⟨[], .start⟩
    obtain ⟨ns, c⟩ := sent
    have d := Course.next c (.expire rfl)
    have next : (t.pings.step .expire).current = t.pings.current + 1 := by
      rw [Pings.step_expire undone]
      rfl
    have left : warmup + count - (t.pings.step .expire).current = n := by omega
    obtain ⟨more, u, e, ended⟩ := ih (h.of_course d) left
    exact ⟨_, u, course_append d e, ended⟩

/-! ## The law of trials -/

/-- How the figures of a trial come from its moments. -/
structure Attributed (size warmup count : Nat) (ms : List Moment) (t : Trial) : Prop where
  /-- at the end every ping that counts has a latency or is lost -/
  whole : t.pings.isDone = true → t.pings.samples.length + t.pings.lost = count
  /-- it has a latency if it was answered while it was waited for -/
  exact : ∀ i, Contributes i ms ↔ warmup ≤ i ∧ Answered size i ms
  /-- the latencies are those of these pings, one for each, in order -/
  shares : ∃ shares : List (Nat × UInt64), shares.map Prod.snd = t.pings.samples ∧
    (shares.map Prod.fst).Pairwise (· < ·) ∧
    ∀ i latency, (i, latency) ∈ shares ↔ ∃ m ∈ ms, m.Samples i latency
  /-- each is owed to an answer with the ping's number that is taken then -/
  owed : ∀ m ∈ ms, ∀ i latency, m.Samples i latency → m.Meets i
  /-- a later take takes a later answer, so no answer is taken twice -/
  once : ∀ (a b : Nat) (m n : Moment) (j k : Nat) (p q : List UInt8), a < b →
    ms[a]? = some m → ms[b]? = some n → m.Takes j p → n.Takes k q → j < k
  /-- the other pings leave the figures as they are -/
  warming : ∀ m ∈ ms, m.before.pings.current < warmup →
    m.after.pings.samples = m.before.pings.samples ∧ m.after.pings.lost = m.before.pings.lost
  /-- what is in the channel are the numbers of the answers that are not taken yet -/
  channel : t.pings.channel = (t.answers.drop t.taken).map number
  /-- no trial is stuck before its end -/
  ends : ∃ ns u, Course size t ns u ∧ u.pings.isDone = true

/-- **Whatever answers come, and whenever they come, every ping that counts has a latency exactly
if an answer with its number was taken while it was waited for, and is lost otherwise.** -/
theorem samples_attributed (fits : warmup + count < 18446744073709551616)
    (c : Course size (start warmup count) ms t) : Attributed size warmup count ms t := by
  have sound := Sound.start.of_course c
  obtain ⟨shares, samples, sorted, -, told⟩ := shares_of_course c
  refine {
    whole := sound.whole
    exact := fun i => contributes_iff fits c
    shares := ⟨shares, samples, sorted, told⟩
    owed := fun m hm i latency found => ?_
    once := fun a b m n j k p q ordered ha hb => takes_in_order c ordered ha hb
    warming := fun m hm warm => ?_
    channel := sound.channel
    ends := exists_end sound }
  · obtain ⟨before, o⟩ := outcome_of_mem c hm
    exact ((before.samples_iff fits o).1 ⟨latency, found⟩).2.2
  · obtain ⟨before, o⟩ := outcome_of_mem c hm
    exact figures_of_warming before o warm

/-- A ping for warming up is answered twice, the next one after the second answer, and the last one
only by an answer to the one before. -/
theorem samples_attributed_stale : ∃ ms t, Course 4 (start 1 2) ms t ∧
    Attributed 4 1 2 ms t ∧ t.pings.isDone = true ∧ t.pings.samples = [250] ∧ t.pings.lost = 1 := by
  have warm := (((@Course.start 4 (start 1 2)).next (.send rfl rfl)).next
    (.pong _ (pingPayload 4 0))).next (.take 90 rfl (by decide))
  have first := ((((warm.next (.send rfl rfl)).next (.pong _ (pingPayload 4 0))).next
    (.take 120 rfl (by decide))).next (.pong _ (pingPayload 4 1))).next (.take 250 rfl (by decide))
  have last := ((((first.next (.send rfl rfl)).next (.pong _ [2, 0])).next
    (.pong _ (pingPayload 4 1))).next (.take 30 rfl (by decide))).next (.expire rfl)
  exact ⟨_, _, last, samples_attributed (by decide) last, by decide, by decide, by decide⟩

/-! ## The program's own trials -/

/-- Answers come to a trial, and the ping that is waited for stays the same. -/
theorem course_pongs (size : Nat) (payloads : List (List UInt8)) (t : Trial) :
    ∃ ns u, Course size t ns u ∧
    u.pings = t.pings.run (payloads.map .pong) ∧ u.waiting = t.waiting ∧
    u.pings.current = t.pings.current := by
  induction payloads generalizing t with
  | nil => exact ⟨[], t, .start, rfl, rfl, rfl⟩
  | cons payload rest ih =>
    have step : Step size t _ _ := .pong t payload
    obtain ⟨ns, u, c, pings, waiting, same⟩ := ih _
    refine ⟨_, u, course_append (course_of_step step) c, pings, waiting, same.trans ?_⟩
    rw [Pings.step_pong]

/-- Ping `i` is waited for, or its wait is over and no other ping is sent yet. -/
def About (i : Nat) (t : Trial) : Prop :=
  t.waiting = true ∧ t.pings.current = i ∨ t.waiting = false ∧ t.pings.current = i + 1

/-- Takes without delay, as many as there are numbers in the channel. -/
theorem course_takes (size : Nat) (latency : UInt64) {l : List Nat} (about : t.About i)
    (enough : t.pings.current = i → l.length ≤ t.pings.channel.length) :
    ∃ ns u, Course size t ns u ∧ u.About i ∧ u.pings = l.foldl
      (fun (q : Pings) _ => if q.current = i then q.step (.take latency) else q) t.pings := by
  induction l generalizing t with
  | nil => exact ⟨[], t, .start, about, rfl⟩
  | cons j l ih =>
    rw [List.foldl_cons]
    rcases about with ⟨waits, rfl⟩ | ⟨rests, past⟩
    · have room := enough rfl
      rw [List.length_cons] at room
      have ready : t.pings.channel ≠ [] := List.ne_nil_of_length_pos (by omega)
      have step : Step size t _ _ := .take latency waits ready
      have shorter := t.pings.length_channel_step_take latency
      rw [if_pos rfl]
      have still : ({ t with
          pings := t.pings.step (.take latency)
          waiting := decide ((t.pings.step (.take latency)).current = t.pings.current)
          taken := t.taken + 1 } : Trial).About t.pings.current := by
        rcases t.pings.current_step_take latency with same | next
        · exact .inl ⟨decide_eq_true same, same⟩
        · exact .inr ⟨decide_eq_false (by omega), next⟩
      obtain ⟨ns, u, c, about, pings⟩ := ih still fun _ => by
        show l.length ≤ (t.pings.step (.take latency)).channel.length
        omega
      exact ⟨_, u, course_append (course_of_step step) c, about, pings⟩
    · have other : t.pings.current ≠ i := by omega
      rw [if_neg other]
      exact ih (.inr ⟨rests, past⟩) fun same => absurd same other

end Trial

end Probe

namespace Job.Probe

open FrameBus.Probe (Trial Pings pingEvent pingPayload)
open FrameBus.Probe.Trial

variable {warmup count : Nat} {t : Trial}

/-- One ping of the program: it is sent, the answers come, all are taken, and the wait ends. -/
theorem course_of_ping (size : Nat) (sound : Sound warmup count t) (rests : t.waiting = false)
    (going : t.pings.current < warmup + count) (payloads : List (List UInt8)) {run : Pings}
    (taken : run = Pings.drain 0 (t.pings.run (payloads.map .pong))) :
    ∃ ns u, Course size t ns u ∧ u.waiting = false ∧ u.pings.current = t.pings.current + 1 ∧
      u.pings = if run.current = t.pings.current then run.step .expire else run := by
  have step : Step size t _ _ := .send (sound.isDone_eq_false.2 going) rests
  obtain ⟨ns, v, came, pings, waiting, same⟩ :=
    course_pongs size payloads { t with waiting := true }
  have waited : v.About t.pings.current := .inl ⟨waiting, same⟩
  obtain ⟨more, u, passed, about, drained⟩ := course_takes size 0 (l := v.pings.channel) waited
    fun _ => Nat.le_refl _
  have c := course_append (course_of_step step) (course_append came passed)
  have drained : u.pings = run := by
    rw [taken, drained, Pings.drain, ← pings, same]
  rw [← drained]
  rcases about with ⟨waits, here⟩ | ⟨ended, past⟩
  · rw [if_pos here]
    refine ⟨_, _, .next c (.expire waits), rfl, ?_, rfl⟩
    show (u.pings.step .expire).current = _
    rw [Pings.step_expire ((sound.of_course c).isDone_eq_false.2 (by omega)), ← here]
    rfl
  · rw [if_neg (by omega)]
    exact ⟨_, u, c, ended, past, rfl⟩

/-- A run of the program that comes to its end is a trial that does. -/
theorem course_of_pingAll {e : Ending} {probe : FrameBus.Probe} {o : CommandLine.Probe.Options}
    {dest : PortId} {size interval remaining elapsed after : Nat} {run : Pings} {p q : Job}
    {n m : Network} (steady : e.interrupt = none) (sound : Sound warmup count t)
    (rests : t.waiting = false) (left : t.pings.current + remaining = warmup + count)
    (h : pingAll e probe o dest size interval remaining elapsed t.pings p n =
      (.done, after, run, q, m)) :
    ∃ ms u, Course size t ms u ∧ u.pings = run ∧ run.isDone = true := by
  induction remaining generalizing elapsed t p n with
  | zero =>
    cases h
    refine ⟨[], t, .start, rfl, ?_⟩
    rw [← Bool.not_eq_false, sound.isDone_eq_false]
    omega
  | succ remaining ih =>
    have undisturbed : e.interrupts elapsed = false := by
      rw [Ending.interrupts, steady]
      rfl
    rw [pingAll, undisturbed, Bool.and_false, if_neg Bool.false_ne_true] at h
    split at h
    · cases h
    · cases sent : probe.send n dest pingEvent (pingPayload size t.pings.current) with
      | none => simp [sent] at h
      | some answer =>
        obtain ⟨result, n'⟩ := answer
        cases result with
        | error x => simp [sent] at h
        | ok _ =>
          simp only [sent] at h
          have answers : pongs (n'.settle fuel) probe (probe.deeds n).length =
              (((probe.deeds (n'.settle fuel)).drop (probe.deeds n).length).map
                fun d => d.1.payload).map .pong := List.map_map.symm
          generalize now : Pings.drain 0 (t.pings.run (pongs _ _ _)) = drained at h
          rw [answers] at now
          obtain ⟨ns, u, c, rests, next, pings⟩ :=
            course_of_ping size sound rests (by omega) _ now.symm
          rw [apply_ite Prod.fst, ← pings] at h
          obtain ⟨more, v, d, ends, ended⟩ := ih (sound.of_course c) rests (by omega) h
          exact ⟨_, v, course_append c d, ends, ended⟩

/-- Every ping that the program counts has a latency or is lost. -/
theorem figures_of_pingAll {e : Ending} {probe : FrameBus.Probe} {o : CommandLine.Probe.Options}
    {dest : PortId} {size interval after : Nat} {run : Pings} {p q : Job} {n m : Network}
    (steady : e.interrupt = none)
    (h : pingAll e probe o dest size interval (warmup + count) 0 { warmup, count } p n =
      (.done, after, run, q, m)) : run.samples.length + run.lost = count := by
  obtain ⟨ms, u, c, rfl, ended⟩ := course_of_pingAll steady Sound.start rfl (Nat.zero_add _) h
  exact (Sound.start.of_course c).whole ended

end Job.Probe

end FrameBus
