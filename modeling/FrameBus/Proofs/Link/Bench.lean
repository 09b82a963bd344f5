import FrameBus.Frame.Basic
import FrameBus.Proofs.Link.Table
import FrameBus.Proofs.Log

/-!
# Endpoints of one hub

Any number of endpoints of a hub are made, called and dropped in any order (`Bench.History`). What
an endpoint brings to the hub is told by the log of the calls alone: the id that it joined under and
has not left (`Joined`), the hook that was set last (`Hooked`), and whether it was started since it
last joined or was stopped (`Started`). The hub's table of members says the same of every endpoint
that joined (`Bench.Sound`), so that a frame runs the hooks that it should (`hub_of_history`).

Hooks take note of what they hear and answer what they like, by what was heard before.
-/

namespace FrameBus

namespace Hub

/-! ## Calls -/

/-- What an endpoint is called to do. -/
inductive Act (κ : Type) where
  | init (id : PortId)
  | setHook (k : κ)
  | start
  | stop
  | send (dest : PortId) (f : Frame)
  | exit
  /-- the endpoint is gone from then on -/
  | drop

/-- The endpoint leaves the hub, if it has joined it. -/
def Act.Leaves {κ : Type} : Act κ → Prop
  | .exit | .drop => True
  | _ => False

/-- A call at one of the endpoints, and what it answered. -/
structure Event (κ : Type) where
  place : Nat
  act : Act κ
  answer : Except BusError Unit

section

variable {κ : Type} (log : List (Event κ)) (i : Nat)

/-- The endpoint has joined under an id and not left since. -/
def Joined (id : PortId) : Prop :=
  Since ⟨i, .init id, .ok ()⟩ (fun e => e.place = i ∧ e.act.Leaves) log

/-- The hook that was last set at the endpoint. -/
def Hooked (k : κ) : Prop :=
  Since ⟨i, .setHook k, .ok ()⟩ (fun e => e.place = i ∧ ∃ k, e.act = .setHook k) log

/-- The endpoint was started since it last joined or was stopped. -/
def Started : Prop :=
  Since ⟨i, .start, .ok ()⟩
    (fun e => e.place = i ∧ (e.act = .stop ∨ ∃ id, e.act = .init id ∧ e.answer = .ok ())) log

/-- The endpoint is a member that hears, with a hook. -/
def Hears (id : PortId) (k : κ) : Prop := Joined log i id ∧ Started log i ∧ Hooked log i k

end

/-- What was heard, in order: the hook that ran, and the bytes. -/
abbrev Heard (κ : Type) := List (κ × List UInt8)

/-- What hooks answer; what they heard before may play a part in it. -/
abbrev Hooks (κ : Type) := κ → List UInt8 → Heard κ → Except BusError Unit

/-- A hook takes note of what it hears, and answers. -/
def Hooks.hear {κ : Type} (hooks : Hooks κ) (k : κ) (bytes : List UInt8) (heard : Heard κ) :
    Option (Except BusError Unit × Heard κ) :=
  some (hooks k bytes heard, heard ++ [(k, bytes)])

/-- A hub and the endpoints that were made for it, those that were dropped with nothing in their
place. -/
structure Bench (κ : Type) where
  hub : Hub κ := .empty
  ends : List (Option (Endpoint κ)) := []
  heard : Heard κ := []

namespace Bench

variable {κ : Type}

/-- The endpoint at a place, if it is there. -/
def endpoint? (b : Bench κ) (i : Nat) : Option (Endpoint κ) := (b.ends[i]?).join

def put (b : Bench κ) (i : Nat) (hub : Hub κ) (e : Option (Endpoint κ)) : Bench κ :=
  { b with hub, ends := b.ends.set i e }

/-- Calls the endpoint `e` at a place; nothing if the call never comes back. -/
def call (hooks : Hooks κ) (b : Bench κ) (i : Nat) (e : Endpoint κ) :
    Act κ → Option (Except BusError Unit × Bench κ)
  | .init id =>
    match b.hub.init e id with
    | .ok (hub, e) => some (.ok (), b.put i hub (some e))
    | .error x => some (.error x, b)
  | .setHook k => some (.ok (), b.put i (b.hub.setHook e k).1 (some (b.hub.setHook e k).2))
  | .start =>
    match b.hub.start e with
    | .ok hub => some (.ok (), { b with hub })
    | .error x => some (.error x, b)
  | .stop => some (.ok (), { b with hub := b.hub.stop e })
  | .send dest f =>
    match b.hub.route e dest with
    | .ok ks => (deliver hooks.hear dest f.window ks b.heard).map fun (answer, heard) =>
      (answer, { b with heard })
    | .error x => some (.error x, b)
  | .exit => some (.ok (), b.put i (b.hub.exit e).1 (some (b.hub.exit e).2))
  | .drop => some (.ok (), b.put i (b.hub.exit e).1 none)

/-- Endpoints are made and called, one call after the other. -/
inductive History (hooks : Hooks κ) : List (Event κ) → Bench κ → Prop
  | empty : History hooks [] {}
  | make {log : List (Event κ)} {b : Bench κ} : History hooks log b →
      History hooks log { b with ends := b.ends ++ [some {}] }
  | call {log : List (Event κ)} {b c : Bench κ} {e : Endpoint κ} {answer : Except BusError Unit}
      (i : Nat) (act : Act κ) : History hooks log b → b.endpoint? i = some e →
      b.call hooks i e act = some (answer, c) → History hooks (log ++ [⟨i, act, answer⟩]) c

end Bench

namespace Bench

variable {κ : Type} {log : List (Event κ)} {b c : Bench κ} {i j : Nat} {e : Endpoint κ}

/-! ## What the hub knows -/

/-- The hub and its endpoints are as the log says. -/
structure Sound (log : List (Event κ)) (b : Bench κ) : Prop where
  places : ∀ x ∈ log, x.place < b.ends.length
  joined : ∀ i id, Joined log i id ↔ ∃ e, b.endpoint? i = some e ∧ e.id = some id
  hooked : ∀ i e, b.endpoint? i = some e → ∀ k, e.hook = some k ↔ Hooked log i k
  /-- whoever has an id is the member under it, with the same hook -/
  member : ∀ i e id, b.endpoint? i = some e → e.id = some id →
    ∃ m, b.hub.find? id = some m ∧ m.hook = e.hook ∧ (m.started = true ↔ Started log i)
  owned : ∀ id m, b.hub.find? id = some m → ∃ i e, b.endpoint? i = some e ∧ e.id = some id
  nodup : b.hub.ids.Nodup
  apart : ∀ i j e e' id, b.endpoint? i = some e → b.endpoint? j = some e' → e.id = some id →
    e'.id = some id → i = j

/-! ## Endpoints -/

theorem lt_of_endpoint? (h : b.endpoint? i = some e) : i < b.ends.length := by
  unfold endpoint? at h
  apply Decidable.byContradiction
  intro beyond
  simp [List.getElem?_eq_none (Nat.le_of_not_lt beyond)] at h

theorem endpoint?_put (h : b.endpoint? i = some e) (hub : Hub κ) (new : Option (Endpoint κ))
    (j : Nat) : (b.put i hub new).endpoint? j = if i = j then new else b.endpoint? j := by
  simp only [endpoint?, put, List.getElem?_set, lt_of_endpoint? h, ↓reduceIte]
  split <;> rfl

theorem endpoint?_make (b : Bench κ) (j : Nat) :
    endpoint? { b with ends := b.ends ++ [some {}] } j =
      if j = b.ends.length then some {} else b.endpoint? j := by
  simp only [endpoint?, List.getElem?_append]
  split
  · next before => rw [if_neg (by omega)]
  · next beyond =>
    split
    · next last => simp [last]
    · next further =>
      rw [List.getElem?_eq_none (by simp; omega), List.getElem?_eq_none (by omega)]

/-! ## One more event -/

section

variable {act : Act κ} {answer : Except BusError Unit}

theorem joined_concat_of_ne (h : i ≠ j) (id : PortId) :
    Joined (log ++ [⟨i, act, answer⟩]) j id ↔ Joined log j id := by
  simp [Joined, since_concat, h]

theorem hooked_concat_of_ne (h : i ≠ j) (k : κ) :
    Hooked (log ++ [⟨i, act, answer⟩]) j k ↔ Hooked log j k := by
  simp [Hooked, since_concat, h]

theorem started_concat_of_ne (h : i ≠ j) :
    Started (log ++ [⟨i, act, answer⟩]) j ↔ Started log j := by
  simp [Started, since_concat, h]

/-- What a call at the endpoint `e` may change: that endpoint, in whose place `new` is then, and the
members under the ids of these two. -/
structure Turn (b c : Bench κ) (i : Nat) (e : Endpoint κ) (new : Option (Endpoint κ)) : Prop where
  length : c.ends.length = b.ends.length
  ends : ∀ j, c.endpoint? j = if i = j then new else b.endpoint? j
  nodup : c.hub.ids.Nodup
  /-- an id that was not the endpoint's own was free -/
  fresh : ∀ e' id, new = some e' → e'.id = some id → e.id = some id ∨ b.hub.find? id = none
  left : ∀ id, e.id = some id → (∀ e', new = some e' → e'.id ≠ some id) → c.hub.find? id = none
  others : ∀ id, e.id ≠ some id → (∀ e', new = some e' → e'.id ≠ some id) →
    c.hub.find? id = b.hub.find? id

section

variable {new : Option (Endpoint κ)} {id : PortId}

theorem Turn.here (t : Turn b c i e new) : c.endpoint? i = new := by
  rw [t.ends, if_pos rfl]

theorem Turn.elsewhere (t : Turn b c i e new) (hne : i ≠ j) : c.endpoint? j = b.endpoint? j := by
  rw [t.ends, if_neg hne]

/-- Nobody else has an id that the endpoint has, before or after. -/
theorem Turn.alone (t : Turn b c i e new) (h : Sound log b) (hi : b.endpoint? i = some e)
    {e' : Endpoint κ} (hne : i ≠ j) (hj : b.endpoint? j = some e') (hid : e'.id = some id) :
    e.id ≠ some id ∧ ∀ e', new = some e' → e'.id ≠ some id := by
  have before : e.id ≠ some id := fun he => hne (h.apart i j e e' id hi hj he hid)
  refine ⟨before, fun e'' hn he => ?_⟩
  obtain ⟨m, hm, -⟩ := h.member j e' id hj hid
  rcases t.fresh e'' id hn he with he | free
  · exact before he
  · cases hm.symm.trans free

/-- Each member is still somebody's. -/
theorem Turn.owned (t : Turn b c i e new) (h : Sound log b) (hi : b.endpoint? i = some e)
    {m : Member κ} (hm : c.hub.find? id = some m) :
    ∃ j e', c.endpoint? j = some e' ∧ e'.id = some id := by
  by_cases hn : ∃ e', new = some e' ∧ e'.id = some id
  · obtain ⟨e', hn, he⟩ := hn
    exact ⟨i, e', t.here.trans hn, he⟩
  · have hn : ∀ e', new = some e' → e'.id ≠ some id := fun e' hn' he => hn ⟨e', hn', he⟩
    by_cases he : e.id = some id
    · cases (t.left id he hn).symm.trans hm
    · rw [t.others id he hn] at hm
      obtain ⟨j, e', hj, hid⟩ := h.owned id m hm
      have hne : i ≠ j := by
        rintro rfl
        cases hi.symm.trans hj
        exact he hid
      exact ⟨j, e', (t.elsewhere hne).trans hj, hid⟩

/-- No two endpoints come to have one id. -/
theorem Turn.apart (t : Turn b c i e new) (h : Sound log b) (hi : b.endpoint? i = some e)
    {j j' : Nat} {e₁ e₂ : Endpoint κ} (h₁ : c.endpoint? j = some e₁) (h₂ : c.endpoint? j' = some e₂)
    (id₁ : e₁.id = some id) (id₂ : e₂.id = some id) : j = j' := by
  have own {k : Nat} {e' e'' : Endpoint κ} (h' : c.endpoint? i = some e')
      (h'' : c.endpoint? k = some e'') (id' : e'.id = some id) (id'' : e''.id = some id) : i = k :=
    Decidable.byContradiction fun hne =>
      (t.alone h hi hne (t.elsewhere hne ▸ h'') id'').2 e' (t.here ▸ h') id'
  by_cases hj : i = j
  · subst hj
    exact own h₁ h₂ id₁ id₂
  · by_cases hj' : i = j'
    · subst hj'
      exact (own h₂ h₁ id₂ id₁).symm
    · exact h.apart j j' e₁ e₂ id (t.elsewhere hj ▸ h₁) (t.elsewhere hj' ▸ h₂) id₁ id₂

theorem Sound.after (h : Sound log b) (hi : b.endpoint? i = some e) (t : Turn b c i e new)
    (joined : ∀ id, Joined (log ++ [⟨i, act, answer⟩]) i id ↔ ∃ e, new = some e ∧ e.id = some id)
    (hooked : ∀ e, new = some e → ∀ k, e.hook = some k ↔ Hooked (log ++ [⟨i, act, answer⟩]) i k)
    (own : ∀ e id, new = some e → e.id = some id → ∃ m, c.hub.find? id = some m ∧
      m.hook = e.hook ∧ (m.started = true ↔ Started (log ++ [⟨i, act, answer⟩]) i)) :
    Sound (log ++ [⟨i, act, answer⟩]) c := by
  refine ⟨fun x hx => ?_, fun j id => ?_, fun j e' hj k => ?_, fun j e' id hj hid => ?_,
    fun id m hm => t.owned h hi hm, t.nodup,
    fun j j' e₁ e₂ id h₁ h₂ id₁ id₂ => t.apart h hi h₁ h₂ id₁ id₂⟩
  · rw [t.length]
    rcases List.mem_append.1 hx with hx | hx
    · exact h.places x hx
    · rw [List.mem_singleton.1 hx]
      exact lt_of_endpoint? hi
  · by_cases hne : i = j
    · subst hne
      rw [joined, t.here]
    · rw [joined_concat_of_ne hne, h.joined, t.elsewhere hne]
  · by_cases hne : i = j
    · subst hne
      exact hooked e' (t.here ▸ hj) k
    · rw [hooked_concat_of_ne hne]
      exact h.hooked j e' (t.elsewhere hne ▸ hj) k
  · by_cases hne : i = j
    · subst hne
      exact own e' id (t.here ▸ hj) hid
    · have hj := t.elsewhere hne ▸ hj
      obtain ⟨before, behind⟩ := t.alone h hi hne hj hid
      rw [t.others id before behind, started_concat_of_ne hne]
      exact h.member j e' id hj hid

end

/-- A call that is of no account for the endpoint. -/
theorem Sound.idle (h : Sound log b) (hi : b.endpoint? i = some e)
    (joined : ∀ id, Joined (log ++ [⟨i, act, answer⟩]) i id ↔ Joined log i id)
    (hooked : ∀ k, Hooked (log ++ [⟨i, act, answer⟩]) i k ↔ Hooked log i k)
    (started : Started (log ++ [⟨i, act, answer⟩]) i ↔ Started log i) :
    Sound (log ++ [⟨i, act, answer⟩]) b := by
  have turn : Turn b b i e (some e) := by
    refine ⟨rfl, fun j => ?_, h.nodup, fun e' id hn hid => ?_,
      fun id he hn => absurd he (hn e rfl), fun _ _ _ => rfl⟩
    · split
      · next here => rw [← here, hi]
      · rfl
    · cases hn
      exact .inl hid
  refine h.after hi turn (fun id => ?_) (fun e' he k => ?_) (fun e' id hn hid => ?_)
  · rw [joined, h.joined, hi]
  · cases he
    rw [hooked]
    exact h.hooked i e hi k
  · cases hn
    rw [started]
    exact h.member i e id hi hid

theorem Sound.init {id : PortId} {hub : Hub κ} {e' : Endpoint κ} (h : Sound log b)
    (hi : b.endpoint? i = some e) (hj : b.hub.init e id = .ok (hub, e')) :
    Sound (log ++ [⟨i, .init id, .ok ()⟩]) (b.put i hub (some e')) := by
  have outside := id_of_init hj
  have unjoined (other : PortId) : ¬ Joined log i other := by
    rw [h.joined]
    rintro ⟨_, he, hid⟩
    cases hi.symm.trans he
    cases outside.symm.trans hid
  obtain ⟨-, rfl⟩ := eq_of_init hj
  have turn : Turn b (b.put i hub (some { e with id := some id })) i e
      (some { e with id := some id }) := by
    refine ⟨by simp [put], endpoint?_put hi _ _, ?_, fun _ other hn hid => ?_, fun other he => ?_,
      fun other _ hn => ?_⟩
    · show hub.ids.Nodup
      rw [ids_init hj]
      refine List.nodup_append.2 ⟨h.nodup, by simp, fun a ha c hc => ?_⟩
      rw [List.mem_singleton.1 hc]
      exact fun same => not_mem_of_init hj (same ▸ ha)
    · cases hn
      cases hid
      exact .inr (find?_eq_none_iff.2 (not_mem_of_init hj))
    · cases outside.symm.trans he
    · show hub.find? other = _
      rw [find?_of_init hj, if_neg]
      rintro rfl
      exact hn _ rfl rfl
  refine h.after hi turn (fun other => ?_) (fun _ he k => ?_) (fun _ other hn hid => ?_)
  · have this := unjoined other
    simp only [Joined, since_concat] at this ⊢
    simp [this]
  · cases he
    have old := h.hooked i e hi k
    simp only [Hooked, since_concat] at old ⊢
    simp [old]
  · cases hn
    cases hid
    refine ⟨⟨id, e.hook, false⟩, ?_, rfl, ?_⟩
    · show hub.find? id = _
      rw [find?_of_init hj, if_pos rfl]
    · simp [Started, since_concat]

/-- A call that changes what the endpoint's own member is, if it is one. -/
theorem Sound.change (h : Sound log b) (hi : b.endpoint? i = some e) {e' : Endpoint κ}
    {f : Member κ → Member κ} {hub : Hub κ} (same : e'.id = e.id) (keeps : ∀ m, (f m).id = m.id)
    (outside : e.id = none → hub = b.hub) (inside : ∀ id, e.id = some id → hub = b.hub.update id f)
    (joined : ∀ id, Joined (log ++ [⟨i, act, answer⟩]) i id ↔ Joined log i id)
    (hooked : ∀ k, e'.hook = some k ↔ Hooked (log ++ [⟨i, act, answer⟩]) i k)
    (member : ∀ m : Member κ, m.hook = e.hook → (m.started = true ↔ Started log i) →
      (f m).hook = e'.hook ∧
        ((f m).started = true ↔ Started (log ++ [⟨i, act, answer⟩]) i)) :
    Sound (log ++ [⟨i, act, answer⟩]) (b.put i hub (some e')) := by
  have ids : hub.ids = b.hub.ids := by
    cases hid : e.id with
    | none => rw [outside hid]
    | some id => rw [inside id hid, ids_update _ _ _ keeps]
  have others (id : PortId) (he : e.id ≠ some id) : hub.find? id = b.hub.find? id := by
    cases hid : e.id with
    | none => rw [outside hid]
    | some own =>
      rw [inside own hid, find?_update keeps, if_neg]
      rintro rfl
      exact he hid
  have turn : Turn b (b.put i hub (some e')) i e (some e') := by
    refine ⟨by simp [put], endpoint?_put hi _ _, ids ▸ h.nodup, fun _ id hn hid => ?_,
      fun id he hn => absurd (same.trans he) (hn e' rfl), fun id he _ => others id he⟩
    cases hn
    exact .inl (same.symm.trans hid)
  refine h.after hi turn (fun id => ?_) (fun _ he k => ?_) (fun _ id hn hid => ?_)
  · rw [joined, h.joined, hi]
    simp [same]
  · cases he
    exact hooked k
  · cases hn
    have he := same.symm.trans hid
    obtain ⟨m, hm, hook, started⟩ := h.member i e id hi he
    obtain ⟨hook', started'⟩ := member m hook started
    refine ⟨f m, ?_, hook', started'⟩
    show hub.find? id = some (f m)
    rw [inside id he, find?_update keeps, if_pos rfl, hm]
    rfl

/-- The endpoint leaves the hub; a dropped one is gone. -/
theorem Sound.leave (h : Sound log b) (act : Act κ) (hi : b.endpoint? i = some e)
    (leaves : act.Leaves) {new : Option (Endpoint κ)}
    (outside : ∀ e', new = some e' → e'.id = none ∧ e'.hook = e.hook) :
    Sound (log ++ [⟨i, act, .ok ()⟩]) (b.put i (b.hub.exit e).1 new) := by
  have none_id (id : PortId) (e' : Endpoint κ) (hn : new = some e') : e'.id ≠ some id := by
    rw [(outside e' hn).1]
    nofun
  have turn : Turn b (b.put i (b.hub.exit e).1 new) i e new := by
    refine ⟨by simp [put], endpoint?_put hi _ _, ?_,
      fun e' id hn hid => absurd hid (none_id id e' hn), fun id he _ => ?_, fun id he _ => ?_⟩
    · show (b.hub.exit e).1.ids.Nodup
      cases hid : e.id with
      | none => simpa [Hub.exit, hid] using h.nodup
      | some id => exact ids_exit hid ▸ h.nodup.filter _
    · exact (find?_exit he id).trans (if_pos rfl)
    · show (b.hub.exit e).1.find? id = _
      cases hid : e.id with
      | none => simp [Hub.exit, hid]
      | some own =>
        rw [find?_exit hid, if_neg]
        rintro rfl
        exact he hid
  refine h.after hi turn (fun id => ?_) (fun e' hn k => ?_)
    (fun e' id hn hid => absurd hid (none_id id e' hn))
  · constructor
    · intro hj
      rcases (since_concat _ _).1 hj with same | ⟨-, stays⟩
      · cases same
        exact leaves.elim
      · exact absurd ⟨rfl, leaves⟩ stays
    · rintro ⟨e', hn, hid⟩
      exact absurd hid (none_id id e' hn)
  · rw [(outside e' hn).2, h.hooked i e hi]
    have other : ∀ k, act ≠ .setHook k := by
      rintro k rfl
      exact leaves
    simp [Hooked, since_concat, other]

theorem put_self (hi : b.endpoint? i = some e) (hub : Hub κ) :
    b.put i hub (some e) = { b with hub } := by
  have there : b.ends[i]? = some (some e) := Option.join_eq_some_iff.1 hi
  have same : b.ends.set i (some e) = b.ends := by
    apply List.ext_getElem?
    intro j
    rw [List.getElem?_set]
    split
    · next here => rw [if_pos (lt_of_endpoint? hi), ← here, there]
    · rfl
  rw [put, same]

theorem Sound.setHook (h : Sound log b) (hi : b.endpoint? i = some e) (k : κ) :
    Sound (log ++ [⟨i, .setHook k, .ok ()⟩])
      (b.put i (b.hub.setHook e k).1 (some (b.hub.setHook e k).2)) := by
  refine h.change hi (f := fun m => { m with hook := some k }) rfl (fun _ => rfl)
    (fun hid => ?_) (fun id hid => ?_) (fun id => ?_) (fun k' => ?_) fun m _ started => ⟨rfl, ?_⟩
  · simp [Hub.setHook, hid]
  · simp [Hub.setHook, hid]
  · simp [Joined, since_concat, Act.Leaves]
  · simp [Hub.setHook, Hooked, since_concat]
  · show m.started = true ↔ _
    rw [started]
    simp [Started, since_concat]

theorem Sound.start {hub : Hub κ} (h : Sound log b) (hi : b.endpoint? i = some e)
    (hs : b.hub.start e = .ok hub) : Sound (log ++ [⟨i, .start, .ok ()⟩]) { b with hub } := by
  rw [← put_self hi]
  refine h.change hi (f := fun m => { m with started := true }) rfl (fun _ => rfl)
    (fun hid => ?_) (fun id hid => ?_) (fun id => ?_) (fun k => ?_) fun m hook _ => ⟨hook, ?_⟩
  · simp [Hub.start, hid] at hs
  · simpa [Hub.start, hid, eq_comm] using hs
  · simp [Joined, since_concat, Act.Leaves]
  · rw [h.hooked i e hi]
    simp [Hooked, since_concat]
  · simp [Started, since_concat]

theorem Sound.stop (h : Sound log b) (hi : b.endpoint? i = some e) :
    Sound (log ++ [⟨i, .stop, .ok ()⟩]) { b with hub := b.hub.stop e } := by
  rw [← put_self hi]
  refine h.change hi (f := fun m => { m with started := false }) rfl (fun _ => rfl)
    (fun hid => ?_) (fun id hid => ?_) (fun id => ?_) (fun k => ?_) fun m hook _ => ⟨hook, ?_⟩
  · simp [Hub.stop, hid]
  · simp [Hub.stop, hid]
  · simp [Joined, since_concat, Act.Leaves]
  · rw [h.hooked i e hi]
    simp [Hooked, since_concat]
  · simp [Started, since_concat]

/-- What was heard is no matter for the hub. -/
theorem Sound.hears (h : Sound log b) (heard : Heard κ) : Sound log { b with heard } :=
  ⟨h.places, h.joined, h.hooked, h.member, h.owned, h.nodup, h.apart⟩

theorem Sound.send (h : Sound log b) (hi : b.endpoint? i = some e) (dest : PortId) (f : Frame) :
    Sound (log ++ [⟨i, .send dest f, answer⟩]) b :=
  h.idle hi (fun id => by simp [Joined, since_concat, Act.Leaves])
    (fun k => by simp [Hooked, since_concat]) (by simp [Started, since_concat])

/-- Nothing was called at an endpoint that is only made now. -/
theorem Sound.make (h : Sound log b) : Sound log { b with ends := b.ends ++ [some {}] } := by
  have before {x : Event κ} (hx : x ∈ log) : x.place ≠ b.ends.length :=
    Nat.ne_of_lt (h.places x hx)
  have old {j : Nat} {e : Endpoint κ} {id : PortId}
      (hj : endpoint? { b with ends := b.ends ++ [some {}] } j = some e) (hid : e.id = some id) :
      b.endpoint? j = some e := by
    rw [endpoint?_make] at hj
    split at hj
    · cases hj
      cases hid
    · exact hj
  have kept {j : Nat} {e : Endpoint κ} (hj : b.endpoint? j = some e) :
      endpoint? { b with ends := b.ends ++ [some {}] } j = some e := by
    rw [endpoint?_make, if_neg (Nat.ne_of_lt (lt_of_endpoint? hj)), hj]
  refine ⟨fun x hx => ?_, fun j id => ?_, fun j e hj k => ?_,
    fun j e id hj hid => h.member j e id (old hj hid) hid, fun id m hm => ?_, h.nodup,
    fun j j' e e' id hj hj' hid hid' => h.apart j j' e e' id (old hj hid) (old hj' hid') hid hid'⟩
  · have := h.places x hx
    simp only [List.length_append]
    omega
  · rw [h.joined]
    exact ⟨fun ⟨e, hj, hid⟩ => ⟨e, kept hj, hid⟩, fun ⟨e, hj, hid⟩ => ⟨e, old hj hid, hid⟩⟩
  · rw [endpoint?_make] at hj
    split at hj
    · next fresh =>
      cases hj
      refine iff_of_false nofun fun hooked => ?_
      exact before (mem_of_since hooked) fresh
    · exact h.hooked j e hj k
  · obtain ⟨j, e, hj, hid⟩ := h.owned id m hm
    exact ⟨j, e, kept hj, hid⟩

theorem Sound.call {hooks : Hooks κ} (h : Sound log b) (hi : b.endpoint? i = some e)
    (hc : b.call hooks i e act = some (answer, c)) : Sound (log ++ [⟨i, act, answer⟩]) c := by
  cases act with
  | init id =>
    simp only [Bench.call] at hc
    split at hc
    · next hj =>
      cases hc
      exact h.init hi hj
    · cases hc
      exact h.idle hi (fun id => by simp [Joined, since_concat, Act.Leaves])
        (fun k => by simp [Hooked, since_concat]) (by simp [Started, since_concat])
  | setHook k =>
    cases hc
    exact h.setHook hi k
  | start =>
    simp only [Bench.call] at hc
    split at hc
    · next hs =>
      cases hc
      exact h.start hi hs
    · cases hc
      exact h.idle hi (fun id => by simp [Joined, since_concat, Act.Leaves])
        (fun k => by simp [Hooked, since_concat]) (by simp [Started, since_concat])
  | stop =>
    cases hc
    exact h.stop hi
  | send dest f =>
    simp only [Bench.call] at hc
    split at hc
    · obtain ⟨⟨answer, heard⟩, -, hc⟩ := Option.map_eq_some_iff.1 hc
      cases hc
      exact (h.send hi dest f).hears heard
    · cases hc
      exact h.send hi dest f
  | exit =>
    cases hc
    refine h.leave .exit hi trivial fun e' hn => ?_
    cases hn
    cases hid : e.id <;> simp [Hub.exit, hid]
  | drop =>
    cases hc
    exact h.leave .drop hi trivial (by simp)

end

theorem sound_empty : Sound [] ({} : Bench κ) where
  places := nofun
  joined i id := by simp [Joined, endpoint?]
  hooked i e h := by simp [endpoint?] at h
  member i e id h := by simp [endpoint?] at h
  owned id m h := by simp [find?, Hub.empty] at h
  nodup := List.nodup_nil
  apart i j e e' id h := by simp [endpoint?] at h

theorem sound_of_history {hooks : Hooks κ} (h : History hooks log b) : Sound log b := by
  induction h with
  | empty => exact sound_empty
  | make _ ih => exact ih.make
  | call _ _ _ hi hc ih => exact ih.call hi hc

/-! ## Frames -/

/-- The members that hear are those that the log says. -/
theorem Sound.hears_iff (h : Sound log b) {id : PortId} {k : κ} :
    Hears log i id k ↔ (∃ e, b.endpoint? i = some e ∧ e.id = some id) ∧
      ∃ m, b.hub.find? id = some m ∧ m.live? = some k := by
  constructor
  · rintro ⟨joined, started, hooked⟩
    obtain ⟨e, hi, hid⟩ := (h.joined i id).1 joined
    obtain ⟨m, hm, hook, started'⟩ := h.member i e id hi hid
    refine ⟨⟨e, hi, hid⟩, m, hm, ?_⟩
    rw [Member.live?, if_pos (started'.2 started), hook]
    exact (h.hooked i e hi k).2 hooked
  · rintro ⟨⟨e, hi, hid⟩, m, hm, live⟩
    obtain ⟨m', hm', hook, started⟩ := h.member i e id hi hid
    cases hm.symm.trans hm'
    unfold Member.live? at live
    split at live
    · next hs =>
      exact ⟨(h.joined i id).2 ⟨e, hi, hid⟩, started.1 hs,
        (h.hooked i e hi k).1 (hook.symm.trans live)⟩
    · cases live

/-- The hook that a frame to one id runs is that of the endpoint that hears under it. -/
theorem Sound.live_iff (h : Sound log b) {dest : PortId} {k : κ} :
    (b.hub.find? dest).bind Member.live? = some k ↔ ∃ j, Hears log j dest k := by
  rw [Option.bind_eq_some_iff]
  constructor
  · rintro ⟨m, hm, live⟩
    obtain ⟨j, e, he⟩ := h.owned dest m hm
    exact ⟨j, h.hears_iff.2 ⟨⟨e, he⟩, m, hm, live⟩⟩
  · rintro ⟨j, hears⟩
    exact (h.hears_iff.1 hears).2

section

variable {hooks : Hooks κ} {dest : PortId}

/-- Every hook of a broadcast runs, whatever those before it answer. -/
theorem deliver_broadcast (hb : dest.isBroadcast = true) (bytes : List UInt8) (ks : List κ)
    (heard : Heard κ) :
    deliver hooks.hear dest bytes ks heard =
      some (.ok (), heard ++ ks.map fun k => (k, bytes)) := by
  induction ks generalizing heard with
  | nil => simp [deliver]
  | cons k ks ih =>
    have rest := ih (heard ++ [(k, bytes)])
    simp only [deliver, Hooks.hear, Option.bind_eq_bind, Option.bind_some, hb, ↓reduceIte]
    split <;> simp [rest]

theorem deliver_one (hu : dest.isBroadcast = false) (bytes : List UInt8) (k : κ) (heard : Heard κ) :
    deliver hooks.hear dest bytes [k] heard =
      some (hooks k bytes heard, heard ++ [(k, bytes)]) := by
  simp only [deliver, Hooks.hear, Option.bind_eq_bind, Option.bind_some, hu]
  split
  · next h => simp [h]
  · next h => simp [h]

end

theorem forall₂_filterMap {α β γ : Type} {R : γ → β → Prop} {f : α → Option β} {g : α → γ}
    {l : List α} (h : ∀ a ∈ l, ∀ k, f a = some k → R (g a) k) :
    List.Forall₂ R ((l.filter fun a => (f a).isSome).map g) (l.filterMap f) := by
  induction l with
  | nil => exact .nil
  | cons a l ih =>
    have rest := ih fun a' ha => h a' (List.mem_cons_of_mem _ ha)
    cases hk : f a with
    | none => simpa [hk] using rest
    | some k =>
      simp only [List.filter_cons, hk, Option.isSome_some, ↓reduceIte, List.map_cons,
        List.filterMap_cons]
      exact .cons (h a List.mem_cons_self k hk) rest

/-- The hooks that a broadcast is for belong each to one endpoint, which hears and is not the
sender's. -/
theorem Sound.broadcast (h : Sound log b) (hi : b.endpoint? i = some e) {id : PortId}
    (hid : e.id = some id) :
    ∃ js, js.Nodup ∧ (∀ j, j ∈ js ↔ j ≠ i ∧ ∃ other k, Hears log j other k) ∧
      List.Forall₂ (Hooked log) js
        ((b.hub.members.filter fun m => m.id != id).filterMap Member.live?) := by
  have somewhere (m : Member κ) : ∃ j, m ∈ b.hub.members →
      ∃ e, b.endpoint? j = some e ∧ e.id = some m.id := by
    by_cases hm : m ∈ b.hub.members
    · obtain ⟨j, e, hj⟩ := h.owned m.id m (find?_of_mem h.nodup hm)
      exact ⟨j, fun _ => ⟨e, hj⟩⟩
    · exact ⟨0, fun h => absurd h hm⟩
  choose place placed using somewhere
  have hears {m : Member κ} (hm : m ∈ b.hub.members) {k : κ} (live : m.live? = some k) :
      Hears log (place m) m.id k :=
    h.hears_iff.2 ⟨placed m hm, m, find?_of_mem h.nodup hm, live⟩
  refine ⟨((b.hub.members.filter fun m => m.id != id).filter fun m => m.live?.isSome).map place,
    ?_, fun j => ?_, forall₂_filterMap fun m hm k live => (hears (List.mem_filter.1 hm).1 live).2.2⟩
  · have distinct : b.hub.members.Nodup := List.Nodup.of_map _ h.nodup
    refine ((distinct.filter _).filter _).map_on fun m hm m' hm' same => ?_
    have hm := (List.mem_filter.1 (List.mem_filter.1 hm).1).1
    have hm' := (List.mem_filter.1 (List.mem_filter.1 hm').1).1
    obtain ⟨e, he, own⟩ := placed m hm
    obtain ⟨e', he', own'⟩ := placed m' hm'
    cases (same ▸ he).symm.trans he'
    exact List.inj_on_of_nodup_map h.nodup hm hm' (Option.some.inj (own.symm.trans own'))
  · simp only [List.mem_map, List.mem_filter, bne_iff_ne, ne_eq, Option.isSome_iff_exists]
    constructor
    · rintro ⟨m, ⟨⟨hm, other⟩, k, live⟩, rfl⟩
      refine ⟨fun same => ?_, m.id, k, hears hm live⟩
      obtain ⟨e', he', own⟩ := placed m hm
      cases (same ▸ he').symm.trans hi
      exact other (Option.some.inj (own.symm.trans hid))
    · rintro ⟨other, own, k, hk⟩
      obtain ⟨⟨e', he', hid'⟩, m, hm, live⟩ := h.hears_iff.1 hk
      obtain ⟨mem, rfl⟩ := mem_of_find? hm
      obtain ⟨e'', he'', own''⟩ := placed m mem
      refine ⟨m, ⟨⟨mem, fun same => ?_⟩, k, live⟩, h.apart _ _ e'' e' m.id he'' he' own'' hid'⟩
      exact other (h.apart j i e' e m.id he' hi hid' (same ▸ hid))

/-- What a frame that an endpoint sends comes to: what the call answers, and what is heard after
it. -/
structure Delivers (hooks : Hooks κ) (log : List (Event κ)) (i : Nat) (dest : PortId)
    (bytes : List UInt8) (before : Heard κ) (answer : Except BusError Unit) (after : Heard κ) :
    Prop where
  outside : (∀ id, ¬ Joined log i id) → answer = .error .notRunning ∧ after = before
  /-- the one hook of the destination runs, and answers -/
  unicast : ∀ id j k, Joined log i id → dest.isBroadcast = false → Hears log j dest k →
    answer = hooks k bytes before ∧ after = before ++ [(k, bytes)]
  unreachable : ∀ id, Joined log i id → dest.isBroadcast = false → (∀ j k, ¬ Hears log j dest k) →
    answer = .error (.unreachable dest) ∧ after = before
  /-- the hook of every endpoint that hears runs once, but for the sender's -/
  broadcast : ∀ id, Joined log i id → dest.isBroadcast = true → answer = .ok () ∧
    ∃ js ks, js.Nodup ∧ (∀ j, j ∈ js ↔ j ≠ i ∧ ∃ other k, Hears log j other k) ∧
      List.Forall₂ (Hooked log) js ks ∧ after = before ++ ks.map fun k => (k, bytes)

theorem Sound.delivers {hooks : Hooks κ} (h : Sound log b) (hi : b.endpoint? i = some e)
    (dest : PortId) (f : Frame) : ∃ answer heard,
      b.call hooks i e (.send dest f) = some (answer, { b with heard }) ∧
        Delivers hooks log i dest f.window b.heard answer heard := by
  have joined (id : PortId) : Joined log i id ↔ e.id = some id := by
    rw [h.joined, hi]
    simp
  cases hid : e.id with
  | none =>
    have never (id : PortId) : ¬ Joined log i id := fun member => by
      cases hid.symm.trans ((joined id).1 member)
    exact ⟨.error .notRunning, b.heard, by simp [Bench.call, route, hid], fun _ => ⟨rfl, rfl⟩,
      fun id _ _ member => absurd member (never id), fun id member => absurd member (never id),
      fun id member => absurd member (never id)⟩
  | some id =>
    have member : Joined log i id := (joined id).2 hid
    have inside {p : Prop} (out : ∀ id, ¬ Joined log i id) : p := absurd member (out id)
    cases hb : dest.isBroadcast with
    | true =>
      obtain ⟨js, distinct, hears, hooked⟩ := h.broadcast hi hid
      refine ⟨.ok (), _, ?_, inside, fun _ _ _ _ hu => ?_, fun _ _ hu => ?_,
        fun _ _ _ => ⟨rfl, js, _, distinct, hears, hooked, rfl⟩⟩
      · simp [Bench.call, route, hid, recipients, hb, deliver_broadcast hb]
      · cases hb.symm.trans hu
      · cases hb.symm.trans hu
    | false =>
      have unicast : ∀ id, Joined log i id → dest.isBroadcast = true → False := fun _ _ hb' => by
        cases hb.symm.trans hb'
      cases live : (b.hub.find? dest).bind Member.live? with
      | some k =>
        refine ⟨hooks k f.window b.heard, b.heard ++ [(k, f.window)], ?_, inside,
          fun _ j k' _ _ hears => ?_, fun _ _ _ nobody => ?_,
          fun id m hb' => (unicast id m hb').elim⟩
        · simp [Bench.call, route, hid, recipients, hb, live, deliver_one hb]
        · cases live.symm.trans (h.live_iff.2 ⟨j, hears⟩)
          exact ⟨rfl, rfl⟩
        · obtain ⟨j, hears⟩ := h.live_iff.1 live
          exact absurd hears (nobody j k)
      | none =>
        refine ⟨.error (.unreachable dest), b.heard, ?_, inside, fun _ j k _ _ hears => ?_,
          fun _ _ _ _ => ⟨rfl, rfl⟩, fun id m hb' => (unicast id m hb').elim⟩
        · simp [Bench.call, route, hid, recipients, hb, live]
        · cases live.symm.trans (h.live_iff.2 ⟨j, hears⟩)

/-- The hub is what the log of the calls says. -/
theorem hub_of_history {hooks : Hooks κ} (h : History hooks log b) :
    b.hub.ids.Nodup ∧ (∀ id, id ∈ b.hub.ids ↔ ∃ i, Joined log i id) ∧
    (∀ i j id, Joined log i id → Joined log j id → i = j) ∧
    (∀ m ∈ b.hub.members, ∀ i, Joined log i m.id →
      (∀ k, m.hook = some k ↔ Hooked log i k) ∧ (m.started = true ↔ Started log i)) ∧
    ∀ i e, b.endpoint? i = some e →
      (∀ id x c, b.call hooks i e (.init id) = some (.error x, c) → c = b) ∧
      ∀ dest f, ∃ answer heard, b.call hooks i e (.send dest f) = some (answer, { b with heard }) ∧
        Delivers hooks log i dest f.window b.heard answer heard := by
  have sound := sound_of_history h
  refine ⟨sound.nodup, fun id => ?_, fun i j id hi hj => ?_, fun m hm i joined => ?_,
    fun i e hi => ⟨fun id x c hc => ?_, sound.delivers hi⟩⟩
  · constructor
    · intro hid
      obtain ⟨m, hm, rfl⟩ := List.mem_map.1 hid
      obtain ⟨i, e, hi⟩ := sound.owned m.id m (find?_of_mem sound.nodup hm)
      exact ⟨i, (sound.joined i m.id).2 ⟨e, hi⟩⟩
    · rintro ⟨i, joined⟩
      obtain ⟨e, hi, hid⟩ := (sound.joined i id).1 joined
      obtain ⟨m, hm, -⟩ := sound.member i e id hi hid
      obtain ⟨mem, rfl⟩ := mem_of_find? hm
      exact List.mem_map_of_mem mem
  · obtain ⟨e, he, hid⟩ := (sound.joined i id).1 hi
    obtain ⟨e', he', hid'⟩ := (sound.joined j id).1 hj
    exact sound.apart i j e e' id he he' hid hid'
  · obtain ⟨e, hi, hid⟩ := (sound.joined i m.id).1 joined
    obtain ⟨m', hm', hook, started⟩ := sound.member i e m.id hi hid
    cases (find?_of_mem sound.nodup hm).symm.trans hm'
    exact ⟨fun k => by rw [hook, sound.hooked i e hi], started⟩
  · simp only [call] at hc
    split at hc
    · cases hc
    · cases hc
      rfl

/-- The second of three endpoints leaves and joins again under another id, and the third takes its
first one. A broadcast of the first runs the hooks of both, although one of them refuses. -/
theorem hub_of_history_with_refusal : ∃ (log : List (Event Nat)) (b : Bench Nat),
    History (fun k _ _ => if k = 1 then .error .queueClosed else .ok ()) log b ∧
    b.hub.ids = [⟨1⟩, ⟨6⟩, ⟨5⟩] ∧ b.heard = [(1, [7]), (2, [7])] ∧
    (∀ id, id ∈ b.hub.ids ↔ ∃ i, Joined log i id) := by
  have made : History (fun k _ _ => if k = 1 then .error .queueClosed else .ok ()) [] _ :=
    .make (.make (.make .empty))
  have first := made.call 0 (.setHook 0) rfl rfl |>.call 0 (.init ⟨1⟩) rfl rfl
    |>.call 0 .start rfl rfl
  have second := first.call 1 (.init ⟨5⟩) rfl rfl |>.call 1 (.setHook 1) rfl rfl
    |>.call 1 .start rfl rfl
  have refused := second.call 2 (.init ⟨5⟩) rfl rfl
  have again := refused.call 1 .exit rfl rfl |>.call 1 (.init ⟨6⟩) rfl rfl |>.call 1 .start rfl rfl
  have third := again.call 2 (.init ⟨5⟩) rfl rfl |>.call 2 (.setHook 2) rfl rfl
    |>.call 2 .start rfl rfl
  have sent := third.call 0 (.send .broadcast (.ofBytes [7])) rfl rfl
  exact ⟨_, _, sent, rfl, rfl, (hub_of_history sent).2.1⟩

end Bench

end Hub

end FrameBus
