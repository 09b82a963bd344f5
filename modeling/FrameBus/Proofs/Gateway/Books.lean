import FrameBus.Proofs.Gateway.Tallies
import FrameBus.Proofs.Network.Mesh

/-!
# The books of a gateway

What the counters of a gateway say about its work. Its two workers make their steps
(`Network.work`) while the rest of the network does anything that leaves the gateway its counters,
its link answers a transmission as it likes, and ended workers start again (`Books.Step`). A run has
a history of what happened to the frames, read off the stands of the workers and the answers of the
link and not off the counters.

A transmission is a transfer and then the booking of its answer: `Network.book` is what
`Network.transmit` goes on with (`transmit_eq`), and with the answer of the gateway's own link a
step of the books is the step of its worker (`act_eq_work`).

Every step adds tallies that fit its entries, so a run does (`accounts_of_run`), and with empty
hands at both ends the counters are those of the history (`books_balance`).
-/

namespace FrameBus

/-! ## Parts of a move -/

/-- What is sent on came from another node. -/
def Errand.OfSide (side : Side) : Errand → Prop
  | .transmit _ _ relayed => relayed = (side == .down)
  | _ => True

def Stand.OfSide (side : Side) : Stand → Prop
  | .busy _ e => e.OfSide side
  | _ => True

namespace Network

/-- What a gateway has counted. -/
def counters? (n : Network) (g : Nat) : Option Counters := (n.gateways[g]?).map Gateway.counters

/-- The gateway counted `ts`, and nothing else. -/
def Counted (n : Network) (g : Nat) (ts : List Tally) (m : Network) : Prop :=
  m.counters? g = (n.counters? g).map fun c => c.recordAll ts

variable {n m k : Network} {g : Nat} {gw : Gateway} {side : Side} {f : Frame}

theorem Counted.of_eq (h : m.counters? g = n.counters? g) : n.Counted g [] m := by
  rw [Counted, h]
  cases n.counters? g <;> rfl

theorem Counted.trans {ts us : List Tally} (h : n.Counted g ts m) (h' : m.Counted g us k) :
    n.Counted g (ts ++ us) k := by
  rw [Counted, h', h, Option.map_map]
  congr 1
  funext c
  exact (Counters.recordAll_append c ts us).symm

theorem counters?_modifyGateway {F : Gateway → Gateway} (hF : ∀ gw, (F gw).counters = gw.counters)
    (n : Network) (g k : Nat) : (n.modifyGateway k F).counters? g = n.counters? g := by
  rw [counters?, getElem?_modifyGateway, counters?]
  split
  · cases n.gateways[g]? with
    | none => rfl
    | some gw => exact congrArg some (hF gw)
  · rfl

theorem counted_record (n : Network) (g : Nat) (t : Tally) : n.Counted g [t] (n.record g t) := by
  rw [Counted, counters?, record, getElem?_modifyGateway, if_pos rfl, counters?]
  cases n.gateways[g]? <;> rfl

theorem counted_pop (n : Network) (g : Nat) (gw : Gateway) (side : Side) :
    n.Counted g [] (n.pop g gw side).2 := by
  cases side with
  | up => exact .of_eq rfl
  | down =>
    exact .of_eq (counters?_modifyGateway (F := fun gv => { gv with ingress := gw.ingress.poll.2 })
      (fun _ => rfl) n g g)

/-- What a judge makes of a frame in hand. -/
def Judged (n : Network) (g : Nat) (side : Side) (es : List Entry) (f : Frame)
    (result : Option Errand × Network) : Prop :=
  ∃ ts, n.Counted g ts result.2 ∧ Accounts es 1 (Stand.after f result.1).frames.length ts ∧
    (Stand.after f result.1).OfSide side

theorem judged_drop {t : Tally} (one : t.settles = 1) (stays : t.sent = []) (n : Network) (g : Nat)
    (side : Side) (f : Frame) : n.Judged g side [] f (none, n.record g t) :=
  ⟨[t], counted_record n g t, .settles one stays, trivial⟩

theorem judged_errand {e : Errand} (he : e.OfSide side) (n : Network) (g : Nat) (f : Frame) :
    n.Judged g side [] f (some e, n) :=
  ⟨[], .of_eq rfl, .nothing 1, he⟩

theorem judged_direct (n : Network) (g : Nat) (gw : Gateway) (route : Addresses) (inner f : Frame) :
    n.Judged g .down [] f (n.direct g gw route inner) := by
  simp only [direct]
  split
  · split
    · exact judged_errand (by trivial) n g f
    · exact judged_drop rfl rfl n g .down f
  · split
    · exact judged_errand (by trivial) n g f
    · split
      · exact judged_drop rfl rfl n g .down f
      · exact judged_drop rfl rfl n g .down f
      · exact judged_errand (by rfl) n g f

/-- The envelope of a frame that comes in is opened, or the frame is dropped. -/
theorem arrival_cases (f : Frame) :
    ((Envelope.unwrap f).isOk = false ∧
        (Gateway.arrival f = .integrityFailure ∨ Gateway.arrival f = .malformed)) ∨
      ((Envelope.unwrap f).isOk = true ∧
        ∃ route inner, Gateway.arrival f = .opened route inner) := by
  simp only [Gateway.arrival]
  split
  · next route inner h => exact .inr ⟨by rw [h]; rfl, route, inner, rfl⟩
  · next h => exact .inl ⟨by rw [h]; rfl, .inl rfl⟩
  · next h => exact .inl ⟨by rw [h]; rfl, .inr rfl⟩

theorem judged_judge (n : Network) (g : Nat) (gw : Gateway) (side : Side) (f : Frame) :
    n.Judged g side (Entry.ofStep side (.holding f) (.after f (n.judge g gw side f).1)) f
      (n.judge g gw side f) := by
  cases side with
  | up =>
    simp only [judge, Entry.ofStep]
    split
    · exact judged_drop rfl rfl n g .up f
    · exact judged_drop rfl rfl n g .up f
    · exact judged_errand (by rfl) n g f
  | down =>
    simp only [judge, Entry.ofStep]
    rcases arrival_cases f with ⟨refused, h | h⟩ | ⟨opened, route, inner, h⟩
    · rw [h, refused]
      exact judged_drop rfl rfl n g .down f
    · rw [h, refused]
      exact judged_drop rfl rfl n g .down f
    · rw [h, opened]
      obtain ⟨ts, counted, accounts, sided⟩ :=
        judged_direct (n.record g (.downlink f.length)) g gw route inner f
      have noted : Accounts [.opened f] 1 1 [.downlink f.length] := ⟨rfl, rfl, rfl, rfl⟩
      exact ⟨_, (counted_record n g _).trans counted, noted.trans accounts, sided⟩

/-- An errand inside the node goes on, or settles the frame. -/
theorem judged_advance {e : Errand} {next : Option Errand} (he : ∀ hop d b, e ≠ .transmit hop d b)
    (h : n.advance g gw e = some (next, m)) (f : Frame) : n.Judged g side [] f (next, m) := by
  cases e with
  | transmit hop datagram relayed => exact absurd rfl (he hop datagram relayed)
  | deliver target inner =>
    simp only [advance] at h
    split at h
    · next r _ =>
      cases h
      exact judged_drop rfl rfl (n.setNode gw.node r) g side f
    · cases h
      exact judged_drop rfl rfl n g side f
    · cases h
  | spread left inner accepted =>
    cases left with
    | nil =>
      cases h
      exact judged_drop rfl rfl n g side f
    | cons k left =>
      obtain ⟨⟨result, r⟩, _, e⟩ := Option.map_eq_some_iff.1 h
      cases e
      exact judged_errand (e := .spread left inner _) trivial (n.setNode gw.node r) g f

/-- A worker's step accounts for what it does to the frame in hand. -/
theorem accounts_of_work {s t : Stand} (free : s.needsLink = false)
    (h : n.work g gw side s = some (t, m)) :
    ∃ ts, n.Counted g ts m ∧ Accounts (Entry.ofStep side s t) s.frames.length t.frames.length ts ∧
      t.OfSide side := by
  cases s with
  | ended => cases h
  | checking =>
    cases h
    split
    · exact ⟨[], .of_eq rfl, .nothing 0, trivial⟩
    · exact ⟨[], .of_eq rfl, .nothing 0, trivial⟩
  | waiting =>
    simp only [work] at h
    have popped := counted_pop n g gw side
    split at h
    · next f k hp =>
      cases h
      rw [hp] at popped
      refine ⟨[], popped, ⟨?_, rfl, rfl, rfl⟩, trivial⟩
      cases side <;> rfl
    · cases h
      exact ⟨[], .of_eq rfl, by cases side <;> exact .nothing 0, trivial⟩
    · cases h
      exact ⟨[], .of_eq rfl, by cases side <;> exact .nothing 0, trivial⟩
  | holding f =>
    cases h
    exact judged_judge n g gw side f
  | busy f e =>
    obtain ⟨⟨next, k⟩, ha, e'⟩ := Option.map_eq_some_iff.1 h
    cases e'
    have inside : ∀ hop d b, e ≠ .transmit hop d b := by
      rintro hop d b rfl
      cases free
    have none : Entry.ofStep side (.busy f e) (.after f next) = [] := by cases side <;> rfl
    rw [none]
    exact judged_advance inside ha f

/-! ## Transmissions -/

theorem counters?_hear {k : Receiver} {bytes : List UInt8} {result : Except BusError Unit}
    (h : hear k bytes n = some (result, m)) (g : Nat) : m.counters? g = n.counters? g := by
  cases k with
  | listener l =>
    simp only [hear] at h
    split at h <;> cases h <;> rfl
  | gateway j =>
    simp only [hear] at h
    split at h
    · cases h; rfl
    · split at h
      · cases h; rfl
      · split at h
        · next q _ =>
          cases h
          exact counters?_modifyGateway (F := fun gv => { gv with ingress := q }) (fun _ => rfl)
            n g j
        · cases h; rfl
        · cases h

theorem counters?_deliver {dest : PortId} {bytes : List UInt8} {ks : List Receiver}
    {result : Except BusError Unit} (h : Hub.deliver hear dest bytes ks n = some (result, m))
    (g : Nat) : m.counters? g = n.counters? g := by
  induction ks generalizing n with
  | nil => cases h; rfl
  | cons k ks ih =>
    simp only [Hub.deliver, Option.bind_eq_bind, Option.bind_eq_some_iff] at h
    obtain ⟨⟨r, n'⟩, hk, h⟩ := h
    have first := counters?_hear hk g
    split at h
    · split at h
      · exact (ih h).trans first
      · cases h
        exact first
    · exact (ih h).trans first

/-- What travels over a link is counted by nobody but its sender. -/
theorem counters?_transfer {link : Link} {dest : PortId} {bytes : List UInt8}
    {result : Except BusError Unit} (h : n.transfer link dest bytes = some (result, m)) (g : Nat) :
    m.counters? g = n.counters? g := by
  cases link with
  | member hub endpoint faults =>
    simp only [transfer] at h
    split at h
    · cases h; rfl
    · exact counters?_deliver h g
  | datagram s =>
    simp only [transfer] at h
    split at h
    · cases h; rfl
    · split at h <;> cases h <;> rfl

/-- A gateway writes down what the link answered, and counts it. -/
def book (n : Network) (g : Nat) (id hop : PortId) (datagram : Frame) (relayed : Bool)
    (result : Except BusError Unit) : Network :=
  let n := n.write (.transmitted id hop datagram.window result)
  match result with
  | .error _ => n.record g .sendError
  | .ok () =>
    let n := n.record g (.uplink datagram.length)
    if relayed then n.record g .relayed else n

/-- A transmission is a transfer, and the booking of its answer. -/
theorem transmit_eq (hg : n.gateways[g]? = some gw) (hop : PortId) (datagram : Frame)
    (relayed : Bool) :
    n.transmit g hop datagram relayed = (n.transfer gw.link hop datagram.window).map fun r =>
      r.2.book g gw.id hop datagram relayed r.1 := by
  simp only [transmit, hg, Option.bind_eq_bind, Option.bind_some]
  cases n.transfer gw.link hop datagram.window with
  | none => rfl
  | some r =>
    obtain ⟨result, m⟩ := r
    cases result with
    | ok u => cases relayed <;> rfl
    | error e => rfl

theorem accounts_of_book (n : Network) (g : Nat) (side : Side) (id hop : PortId) (datagram : Frame)
    (result : Except BusError Unit) :
    ∃ ts, n.Counted g ts (n.book g id hop datagram (side == .down) result) ∧
      Accounts (Entry.ofAnswer side datagram result) 1 0 ts := by
  have written : n.Counted g [] (n.write (.transmitted id hop datagram.window result)) := .of_eq rfl
  cases result with
  | error e => exact ⟨_, written.trans (counted_record _ g .sendError), .settles rfl rfl⟩
  | ok u =>
    have sent := written.trans (counted_record _ g (.uplink datagram.length))
    cases side with
    | up => exact ⟨_, sent, ⟨rfl, rfl, rfl, rfl⟩⟩
    | down => exact ⟨_, sent.trans (counted_record _ g .relayed), ⟨rfl, rfl, rfl, rfl⟩⟩

end Network

/-! ## Runs -/

namespace Crew

/-- How many frames the workers have in their hands. -/
def inHand (c : Crew) : Nat := c.up.frames.length + c.down.frames.length

theorem inHand_eq (c : Crew) (side : Side) :
    ∃ other, c.inHand = (c.stand side).frames.length + other ∧
      ∀ s n, (c.put side s n).inHand = s.frames.length + other := by
  cases side with
  | up => exact ⟨c.down.frames.length, rfl, fun _ _ => rfl⟩
  | down => exact ⟨c.up.frames.length, Nat.add_comm _ _, fun _ _ => Nat.add_comm _ _⟩

/-- Neither worker is on an errand of the other's. -/
def Sided (c : Crew) : Prop := ∀ side, (c.stand side).OfSide side

theorem Sided.put {c : Crew} {side : Side} {s : Stand} (h : c.Sided) (hs : s.OfSide side)
    (n : Network) : (c.put side s n).Sided := by
  intro other
  cases side <;> cases other
  · exact hs
  · exact h .down
  · exact h .up
  · exact hs

theorem sided_of_empty {c : Crew} (h : c.inHand = 0) : c.Sided := by
  have empty (s : Stand) (hs : s.frames.length = 0) (side : Side) : s.OfSide side := by
    cases s with
    | busy f e => cases hs
    | _ => trivial
  obtain ⟨up, down⟩ := Nat.add_eq_zero_iff.1 h
  intro side
  cases side
  · exact empty _ up _
  · exact empty _ down _

end Crew

namespace Books

/-- A step at a gateway, and what it did to a frame. -/
inductive Step (g : Nat) : Crew → List Entry → Crew → Prop
  /-- anything else in the network, or of the gateway's other threads, that does not count here -/
  | outside {c : Crew} {n : Network} (caller : Caller) (receiver : Receiving) :
      n.counters? g = c.net.counters? g → Step g c [] { c with net := n, caller, receiver }
  | restarts {c : Crew} (side : Side) :
      c.stand side = .ended → Step g c [] (c.put side .checking c.net)
  | works {c : Crew} {gw : Gateway} {s : Stand} {n : Network} (side : Side) :
      c.net.gateways[g]? = some gw → (c.stand side).needsLink = false →
      c.net.work g gw side (c.stand side) = some (s, n) →
      Step g c (Entry.ofStep side (c.stand side) s) (c.put side s n)
  /-- the link does what it likes, and answers what it likes -/
  | transmits {c : Crew} {f datagram : Frame} {hop : PortId} {relayed : Bool} {n : Network}
      (side : Side) (id : PortId) (result : Except BusError Unit) :
      c.stand side = .busy f (.transmit hop datagram relayed) →
      n.counters? g = c.net.counters? g →
      Step g c (Entry.ofAnswer side datagram result)
        (c.put side .checking (n.book g id hop datagram relayed result))

/-- Any number of steps, with the history of the frames. -/
inductive Run (g : Nat) : Crew → List Entry → Crew → Prop
  | refl (c : Crew) : Run g c [] c
  | step {c d e : Crew} {es new : List Entry} : Run g c es d → Step g d new e →
      Run g c (es ++ new) e

variable {g : Nat} {c d : Crew} {es : List Entry}

theorem accounts_of_step (h : Step g c es d) (sided : c.Sided) :
    ∃ ts, c.net.Counted g ts d.net ∧ Accounts es c.inHand d.inHand ts ∧ d.Sided := by
  cases h with
  | outside caller receiver same =>
    refine ⟨[], .of_eq same, .nothing c.inHand, fun side => ?_⟩
    cases side
    · exact sided .up
    · exact sided .down
  | restarts side ended =>
    obtain ⟨other, before, after⟩ := c.inHand_eq side
    refine ⟨[], ?_, ?_, sided.put (by trivial) c.net⟩
    · cases side <;> exact .of_eq rfl
    · rw [before, after, ended]
      exact .nothing _
  | @works gw s n side hg free hw =>
    obtain ⟨ts, counted, accounts, ofSide⟩ := Network.accounts_of_work free hw
    obtain ⟨other, before, after⟩ := c.inHand_eq side
    refine ⟨ts, ?_, ?_, sided.put ofSide n⟩
    · cases side <;> exact counted
    · rw [before, after]
      exact accounts.beside other
  | @transmits f datagram hop relayed n side id result busy same =>
    have own := sided side
    rw [busy] at own
    have own : relayed = (side == .down) := own
    subst own
    obtain ⟨ts, counted, accounts⟩ := n.accounts_of_book g side id hop datagram result
    obtain ⟨other, before, after⟩ := c.inHand_eq side
    refine ⟨ts, ?_, ?_, sided.put (by trivial) _⟩
    · have counted := (Network.Counted.of_eq same).trans counted
      cases side <;> exact counted
    · rw [before, after, busy]
      exact accounts.beside other

theorem accounts_of_run (h : Run g c es d) (sided : c.Sided) :
    ∃ ts, c.net.Counted g ts d.net ∧ Accounts es c.inHand d.inHand ts ∧ d.Sided := by
  induction h with
  | refl => exact ⟨[], .of_eq rfl, .nothing _, sided⟩
  | step _ last ih =>
    obtain ⟨ts, counted, accounts, sided⟩ := ih
    obtain ⟨us, more, new, sided⟩ := accounts_of_step last sided
    exact ⟨ts ++ us, counted.trans more, accounts.trans new, sided⟩

/-- Between two frames the counters of a gateway, which were nothing when it was made, are what its
history says. -/
theorem books_balance {k : Counters} (run : Run g c es d) (new : c.net.counters? g = some {})
    (start : c.inHand = 0) (between : d.inHand = 0) (hk : d.net.counters? g = some k) :
    UInt64.ofNat (es.countP (Entry.isPopped .up)) +
          UInt64.ofNat (es.countP (Entry.isPopped .down)) =
        k.uplinkFrames + k.delivered + k.broadcasts + k.dropped ∧
      k.uplinkFrames - k.relayed = UInt64.ofNat (es.filterMap (Entry.accepted? .up)).length ∧
      k.downlinkFrames = UInt64.ofNat (es.filterMap Entry.opened?).length ∧
      k.downlinkBytes = UInt64.ofNat ((es.filterMap Entry.opened?).map Frame.length).sum ∧
      k.uplinkBytes = UInt64.ofNat ((es.filterMap Entry.sent?).map Frame.length).sum := by
  obtain ⟨ts, counted, accounts, -⟩ := accounts_of_run run (Crew.sided_of_empty start)
  obtain rfl : k = Counters.recordAll {} ts := by
    rw [Network.Counted, new, hk] at counted
    exact Option.some.inj counted
  have settled := accounts.settled
  rw [start, between, Nat.add_zero, Nat.zero_add] at settled
  refine ⟨?_, ?_, ?_, ?_, ?_⟩
  · rw [← UInt64.ofNat_add, ← settled]
    exact ((Counters.settled_recordAll {} ts).trans (UInt64.zero_add _)).symm
  · rw [Counters.uplinkFrames_recordAll, Counters.relayed_recordAll, accounts.sent,
      accounts.relayed, List.length_map, Entry.length_sent, UInt64.ofNat_add]
    simp
  · rw [Counters.downlinkFrames_recordAll, accounts.opened, List.length_map]
    exact UInt64.zero_add _
  · rw [Counters.downlinkBytes_recordAll, accounts.opened]
    exact UInt64.zero_add _
  · rw [Counters.uplinkBytes_recordAll, accounts.sent]
    exact UInt64.zero_add _

/-! ## Over the gateway's own link -/

/-- The next step of a worker, which transmits over the gateway's own link and starts again when it
has ended. -/
def act (g : Nat) (side : Side) (c : Crew) : Option (List Entry × Crew) := do
  let gw ← c.net.gateways[g]?
  match c.stand side with
  | .ended => return ([], c.put side .checking c.net)
  | .busy _ (.transmit hop datagram relayed) =>
    let (result, n) ← c.net.transfer gw.link hop datagram.window
    return (Entry.ofAnswer side datagram result,
      c.put side .checking (n.book g gw.id hop datagram relayed result))
  | s =>
    let (t, n) ← c.net.work g gw side s
    return (Entry.ofStep side s t, c.put side t n)

theorem step_of_act {side : Side} (h : act g side c = some (es, d)) : Step g c es d := by
  simp only [act, Option.bind_eq_bind, Option.bind_eq_some_iff] at h
  obtain ⟨gw, hg, h⟩ := h
  split at h
  · next ended =>
    cases h
    exact .restarts side ended
  · next f hop datagram relayed busy =>
    obtain ⟨⟨result, n⟩, ht, h⟩ := Option.bind_eq_some_iff.1 h
    cases h
    exact .transmits side gw.id result busy (Network.counters?_transfer ht g)
  · next _ other =>
    obtain ⟨⟨t, n⟩, hw, h⟩ := Option.bind_eq_some_iff.1 h
    cases h
    refine .works side hg ?_ hw
    cases hs : c.stand side with
    | busy f e =>
      cases e with
      | transmit hop datagram relayed => exact absurd hs (other f hop datagram relayed)
      | _ => rfl
    | _ => rfl

/-- It is the step of the worker. -/
theorem act_eq_work {gw : Gateway} {side : Side} (hg : c.net.gateways[g]? = some gw)
    (hs : c.stand side ≠ .ended) :
    (act g side c).map Prod.snd =
      (c.net.work g gw side (c.stand side)).map fun r => c.put side r.1 r.2 := by
  simp only [act, hg, Option.bind_eq_bind, Option.bind_some]
  split
  · next ended => exact absurd ended hs
  · next f hop datagram relayed busy =>
    simp only [busy, Network.work, Network.advance, Network.transmit_eq hg]
    cases c.net.transfer gw.link hop datagram.window <;> rfl
  · cases c.net.work g gw side (c.stand side) <;> rfl

/-- Steps of the workers, in an order. -/
def play (g : Nat) : List Side → Crew → Option (List Entry × Crew)
  | [], c => some ([], c)
  | side :: sides, c => do
    let (es, c) ← act g side c
    let (more, c) ← play g sides c
    return (es ++ more, c)

theorem run_of_play {sides : List Side} (h : play g sides c = some (es, d)) : Run g c es d := by
  suffices ∀ {before b}, Run g b before c → Run g b (before ++ es) d by
    simpa using this (.refl c)
  intro before b run
  induction sides generalizing c es before with
  | nil =>
    cases h
    simpa using run
  | cons side sides ih =>
    simp only [play, Option.bind_eq_bind, Option.bind_eq_some_iff] at h
    obtain ⟨⟨first, c'⟩, ha, ⟨more, d'⟩, hp, h⟩ := h
    cases h
    rw [← List.append_assoc]
    exact ih hp (run.step (step_of_act ha))

/-- The gateway of the chip between the domains, its workers not started. At its port are a frame
for an application and one that is too short; from the hub came bytes that are no envelope, and a
frame for an application. -/
def chip : Crew where
  net :=
    let n := Network.twoDomains
    let port (p : Port Reaction) :=
      (p.queue.add (.withHeadRoom 32 [0, 0, 0, 0, 0, 130, 130, 135])).add (.ofBytes [1])
    let ingress (gw : Gateway) := (gw.ingress.add (.ofBytes [1, 2, 3, 4, 5, 6, 7, 8])).add
      (.ofBytes (Envelope.sealed ⟨.ofParts 0 1 2, .ofParts 1 5 7⟩ [1, 2]))
    (n.setNode 1 ((n.node 1).modify 0 fun p => { p with queue := port p })).modifyGateway 1
      fun gw => { gw with ingress := ingress gw }
  caller := .away
  up := .ended
  down := .ended
  receiver := .ended

/-- Each worker starts and deals with two frames, by turns; one of the frames that came in is sent
on. -/
theorem books_of_chip : ∃ es d k, Run 1 chip es d ∧ d.inHand = 0 ∧ d.net.counters? 1 = some k ∧
    UInt64.ofNat (es.countP (Entry.isPopped .up)) +
        UInt64.ofNat (es.countP (Entry.isPopped .down)) =
      k.uplinkFrames + k.delivered + k.broadcasts + k.dropped ∧
    k.uplinkFrames - k.relayed = UInt64.ofNat (es.filterMap (Entry.accepted? .up)).length ∧
    (k.uplinkFrames, k.relayed, k.dropped) = (2, 1, 2) := by
  let sides : List Side := [.up, .up, .up, .down, .down, .up, .up, .down, .down, .down, .down, .up,
    .up, .up, .down, .down]
  have outcome : (play 1 sides chip).map (fun r => (r.2.inHand,
      (r.2.net.counters? 1).map fun k => (k.uplinkFrames, k.relayed, k.dropped))) =
      some (0, some (2, 1, 2)) := by decide +kernel
  obtain ⟨⟨es, d⟩, played, outcome⟩ := Option.map_eq_some_iff.1 outcome
  obtain ⟨between, counts⟩ := Prod.mk.inj outcome
  obtain ⟨k, hk, counts⟩ := Option.map_eq_some_iff.1 counts
  have run := run_of_play played
  obtain ⟨settled, accepted, -⟩ := books_balance run rfl rfl between hk
  exact ⟨es, d, k, run, between, hk, settled, accepted, counts⟩

end Books

end FrameBus
