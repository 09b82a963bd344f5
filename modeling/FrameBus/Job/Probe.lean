import FrameBus.Probe.Latency
import FrameBus.Probe.Listen
import FrameBus.Probe.Ping
import FrameBus.Job.Basic

/-!
# The probe's program

It opens a probe, does what its mode says, and closes with the counters of its gateway. Times are in
microseconds; what the network does takes none, and a ping without an answer takes a second.
-/

namespace FrameBus.Job.Probe

open CommandLine.Probe (Options Mode)
open FrameBus.Probe
  (pingEvent pongEvent pingPayload lookInterval Listening Pings LatencyStats trailer)

/-- Notes a text unless the probe is quiet. -/
def tell (p : Job) (o : Options) (text : String) : Job := if o.quiet then p else p.note text

def warning (p : Job) (e : BusError) : Job := p.note ("Warning: " ++ e.message ++ "\n")

/-! ## Closing -/

/-- Closes a probe: its counters, the error if there is one, and the code. -/
def close (n : Network) (p : Job) (probe : Probe) (o : Options) (error : Option BusError) :
    Job × Network :=
  let p := tell p o (trailer (n.countersOf probe.station))
  let n := (n.dropSession probe.session).dropGateway probe.station.gateway
  match error with
  | none => (p.exit 0, n)
  | some e => (p.fail e.message, n)

/-! ## Beginning -/

/-- The handlers of a mode. -/
def prepare (n : Network) (probe : Probe) : Mode → Network
  | .listen events _ => events.foldl (fun n e => probe.attach n e .log) n
  | .ping _ _ _ _ _ => probe.attach n pongEvent .log
  | .pong => probe.attach n pingEvent (.echo pongEvent)
  | _ => n

def intro : Mode → String
  | .listen _ _ | .pong => "    Press Ctrl+C to stop\n"
  | .ping dest size count warmup _ =>
    "    to=" ++ dest.render ++ ", size=" ++ Numeral.decimal size ++ " bytes, count=" ++
      Numeral.decimal count ++ ", warmup=" ++ Numeral.decimal warmup ++ "\n"
  | _ => ""

def openProbe (n : Network) (o : Options) : Job × Network :=
  match FrameBus.Probe.create n o.id o.gateway o.bind o.peers with
  | (.error e, n) => (Job.fail { stage := .killed } e.message, n)
  | (.ok probe, n) =>
    let gateway := o.gateway.getD (Route.servingGateway o.id)
    let p := tell { stage := .probing probe o } o
      (">>> session " ++ o.id.render ++ " via gateway " ++ gateway.render ++ " (" ++
        o.bind.render ++ ")\n")
    match probe.start (prepare n probe o.mode) with
    | (.error e, n) => close n p probe o (some e)
    | (.ok (), n) => (tell p o (intro o.mode), n)

def begin (n : Network) (args : List String) : Job × Network :=
  match CommandLine.Probe.parse args with
  | .error e => (refused "portbus-probe" e, n)
  | .ok o => openProbe n o

/-! ## Listening, answering and sending -/

/-- What a listener has to do with a log: its session's handlers get events, and its loop looks when
it has slept. The clock says when the log begins. -/
def happenings (probe : Probe) : (clock : Nat) → List Happening → List Listening.Happening
  | _, [] => []
  | clock, .handled s what _ :: log =>
    if s = probe.session then .event what :: happenings probe clock log
    else happenings probe clock log
  | clock, .passed time :: log =>
    let looks := if clock % lookInterval + time < lookInterval then [] else Listening.check
    looks ++ happenings probe (clock + time) log
  | clock, _ :: log => happenings probe clock log

/-- What a listener has shown when its loop has looked once more after all that came. -/
def listened (n : Network) (probe : Probe) (count : Nat) : Listening :=
  ({ wanted := count } : Listening).run (happenings probe 0 n.log.reverse ++ Listening.check)

def finishListen (e : Ending) (n : Network) (p : Job) (probe : Probe) (o : Options)
    (count : Nat) : Job × Network :=
  let l := listened n probe count
  let p := p.print (String.join l.lines)
  if l.left || e.interrupt.isSome then close n p probe o none else (p.kill, n)

/-- What an answering probe notes of the pings that it echoed, and their number. -/
def echoes (p : Job) (o : Options) (deeds : List Deed) : Job × Nat :=
  deeds.foldl (fun (p, count) deed =>
    match deed with
    | .sent (.ok ()) =>
      let count := count + 1
      (if count % 100 = 0 then tell p o ("\r    Echoed: " ++ Numeral.decimal count ++ " pings")
        else p, count)
    | .sent (.error e) => (if o.quiet then p else warning p e, count)
    | _ => (p, count)) (p, 0)

def finishPong (e : Ending) (n : Network) (p : Job) (probe : Probe) (o : Options) :
    Job × Network :=
  let (p, count) := echoes p o ((probe.deeds n).map Prod.snd)
  if e.interrupt.isSome then
    close n (tell p o ("\n\n--- Echoed " ++ Numeral.decimal count ++ " total pings\n")) probe o none
  else (p.kill, n)

def finishBroadcast (n : Network) (p : Job) (probe : Probe) (o : Options) (event : UInt32)
    (payload : List UInt8) : Job × Network :=
  match probe.broadcast n event payload with
  | none => (p.kill, n)
  | some (.error e, n) => close (n.settle fuel) p probe o (some e)
  | some (.ok count, n) =>
    let p := tell p o ("    Broadcast to " ++ Numeral.decimal count ++ " local recipient(s)\n")
    close (n.settle fuel) p probe o none

/-- The time that a send takes by itself. -/
def sendTime : Nat := 100

/-- Sends an event again and again, with a pause between; `none` for the count of one that is
killed. -/
def sendAll (e : Ending) (probe : Probe) (dest : PortId) (event : UInt32) (payload : List UInt8)
    (pause : Nat) : (remaining elapsed sent : Nat) → Job → Network →
    Job × Option Nat × Network
  | 0, _, sent, p, n => (p, some sent, n)
  | remaining + 1, elapsed, sent, p, n =>
    if e.limit < elapsed then (p, none, n)
    else if 0 < elapsed && e.interrupts elapsed then (p, some sent, n)
    else
      match probe.send n dest event payload with
      | none => (p, none, n)
      | some (r, n) =>
        let (p, sent) := match r with
          | .ok () => (p, sent + 1)
          | .error x => (warning p x, sent)
        sendAll e probe dest event payload pause remaining (elapsed + sendTime + pause) sent p
          ((n.settle fuel).write (.passed (sendTime + pause)))

def finishSend (e : Ending) (n : Network) (p : Job) (probe : Probe) (o : Options) (dest : PortId)
    (event : UInt32) (payload : List UInt8) (count intervalMs : Nat) : Job × Network :=
  match sendAll e probe dest event payload (intervalMs * 1000) count 0 0 p n with
  | (p, none, n) => (p.kill, n)
  | (p, some sent, n) =>
    let p := tell p o
      ("    Sent " ++ Numeral.decimal sent ++ "/" ++ Numeral.decimal count ++ " to " ++
        dest.render ++ "\n")
    close n p probe o none

/-! ## Pings -/

/-- How long a ping is waited for. -/
def patience : Nat := 1000000

/-- How a run of pings ends. -/
inductive Result where
  | done
  | killed
  | failed (error : BusError)

/-- The answers that came to the session since it had handled `seen` events. -/
def pongs (n : Network) (probe : Probe) (seen : Nat) : List Pings.Happening :=
  ((probe.deeds n).drop seen).map fun d => .pong d.1.payload

/-- The progress that is told of when a ping is over. -/
def progress (p : Job) (o : Options) (run : Pings) (i : Nat) : Job :=
  let measured := i - run.warmup + 1
  if run.warmup ≤ i ∧ (measured % 100 = 0 ∨ measured = run.count) then
    tell p o ("\r    Progress: " ++ Numeral.decimal measured ++ "/" ++ Numeral.decimal run.count)
  else p

def pingAll (e : Ending) (probe : Probe) (o : Options) (dest : PortId) (size interval : Nat) :
    (remaining elapsed : Nat) → Pings → Job → Network → Result × Nat × Pings × Job × Network
  | 0, elapsed, run, p, n => (.done, elapsed, run, p, n)
  | remaining + 1, elapsed, run, p, n =>
    if e.limit < elapsed then (.killed, elapsed, run, p, n)
    else if 0 < elapsed && e.interrupts elapsed then (.done, elapsed, run, p, n)
    else
      let i := run.current
      let seen := (probe.deeds n).length
      match probe.send n dest pingEvent (pingPayload size i) with
      | none => (.killed, elapsed, run, p, n)
      | some (.error x, n) => (.failed x, elapsed, run, p, n)
      | some (.ok (), n) =>
        let n := n.settle fuel
        let run := Pings.drain 0 (run.run (pongs n probe seen))
        let (run, waited) := if run.current = i then (run.step .expire, patience) else (run, 0)
        pingAll e probe o dest size interval remaining (elapsed + waited + interval) run
          (progress p o run i) n

def finishPing (g : Gauges) (e : Ending) (n : Network) (p : Job) (probe : Probe) (o : Options)
    (dest : PortId) (size count warmup interval : Nat) : Job × Network :=
  match pingAll e probe o dest size interval (warmup + count) 0 { warmup, count } p n with
  | (.killed, _, _, p, n) => (p.kill, n)
  | (.failed x, _, _, p, n) => close n p probe o (some x)
  | (.done, elapsed, run, p, n) =>
    let stats := LatencyStats.ofSamples run.samples run.lost
    close n ((tell p o "\n").print (stats.report g size elapsed o.quiet)) probe o none

/-! ## The program -/

/-- The number of events that a mode waits for, 0 for no end. -/
def wanted : Mode → Nat
  | .listen _ count => count
  | _ => 0

/-- What a listener shows of events that its session sends to itself, with a pause after each. -/
def listenToItself (n : Network) (o : Options) (pause : Nat) (sends : List (UInt32 × List UInt8)) :
    Except FrameBus.Probe.OpenError (List String) :=
  match FrameBus.Probe.create n o.id o.gateway o.bind o.peers with
  | (.error e, _) => .error e
  | (.ok probe, n) =>
    match probe.start (prepare n probe o.mode) with
    | (.error e, _) => .error (.bus e)
    | (.ok (), n) =>
      let n := sends.foldl (fun n (event, payload) =>
        let n := ((probe.send n o.id event payload).map Prod.snd).getD n
        (n.settle fuel).write (.passed pause)) n
      .ok (listened n probe (wanted o.mode)).lines

/-- Brings a probe that is open to its end. -/
def finish (g : Gauges) (e : Ending) (n : Network) (p : Job) (probe : Probe) (o : Options) :
    Job × Network :=
  let bytes (text : String) : List UInt8 := Text.Utf8.encode text.toList
  match o.mode with
  | .listen _ count => finishListen e n p probe o count
  | .send dest event payload count intervalMs =>
    finishSend e n p probe o dest event (bytes payload) count intervalMs
  | .broadcast event payload => finishBroadcast n p probe o event (bytes payload)
  | .ping dest size count warmup interval =>
    finishPing g e n p probe o dest size count warmup interval
  | .pong => finishPong e n p probe o

end FrameBus.Job.Probe
