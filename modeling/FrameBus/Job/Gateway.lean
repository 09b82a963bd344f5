import FrameBus.Config.Report
import FrameBus.Counters.Summary
import FrameBus.Job.Basic

/-!
# The gateway's program

It writes the example file, judges a file, or runs a daemon until it is interrupted.
-/

namespace FrameBus.Job.Gateway

open CommandLine.Gateway (Options Command)

/-- A configuration file is judged. -/
def judge (readFile : String → Except IoError String) (path : String) : Job :=
  match Config.ofFile readFile path with
  | .ok c => { out := c.validReport, stage := .ended 0 }
  | .error e => { err := "Configuration invalid: " ++ e.message ++ "\n", stage := .ended 1 }

def runCommand (readFile : String → Except IoError String) : Command → Job
  | .validate path => judge readFile path
  | .genConfig path =>
    match Config.exampleFile with
    | .ok content => { stage := .writing path content }
    | .error e => Job.fail { stage := .killed } e.inspect

/-- The file is written, or cannot be. -/
def wrote (p : Job) (path : String) : Except IoError Unit → Job
  | .ok () => (p.print ("Generated configuration file: " ++ path ++ "\n")).exit 0
  | .error e => p.fail e.inspect

/-- A daemon is made and started. -/
def serve (n : Network) (c : Config) : Job × Network :=
  match Daemon.create n c with
  | (.error e, n) => (Job.fail { stage := .killed } e.inspect, n)
  | (.ok d, n) =>
    let p : Job := { out := c.banner version d.station.address, stage := .serving d }
    match d.start n with
    | (.error e, n) => (p.fail e.inspect, n)
    | (.ok (), n) => (p, n)

def begin (n : Network) (readFile : String → Except IoError String) (args : List String) :
    Job × Network :=
  match CommandLine.Gateway.parse args with
  | .error e => (refused "portbus-gateway" e, n)
  | .ok o =>
    match o.command with
    | some command => (runCommand readFile command, n)
    | none =>
      match o.toConfig readFile with
      | .error e => (Job.fail { stage := .killed } (Daemon.Failure.config e).inspect, n)
      | .ok c => serve n (o.override c)

/-- A daemon ends when it is interrupted, unless its threads wait for longer than there is time. -/
def finish (g : Gauges) (e : Ending) (n : Network) (p : Job) (d : Daemon) : Job × Network :=
  match e.interrupt with
  | none => (p.kill, n)
  | some elapsed =>
    let p := p.print "\nShutting down...\n"
    if e.limit < d.patience then (p.kill, n)
    else
      let (r, n) := d.stop n
      match r with
      | .error e => (p.fail e.inspect, n)
      | .ok () =>
        let lines := Counters.heading (g.uptime elapsed) :: (n.countersOf d.station).report
        let p := p.print ("\nFinal Statistics:\n" ++ String.join (lines.map fun l => l ++ "\n"))
        (p.exit 0, n.dropGateway d.station.gateway)

end FrameBus.Job.Gateway
