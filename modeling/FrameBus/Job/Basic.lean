import FrameBus.CommandLine.Probe
import FrameBus.Daemon
import FrameBus.Gauges
import FrameBus.Probe.Basic

/-!
# Jobs

A run of one of the programs: what it has printed, and where it stands. A job that has ended has
a code; one that was killed has none. Several jobs can share a network.
-/

namespace FrameBus

inductive Job.Stage where
  | ended (code : Nat)
  | killed
  /-- a file is to be written -/
  | writing (path content : String)
  /-- a daemon runs until it is interrupted -/
  | serving (d : Daemon)
  /-- a probe is open and its session is started -/
  | probing (p : Probe) (o : CommandLine.Probe.Options)

structure Job where
  /-- standard output -/
  out : String := ""
  /-- standard error -/
  err : String := ""
  stage : Job.Stage

namespace Job

def version : String := "0.3.2"

/-- How a job that waits comes to its end; times are in microseconds from now. -/
structure Ending where
  interrupt : Option Nat
  /-- when a job that does not end is killed -/
  limit : Nat

def Ending.interrupts (e : Ending) (elapsed : Nat) : Bool := e.interrupt.any (· ≤ elapsed)

/-- The most moves that traffic may take to settle. -/
def fuel : Nat := 100000

def print (p : Job) (text : String) : Job := { p with out := p.out ++ text }

def note (p : Job) (text : String) : Job := { p with err := p.err ++ text }

def exit (p : Job) (code : Nat) : Job := { p with stage := .ended code }

def kill (p : Job) : Job := { p with stage := .killed }

/-- Ends with an error. -/
def fail (p : Job) (text : String) : Job := (p.note ("Error: " ++ text ++ "\n")).exit 1

def code? (p : Job) : Option Nat :=
  match p.stage with
  | .ended code => some code
  | _ => none

/-- What comes of a command line that gives no options. -/
def refused (name : String) : CommandLine.Failure → Job
  | .displayVersion => { out := name ++ " " ++ version ++ "\n", stage := .ended 0 }
  | .displayHelp => { stage := .ended 0 }
  | _ => { stage := .ended 2 }

end Job

end FrameBus
