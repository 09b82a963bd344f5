import FrameBus.Job.Files
import FrameBus.Job.Gateway
import FrameBus.Job.Probe

/-!
# Runs of jobs together

Jobs on one host that share its network and the files of a directory. They begin in order; the
last one is brought to its end first, and then the others in order.
-/

namespace FrameBus.Job

inductive Tool where
  | gateway
  | probe
deriving DecidableEq, Repr

/-- A job to run, and how it is brought to its end. -/
structure Plan where
  tool : Tool
  args : List String
  /-- whether it is interrupted, once it has printed so many lines -/
  interrupted : Bool
  lines : Nat

/-- The host that jobs run on. -/
structure World where
  net : Network
  files : Files

/-- Writes the file that a job asks for. -/
def write (w : World) (p : Job) : Job × World :=
  match p.stage with
  | .writing path content =>
    match w.files.write path content with
    | .ok files => (Gateway.wrote p path (.ok ()), { w with files })
    | .error e => (Gateway.wrote p path (.error e), w)
  | _ => (p, w)

def begin (w : World) (plan : Plan) : Job × World :=
  let (p, net) := match plan.tool with
    | .gateway => Gateway.begin w.net w.files.read plan.args
    | .probe => Probe.begin w.net plan.args
  write { w with net } p

/-- Brings a job to its end; one that does not print the lines is interrupted at the limit. -/
def finish (g : Gauges) (limit : Nat) (w : World) (plan : Plan) (p : Job) : Job × World :=
  let printed := p.out.toList.count '\n'
  let e : Ending :=
    { interrupt :=
        if plan.interrupted then some (if plan.lines ≤ printed then 0 else limit) else none
      limit }
  match p.stage with
  | .serving d => let (p, net) := Gateway.finish g e w.net p d; (p, { w with net })
  | .probing probe o => let (p, net) := Probe.finish g e w.net p probe o; (p, { w with net })
  | _ => (p, w)

/-- Does something with every item in order, on one world. -/
def through {α β : Type} (f : World → α → β × World) (w : World) : List α → List β × World
  | [] => ([], w)
  | a :: rest =>
    let (b, w) := f w a
    let (bs, w) := through f w rest
    (b :: bs, w)

/-- Runs jobs together. -/
def runAll (g : Gauges) (limit : Nat) (w : World) (plans : List Plan) : List Job × World :=
  let (begun, w) := through begin w plans
  let pairs := plans.zip begun
  let end? (w : World) (pair : Plan × Job) := finish g limit w pair.1 pair.2
  let (last, w) := through end? w pairs.getLast?.toList
  let (others, w) := through end? w pairs.dropLast
  (others ++ last, w)

end FrameBus.Job
