import FrameBus.Job.Run

/-!
# The programs on a terminal

The first argument names the program. The host has no network, so that a program sees only its own
traffic. A program that waits for an interrupt is ended by a line on standard input.
-/

namespace FrameBus.Terminal

/-- A code of the host, which may come as its negative in 32 bits. -/
def codeOf (code : UInt32) : Nat :=
  if code.toNat < 0x80000000 then code.toNat else 0x100000000 - code.toNat

/-- A failure with files. -/
def ioError : IO.Error → IoError
  | .noFileOrDirectory _ code _ | .interrupted _ code _ | .invalidArgument _ code _
  | .inappropriateType _ code _ | .permissionDenied _ code _ | .alreadyExists _ code _
  | .resourceExhausted _ code _ | .noSuchThing _ code _ => .os (codeOf code)
  | e => .custom .uncategorized e.toString

def attempt {α : Type} (action : IO α) : IO (Except IoError α) := do
  match ← action.toBaseIO with
  | .ok a => return .ok a
  | .error e => return .error (ioError e)

/-- The file that a gateway's command line names for reading. -/
def inputFile? (args : List String) : Option String :=
  match CommandLine.Gateway.parse args with
  | .error _ => none
  | .ok o =>
    match o.command with
    | some (.validate path) => some path
    | some (.genConfig _) => none
    | none => o.config

/-- The files of a gateway's run, as far as it reads any. -/
def readable (args : List String) : IO (String → Except IoError String) := do
  match inputFile? args with
  | none => return fun _ => .error Files.notFound
  | some path =>
    let content ← attempt (IO.FS.readFile path)
    return fun _ => content

/-- Shows what a job has printed since it had printed something before. -/
def put (before after : Job) : IO Unit := do
  let output ← IO.getStdout
  let errors ← IO.getStderr
  output.putStr (after.out.drop before.out.length).toString
  output.flush
  errors.putStr (after.err.drop before.err.length).toString
  errors.flush

/-- Runs a job from where it stands to its end. -/
def complete (p : Job) (n : Network) : IO UInt32 := do
  put { stage := .killed } p
  match p.stage with
  | .ended code => return UInt32.ofNat code
  | .killed => return 1
  | .writing path content =>
    let q := Job.Gateway.wrote p path (← attempt (IO.FS.writeFile path content))
    put p q
    return UInt32.ofNat (q.code?.getD 1)
  | .serving d =>
    let started ← IO.monoMsNow
    let _ ← (← IO.getStdin).getLine
    let elapsed := ((← IO.monoMsNow) - started) * 1000
    let (q, _) := Job.Gateway.finish .exact ⟨some elapsed, elapsed⟩ n p d
    put p q
    return UInt32.ofNat (q.code?.getD 1)
  | .probing probe o =>
    let waits := match o.mode with
      | .listen _ _ | .pong => true
      | _ => false
    if waits then let _ ← (← IO.getStdin).getLine
    let e : Job.Ending := ⟨if waits then some 0 else none, 0xFFFFFFFFFFFFFFFF⟩
    let (q, _) := Job.Probe.finish .exact e n p probe o
    put p q
    return UInt32.ofNat (q.code?.getD 1)

end FrameBus.Terminal

open FrameBus in
def main (args : List String) : IO UInt32 := do
  let n : Network := { host := .isolated }
  match args with
  | "gateway" :: rest =>
    let (p, n) := Job.Gateway.begin n (← Terminal.readable rest) rest
    Terminal.complete p n
  | "probe" :: rest =>
    let (p, n) := Job.Probe.begin n rest
    Terminal.complete p n
  | _ =>
    IO.eprintln "usage: gateway ARGUMENTS | probe ARGUMENTS"
    return 2
