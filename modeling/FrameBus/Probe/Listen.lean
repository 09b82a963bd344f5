import FrameBus.Probe.Payload
import FrameBus.Session.Table

/-!
# Listening

A listener numbers and shows the events that its session's worker hands it. Beside the worker a
loop looks at the number now and then, and leaves when it has reached the number that was asked for;
the worker goes on until the session is dropped.
-/

namespace FrameBus.Probe

/-- How long the loop sleeps between two looks, in microseconds. -/
def lookInterval : Nat := 20000

/-- The line of the `n`th event. -/
def eventLine (n : Nat) (what : EventTable.Received) : String :=
  "[" ++ Numeral.decimal n ++ "] " ++ what.source.render ++ " 0x" ++
    Numeral.hex 8 what.event.toNat ++ " " ++ Numeral.decimal what.payload.length ++ " bytes " ++
    String.ofList (renderPayload what.payload) ++ "\n"

structure Listening where
  /-- events to wait for, 0 for no end -/
  wanted : Nat
  /-- the lines shown, in order -/
  lines : List String := []
  /-- whether the loop has left -/
  left : Bool := false
  /-- whether the session is dropped -/
  dropped : Bool := false
deriving DecidableEq, Repr

namespace Listening

inductive Happening where
  /-- the worker hands over an event -/
  | event (what : EventTable.Received)
  /-- the loop looks at the number of events -/
  | look
  /-- the loop that has left drops the session -/
  | drop
deriving DecidableEq, Repr

def enough (l : Listening) : Bool := decide (0 < l.wanted) && decide (l.wanted ≤ l.lines.length)

def step (l : Listening) : Happening → Listening
  | .event what =>
    if l.dropped then l else { l with lines := l.lines ++ [eventLine (l.lines.length + 1) what] }
  | .look => { l with left := l.left || l.enough }
  | .drop => { l with dropped := l.left }

def run (l : Listening) (hs : List Happening) : Listening := hs.foldl step l

/-- The loop looks, and drops the session when it leaves. -/
def check : List Happening := [.look, .drop]

/-! ## Lemmas -/

theorem run_append (l : Listening) (hs ks : List Happening) :
    l.run (hs ++ ks) = (l.run hs).run ks := List.foldl_append

end Listening

end FrameBus.Probe
