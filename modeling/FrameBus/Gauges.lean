import FrameBus.Decimal.Fixed

/-!
# Gauges

How the programs show what they measure.
-/

namespace FrameBus

structure Gauges where
  /-- a latency in microseconds, in the line of a quiet probe -/
  inline : UInt64 → String
  /-- a latency in a column, with the blanks before it -/
  column : UInt64 → String
  /-- a run of pings, from microseconds in seconds -/
  duration : Nat → String
  /-- the time that a gateway is up, from microseconds in seconds -/
  uptime : Nat → String

namespace Gauges

/-- A time in microseconds, in seconds. -/
def seconds (micros : Nat) : Float :=
  Float.ofNat (micros / 1000000) + Float.ofNat (micros % 1000000 * 1000) / 1000000000

/-- One place in a line, two places in ten columns behind a space, whole seconds of the time up. -/
def exact : Gauges where
  inline := Decimal.fixed 1
  column := fun bits => String.ofList (' ' :: Numeral.padLeft ' ' 10 (Decimal.fixed 2 bits).toList)
  duration := fun micros => Decimal.fixed 2 (seconds micros).toBits
  uptime := fun micros => Numeral.decimal (micros / 1000000)

end Gauges

end FrameBus
