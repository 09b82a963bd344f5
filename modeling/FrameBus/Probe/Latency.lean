import FrameBus.Gauges

/-!
# Latency statistics

Latencies are binary64 numbers, kept by their bits. They are put in the total order of IEEE 754, in
which every two bit patterns compare, and smallest, greatest and percentiles are members of that
order. Mean and deviation are computed from the samples as they came.
-/

namespace FrameBus.Probe

/-! ## Order -/

/-- The place of a bit pattern in the total order: negative patterns descend, others ascend. -/
def orderKey (bits : UInt64) : Nat :=
  if bits.toNat < 0x8000000000000000 then bits.toNat + 0x8000000000000000
  else 0xFFFFFFFFFFFFFFFF - bits.toNat

def ordered (samples : List UInt64) : List UInt64 :=
  samples.mergeSort fun a b => decide (orderKey a ≤ orderKey b)

/-- The member of a sorted list at a place, or its last one. -/
def select (sorted : List UInt64) (i : Nat) : UInt64 := sorted.getD (min i (sorted.length - 1)) 0

/-- The place of a percentile among `n` samples, a half rounded up. -/
def percentilePlace (p : Float) (n : Nat) : Nat :=
  ((p / 100) * Float.ofNat (n - 1)).round.toUInt64.toNat

/-! ## Statistics -/

structure LatencyStats where
  count : Nat
  lost : Nat
  min : UInt64
  max : UInt64
  mean : UInt64
  stddev : UInt64
  p50 : UInt64
  p90 : UInt64
  p99 : UInt64
deriving DecidableEq, Repr

/-- The sum from left to right, which begins with a negative zero. -/
def sum (xs : List Float) : Float := xs.foldl (· + ·) (-0.0)

def LatencyStats.ofSamples (samples : List UInt64) (lost : Nat) : LatencyStats :=
  if samples.isEmpty then ⟨0, lost, 0, 0, 0, 0, 0, 0, 0⟩
  else
    let sorted := ordered samples
    let count := sorted.length
    let xs := samples.map Float.ofBits
    let n := Float.ofNat count
    let mean := sum xs / n
    let variance := sum (xs.map fun x => (x - mean) * (x - mean)) / n
    let percentile (p : Float) := select sorted (percentilePlace p count)
    { count, lost
      min := select sorted 0
      max := select sorted (count - 1)
      mean := mean.toBits
      stddev := variance.sqrt.toBits
      p50 := percentile 50
      p90 := percentile 90
      p99 := percentile 99 }

/-! ## Report -/

/-- The share of the lost among all, in percent. -/
def lossPercent (s : LatencyStats) : Float :=
  let lost := UInt64.ofNat s.lost
  let attempts := UInt64.ofNat s.count + lost
  if 0 < attempts then lost.toFloat / attempts.toFloat * 100 else 0

/-- The one line of a quiet probe. -/
def LatencyStats.line (g : Gauges) (s : LatencyStats) : String :=
  "min=" ++ g.inline s.min ++ " max=" ++ g.inline s.max ++ " avg=" ++ g.inline s.mean ++
    " p99=" ++ g.inline s.p99 ++ " us lost=" ++ Numeral.decimal s.lost ++ "\n"

/-- The report on measurements with payloads of a size. -/
def LatencyStats.table (g : Gauges) (s : LatencyStats) (size micros : Nat) : String :=
  let row (name : String) (bits : UInt64) := "  " ++ name ++ ":" ++ g.column bits ++ " us\n"
  "\n=== portbus Latency Probe Results ===\n\n" ++
    "  Payload size: " ++ Numeral.decimal size ++ " bytes\n" ++
    "  Samples: " ++ Numeral.decimal s.count ++ "\n" ++
    "  Lost: " ++ Numeral.decimal s.lost ++ " (" ++
      Decimal.fixed 2 (lossPercent s).toBits ++ "%)\n" ++
    "  Duration: " ++ g.duration micros ++ "s\n" ++
    "\n--- Latency (microseconds) ---\n" ++
    row "Min" s.min ++ row "Max" s.max ++ row "Mean" s.mean ++ row "Stddev" s.stddev ++
    "\n--- Percentiles ---\n" ++
    row "p50" s.p50 ++ row "p90" s.p90 ++ row "p99" s.p99 ++ "\n"

/-- What a probe prints of its measurements. -/
def LatencyStats.report (g : Gauges) (s : LatencyStats) (size micros : Nat) (quiet : Bool) :
    String :=
  if quiet then s.line g else s.table g size micros

end FrameBus.Probe
