import FrameBus.Counters
import FrameBus.Decimal.Quotient

/-!
# Reports of a gateway's counters

The lines that a gateway prints of its counters, and byte counts in the units of 1024.
-/

namespace FrameBus.Counters

def decimal (n : UInt64) : String := Numeral.decimal n.toNat

/-- The lines of a summary behind the one that tells the time. -/
def summary (c : Counters) : List String :=
  ["Uplink:   " ++ decimal c.uplinkFrames ++ " frames (" ++ decimal c.uplinkBytes ++ " bytes)",
    "Downlink: " ++ decimal c.downlinkFrames ++ " frames (" ++ decimal c.downlinkBytes ++
      " bytes), delivered=" ++ decimal c.delivered ++ ", relayed=" ++ decimal c.relayed ++
      ", broadcasts=" ++ decimal c.broadcasts ++ " (to " ++ decimal c.broadcastRecipients ++ ")",
    "Drops:    integrity=" ++ decimal c.integrityFailures ++ ", malformed=" ++
      decimal c.malformed ++ ", unroutable=" ++ decimal c.unroutable ++ ", undeliverable=" ++
      decimal c.undeliverable ++ ", send_errors=" ++ decimal c.sendErrors]

/-- The first line of a summary. -/
def heading (uptime : String) : String := "Gateway Stats (uptime: " ++ uptime ++ "s)"

/-- A byte count in its unit, with one place from kilobytes on. -/
def formatBytes (n : Nat) : String :=
  if n < 1024 then Numeral.decimal n ++ " B"
  else if n < 1024 * 1024 then Decimal.fixedShifted 1 n 10 ++ " KB"
  else if n < 1024 * 1024 * 1024 then Decimal.fixedShifted 1 n 20 ++ " MB"
  else Decimal.fixedShifted 1 n 30 ++ " GB"

def traffic (c : Counters) : String :=
  "Traffic:  " ++ formatBytes c.uplinkBytes.toNat ++ " up, " ++
    formatBytes c.downlinkBytes.toNat ++ " down, " ++ decimal c.dropped ++ " dropped"

/-- The lines of a whole report behind the one that tells the time. -/
def report (c : Counters) : List String := c.summary ++ [c.traffic]

end FrameBus.Counters
