/-
# Settings

What a proxy can be told: how long it waits, how much it accepts, and what it
writes to its log.
-/

import Parley.Frame.Codec
import Parley.Schedule

namespace Parley

/-- The settings of a proxy.  What is not set has the value given here. -/
structure Settings where
  /-- How long a request waits for its reply; zero is forever. -/
  requestTimeout : Millis := 30000
  /-- How long a late reply of a request that was given up is dropped quietly. -/
  retiredReplyTtl : Millis := 60000
  /-- The largest body of a frame. -/
  maxFrameSize : Nat := Frame.maxFrameSize
  /-- How many frames a channel holds. -/
  channelCapacity : Nat := 255
  /-- Which log records are written. -/
  filter : String := "info"
  /-- Where log files are written, if they are written at all. -/
  directory : Option String := none
  /-- How the names of log files begin. -/
  logFile : String := "cadence-proxy.log"
deriving DecidableEq, Repr

end Parley
