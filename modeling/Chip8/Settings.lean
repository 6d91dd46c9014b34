import Chip8.Decimal.Binary64
import Chip8.Machine

/-! # Settings

How fast a machine runs and how it treats the edge of the display. Settings are
good when there are frames and at least one instruction for each.

A frame lasts for one second over the frame rate. That is worked out as a
binary64 number first and then rounded to whole nanoseconds. -/

namespace Chip8

structure Settings where
  /-- Frames per second. -/
  frameRate : Nat := 60
  /-- Instructions per second, spread evenly over the frames. -/
  speed : Nat := 700
  edge : SpriteEdge := .spill
deriving DecidableEq

namespace Settings

/-- What is wrong with the settings. -/
def fault? (s : Settings) : Option SettingsFault :=
  if s.frameRate = 0 then some .noFrames
  else if s.speed < s.frameRate then some (.tooSlow s.speed s.frameRate)
  else none

/-- The instructions of one frame. Without frames all are counted as one. -/
def batch (s : Settings) : Nat := s.speed / max s.frameRate 1

/-- How long a frame lasts in nanoseconds. -/
def frameNanos (s : Settings) : Nat :=
  Decimal.roundDiv ((Decimal.Binary64.nearest 1 s.frameRate).units * 1_000_000_000) Decimal.unitsPerOne

end Settings

end Chip8
