-- SUMMARY: Media players: their songs and volume steps, what an item reports about one, and the state that is kept of it.

import Appliance.Json
import Appliance.Tracked

namespace Appliance

/-! ## Songs and volume -/

namespace Player

/-- The number of the first song. -/
def firstSong : Int64 := 1

/-- The number of the last song. -/
def lastSong : Int64 := 11

/-- The loudest volume step. -/
def maxVolume : Int64 := 16

/-- The titles, from the first song on. -/
def titles : List String :=
  ["Cicada Chirping", "Rain Sound", "Ripple Sound", "Birdsong", "Lullaby", "Fan Sound",
    "Crystal Ball", "Music Box", "White Noise", "Thunder", "Ocean Wave"]

/-- The title of a song. -/
def title? (song : Int64) : Option String :=
  if song < firstSong then none else titles[(song - firstSong).toInt.toNat]?

/-- The song after another, starting over at the last song. -/
def nextSong : Option Int64 → Int64
  | some song => if song < lastSong then song + 1 else firstSong
  | none => firstSong

/-- The song before another, starting over at the first song. -/
def previousSong : Option Int64 → Int64
  | some song => if song ≤ firstSong then lastSong else song - 1
  | none => firstSong

/-- The volume step nearest to a level between zero and one, a half going up.
    A level that is no number is silence. -/
def volumeStep (level : Float) : Int64 :=
  let step := (level * 16.0).round.toInt64
  if step < 0 then 0 else if maxVolume < step then maxVolume else step

/-- The level of a volume step, kept between zero and one. -/
def levelOfStep (step : Float) : Float :=
  let level := step / 16.0
  if level < 0.0 then 0.0 else if 1.0 < level then 1.0 else level

end Player

/-! ## Players -/

/-- The state of a media player, as far as it is known. -/
structure Player where
  muted : Option Bool := none
  track : Option Int64 := none
  title : Option String := none
  /-- The volume level, between zero and one. -/
  volume : Option Float := none
deriving BEq, Repr, Inhabited

/-- What one item reports about a player. -/
structure Player.Report where
  mute : Option Bool
  song : Option Int64
  volume : Option Float
deriving BEq, Repr

namespace Player

def Report.ofItem (item : Json) : Report where
  mute := item.flagAt? "mute"
  song := item.int64At? "song"
  volume := item.floatAt? "volume"

/-- Nothing is reported. -/
def Report.isEmpty (r : Report) : Bool := r.mute.isNone && r.song.isNone && r.volume.isNone

/-- What a player that is muted or not is doing. -/
def activity (muted : Bool) : String := if muted then "idle" else "playing"

/-- The state after a report. -/
def revise (p : Player) (r : Report) : Tracked Player := do
  let muted ← assign p.muted (r.mute.map some)
  let track ← assign p.track (r.song.map some)
  let title ← assign p.title (r.song.map title?)
  let volume ← assign p.volume (r.volume.map fun step => some (levelOfStep step))
  return { muted, track, title, volume }

end Player

end Appliance
