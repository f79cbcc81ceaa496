/-!
# Rolls

No generator runs in the background. A roll is a function of the seed of the battle, the turn, the
stream it belongs to and the number of rolls the stream has had; equal worlds roll alike.
-/

namespace Skirmish.Roll

/-- What a roll decides. -/
inductive Purpose where
  | chance
  /-- Whether a defender evades. -/
  | evasion
  deriving DecidableEq

/-- Keeps the seeds of different purposes apart. -/
def Purpose.salt : Purpose → UInt64
  | chance => 0x43
  | evasion => 0x45

/-- Folds the upper half of a word into the lower half. -/
def fold (h : UInt64) : UInt64 := h ^^^ (h >>> 33)

/-- The seed of one roll. -/
def seed (game turn stream counter : UInt64) (purpose : Purpose) : UInt64 :=
  let h := game ^^^ turn * 0x9e3779b97f4a7c15 ^^^ stream * 0x517cc1b727220a95 ^^^
    counter * 0x85ebca6b ^^^ purpose.salt * 0xc2b2ae3d27d4eb4f
  fold (fold h * 0xff51afd7ed558ccd)

/-- The stream of a name: the FNV-1a hash of its bytes. -/
def stream (name : String) : UInt64 :=
  name.toUTF8.toList.foldl (fun h b => (h ^^^ b.toUInt64) * 0x100000001b3) 0xcbf29ce484222325

/-- One step of a linear congruential generator and its permuted output. -/
def draw (seed : UInt64) : UInt32 :=
  let state := seed * 6364136223846793005 + 1442695040888963407
  let word := (((state >>> 18) ^^^ state) >>> 27).toUInt32
  let turns := (state >>> 59).toUInt32
  (word >>> turns) ||| (word <<< (32 - turns))

/-- A roll from 1 to 100. -/
def percent (seed : UInt64) : UInt32 := draw seed % 100 + 1

/-- A roll in `[0, 1)`. -/
def fraction (seed : UInt64) : Float := (draw seed).toFloat / 4294967296.0

end Skirmish.Roll
