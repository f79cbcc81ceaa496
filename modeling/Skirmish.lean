import Skirmish.Event.Bus
import Skirmish.Rules.Load
import Skirmish.Scenario.Load
import Skirmish.Turn
import Skirmish.World.Digest
import Skirmish.Proofs.State.Location
import Skirmish.Proofs.State.Frame
import Skirmish.Proofs.State.Edit
import Skirmish.Proofs.Combat.Hit
import Skirmish.Proofs.Combat.Reads
import Skirmish.Proofs.Footprint.Confined
import Skirmish.Proofs.Combat.Evasion
import Skirmish.Proofs.Footprint.Combat
import Skirmish.Proofs.Footprint.Action
import Skirmish.Proofs.Footprint.Commute
import Skirmish.Proofs.Course.Basic
import Skirmish.Proofs.Course.Combat
import Skirmish.Proofs.Course.Action
import Skirmish.Proofs.Combat.Health
import Skirmish.Proofs.Health.Ledger
import Skirmish.Proofs.Health.Bounds
import Skirmish.Proofs.Health.Undying
import Skirmish.Proofs.Upkeep.Frame
import Skirmish.Proofs.Script.Frame
import Skirmish.Proofs.Run.Invariant
import Skirmish.Proofs.Upkeep.Bag
import Skirmish.Proofs.Upkeep.Passage
import Skirmish.Proofs.Threshold.OneShot
import Skirmish.Proofs.Threshold.Upkeep
import Skirmish.Proofs.Run.History
import Skirmish.Proofs.Upkeep.Personal
import Skirmish.Proofs.Upkeep.Survivors
import Skirmish.Proofs.Upkeep.Deaths
import Skirmish.Proofs.Upkeep.Independence
import Skirmish.Proofs.Upkeep.Limits
import Skirmish.Proofs.Run.Vitals
import Skirmish.Proofs.Grid.Tiles
import Skirmish.Proofs.Digest.Layout
import Skirmish.Proofs.Run.Stream
import Skirmish.Proofs.Upkeep.Living
import Skirmish.Proofs.Upkeep.Statuses
import Skirmish.Proofs.Run.Countdown
import Skirmish.Proofs.Upkeep.Suffering
import Skirmish.Proofs.Run.Suffering
import Skirmish.Proofs.Digest.Equal
import Skirmish.Proofs.Script.Meaning
import Skirmish.Proofs.Script.Site
import Skirmish.Proofs.Script.Taking
import Skirmish.Proofs.Script.ControlFlow
import Skirmish.Proofs.Grammar.Reading
import Skirmish.Proofs.Grammar.Expression
import Skirmish.Proofs.Grammar.Condition
import Skirmish.Proofs.Grammar.Selector
import Skirmish.Proofs.Grammar.Statement
import Skirmish.Proofs.Grammar.Document
import Skirmish.Proofs.Joining.Scan
import Skirmish.Proofs.Joining.Moved
import Skirmish.Proofs.Joining.Tracking
import Skirmish.Proofs.Joining.Operand
import Skirmish.Proofs.Joining.Test
import Skirmish.Proofs.Joining.Condition
import Skirmish.Proofs.Joining.Statement
import Skirmish.Proofs.Joining.Script
import Skirmish.Proofs.Joining.Warning
import Skirmish.Proofs.Joining.Role
import Skirmish.Proofs.Joining.Blame
import Skirmish.Proofs.Script.Cost
import Skirmish.Proofs.Course.Standing
import Skirmish.Proofs.Event.Roster
import Skirmish.Proofs.Script.Deeds
import Skirmish.Proofs.Number.Sign
import Skirmish.Proofs.Number.Order
import Skirmish.Proofs.Script.Draws
import Skirmish.Proofs.Script.Validate
import Skirmish.Proofs.Run.Cooldown
import Skirmish.Proofs.Grid.Line
import Skirmish.Proofs.Scenario.Placement
import Skirmish.Proofs.Script.Aim
import Skirmish.Proofs.Combat.Victims
import Skirmish.Proofs.Course.Dash
import Skirmish.Proofs.Combat.Landing
import Skirmish.Proofs.Combat.Resolving
import Skirmish.Proofs.Health.Splitting
import Skirmish.Proofs.Combat.Strike
import Skirmish.Proofs.Combat.Charges
import Skirmish.Proofs.Combat.Counter
import Skirmish.Proofs.Number.Rank
import Skirmish.Proofs.Script.Pick
import Skirmish.Proofs.Number.Rounding
import Skirmish.Proofs.Number.Whole
import Skirmish.Proofs.Number.Size
import Skirmish.Proofs.Grid.Distance
import Skirmish.Proofs.Script.Declared
import Skirmish.Proofs.Script.Futile
import Skirmish.Proofs.Footprint.Division
import Skirmish.Proofs.Upkeep.Untouched
import Skirmish.Proofs.Action.Missing
import Skirmish.Proofs.Scenario.Vitals
import Skirmish.Proofs.Source.Fault
import Skirmish.Proofs.Source.Position
import Skirmish.Proofs.Source.Statement
import Skirmish.Proofs.Depth.Document
import Skirmish.Proofs.Number.Nearest
import Skirmish.Proofs.Script.Comparison
import Skirmish.Proofs.Source.Document
import Skirmish.Proofs.Source.Spelling
import Skirmish.Proofs.Footprint.Overlap
import Skirmish.Proofs.Roll.Seed
