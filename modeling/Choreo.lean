import Choreo.Bake
import Choreo.Bake.Document
import Choreo.Color.Basic
import Choreo.Color.Mix
import Choreo.Color.Named
import Choreo.Color.Notation
import Choreo.Color.Palette
import Choreo.Color.Parse
import Choreo.CommandLine.Bake
import Choreo.CommandLine.Estimate
import Choreo.CommandLine.Options
import Choreo.CommandLine.Report
import Choreo.CommandLine.Run
import Choreo.Easing
import Choreo.Event
import Choreo.Flow.Animation
import Choreo.Flow.Basic
import Choreo.Flow.Fault
import Choreo.Flow.Leaf
import Choreo.Flow.Playback
import Choreo.Flow.Tween
import Choreo.Json
import Choreo.Main
import Choreo.Number.Exact
import Choreo.Number.Fault
import Choreo.Number.Fixed
import Choreo.Number.Quantity
import Choreo.Number.Rounding
import Choreo.Number.Scalar
import Choreo.Number.Shortest
import Choreo.Number.Significant
import Choreo.Project.Disk
import Choreo.Project.Entry
import Choreo.Project.Load
import Choreo.Project.Manifest
import Choreo.Project.Path
import Choreo.Project.Variables
import Choreo.Routine.Basic
import Choreo.Scene
import Choreo.Scheduler.Basic
import Choreo.Scheduler.Clock
import Choreo.Scheduler.Show
import Choreo.Script.Duration
import Choreo.Script.Expression
import Choreo.Script.Layout
import Choreo.Script.Lexeme
import Choreo.Script.Literal
import Choreo.Script.Pattern
import Choreo.Script.Reader
import Choreo.Script.Statement
import Choreo.Script.Tree
import Choreo.Stage.Basic
import Choreo.Stage.Current
import Choreo.Stage.Job
import Choreo.Stage.World
import Choreo.Text.Blank
import Choreo.Text.CharacterName
import Choreo.Text.CombiningClass
import Choreo.Text.Decomposition
import Choreo.Text.Digit
import Choreo.Text.Half
import Choreo.Text.Identifier
import Choreo.Text.Line
import Choreo.Text.LowerCase
import Choreo.Text.Mapping
import Choreo.Text.NameTable
import Choreo.Text.Normal
import Choreo.Text.Numeral
import Choreo.Text.Printable
import Choreo.Text.Quoted
import Choreo.Text.Range
import Choreo.Text.Word
import Choreo.Timeline
import Choreo.Token.Color
import Choreo.Token.Property
import Choreo.Token.Value
import Choreo.Transition
import Choreo.Value
import Choreo.Yaml.Block
import Choreo.Yaml.Cursor
import Choreo.Yaml.Datum
import Choreo.Yaml.Document
import Choreo.Yaml.Fault
import Choreo.Yaml.Kind
import Choreo.Yaml.Literal
import Choreo.Yaml.Members
import Choreo.Yaml.Node
import Choreo.Yaml.Plain
import Choreo.Yaml.Quoted
import Choreo.Yaml.Tag
import Choreo.Yaml.Timestamp
import Choreo.Yaml.Token
import Choreo.Proofs.Routine.Related
import Choreo.Proofs.Stage.Twins
import Choreo.Proofs.Flow.Twins
import Choreo.Proofs.Scheduler.Related
import Choreo.Proofs.Stage.Reset
import Choreo.Proofs.Scheduler.History
import Choreo.Proofs.Scheduler.Replay
import Choreo.Proofs.Scheduler.Shown
import Choreo.Proofs.Flow.Span
import Choreo.Proofs.Script.Makes
import Choreo.Proofs.Routine.Meter
import Choreo.Proofs.Flow.Leaves
import Choreo.Proofs.Flow.Uneven
import Choreo.Proofs.Script.Uneven
import Choreo.Proofs.Routine.Countdown
import Choreo.Proofs.Flow.Even
import Choreo.Proofs.Script.Rounds
import Choreo.Proofs.Script.Unrolled
import Choreo.Proofs.Scheduler.Notes
import Choreo.Proofs.Scheduler.Law
import Choreo.Proofs.Scheduler.Sound
import Choreo.Proofs.Scheduler.Chronicle
import Choreo.Proofs.Scheduler.Crash
import Choreo.Proofs.Scheduler.Strides
import Choreo.Proofs.Routine.Combined
import Choreo.Proofs.Routine.Turns
import Choreo.Proofs.Routine.Independent
import Choreo.Proofs.Flow.Deeds
import Choreo.Proofs.Routine.InTime
import Choreo.Proofs.Flow.Suppressed
import Choreo.Proofs.Bake.Takes
import Choreo.Proofs.Scheduler.Baked
import Choreo.Proofs.Routine.Nested
import Choreo.Proofs.Flow.Pace
import Choreo.Proofs.Scheduler.Paced
import Choreo.Proofs.Bake.Drift
import Choreo.Proofs.Routine.Branches
import Choreo.Proofs.Stage.Sight
import Choreo.Proofs.Flow.Scope
import Choreo.Proofs.Flow.Apart
import Choreo.Proofs.Token.Key
import Choreo.Proofs.Stage.Retained
import Choreo.Proofs.Flow.Kept
import Choreo.Proofs.Flow.Reached
import Choreo.Proofs.Flow.Handover
import Choreo.Proofs.Routine.Sequential
import Choreo.Proofs.Script.Groups
import Choreo.Proofs.Script.Animations
import Choreo.Proofs.Stage.Axes
import Choreo.Proofs.Flow.Axes
import Choreo.Proofs.Scheduler.Ledger
import Choreo.Proofs.Scheduler.Landing
import Choreo.Proofs.Flow.Updates
import Choreo.Proofs.Routine.Needed
import Choreo.Proofs.Bake.Frames
import Choreo.Proofs.Project.Order
import Choreo.Proofs.Script.Opening
import Choreo.Proofs.Number.Rounding
import Choreo.Proofs.Number.Double
import Choreo.Proofs.Number.Nearest
import Choreo.Proofs.Color.Notation
import Choreo.Proofs.Color.Parse
import Choreo.Proofs.Script.WrittenOut
import Choreo.Proofs.Stage.Current
import Choreo.Proofs.Token.Unknown
import Choreo.Proofs.Text.Spelling
import Choreo.Proofs.Token.Arbitrary
import Choreo.Proofs.Token.Length
import Choreo.Proofs.Stage.Paired
import Choreo.Proofs.Stage.Declared
import Choreo.Proofs.Flow.Typed
import Choreo.Proofs.Stage.Named
import Choreo.Proofs.Flow.Later
import Choreo.Proofs.Flow.Admitted
import Choreo.Proofs.Flow.Classes
import Choreo.Proofs.Number.Units
import Choreo.Proofs.Number.HalfEven
import Choreo.Proofs.Text.Decimal
import Choreo.Proofs.Color.Functional
import Choreo.Proofs.Color.RoundTrip
import Choreo.Proofs.Color.Captured
import Choreo.Proofs.Easing.Reflected
import Choreo.Proofs.Easing.Gentle
import Choreo.Proofs.Flow.Between
import Choreo.Proofs.Text.Canonical
import Choreo.Proofs.Number.Faithful
import Choreo.Proofs.Number.Worth
import Choreo.Proofs.Color.Fractions
import Choreo.Proofs.Color.WellFormed
import Choreo.Proofs.Project.Expanded
import Choreo.Proofs.Yaml.Shown
import Choreo.Proofs.Project.Fields
import Choreo.Proofs.Project.Accepted
import Choreo.Proofs.Routine.Keeper
import Choreo.Proofs.Routine.LifeCycle
