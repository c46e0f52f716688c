import Machining.Config.Filed
import Machining.Json.Strict
import Machining.Program.Series
import Machining.Session.Replay
import Machining.Session.Run
import Machining.Text.Utf8
import Machining.Files.Document
import Machining.Files.Text
import Machining.Schema.Filed
import Machining.Log.Setup
import Machining.Command.Run
import Machining.Main
import Machining.Proofs.Session.Timeline
import Machining.Proofs.Numeric.FloatOrder
import Machining.Proofs.Numeric.Reals
import Machining.Proofs.Program.Layout
import Machining.Proofs.Program.ModalWords
import Machining.Proofs.Program.Independence
import Machining.Proofs.Program.Reuse
import Machining.Proofs.Program.SafePlane
import Machining.Proofs.Session.CommittedTurns
import Machining.Proofs.Session.Superseded
import Machining.Proofs.Session.TaskRuns
import Machining.Proofs.Session.Moves
import Machining.Proofs.Session.Outputs
import Machining.Proofs.Json.Writable
import Machining.Proofs.Session.Alternation
import Machining.Proofs.Config.Accepted
import Machining.Proofs.Numeric.FloatRounding
import Machining.Proofs.Numeric.FloatRange
import Machining.Proofs.Program.Strides
import Machining.Proofs.Program.Material
import Machining.Proofs.Program.Overflow
import Machining.Proofs.Session.Generations
import Machining.Proofs.Session.Renewal
import Machining.Proofs.Session.FailedTurns
import Machining.Proofs.Session.UnusableAnswers
import Machining.Proofs.Session.Recompiling
import Machining.Proofs.Numeric.FloatBounds
import Machining.Proofs.Program.Decimals
import Machining.Proofs.Program.Reach
import Machining.Proofs.Program.ModerateJobs
import Machining.Proofs.Config.Ranges
import Machining.Proofs.Files.PlainFile
import Machining.Proofs.Session.ReplayedScripts
import Machining.Proofs.Session.Playback
import Machining.Proofs.Session.Landings
import Machining.Proofs.Job.Spacing
import Machining.Proofs.Job.Limits
import Machining.Proofs.Program.Path
import Machining.Proofs.Program.RoundPockets
import Machining.Proofs.Program.Polyline
import Machining.Proofs.Program.RectangularPockets
import Machining.Proofs.Program.PocketCorners
import Machining.Proofs.Program.FaceMilling
import Machining.Proofs.Numeric.ExactNumbers
import Machining.Proofs.Program.Contours
import Machining.Proofs.Program.Arcs
import Machining.Proofs.Program.WordValues
import Machining.Proofs.Numeric.NearestDecimals
import Machining.Proofs.Program.CoordinateWords
import Machining.Proofs.Program.FeedAndSpeed
import Machining.Proofs.Numeric.FloatSteadiness
import Machining.Proofs.Numeric.Steadiness
import Machining.Proofs.Program.Plans
import Machining.Proofs.Program.Retracts
import Machining.Proofs.Program.Depths
import Machining.Proofs.Numeric.Characters
import Machining.Proofs.Text.Search
import Machining.Proofs.Text.Templates
import Machining.Proofs.Json.Contents
import Machining.Proofs.Json.Occurrences
import Machining.Proofs.Session.PayloadKinds
import Machining.Proofs.Session.UploadLabels
import Machining.Proofs.Config.Refusals
import Machining.Proofs.Program.WellFormedContours
import Machining.Proofs.Program.SkippedOperations
import Machining.Proofs.Session.MissingGeometry
import Machining.Proofs.Session.FencedAnswers
import Machining.Proofs.Files.AtomicReplacement
