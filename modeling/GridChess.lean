import GridChess.Main
import GridChess.MoveTree
import GridChess.Record.Snapshot
import GridChess.FileTree
import GridChess.Proofs.Displacement.Between
import GridChess.Proofs.Flat.CanMove
import GridChess.Proofs.Board.Lookup
import GridChess.Proofs.RuleSet.Geometry
import GridChess.Proofs.Match.Apply
import GridChess.Proofs.RuleSet.LegalMoves
import GridChess.Proofs.Position.Text
import GridChess.Proofs.Calendar
import GridChess.Proofs.Duration.Breakdown
import GridChess.Proofs.Duration.Text
import GridChess.Proofs.Text.Octets
import GridChess.Proofs.Timestamp.Text
import GridChess.Proofs.Timestamp.Shape
import GridChess.Proofs.Json.Reads
import GridChess.Proofs.Json.Sequence
import GridChess.Proofs.Json.Object
import GridChess.Proofs.Record.Resolve
import GridChess.Proofs.Record.Json
import GridChess.Proofs.Snapshot.Delimits
import GridChess.Proofs.Record.Snapshot
import GridChess.Proofs.Board.Relocate
import GridChess.Proofs.RuleSet.Hosts
import GridChess.Proofs.Match.Call
import GridChess.Proofs.Match.Failure
import GridChess.Proofs.Match.Log
import GridChess.Proofs.Match.Material
import GridChess.Proofs.Record.Restore
import GridChess.Proofs.MoveTree.Step
import GridChess.Proofs.MoveTree.Lines
import GridChess.Proofs.MoveTree.Growth
import GridChess.Proofs.Flat.Sight
import GridChess.Proofs.Flat.Mailbox
import GridChess.Proofs.Flat.Reflection
import GridChess.Proofs.Json.Consumed
import GridChess.Proofs.Record.Decoded
import GridChess.Proofs.Record.Canonical
import GridChess.Proofs.RuleSet.Application
import GridChess.Proofs.Flat.Gait
import GridChess.Proofs.Match.Orthodox
import GridChess.Proofs.Tool.Playout
import GridChess.Proofs.Tool.Parade
import GridChess.Proofs.Tool.Run
import GridChess.Proofs.Displacement.Segment
import GridChess.Proofs.Flat.Retreat
import GridChess.Proofs.RuleSet.Checked
import GridChess.Proofs.Flat.Octets
import GridChess.Proofs.Json.Number
import GridChess.Proofs.Json.Scalar
import GridChess.Proofs.Json.Members
import GridChess.Proofs.Settings.Json
import GridChess.Proofs.FileTree
import GridChess.Proofs.Tool.Settings
import GridChess.Proofs.Registry.Registrations
import GridChess.Proofs.Move.Elapsed
import GridChess.Proofs.Tool.Clock
import GridChess.Proofs.Picture.Faithful
