import BoxPuzzle.Main
import BoxPuzzle.Session.Subscriber
import BoxPuzzle.Proofs.Session.Requests
import BoxPuzzle.Proofs.Session.Failure
import BoxPuzzle.Proofs.Session.Finality
import BoxPuzzle.Proofs.Session.Layout
import BoxPuzzle.Proofs.Session.Log
import BoxPuzzle.Proofs.Session.Configuration
import BoxPuzzle.Proofs.Session.Subscriber
import BoxPuzzle.Proofs.Json.Token
import BoxPuzzle.Proofs.Json.Reader
import BoxPuzzle.Proofs.Json.Fields
import BoxPuzzle.Proofs.Wire
import BoxPuzzle.Proofs.Json.Settled
import BoxPuzzle.Proofs.Solver.Body
import BoxPuzzle.Proofs.Session.Submission
import BoxPuzzle.Proofs.Grid.Board
import BoxPuzzle.Proofs.Grid.Boxes
import BoxPuzzle.Proofs.Grid.Root
import BoxPuzzle.Proofs.Grid.Document
import BoxPuzzle.Proofs.Headless
import BoxPuzzle.Proofs.Session.Overflow
import BoxPuzzle.Proofs.Layout.Pass
import BoxPuzzle.Proofs.Grid.Geometry
import BoxPuzzle.Proofs.Layout.Fit
import BoxPuzzle.Proofs.Layout.Overshoot
import BoxPuzzle.Proofs.Text.Spelling
import BoxPuzzle.Proofs.Grid.Cell
import BoxPuzzle.Proofs.Grid.History
import BoxPuzzle.Proofs.Grid.Members
import BoxPuzzle.Proofs.Grid.Matrix
import BoxPuzzle.Proofs.Grid.Placements
import BoxPuzzle.Proofs.Grid.Ragged
import BoxPuzzle.Proofs.Grid.Tiling
