import TensorSelect.Word
import TensorSelect.Panic
import TensorSelect.Element.Type
import TensorSelect.Float.Format
import TensorSelect.Float.Shortest
import TensorSelect.Float.Text
import TensorSelect.Float.Arith
import TensorSelect.Float.Log
import TensorSelect.Element.Float
import TensorSelect.Element.Scalar
import TensorSelect.Element.Storage
import TensorSelect.Shape
import TensorSelect.Failure
import TensorSelect.Unicode.Table
import TensorSelect.Unicode.Case
import TensorSelect.Unicode.Graphic
import TensorSelect.Text.Letters
import TensorSelect.Text.Quoted
import TensorSelect.Text.Integer
import TensorSelect.Layout.Tag
import TensorSelect.Layout.Physical
import TensorSelect.Layout.Dims
import TensorSelect.Layout.Pack
import TensorSelect.Select.Config
import TensorSelect.Select.Error
import TensorSelect.Select.Options
import TensorSelect.Select.Plan
import TensorSelect.Select.Network
import TensorSelect.Select.Order
import TensorSelect.Select.Bubble
import TensorSelect.Select.Heap
import TensorSelect.Select.Item
import TensorSelect.Select.Tables
import TensorSelect.Select.Sweep
import TensorSelect.Select.Engine
import TensorSelect.Element.Registry
import TensorSelect.Pool
import TensorSelect.Pool.Monitor
import TensorSelect.Select.TopK
import TensorSelect.Unicode.Grapheme
import TensorSelect.Unicode.Width
import TensorSelect.Text.Grapheme
import TensorSelect.Text.Terminal
import TensorSelect.Text.Cells
import TensorSelect.Text.Wrap
import TensorSelect.Text.Table
import TensorSelect.Text.Duration
import TensorSelect.Text.Metric
import TensorSelect.Bench.Report
import TensorSelect.Bench.Random
import TensorSelect.Bench.Flags
import TensorSelect.Bench.Run
import TensorSelect.Main
import TensorSelect.Proofs.Layout.Addressing
import TensorSelect.Proofs.Pool.Monitor
import TensorSelect.Proofs.Pool.Saturate
import TensorSelect.Proofs.Engine.Requests
import TensorSelect.Proofs.Engine.Setup
import TensorSelect.Proofs.Engine.Failure
import TensorSelect.Proofs.Engine.Invariant
import TensorSelect.Proofs.Select.Run
import TensorSelect.Proofs.Select.Network
import TensorSelect.Proofs.Select.Tables
import TensorSelect.Proofs.Select.Sorting
import TensorSelect.Proofs.Select.Bubble
import TensorSelect.Proofs.Select.Bitonic
import TensorSelect.Proofs.Select.Heap
import TensorSelect.Proofs.Element.Ranks
import TensorSelect.Proofs.Select.Selection
import TensorSelect.Proofs.Select.Streaming
import TensorSelect.Proofs.Engine.Safety
import TensorSelect.Proofs.Select.Outputs
import TensorSelect.Proofs.Engine.Answer
import TensorSelect.Proofs.Layout.RowMajor
import TensorSelect.Proofs.Layout.Placement
import TensorSelect.Proofs.Layout.Resolve
import TensorSelect.Proofs.Engine.Layouts
import TensorSelect.Proofs.Pool.Race
import TensorSelect.Proofs.Select.OptionText
import TensorSelect.Proofs.Layout.RoundTrip
import TensorSelect.Proofs.Element.BrainFloat
import TensorSelect.Proofs.Layout.TagText
import TensorSelect.Proofs.Select.IndexPass
import TensorSelect.Proofs.Engine.Units
import TensorSelect.Proofs.Element.FloatOrder
import TensorSelect.Proofs.Element.Widening
import TensorSelect.Proofs.Select.Comparison
