import EntityTagger.Association
import EntityTagger.Batch
import EntityTagger.Bert
import EntityTagger.Checkpoint
import EntityTagger.Decoder
import EntityTagger.Device
import EntityTagger.ElementType
import EntityTagger.Entity
import EntityTagger.Error
import EntityTagger.Field
import EntityTagger.FileSystem
import EntityTagger.Json
import EntityTagger.Json.Reader
import EntityTagger.Json.Writer
import EntityTagger.Kernel
import EntityTagger.Label
import EntityTagger.Label.File
import EntityTagger.Model
import EntityTagger.Number.Arithmetic
import EntityTagger.Number.Binary
import EntityTagger.Number.Decimal
import EntityTagger.Number.Integer
import EntityTagger.Parts
import EntityTagger.Path
import EntityTagger.Path.Glob
import EntityTagger.Proofs.Association
import EntityTagger.Proofs.Building
import EntityTagger.Proofs.Cells
import EntityTagger.Proofs.Confidence
import EntityTagger.Proofs.Decoding
import EntityTagger.Proofs.Decoding.Places
import EntityTagger.Proofs.Decoding.Refusal
import EntityTagger.Proofs.Decoding.Stacked
import EntityTagger.Proofs.Decoding.Top
import EntityTagger.Proofs.Decoding.Wrapping
import EntityTagger.Proofs.Directories
import EntityTagger.Proofs.ElementType
import EntityTagger.Proofs.Failure
import EntityTagger.Proofs.Files
import EntityTagger.Proofs.Grouping
import EntityTagger.Proofs.Grouping.Partition
import EntityTagger.Proofs.Json
import EntityTagger.Proofs.Json.Numeral
import EntityTagger.Proofs.Json.Readable
import EntityTagger.Proofs.Json.RoundTrip
import EntityTagger.Proofs.Kernel
import EntityTagger.Proofs.Label.Entries
import EntityTagger.Proofs.Label.File
import EntityTagger.Proofs.Label.RoundTrip
import EntityTagger.Proofs.Number.Integer
import EntityTagger.Proofs.Number.Monotone
import EntityTagger.Proofs.Number.Nonnegative
import EntityTagger.Proofs.Number.Order
import EntityTagger.Proofs.Number.Rounding
import EntityTagger.Proofs.Number.Share
import EntityTagger.Proofs.Number.Shortest
import EntityTagger.Proofs.Number.Widening
import EntityTagger.Proofs.Obstacles
import EntityTagger.Proofs.Padding
import EntityTagger.Proofs.Padding.Joined
import EntityTagger.Proofs.Path.Glob
import EntityTagger.Proofs.Path.Matching
import EntityTagger.Proofs.Path.Normal
import EntityTagger.Proofs.Prediction
import EntityTagger.Proofs.Row
import EntityTagger.Proofs.Row.Reading
import EntityTagger.Proofs.Row.RoundTrip
import EntityTagger.Proofs.Scattering
import EntityTagger.Proofs.Score
import EntityTagger.Proofs.Service
import EntityTagger.Proofs.Service.Agreement
import EntityTagger.Proofs.Service.Outcome
import EntityTagger.Proofs.Service.Session
import EntityTagger.Proofs.Settings
import EntityTagger.Proofs.Settings.File
import EntityTagger.Proofs.Settings.Loaded
import EntityTagger.Proofs.Softmax
import EntityTagger.Proofs.Softmax.Axis
import EntityTagger.Proofs.Softmax.Exact
import EntityTagger.Proofs.Softmax.Order
import EntityTagger.Proofs.Softmax.Wrapping
import EntityTagger.Proofs.Stage
import EntityTagger.Proofs.Stage.Again
import EntityTagger.Proofs.Stage.Alone
import EntityTagger.Proofs.Stage.Effect
import EntityTagger.Proofs.Stage.Mirror
import EntityTagger.Proofs.Stage.Output
import EntityTagger.Proofs.Stage.Overlap
import EntityTagger.Proofs.Stage.Rerun
import EntityTagger.Proofs.Stage.Runs
import EntityTagger.Proofs.Stage.Selection
import EntityTagger.Proofs.Stage.Sending
import EntityTagger.Proofs.Stage.Sequence
import EntityTagger.Proofs.Stage.Tree
import EntityTagger.Proofs.Stage.Untouched
import EntityTagger.Proofs.Tagging
import EntityTagger.Proofs.Tensor
import EntityTagger.Proofs.Tensor.Axis
import EntityTagger.Proofs.Tensor.Broadcast
import EntityTagger.Proofs.Tensor.Reduction
import EntityTagger.Proofs.Text.Lines
import EntityTagger.Proofs.Text.Numeral
import EntityTagger.Proofs.Text.Order
import EntityTagger.Proofs.Traversal
import EntityTagger.Proofs.Utf8
import EntityTagger.Proofs.Utf8.Decoding
import EntityTagger.Proofs.Utf8.Pieces
import EntityTagger.Proofs.Vocabulary
import EntityTagger.Row
import EntityTagger.Run
import EntityTagger.Service
import EntityTagger.Service.Address
import EntityTagger.Service.Reply
import EntityTagger.Service.Request
import EntityTagger.Service.Start
import EntityTagger.Settings
import EntityTagger.Settings.File
import EntityTagger.Softmax
import EntityTagger.Stage
import EntityTagger.Stage.Tree
import EntityTagger.Tagger
import EntityTagger.Tagger.File
import EntityTagger.Tensor
import EntityTagger.Text
import EntityTagger.Text.Lines
import EntityTagger.Tokenizer.Table
import EntityTagger.Tokenizer.Vocabulary
import EntityTagger.Tokenizer.WordPiece
import EntityTagger.Unicode.Category
import EntityTagger.Unicode.Composition
import EntityTagger.Unicode.CompositionTable
import EntityTagger.Unicode.Table
import EntityTagger.Utf8
import EntityTagger.Value
import EntityTagger.Value.Literal
import EntityTagger.Violation
import EntityTagger.Yaml
import EntityTagger.Yaml.Block
import EntityTagger.Yaml.Cursor
import EntityTagger.Yaml.Node
import EntityTagger.Yaml.Plain
import EntityTagger.Yaml.Quoted
import EntityTagger.Yaml.Scalar
import EntityTagger.Yaml.Tag
import EntityTagger.Yaml.Timestamp
import EntityTagger.Yaml.Token
