import ShapeInference.Text.Utf8
import ShapeInference.Text.Identifier
import ShapeInference.Text.Literal
import ShapeInference.Text.Quoted
import ShapeInference.Text.Lowercase
import ShapeInference.Text.Numeral
import ShapeInference.Text.Order
import ShapeInference.Number.Layout
import ShapeInference.Shape.Merge
import ShapeInference.Shape.Declaration
import ShapeInference.Sampling
import ShapeInference.Value.Snapshot
import ShapeInference.Failure
import ShapeInference.Inference.Event
import ShapeInference.Inference.Path
import ShapeInference.Inference.Classification
import ShapeInference.Inference.Document
import ShapeInference.Request
import ShapeInference.Settings.Basic
import ShapeInference.Report
import ShapeInference.Logging
import ShapeInference.Yaml.Lexeme.Quoted
import ShapeInference.Yaml.Lexeme.Plain
import ShapeInference.Yaml.Lexeme.Block
import ShapeInference.Text.Pattern
import ShapeInference.Yaml.TokenStream
import ShapeInference.Yaml.Assembly
import ShapeInference.Settings.File
import ShapeInference.Text.Similarity
import ShapeInference.CommandLine.Run
import ShapeInference.Main
import ShapeInference.Proofs.Conformance
import ShapeInference.Proofs.ClosedForm
import ShapeInference.Proofs.Reading
import ShapeInference.Proofs.Thoroughness
import ShapeInference.Proofs.Walk
import ShapeInference.Proofs.Literal
import ShapeInference.Proofs.Declaration
import ShapeInference.Proofs.Pruning
import ShapeInference.Proofs.Reachable
import ShapeInference.Proofs.Wording
import ShapeInference.Proofs.Files
import ShapeInference.Proofs.Encodable
import ShapeInference.Proofs.Command
import ShapeInference.Proofs.Grammar.Literal
import ShapeInference.Proofs.PropertyName
import ShapeInference.Proofs.Location
import ShapeInference.Proofs.Settings
import ShapeInference.Proofs.Grammar.Number
import ShapeInference.Proofs.Grammar.Value
import ShapeInference.Proofs.Grammar.Document
import ShapeInference.Proofs.Spelling
import ShapeInference.Proofs.Sequence
import ShapeInference.Proofs.Lookup
import ShapeInference.Proofs.Reporting
