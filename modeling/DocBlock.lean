import DocBlock.Files.Bundle
import DocBlock.Main
import DocBlock.Proofs.Extraction.Inlining
import DocBlock.Proofs.Extraction.Loads
import DocBlock.Proofs.Extraction.Partition
import DocBlock.Proofs.Extraction.RoundTrip
import DocBlock.Proofs.Extraction.WellFormed
import DocBlock.Proofs.Extraction.Rendering
import DocBlock.Proofs.Schema.Validation
import DocBlock.Proofs.Schema.Document
import DocBlock.Proofs.Source.Unclosed
import DocBlock.Proofs.Extraction.Unclosed
import DocBlock.Proofs.Extraction.Counted
import DocBlock.Proofs.Extraction.Trace
import DocBlock.Proofs.Declaration
import DocBlock.Proofs.Declaration.Reading
import DocBlock.Proofs.Declaration.Grammar
import DocBlock.Proofs.Declaration.Boundaries
import DocBlock.Proofs.Text.Split
import DocBlock.Proofs.Extraction.Body
import DocBlock.Proofs.Extraction.Modes
import DocBlock.Proofs.Document.Decoding
import DocBlock.Proofs.Source.Encoding
import DocBlock.Proofs.Extraction.Encoding
import DocBlock.Proofs.Extraction.LineEnds
import DocBlock.Proofs.Files.Disk
import DocBlock.Proofs.Job.Run
import DocBlock.Proofs.Job.Files
import DocBlock.Proofs.Json.Reader
import DocBlock.Proofs.Json.Layout
import DocBlock.Proofs.Document.Layout
import DocBlock.Proofs.Extraction.Confinement
import DocBlock.Proofs.Extraction.Continuation
import DocBlock.Proofs.Source.Indented
import DocBlock.Proofs.Extraction.Indentation
import DocBlock.Proofs.Extraction.Spelling
import DocBlock.Proofs.Extraction.Stray
import DocBlock.Proofs.Extraction.TypeLists
import DocBlock.Proofs.Declaration.Order
import DocBlock.Proofs.Watch.Run
import DocBlock.Proofs.Tag.TypeNames
import DocBlock.Proofs.Text.Dedent
