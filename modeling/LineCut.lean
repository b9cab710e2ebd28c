import LineCut.Apply
import LineCut.CommandLine.Arguments
import LineCut.CommandLine.Run
import LineCut.Decimal.Shortest
import LineCut.Disk
import LineCut.Disk.Files
import LineCut.Disk.Path
import LineCut.Disk.Tree
import LineCut.Document
import LineCut.Edit
import LineCut.Fault
import LineCut.Json.Failure
import LineCut.Json.Printer
import LineCut.Json.Reader
import LineCut.Json.Value
import LineCut.LineRange
import LineCut.LineTest
import LineCut.Main
import LineCut.Pattern
import LineCut.Pattern.Expr
import LineCut.Pattern.Fault
import LineCut.Pattern.Meaning
import LineCut.Pattern.Node
import LineCut.Pattern.Progress
import LineCut.Pattern.Reader
import LineCut.Plan
import LineCut.Plan.Printer
import LineCut.Plan.Reader
import LineCut.Proofs.Advance
import LineCut.Proofs.Alternatives
import LineCut.Proofs.Atomicity
import LineCut.Proofs.Blame
import LineCut.Proofs.Clearance
import LineCut.Proofs.Conservation
import LineCut.Proofs.Containment
import LineCut.Proofs.Continuation
import LineCut.Proofs.Coverage
import LineCut.Proofs.Decoding
import LineCut.Proofs.Demands
import LineCut.Proofs.Editing
import LineCut.Proofs.Envelope
import LineCut.Proofs.Excision
import LineCut.Proofs.Format
import LineCut.Proofs.Layout
import LineCut.Proofs.Nesting
import LineCut.Proofs.Normalising
import LineCut.Proofs.Persistence
import LineCut.Proofs.Pointwise
import LineCut.Proofs.Preview
import LineCut.Proofs.Ranges
import LineCut.Proofs.Removal
import LineCut.Proofs.Reordering
import LineCut.Proofs.Repetition
import LineCut.Proofs.Replacing
import LineCut.Proofs.Rereading
import LineCut.Proofs.Rising
import LineCut.Proofs.RoundTrip
import LineCut.Proofs.Rules
import LineCut.Proofs.Scanning
import LineCut.Proofs.Separation
import LineCut.Proofs.Spelling
import LineCut.Proofs.Strictness
import LineCut.Proofs.Succession
import LineCut.Proofs.Survival
import LineCut.Proofs.Terminators
import LineCut.Proofs.Tightness
import LineCut.Proofs.Tokens
import LineCut.Proofs.Usability
import LineCut.Proofs.Validation
import LineCut.Proofs.Values
import LineCut.Proofs.Verdict
import LineCut.Proofs.Walking
import LineCut.Region
import LineCut.Report
import LineCut.Revision
import LineCut.Scan
import LineCut.Text.Blank
import LineCut.Text.Quoted
import LineCut.Text.Search
import LineCut.Unicode.Age
import LineCut.Unicode.Category
import LineCut.Unicode.CharSet
import LineCut.Unicode.Folding
import LineCut.Unicode.Newcomers
import LineCut.Unicode.Property
import LineCut.Unicode.Query
import LineCut.Unicode.Script
import LineCut.Unicode.Segmentation
import LineCut.Unicode.Table
