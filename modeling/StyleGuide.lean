import StyleGuide.Assertion
import StyleGuide.Main
import StyleGuide.Proofs.Line.Payload
import StyleGuide.Proofs.Line.Written
import StyleGuide.Proofs.Scan.Documentation
import StyleGuide.Proofs.Text.Lines
import StyleGuide.Proofs.Text.Trim
import StyleGuide.Proofs.Scan.History
import StyleGuide.Proofs.Scan.Outline
import StyleGuide.Proofs.Scan.WellFormed
import StyleGuide.Proofs.Scan.Image
import StyleGuide.Proofs.Scan.Nested
import StyleGuide.Proofs.Scan.Independence
import StyleGuide.Proofs.Scan.Lookahead
import StyleGuide.Proofs.Scan.Control
import StyleGuide.Proofs.Scan.Description
import StyleGuide.Proofs.Scan.Parts
import StyleGuide.Proofs.Scan.Growth
import StyleGuide.Proofs.Scan.Examples
import StyleGuide.Proofs.Scan.DefaultSeverity
import StyleGuide.Proofs.Scan.Indentation
import StyleGuide.Proofs.Scan.LineEnds
import StyleGuide.Proofs.Format.Headings
import StyleGuide.Proofs.Generate.Effects
import StyleGuide.Proofs.Generate.Repeat
import StyleGuide.Proofs.Generate.OwnGuides
import StyleGuide.Proofs.Disk.Links
import StyleGuide.Proofs.CommandLine.Delivery
import StyleGuide.Proofs.Json.TakesBack
import StyleGuide.Proofs.Format.Reload
import StyleGuide.Proofs.Config.Precedence
import StyleGuide.Proofs.Format.Severity
import StyleGuide.Proofs.Format.Compose
import StyleGuide.Proofs.Disk.Descend
import StyleGuide.Proofs.Disk.PathOrder
import StyleGuide.Proofs.Generate.Walk
import StyleGuide.Proofs.Format.Registry
import StyleGuide.Proofs.Assertion.Decision
import StyleGuide.Proofs.Line.Grammar
import StyleGuide.Proofs.Format.Unambiguous
import StyleGuide.Proofs.Scan.Kinds
