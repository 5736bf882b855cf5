import TableCodegen.CommandLine.Argument
import TableCodegen.CommandLine.Request
import TableCodegen.CommandLine.Run
import TableCodegen.Decimal.Basic
import TableCodegen.Decimal.Shortest
import TableCodegen.Document.Excerpt
import TableCodegen.Document.Lines
import TableCodegen.Failure
import TableCodegen.FileTree
import TableCodegen.Generate
import TableCodegen.Generator
import TableCodegen.Hex
import TableCodegen.InformationElement
import TableCodegen.IoError
import TableCodegen.Java.ByteArray
import TableCodegen.Java.Literal
import TableCodegen.Liquid.Block
import TableCodegen.Liquid.Element
import TableCodegen.Liquid.Error
import TableCodegen.Liquid.Render
import TableCodegen.Liquid.Tag
import TableCodegen.Liquid.Template
import TableCodegen.Liquid.Value
import TableCodegen.Log
import TableCodegen.Main
import TableCodegen.Proofs.Cells
import TableCodegen.Proofs.Excerpts
import TableCodegen.Proofs.LineTable
import TableCodegen.Proofs.Lines
import TableCodegen.Proofs.Loading
import TableCodegen.Proofs.Messages
import TableCodegen.Proofs.Places
import TableCodegen.Proofs.RowOutcomes
import TableCodegen.Record
import TableCodegen.ReferencePoint
import TableCodegen.Settings
import TableCodegen.Sink
import TableCodegen.StockTemplate
import TableCodegen.Storage
import TableCodegen.Table.Basic
import TableCodegen.Table.Cells
import TableCodegen.Table.Rows
import TableCodegen.Text
import TableCodegen.Text.Blank
import TableCodegen.Text.Bounds
import TableCodegen.Text.Case
import TableCodegen.Text.Escaped
import TableCodegen.Text.Printable
import TableCodegen.Toml.Document
import TableCodegen.Toml.Scalar
import TableCodegen.Toml.Value
import TableCodegen.Proofs.Diagnosis
import TableCodegen.Proofs.Encoding
import TableCodegen.Proofs.FileWrites
import TableCodegen.Proofs.Generation
import TableCodegen.Proofs.JavaReading
import TableCodegen.Proofs.Fields
import TableCodegen.Proofs.Literals
import TableCodegen.Proofs.Shifts
import TableCodegen.Proofs.TableBodies
import TableCodegen.Proofs.LineEndings
import TableCodegen.Proofs.TemplateNames
import TableCodegen.Proofs.TemplateReading
import TableCodegen.Proofs.TemplateScripts
import TableCodegen.Proofs.TemplateRendering
import TableCodegen.Proofs.StockTemplates
import TableCodegen.Proofs.TemplateFaults
import TableCodegen.Proofs.Switches
import TableCodegen.Proofs.Invocations
import TableCodegen.Proofs.Documents
import TableCodegen.Proofs.Configuration
import TableCodegen.Proofs.Commands
import TableCodegen.Proofs.QuietCommands
import TableCodegen.Proofs.RunSequences
import TableCodegen.Proofs.CellAutomaton
import TableCodegen.Proofs.Cursors
import TableCodegen.Proofs.Tilings
import TableCodegen.Proofs.Trimming
import TableCodegen.Proofs.Underlines
import TableCodegen.Proofs.HexDigits
import TableCodegen.Proofs.ByteLines
import TableCodegen.Proofs.Terminators
import TableCodegen.Proofs.ElementRows
import TableCodegen.Proofs.ArrayReading
import TableCodegen.Proofs.RowLines
import TableCodegen.Proofs.InterfaceTags
import TableCodegen.Proofs.SkippedLines
import TableCodegen.Proofs.ReferenceWords
import TableCodegen.Proofs.JsonReading
import TableCodegen.Proofs.Dumps
import TableCodegen.Proofs.NameRuns
import TableCodegen.Proofs.LoopTemplates
import TableCodegen.Proofs.UndefinedNames
import TableCodegen.Proofs.BasicStrings
import TableCodegen.Proofs.WrittenLines
import TableCodegen.Proofs.WrittenSections
import TableCodegen.Proofs.WrittenSettings
import TableCodegen.Proofs.PointNames
import TableCodegen.Proofs.PointRows
import TableCodegen.Proofs.LiteralCommands
import TableCodegen.Proofs.LinePartition
