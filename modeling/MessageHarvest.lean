import MessageHarvest.Call.Scan
import MessageHarvest.Call.Site
import MessageHarvest.Call.Unescape
import MessageHarvest.Catalogue.Basic
import MessageHarvest.Catalogue.Json
import MessageHarvest.Catalogue.Recording
import MessageHarvest.Command.Action
import MessageHarvest.Command.Arguments
import MessageHarvest.Command.Run
import MessageHarvest.Config.Basic
import MessageHarvest.Config.Json
import MessageHarvest.Config.Load
import MessageHarvest.Files.Path
import MessageHarvest.Files.Selection
import MessageHarvest.Files.Tree
import MessageHarvest.Glob.Match
import MessageHarvest.Glob.Pattern
import MessageHarvest.Harvest.Run
import MessageHarvest.Harvest.Source
import MessageHarvest.Json.Decoder
import MessageHarvest.Json.Draft
import MessageHarvest.Json.Fault
import MessageHarvest.Json.Number
import MessageHarvest.Json.Printer
import MessageHarvest.Json.Value
import MessageHarvest.Log.Record
import MessageHarvest.Main
import MessageHarvest.Message.Location
import MessageHarvest.Message.Record
import MessageHarvest.Proofs.Call.Walk
import MessageHarvest.Proofs.Catalogue.Recorded
import MessageHarvest.Proofs.Harvest.Parallel
import MessageHarvest.Proofs.Harvest.Pool
import MessageHarvest.Proofs.Script.Position
import MessageHarvest.Script.Binding
import MessageHarvest.Script.Class
import MessageHarvest.Script.Collection
import MessageHarvest.Script.Cursor
import MessageHarvest.Script.Escape
import MessageHarvest.Script.Expression
import MessageHarvest.Script.Fault
import MessageHarvest.Script.Function
import MessageHarvest.Script.Lexeme
import MessageHarvest.Script.Literal
import MessageHarvest.Script.Mark
import MessageHarvest.Script.Markup
import MessageHarvest.Script.Module
import MessageHarvest.Script.ModuleItem
import MessageHarvest.Script.Node
import MessageHarvest.Script.Numeral
import MessageHarvest.Script.Parse
import MessageHarvest.Script.Regexp
import MessageHarvest.Script.Statement
import MessageHarvest.Script.Target
import MessageHarvest.Script.Token
import MessageHarvest.Script.Word
import MessageHarvest.Text.Basic
import MessageHarvest.Text.Digit
import MessageHarvest.Text.Hex
import MessageHarvest.Text.Identifier
import MessageHarvest.Text.Printable
import MessageHarvest.Text.Quoted
import MessageHarvest.Text.Replace
import MessageHarvest.Text.SortedMap
import MessageHarvest.Text.Utf8
import MessageHarvest.Proofs.Script.Ending
import MessageHarvest.Proofs.Script.Reading
import MessageHarvest.Proofs.Script.Cutting
import MessageHarvest.Proofs.Script.PlainString
import MessageHarvest.Proofs.Script.Skipping
import MessageHarvest.Proofs.Script.Standing
import MessageHarvest.Proofs.Script.Following
import MessageHarvest.Proofs.Script.Keeping
import MessageHarvest.Proofs.Script.KeepingGrammar
import MessageHarvest.Proofs.Script.KeepingExpression
import MessageHarvest.Proofs.Script.Callee
import MessageHarvest.Proofs.Script.SingleCall
import MessageHarvest.Proofs.Script.ArgumentList
import MessageHarvest.Proofs.Script.Opening
import MessageHarvest.Proofs.Script.Inside
import MessageHarvest.Proofs.Call.Shape
import MessageHarvest.Proofs.Call.Agreement
import MessageHarvest.Proofs.Text.Hex
import MessageHarvest.Proofs.Text.CodeUnit
import MessageHarvest.Proofs.Script.Body
import MessageHarvest.Proofs.Script.BodyReading
import MessageHarvest.Proofs.Call.Unescape
import MessageHarvest.Proofs.Call.Decoding
import MessageHarvest.Proofs.Call.Grammar
import MessageHarvest.Proofs.Call.Intervals
import MessageHarvest.Proofs.Harvest.Written
import MessageHarvest.Proofs.Harvest.EmptyNames
import MessageHarvest.Proofs.Text.SortedMap
import MessageHarvest.Proofs.Json.Number
import MessageHarvest.Proofs.Json.Printed
import MessageHarvest.Proofs.Json.Sound
import MessageHarvest.Proofs.Json.Decoding
import MessageHarvest.Proofs.Catalogue.Edit
import MessageHarvest.Proofs.Catalogue.Json
import MessageHarvest.Proofs.Files.Content
import MessageHarvest.Proofs.Files.Selected
import MessageHarvest.Proofs.Harvest.Finishing
import MessageHarvest.Proofs.Harvest.Isolation
import MessageHarvest.Proofs.Harvest.Accounting
import MessageHarvest.Proofs.Harvest.Reordering
import MessageHarvest.Proofs.Files.Writing
import MessageHarvest.Proofs.Command.Effects
import MessageHarvest.Proofs.Command.Arguments
import MessageHarvest.Proofs.Command.Levels
import MessageHarvest.Proofs.Call.Sequence
import MessageHarvest.Proofs.Call.Spelling
import MessageHarvest.Proofs.Log.Interpolation
import MessageHarvest.Proofs.Text.Order
import MessageHarvest.Proofs.Catalogue.Association
import MessageHarvest.Proofs.Files.Path
import MessageHarvest.Proofs.Files.Walk
import MessageHarvest.Proofs.Json.Grammar
import MessageHarvest.Proofs.Json.Reading
import MessageHarvest.Proofs.Json.Listing
import MessageHarvest.Proofs.Text.Utf8
import MessageHarvest.Proofs.Config.Overrides
import MessageHarvest.Proofs.Script.Naming
import MessageHarvest.Proofs.Script.NamingGrammar
import MessageHarvest.Proofs.Script.NamingExpression
import MessageHarvest.Proofs.Script.NamingStatement
import MessageHarvest.Proofs.Harvest.NameSets
import MessageHarvest.Proofs.Message.Location
import MessageHarvest.Proofs.Message.Source
import MessageHarvest.Proofs.Harvest.Decoded
import MessageHarvest.Proofs.Files.Exclusion
import MessageHarvest.Proofs.Call.Escape
import MessageHarvest.Proofs.Call.Reader
import MessageHarvest.Proofs.Call.Steps
