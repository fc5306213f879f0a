import SchemaDraft.Main
import SchemaDraft.Proofs.Text.Adjacent
import SchemaDraft.Proofs.Text.Trim
import SchemaDraft.Proofs.Script.ReadColumns
import SchemaDraft.Proofs.Model.Resolve
import SchemaDraft.Proofs.Script.WellFormed
import SchemaDraft.Proofs.Script.Phrase
import SchemaDraft.Proofs.Script.WrittenName
import SchemaDraft.Proofs.Script.Search
import SchemaDraft.Proofs.Script.Split
import SchemaDraft.Proofs.Script.WrittenClause
import SchemaDraft.Proofs.Script.WrittenTable
import SchemaDraft.Proofs.Export.Quoted
import SchemaDraft.Proofs.Export.Statements
import SchemaDraft.Proofs.Export.ReadKeys
import SchemaDraft.Proofs.Export.ReadTables
import SchemaDraft.Proofs.Export.NamedRelations
import SchemaDraft.Proofs.Export.ReadableTables
import SchemaDraft.Proofs.Export.ReadScript
import SchemaDraft.Proofs.Export.RoundTrip
import SchemaDraft.Proofs.Script.ReadNames
import SchemaDraft.Proofs.Export.Recovery
import SchemaDraft.Proofs.Script.Identifier
import SchemaDraft.Proofs.Model.ColumnType
import SchemaDraft.Proofs.Script.WrittenColumn
import SchemaDraft.Proofs.Script.Grammar
import SchemaDraft.Proofs.Edit.Run
import SchemaDraft.Proofs.Export.ConstraintNames
import SchemaDraft.Proofs.Export.Delimited
import SchemaDraft.Proofs.Json.ReadBack
import SchemaDraft.Proofs.Document.ReadBack
import SchemaDraft.Proofs.Edit.Merge
import SchemaDraft.Proofs.Edit.Layout
import SchemaDraft.Proofs.Export.LiveRelations
import SchemaDraft.Proofs.Script.Reorder
import SchemaDraft.Proofs.Edit.Commute
import SchemaDraft.Proofs.Export.Renaming
import SchemaDraft.Proofs.Document.Loaded
import SchemaDraft.Proofs.Script.Insert
import SchemaDraft.Proofs.Script.DeclaredKeys
import SchemaDraft.Proofs.Document.BothForms
import SchemaDraft.Proofs.Console.Rendered
import SchemaDraft.Proofs.Console.Ending
import SchemaDraft.Proofs.Console.Printed
import SchemaDraft.Proofs.Script.Agreement
import SchemaDraft.Proofs.Script.QuoteMarks
import SchemaDraft.Proofs.Script.Requoted
import SchemaDraft.Proofs.Script.RequotedNames
import SchemaDraft.Proofs.Script.RequotedTable
import SchemaDraft.Proofs.Script.Comments
import SchemaDraft.Proofs.Script.Stops
import SchemaDraft.Proofs.Script.Body
import SchemaDraft.Proofs.Script.ClauseOrder
import SchemaDraft.Proofs.Script.WrittenKey
import SchemaDraft.Proofs.Script.Literal
import SchemaDraft.Proofs.Model.KeyFates
import SchemaDraft.Proofs.Edit.Undo
import SchemaDraft.Proofs.Edit.Rejected
import SchemaDraft.Proofs.Export.FittedName
import SchemaDraft.Proofs.Script.Pieces
import SchemaDraft.Proofs.Text.Collapse
import SchemaDraft.Proofs.Text.Utf8
import SchemaDraft.Proofs.Script.TypeSpelling
import SchemaDraft.Proofs.Script.DottedName
import SchemaDraft.Proofs.Script.Partner
import SchemaDraft.Proofs.Script.Spans
import SchemaDraft.Proofs.Catalogue.UniqueKeys
