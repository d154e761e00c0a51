import TableSchema.Main
import TableSchema.Proofs.Ddl.Transcript
import TableSchema.Proofs.Text.Cut
import TableSchema.Proofs.Text.Nesting
import TableSchema.Text.Cursor
import TableSchema.Proofs.Ddl.Clause
import TableSchema.Proofs.Ddl.Declaration
import TableSchema.Proofs.Ddl.Script
import TableSchema.Proofs.Ddl.Acceptance
import TableSchema.Proofs.Ddl.Grammar
import TableSchema.Proofs.Ddl.Strictness
import TableSchema.Proofs.Ddl.CompositeKey
import TableSchema.Proofs.Ddl.Concatenation
import TableSchema.Proofs.Ddl.KeptList
import TableSchema.Proofs.Ddl.GluedList
import TableSchema.Proofs.Schema.TableJson
import TableSchema.Proofs.Toml.Entries
import TableSchema.Proofs.Config.File
import TableSchema.Proofs.Ddl.Session
import TableSchema.Proofs.Config.Precedence
import TableSchema.Proofs.Text.Window
import TableSchema.Proofs.Ddl.Accounting
import TableSchema.Proofs.Ddl.Names
import TableSchema.Proofs.Schema.Report
import TableSchema.Proofs.CommandLine.Program
import TableSchema.Proofs.Text.BracketMoves
import TableSchema.Proofs.Ddl.Ignored
import TableSchema.Proofs.Ddl.Steps
import TableSchema.Proofs.Ddl.Faults
import TableSchema.Proofs.Schema.Building
import TableSchema.Proofs.Config.Environment
import TableSchema.Proofs.CommandLine.Logging
import TableSchema.Proofs.Config.Merging
import TableSchema.Proofs.Text.Counting
