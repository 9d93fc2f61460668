import SqlMapper.Data.Storage
import SqlMapper.Entity.FieldModel
import SqlMapper.Entity.Relation
import SqlMapper.Entity.Writing
import SqlMapper.Execution.TaskPool
import SqlMapper.Settings.Basic
import SqlMapper.Proofs.Query.Change
import SqlMapper.Proofs.Rendering.Select
import SqlMapper.Proofs.Query.Staging
import SqlMapper.Proofs.Rendering.Bindings
import SqlMapper.Proofs.Rendering.Statement
import SqlMapper.Proofs.Filter.Reading
import SqlMapper.Proofs.Run.Ensures
import SqlMapper.Proofs.Enhancing.BuiltIn
import SqlMapper.Proofs.Run.Journal
import SqlMapper.Proofs.Filter.Choice
import SqlMapper.Proofs.Filter.Isolation
import SqlMapper.Proofs.Records.Undo
import SqlMapper.Proofs.Values.Columns
import SqlMapper.Proofs.Run.Replay
import SqlMapper.Proofs.Records.Mirror
import SqlMapper.Proofs.Records.Course
import SqlMapper.Proofs.Rendering.Listening
import SqlMapper.Proofs.Names.Quoting
import SqlMapper.Proofs.Query.Alike
import SqlMapper.Proofs.Protocol.Job
import SqlMapper.Proofs.Protocol.Watching
import SqlMapper.Proofs.Protocol.Course
import SqlMapper.Proofs.Protocol.Faults
import SqlMapper.Proofs.Listeners.Registry
import SqlMapper.Proofs.Query.Parts
import SqlMapper.Proofs.Unambiguous.Names
import SqlMapper.Proofs.Unambiguous.Shape
import SqlMapper.Proofs.Unambiguous.Leads
import SqlMapper.Proofs.Unambiguous.Clauses
import SqlMapper.Proofs.Unambiguous.Select
import SqlMapper.Proofs.Run.Calling
import SqlMapper.Proofs.Filter.Deletion
import SqlMapper.Proofs.Listeners.Fold
import SqlMapper.Proofs.Query.Rows
import SqlMapper.Proofs.Query.Histories
import SqlMapper.Proofs.Rendering.SubSelects
import SqlMapper.Proofs.Rendering.Nulls
import SqlMapper.Proofs.Enhancing.Offers
import SqlMapper.Proofs.Records.Sync
import SqlMapper.Proofs.Records.Changes
import SqlMapper.Proofs.Records.Creation
import SqlMapper.Proofs.Records.Marking
import SqlMapper.Proofs.Filter.Assigning
import SqlMapper.Proofs.Records.Keying
import SqlMapper.Proofs.Run.Asking
import SqlMapper.Proofs.Records.Restoring
import SqlMapper.Proofs.Records.Remarking
import SqlMapper.Proofs.Values.Marks
import SqlMapper.Proofs.Values.Editing
import SqlMapper.Proofs.Values.Patch
import SqlMapper.Proofs.Instants.Days
import SqlMapper.Proofs.Instants.Writing
import SqlMapper.Proofs.Relations.Loading
import SqlMapper.Proofs.Relations.Keeping
import SqlMapper.Proofs.Names.Reading
import SqlMapper.Proofs.Names.Spelling
import SqlMapper.Proofs.Names.Renaming
import SqlMapper.Proofs.Run.Results
import SqlMapper.Proofs.Run.Keys
