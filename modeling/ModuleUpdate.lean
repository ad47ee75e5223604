import ModuleUpdate.Program
import ModuleUpdate.Main
import ModuleUpdate.Proofs.Manifest.Spelling
import ModuleUpdate.Proofs.Manifest.Clauses
import ModuleUpdate.Proofs.Manifest.Readable
import ModuleUpdate.Proofs.Manifest.Rereading
import ModuleUpdate.Proofs.Manifest.Directives
import ModuleUpdate.Proofs.Manifest.Requirements
import ModuleUpdate.Proofs.FileTree
import ModuleUpdate.Proofs.Manifest.Canonical
import ModuleUpdate.Proofs.ImportMove
import ModuleUpdate.Proofs.Update.Batch
import ModuleUpdate.Proofs.Update.Failures
import ModuleUpdate.Proofs.Update.Requirements
import ModuleUpdate.Proofs.Source.Lexeme
import ModuleUpdate.Proofs.Source.Edits
import ModuleUpdate.Proofs.ModulePath
import ModuleUpdate.Proofs.Source.Rescanning
import ModuleUpdate.Proofs.Update.Imports
import ModuleUpdate.Proofs.Sorting
import ModuleUpdate.Proofs.Version.Order
import ModuleUpdate.Proofs.Manifest.Settling
import ModuleUpdate.Proofs.Manifest.Revisions
import ModuleUpdate.Proofs.Manifest.Formatting
import ModuleUpdate.Proofs.Manifest.Markers
import ModuleUpdate.Proofs.Manifest.Survival
import ModuleUpdate.Proofs.Source.Passages
import ModuleUpdate.Proofs.Source.Relocation
import ModuleUpdate.Proofs.Manifest.Settled
import ModuleUpdate.Proofs.Manifest.VisibleRows
import ModuleUpdate.Proofs.Source.Changes
import ModuleUpdate.Proofs.FilePath
import ModuleUpdate.Proofs.Loading
import ModuleUpdate.Proofs.Moving
import ModuleUpdate.Proofs.Manifest.Marking
import ModuleUpdate.Proofs.Manifest.Adjusting
import ModuleUpdate.Proofs.Manifest.Updated
import ModuleUpdate.Proofs.Manifest.Lending
import ModuleUpdate.Proofs.Manifest.Growing
import ModuleUpdate.Proofs.Manifest.UpdatedTwice
import ModuleUpdate.Proofs.Update.Replay
import ModuleUpdate.Proofs.Selection
import ModuleUpdate.Proofs.Upgrade
import ModuleUpdate.Proofs.Registry.Listing
import ModuleUpdate.Proofs.Manifest.Entries
import ModuleUpdate.Proofs.Update.Reordering
import ModuleUpdate.Proofs.Selection.Answer
import ModuleUpdate.Proofs.Source.Outline
import ModuleUpdate.Proofs.Manifest.MarkerEffect
import ModuleUpdate.Proofs.Source.Spans
import ModuleUpdate.Proofs.Source.Literals
import ModuleUpdate.Proofs.Manifest.LineOrder
import ModuleUpdate.Proofs.Version.Grammar
import ModuleUpdate.Proofs.Manifest.Undoing
import ModuleUpdate.Proofs.Version.Parts
import ModuleUpdate.Proofs.Version.Validity
import ModuleUpdate.Proofs.Manifest.Annotations
import ModuleUpdate.Proofs.ModulePath.MajorSuffix
import ModuleUpdate.Proofs.Update.Families
import ModuleUpdate.Proofs.Registry.Address
