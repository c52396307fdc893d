import DocIndex.Indexing.Calls
import DocIndex.Json.Value
import DocIndex.Main
import DocIndex.Proofs.Split.Cuts
import DocIndex.Proofs.Split.Trimming
import DocIndex.Proofs.Split.Step
import DocIndex.Proofs.Split.Cutting
import DocIndex.Proofs.Documents.Whole
import DocIndex.Proofs.Documents.Relocation
import DocIndex.Proofs.Requests
import DocIndex.Proofs.Store.Acceptance
import DocIndex.Proofs.Batches
import DocIndex.Proofs.Store.Condition
import DocIndex.Proofs.Store.Rows
import DocIndex.Proofs.Action
import DocIndex.Proofs.Files.Segments
import DocIndex.Proofs.Store.Upsert
import DocIndex.Proofs.Files.Tree
import DocIndex.Proofs.Files.Folders
import DocIndex.Proofs.Files.Inside
import DocIndex.Proofs.Store.Collection
import DocIndex.Proofs.Embedding
import DocIndex.Proofs.Store.Build
import DocIndex.Proofs.Store.Repeats
import DocIndex.Proofs.Indexing.Attempt
import DocIndex.Proofs.Indexing.Convergence
import DocIndex.Proofs.Indexing.Order
import DocIndex.Proofs.Documents.Listing
import DocIndex.Proofs.Indexing.Protocol
import DocIndex.Proofs.Documents.CloneHistory
import DocIndex.Proofs.Documents.Walk
import DocIndex.Proofs.Store.Consistency
import DocIndex.Proofs.Indexing.Loads
import DocIndex.Proofs.Store.Writing
import DocIndex.Proofs.Store.Removal
import DocIndex.Proofs.Store.Regrouping
import DocIndex.Proofs.Embedding.Calls
import DocIndex.Proofs.Store.Deletion
import DocIndex.Proofs.Metadata
import DocIndex.Proofs.Documents.Loading
import DocIndex.Proofs.Documents.Standalone
import DocIndex.Proofs.Settings.EnvFile
import DocIndex.Proofs.Model.Pooling
import DocIndex.Proofs.Documents.Kinds
