import SemanticIndex.Command.Directory
import SemanticIndex.Ddl
import SemanticIndex.Description.Apply
import SemanticIndex.Description.Request
import SemanticIndex.Embedding.Hashing
import SemanticIndex.Indexing
import SemanticIndex.Main
import SemanticIndex.Manifest.Reader
import SemanticIndex.Manifest.Writer
import SemanticIndex.Proofs.Indexing.Course
import SemanticIndex.Proofs.Indexing.Endings
import SemanticIndex.Proofs.Indexing.Outcome
import SemanticIndex.Proofs.Indexing.Reruns
import SemanticIndex.Proofs.Indexing.StorePair
import SemanticIndex.Proofs.Simulation
import SemanticIndex.Proofs.Store.Backend
import SemanticIndex.Proofs.Store.Contents
import SemanticIndex.Proofs.Store.Contiguity
import SemanticIndex.Proofs.Store.Refinement
import SemanticIndex.Proofs.Store.TableViews
import SemanticIndex.Settings
import SemanticIndex.Store.Database
import SemanticIndex.Store.Relay
import SemanticIndex.ViewRecord
import SemanticIndex.Proofs.Store.Calls
import SemanticIndex.Proofs.Store.Listing
import SemanticIndex.Proofs.Store.Agreement
import SemanticIndex.Proofs.Command.Collections
import SemanticIndex.Proofs.Command.Life
import SemanticIndex.Proofs.ForeignKey.Reference
import SemanticIndex.Proofs.ForeignKey.Dependence
import SemanticIndex.Proofs.Ddl.Emission
import SemanticIndex.Proofs.Ddl.TableKeys
import SemanticIndex.Proofs.Ddl.Comments
import SemanticIndex.Proofs.Ddl.Dangling
import SemanticIndex.Proofs.Ddl.KeyCount
import SemanticIndex.Proofs.Description.Restriction
import SemanticIndex.Proofs.Description.Containment
import SemanticIndex.Proofs.Decimal.Rounding
import SemanticIndex.Proofs.Decimal.Shortest
import SemanticIndex.Proofs.Decimal.Scaling
import SemanticIndex.Proofs.Json.Numerals
import SemanticIndex.Proofs.Json.Doubles
import SemanticIndex.Proofs.Json.Strings
import SemanticIndex.Proofs.Json.Forms
import SemanticIndex.Proofs.Json.Fields
import SemanticIndex.Proofs.Json.Values
import SemanticIndex.Proofs.Json.RoundTrip
import SemanticIndex.Proofs.Manifest.Shape
import SemanticIndex.Proofs.Manifest.Canonical
import SemanticIndex.Proofs.Manifest.RoundTrip
import SemanticIndex.Proofs.Manifest.Grammar
import SemanticIndex.Proofs.Ddl.Locality
import SemanticIndex.Proofs.Text.Lines
import SemanticIndex.Proofs.Json.Characters
import SemanticIndex.Proofs.Ddl.Layout
import SemanticIndex.Proofs.Ddl.Confinement
import SemanticIndex.Proofs.Ddl.PropertyComments
import SemanticIndex.Proofs.Text.Trimming
import SemanticIndex.Proofs.ForeignKey.Conditions
import SemanticIndex.Proofs.ForeignKey.Equality
import SemanticIndex.Proofs.ForeignKey.Reversal
import SemanticIndex.Proofs.Store.Clearing
import SemanticIndex.Proofs.Store.Batches
import SemanticIndex.Proofs.Store.Readable
import SemanticIndex.Proofs.Store.Policies
import SemanticIndex.Proofs.Store.Replacing
import SemanticIndex.Proofs.Store.ListingOrder
import SemanticIndex.Proofs.Store.Vectors
import SemanticIndex.Proofs.Store.Damage
import SemanticIndex.Proofs.Manifest.Sections
import SemanticIndex.Proofs.Json.Reordering
import SemanticIndex.Proofs.Manifest.KeyOrder
import SemanticIndex.Proofs.Description.Selection
import SemanticIndex.Proofs.Description.Rewording
import SemanticIndex.Proofs.Description.Discretion
import SemanticIndex.Proofs.Text.Collapsing
import SemanticIndex.Proofs.Json.Glyphs
import SemanticIndex.Proofs.Json.Writings
import SemanticIndex.Proofs.Description.Replies
import SemanticIndex.Proofs.Command.Datasets
import SemanticIndex.Proofs.Embedding.Counting
import SemanticIndex.JointIndexing
import SemanticIndex.Proofs.Indexing.Interruptions
