import KeyedRecords.Graph.Store
import KeyedRecords.Graph.Zone
import KeyedRecords.Relational.Decoding
import KeyedRecords.Relational.Selection
import KeyedRecords.Service.ByKey
import KeyedRecords.Service.ByQuery
import KeyedRecords.Service.ByRow
import KeyedRecords.Service.Guarded
import KeyedRecords.Store.Memory
import KeyedRecords.Proofs.Cache.Requests
import KeyedRecords.Proofs.Cache.Session
import KeyedRecords.Proofs.Cache.Soundness
import KeyedRecords.Proofs.Cache.Lifetimes
import KeyedRecords.Proofs.Service.RowSession
import KeyedRecords.Proofs.Service.Provenance
import KeyedRecords.Proofs.Service.Transparency
import KeyedRecords.Proofs.Cache.Capacity
import KeyedRecords.Proofs.Cache.Expiration
import KeyedRecords.Proofs.Cache.Shapes
import KeyedRecords.Proofs.Service.Correlation
import KeyedRecords.Proofs.Service.Sharing
import KeyedRecords.Proofs.Service.Resets
import KeyedRecords.Proofs.Record.Inference
import KeyedRecords.Proofs.Record.Conformance
import KeyedRecords.Proofs.Service.Confinement
import KeyedRecords.Proofs.Service.Accounting
import KeyedRecords.Proofs.Cache.Eviction
import KeyedRecords.Proofs.Cache.Overflow
import KeyedRecords.Proofs.Service.Abandonment
import KeyedRecords.Proofs.Cache.Windows
import KeyedRecords.Proofs.Graph.Relevance
import KeyedRecords.Proofs.Query.Extraction
import KeyedRecords.Proofs.Query.Delivery
import KeyedRecords.Proofs.Record.Vocabularies
import KeyedRecords.Proofs.Service.Refusals
import KeyedRecords.Proofs.Query.Determinacy
import KeyedRecords.Proofs.Settings.Periods
import KeyedRecords.Proofs.Graph.Parameters
import KeyedRecords.Proofs.Settings.Items
import KeyedRecords.Proofs.Settings.Written
import KeyedRecords.Proofs.Graph.Enumeration
import KeyedRecords.Proofs.Record.Assignment
