import WalletQuery.Execution
import WalletQuery.Query.ToJson
import WalletQuery.Request.Build
import WalletQuery.Store.Shared
import WalletQuery.Proofs.Selection
import WalletQuery.Proofs.Matching
import WalletQuery.Proofs.Execution
import WalletQuery.Proofs.Disclosure
import WalletQuery.Proofs.Store.History
import WalletQuery.Proofs.Completeness
import WalletQuery.Proofs.Location
import WalletQuery.Proofs.Independence
import WalletQuery.Proofs.Growth
import WalletQuery.Proofs.Monotonicity
import WalletQuery.Proofs.Dictionary
import WalletQuery.Proofs.Request.Reader
import WalletQuery.Proofs.Request.Written
import WalletQuery.Proofs.Request.Built
import WalletQuery.Proofs.Request.Read
import WalletQuery.Proofs.RoundTrip
import WalletQuery.Proofs.Request.Exact
import WalletQuery.Proofs.Request.Normal
import WalletQuery.Proofs.Normalization
import WalletQuery.Proofs.Request.Rule
import WalletQuery.Proofs.Request.Valid
import WalletQuery.Proofs.ClaimIndex
import WalletQuery.Proofs.StoreFailure
import WalletQuery.Proofs.Rearrangement
import WalletQuery.Proofs.Store.InsertionOrder
import WalletQuery.Proofs.Consistency
import WalletQuery.Proofs.ClaimChoice
import WalletQuery.Proofs.CommonFragment
import WalletQuery.Proofs.ImplicitSet
import WalletQuery.Proofs.Request.LegacyName
import WalletQuery.Proofs.PathComposition
import WalletQuery.Proofs.Cbor.Embedding
import WalletQuery.Proofs.Cbor.Members
import WalletQuery.Proofs.Wildcard
import WalletQuery.Proofs.Cbor.Kind
import WalletQuery.Proofs.ClaimOrder
import WalletQuery.Proofs.Request.PathForm
import WalletQuery.Proofs.Cbor.Scalars
import WalletQuery.Proofs.Elements
import WalletQuery.Proofs.Text.Label
