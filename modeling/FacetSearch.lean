import FacetSearch.Failure.Kind
import FacetSearch.Http.Dispatch
import FacetSearch.Http.Lifecycle
import FacetSearch.Http.Status
import FacetSearch.Logging.Session
import FacetSearch.Operation
import FacetSearch.Settings.Settings
import FacetSearch.Proofs.Absence
import FacetSearch.Proofs.BareQuotes
import FacetSearch.Proofs.Correlation
import FacetSearch.Proofs.Dependence
import FacetSearch.Proofs.DocumentRoundTrip
import FacetSearch.Proofs.Interleaving
import FacetSearch.Proofs.EngineUrl
import FacetSearch.Proofs.LogLine
import FacetSearch.Proofs.OneLevel
import FacetSearch.Proofs.PriceEnds
import FacetSearch.Proofs.SharedClient
import FacetSearch.Proofs.StrictDocument
import FacetSearch.Proofs.TokenReading
