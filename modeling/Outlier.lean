import Outlier.Exchange.Script
import Outlier.Session
import Outlier.Proofs.Exchange.Decision
import Outlier.Proofs.Resource.Safety
import Outlier.Proofs.Record.RoundTrip
import Outlier.Proofs.Exchange.Url
import Outlier.Proofs.Search.Criteria
import Outlier.Proofs.Resource.Search
import Outlier.Proofs.Resource.Wrapping
import Outlier.Proofs.Resource.Typed
import Outlier.Proofs.Lifecycle.Catalogue
import Outlier.Proofs.Lifecycle.Stored
import Outlier.Proofs.Lifecycle.Refinement
import Outlier.Proofs.Resource.Transparency
import Outlier.Proofs.Resource.Confinement
import Outlier.Proofs.Journal.Configuration
import Outlier.Proofs.Resource.Closing
import Outlier.Proofs.Session.Handout
import Outlier.Proofs.Resource.Addressing
import Outlier.Proofs.Record.Selection
import Outlier.Proofs.Record.Fields
import Outlier.Proofs.Resource.Collection
import Outlier.Proofs.Record.Agreement
import Outlier.Proofs.Resource.Rows
import Outlier.Proofs.Resource.Identifier
import Outlier.Proofs.Number.Double
import Outlier.Proofs.Number.Sum
import Outlier.Proofs.Exchange.Clock
import Outlier.Proofs.Exchange.Waits
import Outlier.Proofs.Settings.Delays
import Outlier.Proofs.Resource.Canonical
import Outlier.Proofs.Settings.Priority
import Outlier.Proofs.Settings.Fitness
import Outlier.Proofs.Fault.Sharing
import Outlier.Proofs.Cid.Language
