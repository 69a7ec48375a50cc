import BundleHost.Bundle.Building
import BundleHost.Bundle.GivenSelection
import BundleHost.Proofs.Asset.Entries
import BundleHost.Proofs.Asset.Key
import BundleHost.Proofs.Asset.MimeType
import BundleHost.Proofs.Bundle.Loading
import BundleHost.Proofs.Bundle.Tree
import BundleHost.Proofs.Bundle.Walking
import BundleHost.Proofs.Http.Headers
import BundleHost.Proofs.Http.PathTemplate
import BundleHost.Proofs.Resolution.Answer
import BundleHost.Proofs.Resolution.ApiPrefix
import BundleHost.Proofs.Resolution.Decision
import BundleHost.Proofs.Security.Profiles
import BundleHost.Proofs.Security.Rendering
import BundleHost.Proofs.Service.AccessRecords
import BundleHost.Proofs.Service.CommonHeaders
import BundleHost.Proofs.Service.Delivery
import BundleHost.Proofs.Service.Identifier
import BundleHost.Proofs.Service.Installation
import BundleHost.Proofs.Service.Layers
import BundleHost.Proofs.Service.OwnAddress
import BundleHost.Proofs.Service.Readiness
import BundleHost.Proofs.Service.Responses
import BundleHost.Proofs.Service.Routing
import BundleHost.Proofs.Service.Running
import BundleHost.Proofs.Service.Serving
import BundleHost.Proofs.Settings.Checked
import BundleHost.Proofs.Text.Segments
import BundleHost.Proofs.Text.Trimming
import BundleHost.Resolution.GivenResolver
import BundleHost.Security.Check
import BundleHost.Service.App
import BundleHost.Service.Launch
import BundleHost.Settings.GivenSources
import BundleHost.Proofs.Resolution.Caching
import BundleHost.Proofs.Service.Snapshots
import BundleHost.Proofs.Service.Jobs
import BundleHost.Proofs.Service.Correlation
import BundleHost.Proofs.Service.Interleaving
import BundleHost.Proofs.Text.Order
import BundleHost.Proofs.Asset.Construction
import BundleHost.Proofs.Security.Sections
import BundleHost.Proofs.Service.Starting
import BundleHost.Proofs.Service.Disclosure
import BundleHost.Proofs.Bundle.Narrowing
import BundleHost.Proofs.Bundle.Enumeration
import BundleHost.Proofs.Settings.Namespace
import BundleHost.Proofs.Service.Merging
import BundleHost.Proofs.Asset.Extension
import BundleHost.Proofs.Glob.Ends
import BundleHost.Proofs.Bundle.DefaultSelection
import BundleHost.Proofs.Resolution.PrefixLists
import BundleHost.Proofs.Text.Items
