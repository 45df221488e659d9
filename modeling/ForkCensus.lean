import ForkCensus.Http.Script
import ForkCensus.Main
import ForkCensus.Proofs.Build.Content
import ForkCensus.Proofs.Build.Requests
import ForkCensus.Proofs.Build.Roots
import ForkCensus.Proofs.Catalog.Cursors
import ForkCensus.Proofs.Catalog.Truncation
import ForkCensus.Proofs.Client.Limits
import ForkCensus.Proofs.Client.Mirror
import ForkCensus.Proofs.Client.Password
import ForkCensus.Proofs.Discovery.Extension
import ForkCensus.Proofs.Discovery.Gates
import ForkCensus.Proofs.Discovery.Heeding
import ForkCensus.Proofs.Discovery.Stale
import ForkCensus.Proofs.Session.Settings
import ForkCensus.Proofs.Text.Cutting
import ForkCensus.Proofs.Client.Retries
import ForkCensus.Proofs.Url.Segments
import ForkCensus.Proofs.Url.Hosted
import ForkCensus.Proofs.Source.Reading
import ForkCensus.Proofs.Source.Spellings
import ForkCensus.Proofs.Source.Usable
import ForkCensus.Proofs.Forge.Waits
import ForkCensus.Proofs.Client.Pages
import ForkCensus.Proofs.Client.Destination
import ForkCensus.Proofs.Session.Users
import ForkCensus.Proofs.Session.Asking
import ForkCensus.Proofs.Catalog.Views
import ForkCensus.Proofs.Build.Report
import ForkCensus.Proofs.Build.Checkouts
