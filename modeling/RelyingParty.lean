import RelyingParty.Description
import RelyingParty.Consumer
import RelyingParty.Config.Reader
import RelyingParty.Json.Record
import RelyingParty.Config
import RelyingParty.Http.Script
import RelyingParty.Http.Client
import RelyingParty.Http.Plain
import RelyingParty.Text.Base64
import RelyingParty.Url
import RelyingParty.Url.Path
import RelyingParty.Url.Host
import RelyingParty.Url.Direction
import RelyingParty.Url.Domain
import RelyingParty.Url.Punycode
import RelyingParty.Url.Ipv6
import RelyingParty.Url.Ipv4
import RelyingParty.Url.Escape
import RelyingParty.Text
import RelyingParty.Text.Blank
import RelyingParty.Text.Word
import RelyingParty.Text.Case
import RelyingParty.Text.Quoted
import RelyingParty.Text.Utf8
import RelyingParty.Number.Binary64
import RelyingParty.Number.Decimal
import RelyingParty.Json.Reader
import RelyingParty.Uri
import RelyingParty.Realm
import RelyingParty.Accept
import RelyingParty.Html.Entity
import RelyingParty.Html.Strip
import RelyingParty.Html.Tag
import RelyingParty.Html.Links
import RelyingParty.Html.Location
import RelyingParty.Xri.Resolver
import RelyingParty.Event
import RelyingParty.Xml.Document
import RelyingParty.Xrds
import RelyingParty.Xrds.Writer
import RelyingParty.Service.Codec
import RelyingParty.Filter.Codec
import RelyingParty.Endpoint.Codec
import RelyingParty.Realm.ReturnUrl
import RelyingParty.Realm.Verification
import RelyingParty.Discovery
import RelyingParty.Http.Routes
import RelyingParty.Session.Store
import RelyingParty.Session.Manager
import RelyingParty.Proofs.Session.History
import RelyingParty.Proofs.Realm.Verification
import RelyingParty.Proofs.Xrds.AuthorityChain
import RelyingParty.Proofs.Realm.Wildcard
import RelyingParty.Proofs.Realm.Coverage
import RelyingParty.Proofs.Discovery.Resolution
import RelyingParty.Proofs.Discovery.ClaimedIdentifier
import RelyingParty.Proofs.Text.Casing
import RelyingParty.Proofs.Text.Number
import RelyingParty.Proofs.Text.Numeral
import RelyingParty.Proofs.Text.Replace
import RelyingParty.Proofs.Text.Parts
import RelyingParty.Proofs.Uri.Canonical
import RelyingParty.Proofs.Uri.Path
import RelyingParty.Proofs.Uri.Parse
import RelyingParty.Proofs.Uri.FixedPoint
import RelyingParty.Proofs.Uri.Spelling
import RelyingParty.Proofs.Html.Attributes
import RelyingParty.Proofs.Html.Tag
import RelyingParty.Proofs.Html.Hidden
import RelyingParty.Proofs.Html.Scan
import RelyingParty.Proofs.Html.HeadScope
import RelyingParty.Proofs.Html.WrittenTag
import RelyingParty.Proofs.Html.Written
import RelyingParty.Proofs.Yadis.Consistency
import RelyingParty.Proofs.Discovery.Fetches
import RelyingParty.Proofs.Consumer.Confined
import RelyingParty.Proofs.Http.Routes
import RelyingParty.Proofs.Http.HopCount
import RelyingParty.Proofs.Consumer.RedirectLimit
import RelyingParty.Proofs.Consumer.Faults
import RelyingParty.Proofs.Discovery.DirectedIdentity
import RelyingParty.Proofs.Consumer.Accounting
import RelyingParty.Proofs.Flow.Alike
import RelyingParty.Proofs.Session.Stored
import RelyingParty.Proofs.Realm.DiscoveryUrl
import RelyingParty.Proofs.Realm.Sanity
import RelyingParty.Proofs.Uri.NormalTriplets
import RelyingParty.Proofs.Uri.Grammar
import RelyingParty.Proofs.Uri.SegmentStack
import RelyingParty.Proofs.Xri.QueryUrl
import RelyingParty.Proofs.Filter.Parts
import RelyingParty.Proofs.Filter.Visits
import RelyingParty.Proofs.Filter.Priority
import RelyingParty.Proofs.Endpoint.LocalIdentifier
import RelyingParty.Proofs.Endpoint.Preference
import RelyingParty.Proofs.Html.Location
import RelyingParty.Proofs.Html.HeadLinks
import RelyingParty.Proofs.Html.Markup
import RelyingParty.Proofs.Html.References
import RelyingParty.Proofs.Html.LinkEscapes
import RelyingParty.Proofs.Discovery.Counters
import RelyingParty.Proofs.Session.Clash
import RelyingParty.Proofs.Number.Value
import RelyingParty.Proofs.Sort
import RelyingParty.Proofs.Accept.Weights
import RelyingParty.Proofs.Accept.Ranking
import RelyingParty.Proofs.Accept.Header
import RelyingParty.Proofs.Accept.Acceptable
import RelyingParty.Proofs.Accept.Quality
import RelyingParty.Proofs.Http.Course
import RelyingParty.Proofs.Http.Body
import RelyingParty.Proofs.Http.Redirects
import RelyingParty.Proofs.Http.Responder
import RelyingParty.Proofs.Url.Host
import RelyingParty.Proofs.Url.Authority
import RelyingParty.Proofs.Config.Validity
import RelyingParty.Proofs.Config.Document
import RelyingParty.Proofs.Xrds.Written
import RelyingParty.Html.Match
import RelyingParty.Html.Scanner
import RelyingParty.Proofs.Html.Match
import RelyingParty.Proofs.Text.Octet
import RelyingParty.Proofs.Html.Scanner
