import FixBridge.Library.Table
import FixBridge.Library.Machine
import FixBridge.Library.Ownership
import FixBridge.Library.Join
import FixBridge.Library.Framing
import FixBridge.Library.History
import FixBridge.Library.Numbering
import FixBridge.Library.Overflow
import FixBridge.Library.Document
import FixBridge.Library.Verdict
import FixBridge.Library.Latch
import FixBridge.Library.Guarded
import FixBridge.Library.Throttle
import FixBridge.Library.Supervision
import FixBridge.Library.Assembly
import FixBridge.Library.Wrapping
import FixBridge.Library.Lockstep
import FixBridge.Library.Publishing
import FixBridge.Shared.Routes
import FixBridge.Shared.RoutesLaws
import FixBridge.Tools.Mapping
import FixBridge.Tools.MappingLaws
import FixBridge.Tools.MappingBroadcast
import FixBridge.Tools.MappingAborts
import FixBridge.Tools.MappingExchanges
import FixBridge.Tools.Crypto
import FixBridge.Tools.CryptoLaws
import FixBridge.Config.Parse
import FixBridge.Config.Sections
import FixBridge.Config.Config
import FixBridge.Config.Reading
import FixBridge.Config.Created
import FixBridge.Config.Users
import FixBridge.Config.Verdicts
import FixBridge.Config.Usernames
import FixBridge.Config.Subscriptions
import FixBridge.Config.Grammar
import FixBridge.Config.Strictness
import FixBridge.Config.Dereferences
import FixBridge.Config.Contents
import FixBridge.Config.Startup
import FixBridge.Shared.Authentication
import FixBridge.Shared.Logons
import FixBridge.Shared.Readiness
import FixBridge.Shared.UserIds
import FixBridge.Shared.Broadcasts
import FixBridge.Shared.Construction
import FixBridge.Session.World
import FixBridge.Session.Environment
import FixBridge.Session.Session
import FixBridge.Session.Manager
import FixBridge.Session.Inbound
import FixBridge.Session.Process
import FixBridge.Session.Steps
import FixBridge.Session.Effects
import FixBridge.Session.Control
import FixBridge.Session.Handling
import FixBridge.Session.Chains
import FixBridge.Session.Plain
import FixBridge.Session.Lifecycle
import FixBridge.Session.Delivery
import FixBridge.Session.Intake
import FixBridge.Session.Splitting
import FixBridge.Session.RouteLeaks
import FixBridge.Session.SessionLaws
import FixBridge.Session.SequenceNumbers
import FixBridge.Session.ReportRouting
import FixBridge.Session.Notifications
import FixBridge.Session.Sources
import FixBridge.Session.CancelOnDisconnect
import FixBridge.Session.Turns
import FixBridge.Session.Emissions
import FixBridge.Session.Addressing
import FixBridge.Session.Identity
import FixBridge.Session.LogonFirst
import FixBridge.Session.UserRequests
import FixBridge.Session.InvalidLogOns
import FixBridge.Session.Life
import FixBridge.Session.Traces
import FixBridge.Session.Publications
import FixBridge.Session.Cleanup
import FixBridge.Session.Supervision
