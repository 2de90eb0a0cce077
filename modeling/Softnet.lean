import Softnet.Control.Acceptance
import Softnet.Control.Bounds
import Softnet.Control.Connection
import Softnet.Control.Framing
import Softnet.Control.Joining
import Softnet.Control.Parameters
import Softnet.Control.PolicyRequests
import Softnet.Control.Requests
import Softnet.Control.Responses
import Softnet.Control.RoundTrips
import Softnet.Control.Session
import Softnet.Control.Transport
import Softnet.Datagrams
import Softnet.Dhcp.Reservation
import Softnet.Dhcp.Server
import Softnet.Dns.Names
import Softnet.Dns.Responding
import Softnet.Flows.Probe
import Softnet.Flows.Reference
import Softnet.Flows.Table
import Softnet.Flows.TableSpec
import Softnet.HostReader
import Softnet.Interface
import Softnet.Lib.Accounts
import Softnet.Lib.CidrBlocks
import Softnet.Lib.Fallible
import Softnet.Lib.FiniteMaps
import Softnet.Lib.Independence
import Softnet.Lib.Json
import Softnet.Lib.KeySort
import Softnet.Lib.Lines
import Softnet.Lib.Octets
import Softnet.Lib.Oneshot
import Softnet.Lib.Parts
import Softnet.Lib.Peg
import Softnet.Lib.Precedence
import Softnet.Lib.PrefixMaps
import Softnet.Lib.Runs
import Softnet.Lib.Signals
import Softnet.Manager.AddressPlan
import Softnet.Manager.AllOrNothing
import Softnet.Manager.Answers
import Softnet.Manager.Deployment
import Softnet.Manager.Initialization
import Softnet.Manager.Neighbours
import Softnet.Manager.Rejection
import Softnet.Manager.Routing
import Softnet.Manager.Service
import Softnet.Manager.ServiceRuns
import Softnet.Manager.Shutdown
import Softnet.Manager.ShutdownProgress
import Softnet.Manager.Validation
import Softnet.Manager.VmTasks
import Softnet.Network
import Softnet.Process
import Softnet.Proxy.Admission
import Softnet.Proxy.Endings
import Softnet.Proxy.Endpoint
import Softnet.Proxy.HiddenPorts
import Softnet.Proxy.Independence
import Softnet.Proxy.LocalReplies
import Softnet.Proxy.NormalForm
import Softnet.Proxy.Outcome
import Softnet.Proxy.Packet
import Softnet.Proxy.Pipeline
import Softnet.Proxy.PolicyGrowth
import Softnet.Proxy.PolicyUpdates
import Softnet.Proxy.Replies
import Softnet.Proxy.ReturnTraffic
import Softnet.Proxy.Rule
import Softnet.Proxy.RuleLanguage
import Softnet.Proxy.RuleSyntax
import Softnet.Proxy.RuleText
import Softnet.Proxy.Rules
import Softnet.Proxy.RulesPrecedence
import Softnet.Proxy.Runs
import Softnet.Proxy.Serving
import Softnet.Proxy.Wire
import Softnet.SubnetFinder
import Softnet.Vm
