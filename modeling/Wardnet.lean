import Wardnet.Config.Posture
import Wardnet.Ddns.Suspension
import Wardnet.Device.Retention
import Wardnet.Device.Snapshot
import Wardnet.Device.ZoneView
import Wardnet.Dhcp.Consistent
import Wardnet.Dhcp.Dispatcher
import Wardnet.Dhcp.LanNames
import Wardnet.Dns.CacheOrder
import Wardnet.Dns.Dot
import Wardnet.Dns.Freshness
import Wardnet.Dns.RateLimit
import Wardnet.Dns.Reverse
import Wardnet.DnsFilter.AddressIndex
import Wardnet.DnsFilter.FastPath
import Wardnet.DnsFilter.Flat
import Wardnet.DnsFilter.Import
import Wardnet.DnsFilter.Refresh
import Wardnet.DnsFilter.Wildcard
import Wardnet.Inbound.Admission
import Wardnet.Remote.Relay
import Wardnet.Routing.DomainRoutes
import Wardnet.Routing.Mirror
import Wardnet.Routing.Profile
import Wardnet.Routing.RuleChange
import Wardnet.Tls.Disabled
import Wardnet.Tls.Seed
import Wardnet.Tunnel.Private
import Wardnet.Tunnel.Test
import Wardnet.Update.Outcome
import Wardnet.Update.Rollback
import Wardnet.Update.WayBack
import Wardnet.User.LastAdmin
import Wardnet.User.Profile
import Wardnet.Zone.CatalogSync
import Wardnet.Zone.ClampKept
import Wardnet.Zone.GatesKept
import Wardnet.Zone.Ports
