import RustWhois.Std.UnicodeData
import RustWhois.Std.Text
import RustWhois.Std.Slices
import RustWhois.Std.Lines
import RustWhois.Std.FirstMatch
import RustWhois.Std.Utf8
import RustWhois.Std.Lowercase
import RustWhois.Std.IpAddr
import RustWhois.Std.IpDisplay
import RustWhois.Std.Calendar
import RustWhois.Std.Effect
import RustWhois.Std.Fault
import RustWhois.Std.Machine
import RustWhois.Std.Moka
import RustWhois.Data
import RustWhois.Config
import RustWhois.Dates
import RustWhois.Parser
import RustWhois.Insertions
import RustWhois.Arms
import RustWhois.Extension
import RustWhois.DateLines
import RustWhois.BufferPool
import RustWhois.Ip
import RustWhois.Registries
import RustWhois.Query
import RustWhois.Whois.Net
import RustWhois.Whois.Outbound
import RustWhois.Revalidation
import RustWhois.Whois.Referral
import RustWhois.Whois.Comments
import RustWhois.Whois.Sanitizer
import RustWhois.Whois.Hosts
import RustWhois.Whois.Discovery
import RustWhois.Whois.RootAnswer
import RustWhois.Whois.Lookup
import RustWhois.Whois.Status
import RustWhois.Whois.Merge
import RustWhois.Whois.Throttle
import RustWhois.Whois.Vetting
import RustWhois.Whois.SelfHealing
import RustWhois.Whois.Repairs
import RustWhois.Cache
import RustWhois.Cache.TwoTier
import RustWhois.Cache.Fleet
import RustWhois.Cache.Staleness
import RustWhois.Cache.Overtaking
import RustWhois.Rdap.Bootstrap
import RustWhois.Rdap.Discovery
import RustWhois.Rdap.Response
import RustWhois.Rdap.EventOrder
import RustWhois.Contacts
import RustWhois.Organization
import RustWhois.Rdap.Interleaving
import RustWhois.Rdap.Service
import RustWhois.Limit
import RustWhois.Whois.Reading
import RustWhois.Rdap.BaseUrl
import RustWhois.Client
import RustWhois.Services
import RustWhois.Std.Outcome
import RustWhois.Std.Spends
import RustWhois.Errors
import RustWhois.Failures
import RustWhois.Budget
import RustWhois.Cache.Leaders
import RustWhois.Cache.Coalescing
import RustWhois.Cache.Upstream
import RustWhois.Answers
import RustWhois.Std.Census
import RustWhois.Server
import RustWhois.Server.Requests
import RustWhois.Server.Progress
import RustWhois.Server.Accounting
import RustWhois.Server.Replies
import RustWhois.Server.Limits
import RustWhois.Std.Members
import RustWhois.Codec
import RustWhois.Cache.Redis
import RustWhois.Whois.Warm
import RustWhois.Config.Load
import RustWhois.Std.Permits
import RustWhois.Whois.Traffic
import RustWhois.Whois.Buffers
import RustWhois.Whois.Attempts
import RustWhois.Cache.Repeats
