import PoliteCrawl.Assoc
import PoliteCrawl.Command.Options
import PoliteCrawl.Command.Run
import PoliteCrawl.Command.Text
import PoliteCrawl.Config.Basic
import PoliteCrawl.Config.Check
import PoliteCrawl.Config.Decode
import PoliteCrawl.Config.Error
import PoliteCrawl.Config.Load
import PoliteCrawl.Crawl.Links
import PoliteCrawl.Crawl.Run
import PoliteCrawl.Crawl.Simulation
import PoliteCrawl.CrawlState
import PoliteCrawl.CrawlUri
import PoliteCrawl.Digest.Sha256
import PoliteCrawl.Frontier.Activation
import PoliteCrawl.Frontier.Basic
import PoliteCrawl.Frontier.Call
import PoliteCrawl.Frontier.Completion
import PoliteCrawl.Frontier.Control
import PoliteCrawl.Frontier.Dispatch
import PoliteCrawl.Frontier.Placement
import PoliteCrawl.Frontier.Snapshot
import PoliteCrawl.Frontier.Supervision
import PoliteCrawl.FrontierError
import PoliteCrawl.Gateway
import PoliteCrawl.Main
import PoliteCrawl.Number.Binary64
import PoliteCrawl.Number.Shortest
import PoliteCrawl.Outcome
import PoliteCrawl.Politeness
import PoliteCrawl.Proofs.Crawl.Confluence
import PoliteCrawl.Proofs.Crawl.Exploration
import PoliteCrawl.Proofs.Frontier.Account
import PoliteCrawl.Proofs.Frontier.Activation
import PoliteCrawl.Proofs.Frontier.Call
import PoliteCrawl.Proofs.Frontier.Completion
import PoliteCrawl.Proofs.Frontier.Dispatch
import PoliteCrawl.Proofs.Frontier.Frame
import PoliteCrawl.Proofs.Frontier.Lookup
import PoliteCrawl.Proofs.Frontier.Moves
import PoliteCrawl.Proofs.Frontier.Placement
import PoliteCrawl.Proofs.Frontier.Pulls
import PoliteCrawl.Proofs.Frontier.Requeue
import PoliteCrawl.Proofs.Frontier.Rousing
import PoliteCrawl.Proofs.Frontier.Serving
import PoliteCrawl.Proofs.Frontier.Sleep
import PoliteCrawl.Proofs.Frontier.Standing
import PoliteCrawl.Proofs.Frontier.Stranding
import PoliteCrawl.Proofs.Frontier.Supervision
import PoliteCrawl.Proofs.Frontier.Sweep
import PoliteCrawl.Proofs.Frontier.Upkeep
import PoliteCrawl.Proofs.Gateway
import PoliteCrawl.Proofs.Lane
import PoliteCrawl.Proofs.Ledger
import PoliteCrawl.Proofs.Register.Scan
import PoliteCrawl.Proofs.Register.Sorted
import PoliteCrawl.Proofs.Register.Tiers
import PoliteCrawl.Proofs.Register.Waking
import PoliteCrawl.Proofs.Signal
import PoliteCrawl.Proofs.World.Acting
import PoliteCrawl.Proofs.World.Barren
import PoliteCrawl.Proofs.World.Basic
import PoliteCrawl.Proofs.World.Budgets
import PoliteCrawl.Proofs.World.Conservation
import PoliteCrawl.Proofs.World.Drained
import PoliteCrawl.Proofs.World.Enlisted
import PoliteCrawl.Proofs.World.Finish
import PoliteCrawl.Proofs.World.Flights
import PoliteCrawl.Proofs.World.Floor
import PoliteCrawl.Proofs.World.Flushes
import PoliteCrawl.Proofs.World.Hollow
import PoliteCrawl.Proofs.World.Kept
import PoliteCrawl.Proofs.World.Orders
import PoliteCrawl.Proofs.World.Pauses
import PoliteCrawl.Proofs.World.Registers
import PoliteCrawl.Proofs.World.Serving
import PoliteCrawl.Proofs.World.Stranding
import PoliteCrawl.Proofs.World.Sweep
import PoliteCrawl.Proofs.World.Turns
import PoliteCrawl.Proofs.World.Vigils
import PoliteCrawl.Proofs.World.Wakeups
import PoliteCrawl.QueueState
import PoliteCrawl.Register.Retired
import PoliteCrawl.Register.Snoozed
import PoliteCrawl.Register.Tiers
import PoliteCrawl.Rehearsal.Job
import PoliteCrawl.Rehearsal.Run
import PoliteCrawl.Rehearsal.Step
import PoliteCrawl.Report.Document
import PoliteCrawl.Report.Snapshot
import PoliteCrawl.Report.Text
import PoliteCrawl.Routing
import PoliteCrawl.Signal
import PoliteCrawl.Text.Alphanumeric
import PoliteCrawl.Text.Blank
import PoliteCrawl.Text.CodeTable
import PoliteCrawl.Text.LowerCase
import PoliteCrawl.Text.LowerCase.Table
import PoliteCrawl.Text.NormalForm
import PoliteCrawl.Text.NormalForm.Table
import PoliteCrawl.Time.Calendar
import PoliteCrawl.Time.MailDate
import PoliteCrawl.Time.Span
import PoliteCrawl.Time.Timestamp
import PoliteCrawl.Toml.Document
import PoliteCrawl.Toml.Lexeme
import PoliteCrawl.Toml.Reader
import PoliteCrawl.Toml.Value
import PoliteCrawl.Toml.Writer
import PoliteCrawl.UniqFilter
import PoliteCrawl.Url.Basic
import PoliteCrawl.Url.Domain
import PoliteCrawl.Url.Domain.MappingTable
import PoliteCrawl.Url.Domain.ScriptTable
import PoliteCrawl.Url.Error
import PoliteCrawl.Url.Host
import PoliteCrawl.Url.Ipv4
import PoliteCrawl.Url.Ipv6
import PoliteCrawl.Url.Parser
import PoliteCrawl.Url.Percent
import PoliteCrawl.Url.Punycode
import PoliteCrawl.WorkQueue
import PoliteCrawl.Proofs.Frontier.Tidy
import PoliteCrawl.Proofs.Frontier.Losses
import PoliteCrawl.Proofs.World.Losses
import PoliteCrawl.Proofs.Frontier.Delivery
import PoliteCrawl.Proofs.Frontier.Strict
import PoliteCrawl.Proofs.World.Delivery
import PoliteCrawl.Proofs.World.Strict
import PoliteCrawl.Proofs.Frontier.Relocation
import PoliteCrawl.Proofs.World.Relocation
import PoliteCrawl.Proofs.Frontier.Books
import PoliteCrawl.Proofs.World.Supply
import PoliteCrawl.Proofs.World.Balance
import PoliteCrawl.Proofs.Frontier.Retirement
import PoliteCrawl.Proofs.World.Retirement
import PoliteCrawl.Proofs.World.Resuming
import PoliteCrawl.Proofs.Register.Walk
import PoliteCrawl.Proofs.Frontier.Choice
import PoliteCrawl.Proofs.World.Precedence
import PoliteCrawl.Proofs.Frontier.Toil
import PoliteCrawl.Proofs.World.Attempts
import PoliteCrawl.Proofs.Frontier.Filing
import PoliteCrawl.Proofs.Frontier.Hints
import PoliteCrawl.Proofs.World.Filing
import PoliteCrawl.Proofs.UniqFilter
import PoliteCrawl.Proofs.Frontier.Lineup
import PoliteCrawl.Proofs.World.Waking
import PoliteCrawl.Proofs.World.Journal
import PoliteCrawl.Proofs.World.Recalls
import PoliteCrawl.Proofs.Lives
import PoliteCrawl.Proofs.Frontier.Returning
import PoliteCrawl.Proofs.World.Retries
import PoliteCrawl.Proofs.Config.Check
import PoliteCrawl.Proofs.Crawl.Seeds
import PoliteCrawl.Proofs.Crawl.Discovery
import PoliteCrawl.Proofs.Crawl.Extent
import PoliteCrawl.Proofs.Text.CodeTable
import PoliteCrawl.Proofs.Text.LowerCase
import PoliteCrawl.Proofs.Url.Punycode
import PoliteCrawl.Proofs.Url.Domain
import PoliteCrawl.Proofs.Url.Ipv4
import PoliteCrawl.Proofs.Url.Authority
import PoliteCrawl.Proofs.Url.Spelling
import PoliteCrawl.Proofs.Config.Precedence
