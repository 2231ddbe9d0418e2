import Synopsis.Main
import Synopsis.Proofs.Block.Comment
import Synopsis.Proofs.Service.Consistency
import Synopsis.Proofs.Service.History
import Synopsis.Proofs.Service.Rerun
import Synopsis.Proofs.Index.Latest
import Synopsis.Proofs.Service.Recording
import Synopsis.Proofs.Text.Returns
import Synopsis.Proofs.Service.Repeat
import Synopsis.Proofs.Source.Outside
import Synopsis.Proofs.Service.Style
import Synopsis.Proofs.Text.Mixed
import Synopsis.Proofs.Service.Preserving
import Synopsis.Proofs.Service.Undo
import Synopsis.Proofs.Service.Independence
import Synopsis.Proofs.Service.Abort
import Synopsis.Proofs.Service.Framing
import Synopsis.Proofs.Command.Execution
import Synopsis.Proofs.Command.Framing
import Synopsis.Proofs.Discovery
import Synopsis.Proofs.Settings
import Synopsis.Proofs.Command.Pruning
import Synopsis.Proofs.Command.Ownership
import Synopsis.Proofs.Service.Discovered
import Synopsis.Proofs.Block.Renewal
import Synopsis.Proofs.Service.Policy
import Synopsis.Proofs.Service.Several
import Synopsis.Proofs.Completion.Response
import Synopsis.Proofs.Completion.Retry
import Synopsis.Proofs.Completion.Client
import Synopsis.Proofs.Service.Online
import Synopsis.Proofs.Tree.Atomic
import Synopsis.Proofs.Json.Spelling
import Synopsis.Proofs.Json.Grammar
import Synopsis.Proofs.Json.Reading
import Synopsis.Proofs.Index.Schema
import Synopsis.Proofs.Service.Pairs
import Synopsis.Proofs.Service.Reuse
import Synopsis.Proofs.Discovery.Listings
import Synopsis.Proofs.Settings.Refusal
import Synopsis.Proofs.Yaml.Mapping
import Synopsis.Proofs.Settings.Layers
import Synopsis.Proofs.Prompt
import Synopsis.Proofs.Command.Accounting
import Synopsis.Proofs.Service.Breakdown
import Synopsis.Proofs.Command.Exit
import Synopsis.Proofs.Service.RoundTrip
