import NamespaceEntry.Json.Document
import NamespaceEntry.Channel.Operation
import NamespaceEntry.Main
import NamespaceEntry.Executor
import NamespaceEntry.Proofs.Handshake.Gate
import NamespaceEntry.Proofs.Init.Reaping
import NamespaceEntry.Proofs.Run.Progress
import NamespaceEntry.Proofs.Run.Story
import NamespaceEntry.Proofs.Run.Settled
import NamespaceEntry.Proofs.Outcome.Fate
import NamespaceEntry.Proofs.Outcome.Faithful
import NamespaceEntry.Proofs.Outcome.Agreement
import NamespaceEntry.Proofs.Outcome.Starts
import NamespaceEntry.Proofs.Outcome.Programs
import NamespaceEntry.Proofs.Run.Deadlock
import NamespaceEntry.Proofs.Parent.Account
import NamespaceEntry.Proofs.Parent.Reaped
import NamespaceEntry.Proofs.Parent.ErrorKinds
import NamespaceEntry.Proofs.Id.Ranges
import NamespaceEntry.Proofs.Id.Grammar
import NamespaceEntry.Proofs.Channel.Recognition
import NamespaceEntry.Proofs.Handshake.Reports
import NamespaceEntry.Proofs.Init.Interleavings
import NamespaceEntry.Proofs.Run.Completion
import NamespaceEntry.Proofs.Outcome.Endings
import NamespaceEntry.Proofs.Channel.Delivery
import NamespaceEntry.Proofs.Channel.EndOfStream
import NamespaceEntry.Proofs.Handshake.AnyParent
import NamespaceEntry.Proofs.Outcome.Refusals
import NamespaceEntry.Proofs.Id.Rendering
import NamespaceEntry.Proofs.Id.Validity
import NamespaceEntry.Proofs.Json.RoundTrip
import NamespaceEntry.Proofs.CommandLine.Passing
import NamespaceEntry.Proofs.Id.Violations
import NamespaceEntry.Proofs.Id.Sources
import NamespaceEntry.Proofs.Init.Orphans
import NamespaceEntry.Proofs.Run.Forwarding
import NamespaceEntry.Proofs.Outcome.Statuses
import NamespaceEntry.Proofs.CommandLine.Vectors
import NamespaceEntry.Proofs.Outcome.Tools
import NamespaceEntry.Proofs.Outcome.Containers
import NamespaceEntry.Proofs.Id.Fields
