import WatchHub.Log.EventLog
import WatchHub.Poll.Config
import WatchHub.Number.Reading
import WatchHub.Hub.Config
import WatchHub.Tree.Observer
import WatchHub.Branch.Observer
import WatchHub.Rehearsal.Commands
import WatchHub.Rehearsal.TreeRun
import WatchHub.Rehearsal.BranchRun
import WatchHub.Proofs.Log.Conversation
import WatchHub.Proofs.Queue.Slots
import WatchHub.Proofs.Hub.Accounts
import WatchHub.Proofs.Hub.Ledger
import WatchHub.Proofs.Stream
import WatchHub.Proofs.Resume
import WatchHub.Proofs.Complaint
import WatchHub.Proofs.Closing
import WatchHub.Proofs.Hub.Listing
import WatchHub.Proofs.Chronicle
import WatchHub.Proofs.Hub.Cargo
import WatchHub.Proofs.Identity
import WatchHub.Proofs.Hub.Lineage
import WatchHub.Proofs.Checkpoint
import WatchHub.Proofs.Leftover
import WatchHub.Proofs.Lifecycle
import WatchHub.Proofs.Shutdown
import WatchHub.Proofs.Bystander
import WatchHub.Proofs.Tree.Rebuild
import WatchHub.Proofs.Tree.CatchUp
import WatchHub.Proofs.Branch.Tracking
import WatchHub.Proofs.Overlap
import WatchHub.Proofs.Membership
import WatchHub.Proofs.Refusal
import WatchHub.Proofs.Grace
import WatchHub.Proofs.Snapshot
import WatchHub.Proofs.Tree.EditScript
import WatchHub.Proofs.Text.Numeral
import WatchHub.Proofs.Version
import WatchHub.Proofs.Poll.Setup
import WatchHub.Proofs.Key
import WatchHub.Proofs.Tree.Listing
import WatchHub.Proofs.Log.Index
import WatchHub.Proofs.Offer
