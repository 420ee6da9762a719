import LinkedControls.Failure
import LinkedControls.Main
import LinkedControls.Proofs.Filter.Fields
import LinkedControls.Proofs.Filter.LetterCase
import LinkedControls.Proofs.Filter.Negation
import LinkedControls.Proofs.Filter.Share
import LinkedControls.Proofs.Link.Acceptance
import LinkedControls.Proofs.Link.Clearing
import LinkedControls.Proofs.Link.HostPairs
import LinkedControls.Proofs.Link.Sharing
import LinkedControls.Proofs.Query.Execution
import LinkedControls.Proofs.Query.Filling
import LinkedControls.Proofs.Query.Modes
import LinkedControls.Proofs.Query.Occurrences
import LinkedControls.Proofs.Query.Quoting
import LinkedControls.Proofs.Query.Substitution
import LinkedControls.Proofs.Repository.Interchange
import LinkedControls.Proofs.Settings.Assignment
import LinkedControls.Proofs.Store.Erasure
import LinkedControls.Proofs.Store.Replay
import LinkedControls.Proofs.Sync.Accounting
import LinkedControls.Proofs.Sync.Agreement
import LinkedControls.Proofs.Sync.Arrivals
import LinkedControls.Proofs.Sync.Chronicle
import LinkedControls.Proofs.Sync.Combining
import LinkedControls.Proofs.Sync.Detection
import LinkedControls.Proofs.Sync.Emptying
import LinkedControls.Proofs.Sync.Following
import LinkedControls.Proofs.Sync.InPlace
import LinkedControls.Proofs.Sync.Independence
import LinkedControls.Proofs.Sync.Lifecycle
import LinkedControls.Proofs.Sync.Loading
import LinkedControls.Proofs.Sync.Newest
import LinkedControls.Proofs.Sync.Refusal
import LinkedControls.Proofs.Sync.Rewriting
import LinkedControls.Proofs.Sync.Rulebook
import LinkedControls.Proofs.Sync.Sending
import LinkedControls.Proofs.Sync.Settling
import LinkedControls.Proofs.Sync.SyncTimes
import LinkedControls.Proofs.Sync.Ties
import LinkedControls.Proofs.Sync.Traffic
import LinkedControls.Proofs.Sync.Validity
import LinkedControls.Proofs.Value.Agreeing
import LinkedControls.Proofs.Value.NumberText
import LinkedControls.Proofs.Value.Ordering
import LinkedControls.Proofs.Value.Overflow
import LinkedControls.Proofs.Value.Spelling
import LinkedControls.Settings.LogFilter
