import Multihead.Display.Assembly
import Multihead.Scanout.Rig
import Multihead.Scanout.Summary
import Multihead.Settings.Printer
import Multihead.Settings.Shelf
import Multihead.Proofs.Display.Leaf
import Multihead.Proofs.Display.Partition
import Multihead.Proofs.Display.Numbering
import Multihead.Proofs.Display.Routing
import Multihead.Proofs.Display.Shares
import Multihead.Proofs.Display.Grouping
import Multihead.Proofs.Display.Pass
import Multihead.Proofs.Display.Rollback
import Multihead.Proofs.Display.Poisoning
import Multihead.Proofs.Scanout.Run
import Multihead.Proofs.Scanout.Watch
import Multihead.Proofs.Scanout.Acts
import Multihead.Proofs.Scanout.Custody
import Multihead.Proofs.Scanout.Lifetime
import Multihead.Proofs.Display.Dispatch
import Multihead.Proofs.Display.TakingBack
import Multihead.Proofs.Display.Nesting
import Multihead.Proofs.Display.RoundTrip
import Multihead.Proofs.Display.Renewal
import Multihead.Proofs.Display.SharePass
import Multihead.Proofs.Display.Mirror
import Multihead.Proofs.Display.Restoring
import Multihead.Proofs.Display.Transparency
import Multihead.Proofs.Scanout.Outcome
import Multihead.Proofs.Scanout.Steps
import Multihead.Proofs.Scanout.Waiting
import Multihead.Proofs.Scanout.Lockstep
import Multihead.Proofs.Scanout.Ledger
import Multihead.Proofs.Scanout.Promise
import Multihead.Proofs.Scanout.ModeSets
import Multihead.Proofs.Scanout.Coherence
import Multihead.Proofs.Display.Blindness
import Multihead.Proofs.Display.Interleaving
import Multihead.Proofs.Scanout.Selection
import Multihead.Proofs.Scanout.FailedPosts
import Multihead.Proofs.Scanout.Opening
import Multihead.Proofs.Layout.Sweep
import Multihead.Proofs.Layout.Lighting
import Multihead.Proofs.Layout.Tiling
import Multihead.Proofs.Pacing.History
import Multihead.Proofs.Scanout.Placing
import Multihead.Proofs.Scanout.Sleep
import Multihead.Proofs.Scanout.Missing
import Multihead.Proofs.Display.Naming
import Multihead.Proofs.Pacing.Statistics
import Multihead.Proofs.Display.Hotplug
import Multihead.Proofs.Settings.Reading
import Multihead.Proofs.Settings.InEffect
