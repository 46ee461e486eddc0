import Clearance.Context.Multimap
import Clearance.Document.Yaml
import Clearance.Proofs.Audit
import Clearance.Proofs.Climb
import Clearance.Proofs.Determined
import Clearance.Proofs.Faults
import Clearance.Proofs.KeyRoundTrip
import Clearance.Proofs.Ladder
import Clearance.Proofs.Layers
import Clearance.Proofs.Lifetime
import Clearance.Proofs.LoadAll
import Clearance.Proofs.Monotone
import Clearance.Proofs.Notices
import Clearance.Proofs.PermissionMap
import Clearance.Proofs.Precedence
import Clearance.Proofs.Promotion
import Clearance.Proofs.Restore
import Clearance.Proofs.Separation
import Clearance.Proofs.Shuffle
import Clearance.Proofs.Snapshot
import Clearance.Report
import Clearance.Proofs.Inclusion
import Clearance.Proofs.AsciiCase
import Clearance.Proofs.MetaKeys
import Clearance.Proofs.StoredKeys
import Clearance.Proofs.Matching
import Clearance.Proofs.PatternTail
import Clearance.Proofs.LevelTail
import Clearance.Proofs.WholeMatch
import Clearance.Proofs.Drops
import Clearance.Proofs.MetaContents
import Clearance.Proofs.ElementText
import Clearance.Proofs.Tally
