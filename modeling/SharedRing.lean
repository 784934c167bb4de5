import SharedRing.Main
import SharedRing.Proofs.Accesses
import SharedRing.Proofs.Availability
import SharedRing.Proofs.Bench
import SharedRing.Proofs.Calls
import SharedRing.Proofs.Cells
import SharedRing.Proofs.Construction
import SharedRing.Proofs.Containment
import SharedRing.Proofs.Creations
import SharedRing.Proofs.Elements
import SharedRing.Proofs.Exchange
import SharedRing.Proofs.Failures
import SharedRing.Proofs.Fifo
import SharedRing.Proofs.Interference
import SharedRing.Proofs.Items
import SharedRing.Proofs.Layouts
import SharedRing.Proofs.Names
import SharedRing.Proofs.Opening
import SharedRing.Proofs.Segments
import SharedRing.Proofs.Sessions
import SharedRing.Proofs.Sides
import SharedRing.Proofs.Stream
import SharedRing.Proofs.Transfers
import SharedRing.Proofs.Wraparound
import SharedRing.Session
import SharedRing.Proofs.Lineage
import SharedRing.Proofs.Backing
import SharedRing.Proofs.Generations
import SharedRing.Proofs.Roles
import SharedRing.Proofs.Publication
import SharedRing.Proofs.Channels
import SharedRing.Proofs.Bytewise
import SharedRing.Proofs.Outcomes
import SharedRing.Proofs.Batches
import SharedRing.Proofs.Commuting
import SharedRing.Proofs.Demands
import SharedRing.Proofs.Settings
import SharedRing.Proofs.Windows
import SharedRing.Proofs.Resets
import SharedRing.Proofs.Pages
import SharedRing.Proofs.Reasons
import SharedRing.Proofs.Contents
import SharedRing.Proofs.Rewordings
import SharedRing.Proofs.Defaults
