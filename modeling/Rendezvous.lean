import Rendezvous.Wire.Frame
import Rendezvous.Node.Roster
import Rendezvous.Fault.Ledger
import Rendezvous.Fault.Links
import Rendezvous.Barrier.Gate
import Rendezvous.Settings
import Rendezvous.Conductor.Status
import Rendezvous.Conductor.Hall
import Rendezvous.Scenario.Rehearsal
import Rendezvous.Transport.Scripted
import Rendezvous.Transport.Socket
import Rendezvous.Player.Booth
import Rendezvous.Scenario.Dialogue
import Rendezvous.Scenario.Reception
import Rendezvous.Scenario.Echo
import Rendezvous.Scenario.Cluster
import Rendezvous.Proofs.Gate.Outcome
import Rendezvous.Proofs.Conductor.Awaiting
import Rendezvous.Proofs.Hall.Rounds
import Rendezvous.Proofs.Wire.Stream
import Rendezvous.Proofs.Hall.Counters
import Rendezvous.Proofs.Hall.Answers
import Rendezvous.Proofs.Hall.Superseded
import Rendezvous.Proofs.Hall.Shutdown
import Rendezvous.Proofs.Hall.Requests
import Rendezvous.Proofs.Hall.Announced
import Rendezvous.Proofs.Ensemble.Reopened
import Rendezvous.Proofs.Wire.Cut
import Rendezvous.Proofs.Hall.LateClose
import Rendezvous.Proofs.Hall.Welcome
import Rendezvous.Proofs.Conductor.Refusals
import Rendezvous.Proofs.Player.Answering
import Rendezvous.Proofs.Hall.Deadlines
import Rendezvous.Proofs.Player.Cleanup
import Rendezvous.Proofs.Player.Lost
import Rendezvous.Proofs.Addresses
import Rendezvous.Proofs.Wire.Directions
import Rendezvous.Proofs.Player.Unsent
import Rendezvous.Proofs.MessagePack.Depth
import Rendezvous.Proofs.Wire.ExitFlags
import Rendezvous.Proofs.Ledger.Journal
import Rendezvous.Proofs.Roster.Flat
import Rendezvous.Proofs.Links
import Rendezvous.Proofs.Transport.Receivers
