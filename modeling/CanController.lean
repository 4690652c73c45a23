import CanController.Proofs.Control.Logbook
import CanController.Proofs.Control.Patience
import CanController.Proofs.Control.ReadBack
import CanController.Proofs.Control.Transition
import CanController.Proofs.Control.Window
import CanController.Proofs.Session.Delivery
import CanController.Proofs.Session.Dispatching
import CanController.Proofs.Session.Frame
import CanController.Proofs.Session.Interference
import CanController.Proofs.Session.Recovery
import CanController.Proofs.Session.Refusal
import CanController.Proofs.Session.Release
import CanController.Proofs.Session.Requests
import CanController.Proofs.Session.Restart
import CanController.Proofs.Session.Sleep
import CanController.Proofs.Timing.Inverse
import CanController.Proofs.Register.Lens
import CanController.Proofs.Mailbox.Decoding
import CanController.Proofs.Mailbox.Search
import CanController.Proofs.Board.Writes
import CanController.Proofs.Control.Realization
