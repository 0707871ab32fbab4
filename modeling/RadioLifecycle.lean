import RadioLifecycle.Json.Presentation
import RadioLifecycle.Main
import RadioLifecycle.Service
import RadioLifecycle.Proofs.Controller.Shift
import RadioLifecycle.Proofs.Controller.Soundness
import RadioLifecycle.Proofs.System.Balance
import RadioLifecycle.Proofs.ControlThread.Moves
import RadioLifecycle.Proofs.System.Effect
import RadioLifecycle.Proofs.System.History
import RadioLifecycle.Proofs.System.Teardown
import RadioLifecycle.Proofs.System.FatalExit
import RadioLifecycle.Proofs.System.VendorConduct
import RadioLifecycle.Proofs.System.Observers
import RadioLifecycle.Proofs.System.SessionProtocol
import RadioLifecycle.Proofs.System.ExitVerdict
import RadioLifecycle.Proofs.ControlThread.Order
import RadioLifecycle.Proofs.Controller.ChipShift
import RadioLifecycle.Proofs.System.Obedience
import RadioLifecycle.Proofs.System.ChipHistory
import RadioLifecycle.Proofs.System.ChipHandles
import RadioLifecycle.Proofs.System.ChipReports
import RadioLifecycle.Proofs.System.Indifference
import RadioLifecycle.Proofs.System.VainCommands
import RadioLifecycle.Proofs.Simulation.Waiting
import RadioLifecycle.Proofs.Simulation.Completion
import RadioLifecycle.Proofs.Controller.Service
import RadioLifecycle.Proofs.Simulation.Custody
import RadioLifecycle.Proofs.System.Cleanups
import RadioLifecycle.Proofs.Daemon.Errands
import RadioLifecycle.Proofs.Daemon.Departure
import RadioLifecycle.Proofs.Text.Utf8
import RadioLifecycle.Proofs.Vendor.Buffer
import RadioLifecycle.Proofs.Subscribers.OrderedSet
import RadioLifecycle.Proofs.Simulation.Queries
import RadioLifecycle.Proofs.Vendor.Lookup
import RadioLifecycle.Proofs.Chip.Validity
import RadioLifecycle.Proofs.Simulation.Report
import RadioLifecycle.Proofs.ControlThread.Undisturbed
import RadioLifecycle.Proofs.Service.Query
import RadioLifecycle.Proofs.Service.Handle
import RadioLifecycle.Proofs.Service.Shutdown
import RadioLifecycle.Proofs.Catalogue.Registration
import RadioLifecycle.Proofs.Text.WellFormed
import RadioLifecycle.Proofs.Daemon.Interface
import RadioLifecycle.Proofs.Json.Lexemes
import RadioLifecycle.Proofs.Format.RoundTrip
import RadioLifecycle.Proofs.Format.Defaults
import RadioLifecycle.Proofs.Vendor.Reading
import RadioLifecycle.Proofs.Simulation.Handles
import RadioLifecycle.Proofs.Lifecycle.Teardown
