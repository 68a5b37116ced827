import Storyboard.Action.Printer
import Storyboard.Action.Record
import Storyboard.Callback.Reentrancy
import Storyboard.Http.Client
import Storyboard.Lint
import Storyboard.Main
import Storyboard.Proofs.Action.RoundTrip
import Storyboard.Proofs.Callback.Reentrancy
import Storyboard.Proofs.Engine.Announcement
import Storyboard.Proofs.Engine.Dependence
import Storyboard.Proofs.Engine.Failure
import Storyboard.Proofs.Engine.Frames
import Storyboard.Proofs.Engine.GoingBack
import Storyboard.Proofs.Engine.Location
import Storyboard.Proofs.Engine.Lockstep
import Storyboard.Proofs.Engine.Phase
import Storyboard.Proofs.Engine.Receiver
import Storyboard.Proofs.Engine.Start
import Storyboard.Proofs.Headless.Process
import Storyboard.Proofs.Http.Address
import Storyboard.Proofs.Http.Header
import Storyboard.Proofs.Library.Ahead
import Storyboard.Proofs.Library.History
import Storyboard.Proofs.Library.Transparent
import Storyboard.Proofs.Library.Turns
import Storyboard.Proofs.Lint
import Storyboard.Proofs.Navigation.Storage
import Storyboard.Proofs.Run.Abort
import Storyboard.Proofs.Run.Composition
import Storyboard.Proofs.Run.Diagnostics
import Storyboard.Proofs.Run.Exchange
import Storyboard.Proofs.Run.Lexical
import Storyboard.Proofs.Run.Order
import Storyboard.Proofs.Run.Output
import Storyboard.Proofs.Run.Phases
import Storyboard.Proofs.Session.Writes
import Storyboard.Proofs.Settings.Priority
import Storyboard.Proofs.Template.Scanner
import Storyboard.Proofs.Template.Typed
import Storyboard.Session.Record
