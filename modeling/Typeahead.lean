import Typeahead.Command.Client
import Typeahead.Main
import Typeahead.Proofs.Completion.Confinement
import Typeahead.Proofs.Completion.Forgetting
import Typeahead.Proofs.Completion.Nesting
import Typeahead.Proofs.Completion.Pipelining
import Typeahead.Proofs.Completion.Restart
import Typeahead.Proofs.Document.Anchoring
import Typeahead.Proofs.Document.Editing
import Typeahead.Proofs.Document.Positions
import Typeahead.Proofs.Document.Script
import Typeahead.Proofs.Engine.Arrival
import Typeahead.Proofs.Engine.Decoding
import Typeahead.Proofs.Engine.Delivery
import Typeahead.Proofs.Engine.Ending
import Typeahead.Proofs.Engine.Resuming
import Typeahead.Proofs.Engine.Wire
import Typeahead.Proofs.Session.Course
import Typeahead.Proofs.Session.Desk
import Typeahead.Proofs.Session.Station
import Typeahead.Proofs.Workspace.Apart
import Typeahead.Proofs.Workspace.Insertion
import Typeahead.Proofs.Workspace.Lasting
import Typeahead.Proofs.Workspace.Lifecycle
import Typeahead.Proofs.Workspace.Locking
import Typeahead.Proofs.Workspace.Outstanding
import Typeahead.Proofs.Workspace.Refusal
import Typeahead.Proofs.Workspace.Rejection
import Typeahead.Proofs.Workspace.Replacement
import Typeahead.Proofs.Workspace.Replies
import Typeahead.Proofs.Workspace.Rounds
import Typeahead.Proofs.Workspace.Timing
import Typeahead.Proofs.Workspace.Transcript
import Typeahead.Proofs.Workspace.Typing
import Typeahead.Proofs.Workspace.TypingAhead
import Typeahead.Session.InsertLock
