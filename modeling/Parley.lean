import Parley.Engine.Error
import Parley.Exchange.Desk
import Parley.Filter
import Parley.Frame.Cursor
import Parley.Frame.Hex
import Parley.Frame.Stream
import Parley.Settings.Document
import Parley.Proofs.Association
import Parley.Proofs.Bag
import Parley.Proofs.Frame.Body
import Parley.Proofs.Frame.Cursor
import Parley.Proofs.Frame.Exact
import Parley.Proofs.Frame.RoundTrip
import Parley.Proofs.Decimal
import Parley.Proofs.Json.Scalar
import Parley.Correlator.Session
import Parley.Correlator.History
import Parley.Proofs.Correlator.Retired
import Parley.Proofs.Correlator.Moves
import Parley.Proofs.Correlator.Session
import Parley.Proofs.Correlator.Resolution
import Parley.Exchange.Event
import Parley.Proofs.Exchange.Parts
import Parley.Proofs.Typed
import Parley.Proofs.Exchange.Tasks
import Parley.Proofs.Exchange.Dispatch
import Parley.Proofs.Json.Document
import Parley.Proofs.Engine.Params
import Parley.Proofs.Engine.Call
import Parley.Engine.Outcome
import Parley.Proofs.Engine.Outcome
import Parley.Proofs.Frame.Stream
import Parley.Proofs.Link.Lane
import Parley.Proofs.Exchange.Service
import Parley.Proofs.Exchange.Ledger
import Parley.Proofs.Exchange.Seats
import Parley.Proofs.Exchange.Holding
import Parley.Proofs.Exchange.Asking
import Parley.Proofs.Exchange.Carrying
import Parley.Proofs.Exchange.Handling
import Parley.Proofs.Exchange.Rest
import Parley.Proofs.Exchange.Calls
import Parley.Proofs.Correlator.History
import Parley.Proofs.Correlator.Replies
import Parley.Proofs.Exchange.Tracking
import Parley.Proofs.Correlator.Abandonment
import Parley.Exchange.Reply
import Parley.Proofs.Exchange.Reply
import Parley.Proofs.Exchange.Cancellation
import Parley.Exchange.Paths
import Parley.Proofs.Exchange.Purpose
import Parley.Proofs.Exchange.Paths
import Parley.Engine.Mishap
import Parley.Exchange.Handled
import Parley.Proofs.Engine.Mishap
import Parley.Proofs.Exchange.Outcomes
import Parley.Proofs.Exchange.Failing
import Parley.Registry.Maps
import Parley.Proofs.Registry.Maps
import Parley.Frame.Pieces
import Parley.Proofs.Frame.Pieces
import Parley.Correlator.Reception
import Parley.Proofs.Correlator.Reception
import Parley.Exchange.Serving
import Parley.Proofs.Exchange.Serving
import Parley.Proofs.Exchange.Answers
import Parley.Proofs.Exchange.Mirror
import Parley.Proofs.Exchange.Clutter
import Parley.Proofs.Text.Order
import Parley.Proofs.Frame.Normal
import Parley.Frame.Listing
import Parley.Proofs.Frame.Listing
import Parley.Proofs.Frame.Alike
import Parley.Proofs.Frame.Delimited
import Parley.Proofs.Frame.Failure
import Parley.Proofs.Message.Copy
import Parley.Proofs.Client
import Parley.Correlator.Use
import Parley.Proofs.Correlator.Use
import Parley.Proofs.Exchange.CallingSide
import Parley.Proofs.Exchange.Typed
import Parley.Decimal.Numeral
import Parley.Bag.Spelling
import Parley.Proofs.Json.Equivalence
import Parley.Proofs.Bag.Equivalence
import Parley.Proofs.Decimal.Numeral
import Parley.Proofs.Text.Blank
import Parley.Proofs.Bag.Spelling
import Parley.Proofs.Json.Skip
import Parley.Proofs.Json.Spelling
import Parley.Proofs.Json.Record
import Parley.Engine.Alike
import Parley.Proofs.Bag.Agreement
import Parley.Proofs.Engine.Alike
