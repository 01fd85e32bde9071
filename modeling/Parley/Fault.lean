/-
# Faults

Everything that can go wrong between two proxies.  A protocol fault concerns one
frame or one message; the connection goes on after it.
-/

import Parley.Decimal.Integer
import Parley.Failure
import Parley.Tag

namespace Parley

/-- Why a byte stream failed. -/
inductive StreamErrorKind where
  | unexpectedEof
  | brokenPipe
  | connectionReset
  | invalidData
  | timedOut
  | writeZero
  | notFound
  | other
deriving DecidableEq, Repr

namespace StreamErrorKind

/-- The name of a kind. -/
def name : StreamErrorKind → String
  | .unexpectedEof => "UnexpectedEof"
  | .brokenPipe => "BrokenPipe"
  | .connectionReset => "ConnectionReset"
  | .invalidData => "InvalidData"
  | .timedOut => "TimedOut"
  | .writeZero => "WriteZero"
  | .notFound => "NotFound"
  | .other => "Other"

/-- The kind with this name. -/
def ofName? (text : String) : Option StreamErrorKind :=
  [unexpectedEof, brokenPipe, connectionReset, invalidData, timedOut, writeZero, notFound,
    other].find? fun kind => kind.name == text

end StreamErrorKind

/-- A failure of the byte stream below the frames. -/
structure StreamError where
  kind : StreamErrorKind
  text : String
deriving DecidableEq, Repr

/-- What went wrong. -/
inductive Fault where
  /-- A frame could not be read. -/
  | malformed (reason : String)
  /-- No message is registered for the code in a frame. -/
  | unknownTag (code : Nat)
  /-- A reply names a kind of failure outside the closed set. -/
  | unknownFailureKind (kind : String)
  /-- A reply answers no request that is in flight. -/
  | unmatched (id : Int64)
  /-- The request was cancelled before it was answered. -/
  | cancelled
  /-- The deadline passed before the request was answered. -/
  | timeout
  /-- A property does not read as the type asked for. -/
  | typeMismatch (key : String) (expected : String)
  /-- A reply has the id of a request that expects another type. -/
  | replyTypeMismatch (expected actual : Tag)
  /-- A message has no place at this point of the exchange. -/
  | unexpectedMessage (tag : Tag)
  /-- A registration would break the bijection of tags and classes. -/
  | registrationConflict (reason : String)
  /-- The peer reported a failure. -/
  | remote (failure : Failure)
  /-- The peer is gone. -/
  | connectionClosed
  /-- The stream or channel failed. -/
  | stream (text : String)
  /-- A structured property could not be written. -/
  | serialization (text : String)
  /-- The settings could not be read. -/
  | settings (text : String)
deriving DecidableEq, Repr

namespace Fault

/-- Whether the fault concerns one message only and leaves the connection up. -/
def isProtocol : Fault → Bool
  | .malformed _ => true
  | .unknownTag _ => true
  | .unknownFailureKind _ => true
  | .unmatched _ => true
  | .replyTypeMismatch .. => true
  | .unexpectedMessage _ => true
  | _ => false

/-- The name of a kind of fault. -/
def name : Fault → String
  | .malformed _ => "Malformed"
  | .unknownTag _ => "UnknownMessageType"
  | .unknownFailureKind _ => "UnknownErrorKind"
  | .unmatched _ => "Unmatched"
  | .cancelled => "Cancelled"
  | .timeout => "Timeout"
  | .typeMismatch .. => "TypeMismatch"
  | .replyTypeMismatch .. => "ReplyTypeMismatch"
  | .unexpectedMessage _ => "UnexpectedMessage"
  | .registrationConflict _ => "RegistrationConflict"
  | .remote _ => "Remote"
  | .connectionClosed => "ConnectionClosed"
  | .stream _ => "Io"
  | .serialization _ => "Serialization"
  | .settings _ => "Config"

/-- The wording of a fault. -/
def message : Fault → String
  | .malformed reason => s!"Malformed frame: {reason}"
  | .unknownTag code => s!"Unknown message type: {Decimal.natText code}"
  | .unknownFailureKind kind => s!"Unknown error kind: {kind}"
  | .unmatched id =>
      s!"No pending request for reply with request ID {Decimal.intText id.toInt}"
  | .cancelled => "Request cancelled"
  | .timeout => "Request timeout"
  | .typeMismatch key expected => s!"Property '{key}' is not a valid {expected}"
  | .replyTypeMismatch expected actual =>
      s!"Expected reply of type {expected.name}, got {actual.name}"
  | .unexpectedMessage tag => s!"Unexpected message type: {tag.name}"
  | .registrationConflict reason => s!"Registration conflict: {reason}"
  | .remote failure => s!"Remote error ({failure.kind.name}): {failure.text}"
  | .connectionClosed => "Connection closed"
  | .stream text => s!"I/O error: {text}"
  | .serialization text => s!"Serialization error: {text}"
  | .settings text => s!"Configuration error: {text}"

/-- A stream that ends too early counts as closed by the peer; its other failures
are reported as they are. -/
def ofStreamError (e : StreamError) : Fault :=
  if e.kind = .unexpectedEof then .connectionClosed else .stream e.text

end Fault

end Parley
