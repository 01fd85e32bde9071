/-
# Messages

A message is an envelope — tag, properties, attachments — of a class.  The class
decides what else the message can do: requests know the type of their reply,
replies may carry a failure, and both have a request id.  The class is fixed when
the message is made, while its tag can be changed, so neither determines the
other.
-/

import Parley.Bag.Equivalence
import Parley.Bag.Typed
import Parley.Failure.Json

namespace Parley

/-- The property that holds the id of a request and of its reply. -/
def Bag.requestIdKey : String := "RequestId"

/-- The properties that belong to the exchange and not to the payload. -/
def Bag.reservedKeys : List String := [Bag.requestIdKey, Bag.failureKey]

/-- The classes of messages. -/
inductive MessageClass where
  /-- A bare envelope. -/
  | envelope
  /-- A request of no particular exchange. -/
  | anyRequest
  /-- A reply of no particular exchange. -/
  | anyReply
  | request (op : Operation)
  | reply (op : Operation)
deriving DecidableEq, Repr

namespace MessageClass

/-- The name of a class. -/
def name : MessageClass → String
  | .envelope => "MessageEnvelope"
  | .anyRequest => "ProxyRequest"
  | .anyReply => "ProxyReply"
  | .request op => (Tag.request op).name
  | .reply op => (Tag.reply op).name

/-- Every class. -/
def all : List MessageClass :=
  [.envelope, .anyRequest, .anyReply] ++
    Operation.all.flatMap fun op => [.request op, .reply op]

/-- The class with this name. -/
def ofName? (text : String) : Option MessageClass :=
  all.find? fun c => c.name == text

end MessageClass

/-- A class together with what its instances hold beside their envelope. -/
inductive Role where
  | envelope
  /-- A request that expects a reply of the type `expected`. -/
  | anyRequest (expected : Tag)
  | anyReply
  | request (op : Operation)
  | reply (op : Operation)
deriving DecidableEq, Repr

/-- The class of a role. -/
def Role.messageClass : Role → MessageClass
  | .envelope => .envelope
  | .anyRequest _ => .anyRequest
  | .anyReply => .anyReply
  | .request op => .request op
  | .reply op => .reply op

/-- A message. -/
structure Message where
  role : Role
  tag : Tag
  bag : Bag := .empty
  attachments : List (List UInt8) := []
deriving DecidableEq

namespace Message

/-- A bare envelope. -/
def envelope (tag : Tag) : Message :=
  { role := .envelope, tag }

/-- A request of an exchange. -/
def request (op : Operation) : Message :=
  { role := .request op, tag := .request op }

/-- A reply of an exchange. -/
def reply (op : Operation) : Message :=
  { role := .reply op, tag := .reply op }

/-- A request that names its type and the type of its reply. -/
def anyRequest (tag expected : Tag) : Message :=
  { role := .anyRequest expected, tag }

/-- A reply that names its type. -/
def anyReply (tag : Tag) : Message :=
  { role := .anyReply, tag }

/-- A fresh message of a class. -/
def fresh : MessageClass → Message
  | .envelope => envelope .unspecified
  | .anyRequest => anyRequest .unspecified .unspecified
  | .anyReply => anyReply .unspecified
  | .request op => request op
  | .reply op => reply op

/-- The class of a message. -/
def messageClass (m : Message) : MessageClass :=
  m.role.messageClass

/-- Change a property. -/
def insert (m : Message) (key : String) (value : Option String) : Message :=
  { m with bag := m.bag.insert key value }

/-- Add an attachment at the end. -/
def pushAttachment (m : Message) (bytes : List UInt8) : Message :=
  { m with attachments := m.attachments ++ [bytes] }

/-- The type of reply that a request expects; nothing for other messages. -/
def expectedReply? (m : Message) : Option Tag :=
  match m.role with
  | .anyRequest expected => some expected
  | .request op => some (.reply op)
  | _ => none

/-- Whether the message may carry a failure. -/
def isReply (m : Message) : Bool :=
  match m.role with
  | .anyReply => true
  | .reply _ => true
  | _ => false

/-- Whether the message has a request id. -/
def hasRequestId (m : Message) : Bool :=
  m.role != .envelope

/-- The request id in the bag, zero when there is none that can be read. -/
def storedRequestId (b : Bag) : Int64 :=
  match b.getInt64 Bag.requestIdKey with
  | .ok (some id) => id
  | _ => 0

/-- The request id; nothing for a bare envelope. -/
def requestId? (m : Message) : Option Int64 :=
  if m.hasRequestId then some (storedRequestId m.bag) else none

/-- The request id, zero for a bare envelope. -/
def requestId (m : Message) : Int64 :=
  m.requestId?.getD 0

/-- Write the request id. -/
def setRequestId (m : Message) (id : Int64) : Message :=
  { m with bag := m.bag.setInt64 Bag.requestIdKey id }

/-- The failure that a reply carries. -/
def failure (m : Message) : Except Fault (Option Failure) :=
  m.bag.failure

/-- Write the failure of a reply. -/
def setFailure (m : Message) (failure : Option Failure) : Message :=
  { m with bag := m.bag.setFailure failure }

/-- The kind of failure that a reply carries. -/
def failureKind (m : Message) : Except Fault FailureKind :=
  m.failure.map fun f => (f.map Failure.kind).getD .none

/-- A reply that carries a failure is a fault, and so is one whose failure cannot
be read. -/
def check (m : Message) : Except Fault Unit :=
  match m.failure with
  | .ok none => .ok ()
  | .ok (some f) => .error (.remote f)
  | .error e => .error e

/-- The reply itself when it carries no failure. -/
def intoResult (m : Message) : Except Fault Message :=
  m.check.map fun _ => m

/-- Require a class. -/
def downcast (m : Message) (c : MessageClass) : Except Fault Message :=
  if m.messageClass = c then .ok m else .error (.unexpectedMessage m.tag)

/-- Equality of envelopes: the tags and attachments are the same and the bags have
equal contents. -/
def sameEnvelope (a b : Message) : Bool :=
  a.tag == b.tag && a.bag.same b.bag && a.attachments == b.attachments

/-- Equality of messages: the same class and equal envelopes.  What an instance
holds beside its envelope does not count. -/
def same (a b : Message) : Bool :=
  a.messageClass == b.messageClass && a.sameEnvelope b

/-! ### Copying -/

/-- Bring the payload of `source` into `target`: every property that is not
reserved, and the attachments.  The rest of `target` stays. -/
def copyEnvelope (source target : Message) : Message :=
  { target with
    bag := source.bag.entries.foldl
      (fun b entry =>
        if Bag.reservedKeys.contains entry.1 then b else b.insert entry.1 entry.2)
      target.bag
    attachments := source.attachments }

/-- Copy `source` onto `target`: the payload, then the request id if both have
one, then the failure if both are replies.  The target as it is afterwards comes
with the outcome, because a failure that cannot be read is found out last. -/
def copyTo (source target : Message) : Message × Except Fault Unit :=
  let copied := source.copyEnvelope target
  let numbered :=
    if source.hasRequestId && target.hasRequestId then
      copied.setRequestId (storedRequestId source.bag)
    else copied
  if source.isReply then
    match source.failure with
    | .error e => (numbered, .error e)
    | .ok failure =>
        if target.isReply then (numbered.setFailure failure, .ok ()) else (numbered, .ok ())
  else (numbered, .ok ())

end Message

end Parley
