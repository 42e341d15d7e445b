-- SUMMARY: Messages and their headers: decoding, the text on the wire, signatures and requests.

import Appliance.Error
import Appliance.Json.Record
import Appliance.Json.Writer
import Appliance.Md5

namespace Appliance

/-! ## Headers -/

/-- The header of a message. -/
structure Header where
  messageId : String
  /-- The namespace as it is written, which the registry need not have. -/
  ns : String
  method : Method
  payloadVersion : UInt32
  sender : String
  timestamp : Int64
  timestampMs : Int64
  sign : String
  triggerSrc : Option String
deriving DecidableEq, Repr, Inhabited

namespace Header

/-- The namespace, if the registry has it. -/
def known? (h : Header) : Option Namespace := Namespace.ofName? h.ns

def fieldNames : List String :=
  ["messageId", "namespace", "method", "payloadVersion", "from", "timestamp", "timestampMs",
    "sign", "triggerSrc"]

def method? (j : Json) : Option Method := (Record.case? j).bind Method.ofName?

/-- Decodes a header from its fields. The first three must be there. -/
def ofFields? (fields : List (String × Json)) : Option Header := do
  let messageId ← Record.required? "messageId" Json.asString? fields
  let ns ← Record.required? "namespace" Json.asString? fields
  let method ← Record.required? "method" method? fields
  let payloadVersion ← Record.defaulted? "payloadVersion" 0 Record.uint32? fields
  let sender ← Record.defaulted? "from" "" Json.asString? fields
  let timestamp ← Record.defaulted? "timestamp" 0 Json.asInt64? fields
  let timestampMs ← Record.defaulted? "timestampMs" 0 Json.asInt64? fields
  let sign ← Record.defaulted? "sign" "" Json.asString? fields
  let triggerSrc ← Record.defaulted? "triggerSrc" none Record.nullableString? fields
  return ⟨messageId, ns, method, payloadVersion, sender, timestamp, timestampMs, sign, triggerSrc⟩

/-- Decodes a header from a value that has been read already. -/
def ofJson? (j : Json) : Option Header := (Record.ofJson? fieldNames j).bind ofFields?

/-- Decodes a header from a tree that may open `room` levels. -/
def ofTree? (room : Nat) (t : Tree) : Option Header := do
  ofFields? (← Record.fields? room fieldNames t)

/-- The fields in the order of the wire. -/
def toFields (h : Header) : List (String × Json) :=
  [("messageId", .str h.messageId), ("namespace", .str h.ns), ("method", .str h.method.name),
    ("payloadVersion", .int h.payloadVersion.toNat), ("from", .str h.sender),
    ("timestamp", .ofInt64 h.timestamp), ("timestampMs", .ofInt64 h.timestampMs),
    ("sign", .str h.sign)] ++
  (h.triggerSrc.map fun s => ("triggerSrc", .str s)).toList

end Header

/-! ## Messages -/

/-- A message: a header and a payload. -/
structure Message where
  header : Header
  payload : Json
deriving Inhabited

namespace Message

def fieldNames : List String := ["header", "payload"]

/-- Decodes a message from its tree. A missing payload is `null`. -/
def ofTree? (room : Nat) (t : Tree) : Option Message := do
  let parts ← Record.parts? fieldNames t
  let header ←
    match parts.filter (·.1 == "header") with
    | [(_, header)] => Header.ofTree? (room - 1) header
    | _ => none
  let payload ←
    match parts.filter (·.1 == "payload") with
    | [] => some .null
    | [(_, payload)] => payload.toJson? (room - 1)
    | _ => none
  return { header, payload }

/-- Decodes the text of a message. -/
def parse (text : String) : Except Error Message :=
  match (Tree.parse? text).bind (ofTree? Json.maxDepth) with
  | some m => .ok m
  | none => .error (.protocol .undecodable)

/-- The fields in the order of the wire. -/
def toJson (m : Message) : Json :=
  .obj [("header", .obj m.header.toFields), ("payload", m.payload)]

/-- The text of a message. -/
def render (m : Message) : String := m.toJson.render

end Message

/-! ## Signatures -/

namespace Header

/-- The signature of a message id and a time under a key. -/
def signature (messageId key : String) (timestamp : Int64) : String :=
  Md5.hex (messageId ++ key ++ toString timestamp.toInt).toUTF8.data.toList

/-- The header is signed with a key. -/
def isSignedWith (h : Header) (key : String) : Bool :=
  signature h.messageId key h.timestamp == h.sign

end Header

/-! ## Requests -/

/-- What makes a request one of its kind: an id nobody used before, and the
    time in whole seconds and the milliseconds beyond them. -/
structure Stamp where
  messageId : String
  timestamp : Int64
  millis : Fin 1000
deriving DecidableEq, Repr, Inhabited

namespace Message

/-- The sender that a request names unless told otherwise. -/
def defaultSender : String := "meross_lan"

/-- The version of the payloads that requests carry. -/
def payloadVersion : UInt32 := 1

/-- A signed request. -/
def request (ns : Namespace) (method : Method) (payload : Json) (key sender : String)
    (stamp : Stamp) : Message where
  header :=
    { messageId := stamp.messageId
      ns := ns.name
      method
      payloadVersion
      sender
      timestamp := stamp.timestamp
      timestampMs := Int64.ofNat stamp.millis
      sign := Header.signature stamp.messageId key stamp.timestamp
      triggerSrc := none }
  payload

/-- The message is what a device answers when it accepts a request by a method. -/
def acknowledges (m : Message) (method : Method) : Bool :=
  method.ack? == some m.header.method

theorem isSignedWith_request (ns : Namespace) (method : Method) (payload : Json)
    (key sender : String) (stamp : Stamp) :
    (request ns method payload key sender stamp).header.isSignedWith key = true := by
  simp [request, Header.isSignedWith]

end Message

end Appliance
