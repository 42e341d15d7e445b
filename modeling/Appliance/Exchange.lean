-- SUMMARY: Exchanges over HTTP: where a device listens, the request that is posted there, and what is made of the answer.

import Appliance.MessageLog
import Appliance.Device

namespace Appliance

/-! ## Configuration -/

/-- How a device is reached. -/
structure Endpoint where
  host : String
  key : String
  scheme : String
  timeoutSecs : UInt64
  sender : String
deriving DecidableEq, Repr, Inhabited

namespace Endpoint

def fieldNames : List String := ["host", "key", "protocol", "timeout_secs", "from"]

/-- Decodes a configuration from its fields. The host must be there. -/
def ofFields? (fields : List (String × Json)) : Option Endpoint := do
  let host ← Record.required? "host" Json.asString? fields
  let key ← Record.defaulted? "key" "" Json.asString? fields
  let scheme ← Record.defaulted? "protocol" "http" Json.asString? fields
  let timeoutSecs ← Record.defaulted? "timeout_secs" 5 Record.uint64? fields
  let sender ← Record.defaulted? "from" Message.defaultSender Json.asString? fields
  return ⟨host, key, scheme, timeoutSecs, sender⟩

/-- Decodes the text of a configuration. -/
def parse? (text : String) : Option Endpoint := do
  ofFields? (← Record.fields? Json.maxDepth fieldNames (← Tree.parse? text))

/-- The path that messages are posted to. -/
def path : String := "/config"

/-- The address that messages are posted to. -/
def url (e : Endpoint) : String := e.scheme ++ "://" ++ e.host ++ path

/-- How long an answer is waited for, in milliseconds. -/
def timeoutMillis (e : Endpoint) : Nat := 1000 * e.timeoutSecs.toNat

/-- The first line of the request that carries a message. -/
def requestLine : String := "POST " ++ path ++ " HTTP/1.1"

end Endpoint

/-! ## Exchanges -/

/-- What comes of posting a request. -/
inductive Delivery where
  | timeout
  /-- The connection failed. -/
  | failed
  /-- An answer with its status and its body. -/
  | answered (status : Nat) (body : String)
deriving DecidableEq, Repr, Inhabited

namespace Delivery

/-- The status tells of an error, of the client or of the server. -/
def isErrorStatus (status : Nat) : Bool := 400 ≤ status && status < 600

/-- The body of a delivery that succeeded. -/
def body : Delivery → Except Error String
  | .timeout => .error .timeout
  | .failed => .error .http
  | .answered status body => if isErrorStatus status then .error .http else .ok body

/-- The message that a delivery brings in answer to a request about a namespace. -/
def message (ns : Namespace) (d : Delivery) : Except Error Message := do
  let m ← Message.parse (← d.body)
  if m.header.ns = ns.name then return m
  else throw (.protocol (.namespaceMismatch m.header.ns ns))

end Delivery

/-- A way to a device, with the log of what went over it, if one is kept. -/
structure Exchange where
  endpoint : Endpoint
  /-- How long an answer is waited for, in milliseconds. -/
  timeout : Nat
  log : Option MessageLog
deriving Inhabited

/-- What one exchange comes to: the message sent, and the answer. -/
structure Exchange.Result where
  exchange : Exchange
  sent : Message
  answer : Except Error Message

namespace Exchange

/-- The way to an endpoint, without a log. -/
def ofEndpoint (e : Endpoint) : Exchange := ⟨e, e.timeoutMillis, none⟩

def withScheme (x : Exchange) (scheme : String) : Exchange :=
  { x with endpoint := { x.endpoint with scheme } }

def withTimeout (x : Exchange) (timeout : Nat) : Exchange := { x with timeout }

def withLog (x : Exchange) (mode : MessageLog.Mode) : Exchange :=
  { x with log := some (.empty mode) }

/-- Sends a request and takes what comes of it. The request is logged whatever
    comes; the answer is logged when it is accepted. -/
def post (x : Exchange) (r : Request) (stamp : Stamp) (delivery : Delivery) : Result :=
  let sent := Message.request r.ns r.method r.payload x.endpoint.key x.endpoint.sender stamp
  let answer := delivery.message r.ns
  let log := x.log.map (·.logRequest sent)
  let log :=
    match answer with
    | .ok m => log.map (·.logResponse m)
    | .error _ => log
  ⟨{ x with log }, sent, answer⟩

end Exchange

end Appliance
