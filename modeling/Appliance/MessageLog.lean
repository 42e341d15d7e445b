-- SUMMARY: The log of the messages exchanged with a device, in full or as differences.

import Appliance.Difference
import Appliance.Message

namespace Appliance

/-! ## Entries -/

/-- Whether a log repeats each payload or only tells what is new in it. -/
inductive MessageLog.Mode where
  | full
  | diffed
deriving DecidableEq, Repr, Inhabited

/-- What a log tells about a payload. -/
inductive MessageLog.Content where
  /-- The payload. -/
  | payload (payload : Json)
  /-- The first payload of a namespace, which later ones are compared with. -/
  | first (payload : Json)
  /-- What differs from the payload before. -/
  | changes (differences : List Difference)
deriving Inhabited

/-- An entry of a log. -/
structure MessageLog.Entry where
  isRequest : Bool
  ns : String
  method : Method
  messageId : String
  content : MessageLog.Content
deriving Inhabited

/-! ## Logs -/

/-- A log: how it is kept, the last payload logged for each namespace, and the entries. -/
structure MessageLog where
  mode : MessageLog.Mode
  previous : Table String Json
  entries : List MessageLog.Entry
deriving Inhabited

namespace MessageLog

def Content.toFields : Content → List (String × Json)
  | .payload p => [("payload", p)]
  | .first p => [("full", .bool true), ("payload", p)]
  | .changes ds =>
    [("changes", .arr (ds.map fun d =>
      .ofFields [("path", .str (Step.path "" d.route)), ("old", d.old), ("new", d.new)]))]

/-- What the line of an entry tells, its time left out. -/
def Entry.toJson (e : Entry) : Json :=
  .ofFields <|
    [("dir", .str (if e.isRequest then "req" else "resp")), ("namespace", .str e.ns),
      ("method", .str e.method.name), ("messageId", .str e.messageId)] ++ e.content.toFields

/-- The text of the log, an entry a line. -/
def lines (log : MessageLog) : List String := log.entries.map (·.toJson.render)

def empty (mode : Mode) : MessageLog := ⟨mode, .empty, []⟩

/-- An entry for a message. -/
def entry (isRequest : Bool) (m : Message) (content : Content) : Entry :=
  ⟨isRequest, m.header.ns, m.header.method, m.header.messageId, content⟩

/-- What is told about the payload of a response. -/
def contentOf (log : MessageLog) (m : Message) : Content :=
  match log.mode with
  | .full => .payload m.payload
  | .diffed =>
    match log.previous.get? m.header.ns with
    | none => .first m.payload
    | some old => .changes (Difference.between old m.payload)

/-- Logs a request, always with its payload. -/
def logRequest (log : MessageLog) (m : Message) : MessageLog :=
  { log with entries := log.entries ++ [entry true m (.payload m.payload)] }

/-- Logs a response, which the next one of its namespace is compared with. -/
def logResponse (log : MessageLog) (m : Message) : MessageLog where
  mode := log.mode
  previous :=
    match log.mode with
    | .full => log.previous
    | .diffed => log.previous.insert m.header.ns m.payload
  entries := log.entries ++ [entry false m (log.contentOf m)]

end MessageLog

end Appliance
