-- SUMMARY: What can go wrong, by cause, and the texts in which it is told.

import Appliance.Identity
import Appliance.Json.Failure
import Appliance.Namespace

namespace Appliance

/-! ## Causes

An error names its cause; `message` puts all of them into words. The
constructors `other` hold a cause that the caller words. -/

/-- Why a payload, or a part of one, is malformed. -/
inductive Fault where
  | missingKey (key : String)
  | unexpectedShape
  | missingUuid
  | missingAbility
  | missingDigest
  | itemWithoutChannel
  | missingOnoff
  | missingMode
  | missingSprayMode
  | unknownSprayMode (mode : Int64)
  | unknownLightMode (mode : Int64)
  | missingValue
  | missingLatest
  | missingValueList
  | missingChannelOrData
  | notNumeric (key : String)
  | withoutValue (key : String)
  | other (text : String)
deriving DecidableEq, Repr

/-- Why something cannot be asked of an entity or a device. -/
inductive Refusal where
  | entityExists (id : EntityId)
  | notToggle (id : EntityId)
  | noOnoff (id : EntityId)
  | noChannel (id : EntityId)
  | noThermostatMode (id : EntityId)
  | unknownPreset (preset : String) (id : EntityId)
  | notSpray (id : EntityId)
  | unknownSprayOption (option : String)
  | notPlayer (id : EntityId)
  | cannotParse (kind : Kind) (ns : Namespace)
  | other (text : String)
deriving DecidableEq, Repr

/-- How a message breaks the protocol. -/
inductive Breach where
  | undecodable
  | namespaceMismatch (received : String) (requested : Namespace)
  | other (text : String)
deriving DecidableEq, Repr

/-- An error of the library. -/
inductive Error where
  | http
  | io (text : String)
  | json (failure : Json.Failure)
  | timeout
  | protocol (breach : Breach)
  | notAcknowledged (ns : Namespace)
  | unknownEntity (name : String)
  | unsupported (refusal : Refusal)
  | payload (ns : Namespace) (fault : Fault)
deriving DecidableEq, Repr

/-! ## Texts -/

def Fault.message : Fault → String
  | .missingKey key => "missing key '" ++ key ++ "'"
  | .unexpectedShape => "unexpected payload shape"
  | .missingUuid => "missing hardware uuid"
  | .missingAbility => "missing ability map"
  | .missingDigest => "missing digest"
  | .itemWithoutChannel => "item without channel"
  | .missingOnoff => "missing onoff"
  | .missingMode => "missing mode"
  | .missingSprayMode => "missing spray mode"
  | .unknownSprayMode mode => "unknown spray mode " ++ toString mode.toInt
  | .unknownLightMode mode => "unknown light mode " ++ toString mode.toInt
  | .missingValue => "missing value"
  | .missingLatest => "missing latest list"
  | .missingValueList => "item without value list"
  | .missingChannelOrData => "item without channel or data"
  | .notNumeric key => key ++ " is not numeric"
  | .withoutValue key => key ++ " without value"
  | .other text => text

def Refusal.message : Refusal → String
  | .entityExists id => "entity " ++ id.text ++ " already exists"
  | .notToggle id => id.text ++ " is not a toggle"
  | .noOnoff id => id.text ++ " has no onoff command"
  | .noChannel id => id.text ++ " has no channel"
  | .noThermostatMode id => id.text ++ " has no thermostat mode"
  | .unknownPreset preset id => "preset " ++ preset ++ " on " ++ id.text
  | .notSpray id => id.text ++ " is not a spray"
  | .unknownSprayOption option => "spray option " ++ option
  | .notPlayer id => id.text ++ " is not a media player"
  | .cannotParse kind ns => kind.name ++ " cannot parse " ++ ns.name
  | .other text => text

def Breach.message : Breach → String
  | .undecodable => "undecodable message"
  | .namespaceMismatch received requested =>
    "response namespace " ++ received ++ " does not match " ++ requested.name
  | .other text => text

namespace Error

def message : Error → String
  | .http => "HTTP error"
  | .io text => "IO error: " ++ text
  | .json failure => "JSON error: " ++ failure.message
  | .timeout => "request timed out"
  | .protocol breach => "protocol error: " ++ breach.message
  | .notAcknowledged ns => ns.name ++ " not acknowledged by device"
  | .unknownEntity name => "unknown entity: " ++ name
  | .unsupported refusal => "unsupported: " ++ refusal.message
  | .payload ns fault => "malformed " ++ ns.name ++ " payload: " ++ fault.message

/-- The text of the error that this one wraps. -/
def cause? : Error → Option String
  | .io text => some text
  | .json failure => some failure.message
  | .http | .timeout | .protocol _ | .notAcknowledged _ | .unknownEntity _ | .unsupported _
  | .payload .. => none

/-- The device was not reached. -/
def isUnreachable : Error → Bool
  | .timeout | .http => true
  | .io _ | .json _ | .protocol _ | .notAcknowledged _ | .unknownEntity _ | .unsupported _
  | .payload .. => false

end Error

end Appliance
