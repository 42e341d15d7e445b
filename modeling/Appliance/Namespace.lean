-- SUMMARY: The namespaces and methods of the protocol, the kinds of entities, and what is done with channels that have no entity.

namespace Appliance

/-! ## Kinds -/

/-- The kinds of entities. -/
inductive Kind where
  | switch
  | light
  | diffuserLight
  | diffuserSpray
  | climate
  | sensor
  | binarySensor
  | stateSensor
  | mediaPlayer
deriving DecidableEq, Repr, Inhabited

def Kind.name : Kind → String
  | .switch => "Switch"
  | .light => "Light"
  | .diffuserLight => "DiffuserLight"
  | .diffuserSpray => "DiffuserSpray"
  | .climate => "Climate"
  | .sensor => "Sensor"
  | .binarySensor => "BinarySensor"
  | .stateSensor => "StateSensor"
  | .mediaPlayer => "MediaPlayer"

def Kind.all : List Kind :=
  [.switch, .light, .diffuserLight, .diffuserSpray, .climate, .sensor, .binarySensor,
    .stateSensor, .mediaPlayer]

/-! ## Namespaces

A message names the feature it is about by a namespace. The registry holds
the namespaces that are understood; their order in it is the order in which
sets of namespaces are listed. -/

/-- A namespace of the registry. -/
inductive Namespace where
  | systemAll
  | systemAbility
  | toggle
  | toggleX
  | light
  | diffuserLight
  | diffuserSpray
  | diffuserSensor
  | thermostatMode
  | sensorLatest
  | sensorLatestX
  | mp3
deriving DecidableEq, Repr, Inhabited

/-- What is done with an item for a channel that no entity is registered for. -/
inductive CreatePolicy where
  | ignore
  | logOnly
  | createDefault (kind : Kind)
deriving DecidableEq, Repr, Inhabited

namespace Namespace

/-- The registry. -/
def all : List Namespace :=
  [.systemAll, .systemAbility, .toggle, .toggleX, .light, .diffuserLight, .diffuserSpray,
    .diffuserSensor, .thermostatMode, .sensorLatest, .sensorLatestX, .mp3]

/-- The name on the wire. -/
def name : Namespace → String
  | .systemAll => "Appliance.System.All"
  | .systemAbility => "Appliance.System.Ability"
  | .toggle => "Appliance.Control.Toggle"
  | .toggleX => "Appliance.Control.ToggleX"
  | .light => "Appliance.Control.Light"
  | .diffuserLight => "Appliance.Control.Diffuser.Light"
  | .diffuserSpray => "Appliance.Control.Diffuser.Spray"
  | .diffuserSensor => "Appliance.Control.Diffuser.Sensor"
  | .thermostatMode => "Appliance.Control.Thermostat.Mode"
  | .sensorLatest => "Appliance.Control.Sensor.Latest"
  | .sensorLatestX => "Appliance.Control.Sensor.LatestX"
  | .mp3 => "Appliance.Control.Mp3"

/-- The namespace with a name, if the registry has it. -/
def ofName? (text : String) : Option Namespace := all.find? (·.name == text)

/-- The field of a payload that holds the namespace's data. -/
def key : Namespace → String
  | .systemAll => "all"
  | .systemAbility => "ability"
  | .toggle => "toggle"
  | .toggleX => "togglex"
  | .light | .diffuserLight => "light"
  | .diffuserSpray => "spray"
  | .diffuserSensor => "sensor"
  | .thermostatMode => "mode"
  | .sensorLatest | .sensorLatestX => "latest"
  | .mp3 => "mp3"

/-- Toggles and diffuser features are created when first heard of. -/
def policy : Namespace → CreatePolicy
  | .toggleX => .createDefault .switch
  | .diffuserLight => .createDefault .diffuserLight
  | .diffuserSpray => .createDefault .diffuserSpray
  | .systemAll | .systemAbility => .ignore
  | .toggle | .light | .diffuserSensor | .thermostatMode | .sensorLatest | .sensorLatestX
  | .mp3 => .logOnly

/-- The place in the registry. -/
def index : Namespace → Nat
  | .systemAll => 0
  | .systemAbility => 1
  | .toggle => 2
  | .toggleX => 3
  | .light => 4
  | .diffuserLight => 5
  | .diffuserSpray => 6
  | .diffuserSensor => 7
  | .thermostatMode => 8
  | .sensorLatest => 9
  | .sensorLatestX => 10
  | .mp3 => 11

theorem getElem?_all_index (ns : Namespace) : all[ns.index]? = some ns := by
  cases ns <;> rfl

theorem index_injective {ns ns' : Namespace} (h : ns.index = ns'.index) : ns = ns' := by
  have hns := getElem?_all_index ns
  rw [h, getElem?_all_index ns'] at hns
  exact (Option.some.inj hns).symm

@[simp] theorem mem_all (ns : Namespace) : ns ∈ all :=
  List.mem_of_getElem? (getElem?_all_index ns)

@[simp] theorem ofName?_name (ns : Namespace) : ofName? ns.name = some ns := by
  cases ns <;> decide

instance : Ord Namespace := ⟨compareOn index⟩

instance : Std.TransOrd Namespace := inferInstanceAs (Std.TransCmp (compareOn index))

instance : Std.LawfulEqOrd Namespace where
  eq_of_compare h := index_injective (Std.LawfulEqOrd.eq_of_compare (α := Nat) h)

end Namespace

/-! ## Methods -/

/-- What a message does. -/
inductive Method where
  | get
  | getAck
  | set
  | setAck
  | push
  | error
deriving DecidableEq, Repr, Inhabited

namespace Method

def all : List Method := [.get, .getAck, .set, .setAck, .push, .error]

/-- The name on the wire. -/
def name : Method → String
  | .get => "GET"
  | .getAck => "GETACK"
  | .set => "SET"
  | .setAck => "SETACK"
  | .push => "PUSH"
  | .error => "ERROR"

def ofName? (text : String) : Option Method := all.find? (·.name == text)

/-- The method of the answer to a request that was accepted. -/
def ack? : Method → Option Method
  | .get => some .getAck
  | .set => some .setAck
  | .getAck | .setAck | .push | .error => none

@[simp] theorem ofName?_name (m : Method) : ofName? m.name = some m := by
  cases m <;> decide

end Method

end Appliance
