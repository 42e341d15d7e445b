-- SUMMARY: Entities as they are made, and what each operation on one makes it hear.

import Appliance.Device.Inbound
import Appliance.Proofs.Edit

namespace Appliance

/-! ## Entities as they are made

What a kind of entity carries, and nothing known of it. The scale and the
presets are chosen when the entity is made and never change. -/

def Kind.blank (kind : Kind) (scale : Float) (presets : Presets) : Status :=
  match kind with
  | .switch | .binarySensor => { power := some none }
  | .light | .diffuserLight => { power := some none, light := some {} }
  | .diffuserSpray | .stateSensor => { state := some none }
  | .climate => { power := some none, selection := some { presets }, climate := some {} }
  | .sensor => { measure := some { scale } }
  | .mediaPlayer => { state := some none, player := some {} }

/-- Entities of the kind carry the part. -/
def Kind.carries (kind : Kind) (p : Part) : Bool :=
  ((kind.blank 1.0 .thermostat).datum? p).isSome

theorem Kind.isSome_datum?_blank (kind : Kind) (scale : Float) (presets : Presets) (p : Part) :
    ((kind.blank scale presets).datum? p).isSome = kind.carries p := by
  cases kind <;> cases p <;> rfl

theorem Status.isSome_datum?_clear (s : Status) (p : Part) :
    (s.clear.datum? p).isSome = (s.datum? p).isSome := by
  cases p <;> simp [datum?, clear]

namespace Entity

/-- An entity that a constructor makes. -/
inductive Made : Entity → Prop where
  | switch (id : EntityId) (ns : Namespace) : Made (switch id ns)
  | light (id : EntityId) (ns : Namespace) : Made (light id ns)
  | diffuserLight (id : EntityId) : Made (diffuserLight id)
  | diffuserSpray (id : EntityId) : Made (diffuserSpray id)
  | climate (id : EntityId) (presets : Presets) : Made (climate id presets)
  | sensor (id : EntityId) (scale : Float) : Made (sensor id scale)
  | binarySensor (id : EntityId) : Made (binarySensor id)
  | stateSensor (id : EntityId) : Made (stateSensor id)
  | mediaPlayer (id : EntityId) : Made (mediaPlayer id)

theorem made_ofKind (kind : Kind) (id : EntityId) (ns : Namespace) : (ofKind kind id ns).Made := by
  cases kind <;> constructor

/-- The entity carries what entities of its kind carry. -/
def Shaped (e : Entity) : Prop := ∃ scale presets, e.status.clear = e.kind.blank scale presets

/-- The entity is as its constructor made it, but for what is known of it, and
    while it is unavailable nothing is. -/
structure Sound (e : Entity) : Prop where
  shaped : e.Shaped
  consistent : e.status.Consistent
  idle : e.status.available = false → e.status = e.status.clear

/-- What the entity measures, it measures by a scale that can be divided by. -/
def Scaled (e : Entity) : Prop :=
  ∀ m, e.status.measure = some m → Double.IsScale m.scale

theorem Made.sound {e : Entity} (h : e.Made) : e.Sound := by
  refine ⟨?_, ⟨?_, ?_⟩, ?_⟩
  · cases h with
    | climate id presets => exact ⟨1.0, presets, rfl⟩
    | sensor id scale => exact ⟨scale, .thermostat, rfl⟩
    | _ => exact ⟨1.0, .thermostat, rfl⟩
  · intro m hm
    cases h <;> cases hm
    rfl
  · intro x hx
    cases h <;> cases hx
    rfl
  · intro
    cases h <;> rfl

/-- Nothing is known of an entity that was just made. -/
theorem Made.blank {e : Entity} (h : e.Made) : e.status.clear = e.status := by
  cases h <;> rfl

theorem Made.unavailable {e : Entity} (h : e.Made) : e.status.available = false := by
  cases h <;> rfl

theorem Made.namespaces {e : Entity} (h : e.Made) : e.namespaces = .empty := by
  cases h <;> rfl

theorem Shaped.carries {e : Entity} (h : e.Shaped) (p : Part) :
    (e.status.datum? p).isSome = e.kind.carries p := by
  obtain ⟨scale, presets, hclear⟩ := h
  rw [← Status.isSome_datum?_clear, hclear, Kind.isSome_datum?_blank]

/-- What does not carry a part has no value of it. -/
theorem Shaped.datum_eq_none {e : Entity} (h : e.Shaped) {p : Part}
    (hp : e.kind.carries p = false) : e.status.datum? p = none := by
  rw [← h.carries, Option.isSome_eq_false_iff] at hp
  exact Option.isNone_iff_eq_none.1 hp

theorem Sound.carries {e : Entity} (h : e.Sound) (p : Part) :
    (e.status.datum? p).isSome = e.kind.carries p := h.shaped.carries p

/-- What carries a part has a value of it. -/
theorem Sound.exists_datum {e : Entity} (h : e.Sound) {kind : Kind} (hkind : e.kind = kind)
    {p : Part} (hp : kind.carries p = true) : ∃ a, e.status.datum? p = some a := by
  rw [← hkind, ← h.carries] at hp
  exact Option.isSome_iff_exists.1 hp

section Components

variable {e : Entity} (h : e.Sound)
include h

theorem Sound.isSome_measure : e.status.measure.isSome = e.kind.carries .device := by
  rw [← h.carries, Status.datum?, Option.isSome_map]

theorem Sound.isSome_selection : e.status.selection.isSome = e.kind.carries .mode := by
  rw [← h.carries, Status.datum?, Option.isSome_map]

theorem Sound.isSome_light : e.status.light.isSome = e.kind.carries .effect := by
  rw [← h.carries, Status.datum?, Option.isSome_map]

theorem Sound.isSome_climate : e.status.climate.isSome = e.kind.carries .heating := by
  rw [← h.carries, Status.datum?, Option.isSome_map]

end Components

theorem Scaled.congr {e e' : Entity} (h : e.Scaled) (hclear : e'.status.clear = e.status.clear) :
    e'.Scaled := by
  intro m' hm'
  have hmeasure : e'.status.clear.measure = e.status.clear.measure := by rw [hclear]
  simp only [Status.clear, hm', Option.map_some] at hmeasure
  obtain ⟨m, hm, hscale⟩ := Option.map_eq_some_iff.1 hmeasure.symm
  have hsame : m.clear.scale = m'.clear.scale := by rw [hscale]
  change Double.IsScale m'.clear.scale
  rw [← hsame]
  exact h m hm

/-! ## Hearing

An operation on an entity either leaves it alone or makes it hear a report.
It is then available, and is handed on if that, or a part, is different. -/

variable {α β : Type}

structure Heeds (ρ : Report) (e : Entity) (c : Change α) : Prop where
  frame : c.entity = { e with status := c.entity.status }
  settles : Status.Settles ρ e.status c.entity.status
  available : c.entity.status.available = true
  flushes : c.flushes = if e.status.differs ρ || !e.status.available then [c.entity] else []

theorem heeds_commit {ρ : Report} {e : Entity} {t : Tracked Status}
    (h : Status.Edits ρ e.status t) : Heeds ρ e (e.commit t) := by
  refine ⟨rfl, ⟨h.settles.clear, fun hs => ?_, h.settles.datum⟩, rfl, ?_⟩
  · exact ⟨(h.settles.consistent hs).native, (h.settles.consistent hs).preset⟩
  · simp only [commit, h.changed, h.available]

/-- Without a report nothing happens. -/
def Hears (r : Option Report) (e : Entity) (c : Change α) : Prop :=
  match r with
  | none => c.entity = e ∧ c.flushes = []
  | some ρ => Heeds ρ e c

theorem Hears.map {r : Option Report} {e : Entity} {c : Change α} (h : Hears r e c)
    (f : α → β) : Hears r e (c.map f) := by
  cases r with
  | none => exact h
  | some ρ => exact ⟨h.frame, h.settles, h.available, h.flushes⟩

theorem hears_keep (e : Entity) (a : α) : Hears none e (e.keep a) := ⟨rfl, rfl⟩

/-- An update whose component is not carried is not heard. -/
def heardIf (b : Bool) (ρ : Report) : Option Report := if b then some ρ else none

private theorem hears_if {b : Bool} {ρ : Report} {e : Entity} {t : Tracked Status}
    (h : Status.Edits ρ e.status t) :
    Hears (heardIf b ρ) e (if b then e.commit t else e.keep false) := by
  cases b with
  | false => exact hears_keep e false
  | true => exact heeds_commit h

section Updates

variable {e : Entity} (h : e.Sound)
include h

theorem hears_updatePower (on : Bool) :
    Hears (heardIf (e.kind.carries .power) (.ofPower on)) e (e.updatePower on) := by
  rw [← h.carries]
  exact hears_if (e.status.edits_setPower on)

theorem hears_updateDevice (x : Float) :
    Hears (heardIf (e.kind.carries .device) (.ofDevice x)) e (e.updateDevice x) := by
  rw [← h.isSome_measure]
  exact hears_if (e.status.edits_setDevice x)

theorem hears_updateState (text : String) :
    Hears (heardIf (e.kind.carries .state) (.ofState text)) e (e.updateState text) := by
  rw [← h.carries]
  exact hears_if (e.status.edits_setState text)

theorem hears_updateMode (mode : Int64) :
    Hears (heardIf (e.kind.carries .mode) (.ofMode mode)) e (e.updateMode mode) := by
  rw [← h.isSome_selection]
  exact hears_if (e.status.edits_select mode)

theorem hears_updateStateWith (text : String) (attributes : List (String × Json)) :
    Hears (heardIf (e.kind.carries .state) (.ofStateWith text attributes)) e
      (e.updateStateWith text attributes) := by
  rw [← h.carries]
  exact hears_if (e.status.edits_setStateWith text attributes)

theorem hears_updateDeviceWith (x : Float) (attributes : List (String × Json)) :
    Hears (heardIf (e.kind.carries .device) (.ofDeviceWith x attributes)) e
      (e.updateDeviceWith x attributes) := by
  rw [← h.isSome_measure]
  exact hears_if (e.status.edits_setDeviceWith x attributes)

theorem hears_giveHumidity (humidity : Float) :
    Hears (heardIf (e.kind = .climate) (.ofHumidity humidity)) e
      (Device.giveHumidity humidity e) := by
  unfold Device.giveHumidity
  split
  · rename_i hk
    have hsome : e.status.climate.isSome = true := by
      rw [h.isSome_climate, hk]
      rfl
    rw [updateHumidity, if_pos hsome, decide_eq_true hk]
    exact heeds_commit (e.status.edits_setHumidity humidity)
  · rename_i hk
    rw [decide_eq_false hk]
    exact hears_keep e false

end Updates

/-! ### Items -/

/-- What an item reports about a thermostat, if it says whether it is on and in
    which mode. -/
def climateReport? (item : Json) : Option Climate.Report :=
  match item.flagAt? "onoff", item.int64At? "mode" with
  | some power, some mode =>
    some
      { power, mode
        warning := item.get? "warning"
        min := item.floatAt? "min"
        max := item.floatAt? "max"
        current := item.floatAt? "currentTemp"
        target := item.floatAt? "targetTemp"
        active := item.flagAt? "state" }
  | _, _ => none

/-- What an item of a namespace makes an entity of a kind hear. -/
def heard? (kind : Kind) (ns : Namespace) (item : Json) : Option Report :=
  if (ns = .toggle || ns = .toggleX) && kind.carries .power then
    (item.flagAt? "onoff").map .ofPower
  else
    match kind, ns with
    | .light, _ | .diffuserLight, _ =>
      let report := Light.Report.ofItem (kind = .diffuserLight) item
      heardIf (!report.isEmpty) (.ofLight report)
    | .diffuserSpray, _ => ((item.int64At? "mode").bind Spray.option?).map .ofState
    | .climate, .thermostatMode => (climateReport? item).map .ofClimate
    | .sensor, .thermostatMode => (item.floatAt? "currentTemp").map .ofDevice
    | .mediaPlayer, .mp3 =>
      let report := Player.Report.ofItem item
      heardIf (!report.isEmpty) (.ofPlayer report)
    | .sensor, _ => (item.floatAt? "value").map .ofDevice
    | _, _ => none

section Items

variable {e : Entity} (h : e.Sound)
include h

theorem hears_applyToggle (ns : Namespace) (item : Json) (hp : e.kind.carries .power = true) :
    Hears ((item.flagAt? "onoff").map .ofPower) e (e.applyToggle ns item) := by
  unfold applyToggle
  cases item.flagAt? "onoff" with
  | none => exact hears_keep e _
  | some on =>
    have hon := hears_updatePower h on
    rw [hp] at hon
    exact hon.map _

theorem hears_applyLight (ns : Namespace) (item : Json) (hl : e.kind.carries .effect = true) :
    Hears (heardIf (!(Light.Report.ofItem (e.kind = .diffuserLight) item).isEmpty)
      (.ofLight (Light.Report.ofItem (e.kind = .diffuserLight) item))) e
      (e.applyLight ns item) := by
  unfold applyLight
  cases hempty : (Light.Report.ofItem (e.kind = .diffuserLight) item).isEmpty with
  | true =>
    simp only [hempty, if_true]
    exact hears_keep e _
  | false =>
    rw [← h.isSome_light] at hl
    simp only [hempty, Bool.false_eq_true, if_false]
    exact Hears.map (r := some _) (heeds_commit (e.status.edits_reviseLight _ hl)) _

theorem hears_applySpray (ns : Namespace) (item : Json) (hs : e.kind.carries .state = true) :
    Hears (((item.int64At? "mode").bind Spray.option?).map .ofState) e
      (e.applySpray ns item) := by
  unfold applySpray
  cases item.int64At? "mode" with
  | none => exact hears_keep e _
  | some mode =>
    rw [Option.bind_some]
    cases ho : Spray.option? mode with
    | none =>
      simp only [ho, Option.map_none]
      exact hears_keep e _
    | some option =>
      have hoption := hears_updateState h option
      rw [hs] at hoption
      simp only [ho, Option.map_some]
      exact hoption.map _

theorem hears_applyClimate (item : Json) (hc : e.kind.carries .heating = true) :
    Hears ((climateReport? item).map .ofClimate) e (e.applyClimate item) := by
  rw [← h.isSome_climate] at hc
  unfold applyClimate climateReport?
  cases item.flagAt? "onoff" with
  | none => exact hears_keep e _
  | some power =>
    cases item.int64At? "mode" with
    | none => exact hears_keep e _
    | some mode =>
      exact Hears.map (r := some _) (heeds_commit (e.status.edits_reviseClimate _ hc)) _

theorem hears_applyTemperature (item : Json) (hd : e.kind.carries .device = true) :
    Hears ((item.floatAt? "currentTemp").map .ofDevice) e (e.applyTemperature item) := by
  unfold applyTemperature
  cases item.floatAt? "currentTemp" with
  | none => exact hears_keep e _
  | some x =>
    have hx := hears_updateDevice h x
    rw [hd] at hx
    exact hx.map _

theorem hears_applyValue (ns : Namespace) (item : Json) (hd : e.kind.carries .device = true) :
    Hears ((item.floatAt? "value").map .ofDevice) e (e.applyValue ns item) := by
  unfold applyValue
  cases item.floatAt? "value" with
  | none => exact hears_keep e _
  | some x =>
    have hx := hears_updateDevice h x
    rw [hd] at hx
    exact hx.map _

omit h in
theorem hears_applyPlayer (e : Entity) (item : Json) :
    Hears (heardIf (!(Player.Report.ofItem item).isEmpty) (.ofPlayer (Player.Report.ofItem item)))
      e (e.applyPlayer item) := by
  unfold applyPlayer
  cases hempty : (Player.Report.ofItem item).isEmpty with
  | true =>
    simp only [hempty, if_true]
    exact hears_keep e _
  | false =>
    simp only [hempty, Bool.false_eq_true, if_false]
    exact Hears.map (r := some _) (heeds_commit (e.status.edits_revisePlayer _)) _

/-- What an item makes an entity hear hangs on the kind of the entity alone. -/
theorem hears_parse (ns : Namespace) (item : Json) :
    Hears (heard? e.kind ns item) e (e.parse ns item) := by
  have htoggled :
      e.isToggledBy ns = ((ns = .toggle || ns = .toggleX) && e.kind.carries .power) := by
    rw [← h.carries]
    rfl
  unfold parse heard?
  rw [htoggled]
  split
  · rename_i hp
    exact hears_applyToggle h ns item (Bool.and_eq_true _ _ ▸ hp).2
  · cases hk : e.kind with
    | light | diffuserLight =>
      have hl := hears_applyLight h ns item (by rw [hk]; rfl)
      simpa only [hk] using hl
    | diffuserSpray => exact hears_applySpray h ns item (by rw [hk]; rfl)
    | climate =>
      cases ns with
      | thermostatMode => exact hears_applyClimate h item (by rw [hk]; rfl)
      | _ => exact hears_keep e _
    | sensor =>
      cases ns with
      | thermostatMode => exact hears_applyTemperature h item (by rw [hk]; rfl)
      | _ => exact hears_applyValue h _ item (by rw [hk]; rfl)
    | mediaPlayer =>
      cases ns with
      | mp3 => exact hears_applyPlayer e item
      | _ => exact hears_keep e _
    | switch | binarySensor | stateSensor => exact hears_keep e _

end Items

end Entity

end Appliance
