-- SUMMARY: All that can be asked of an entity, what each call comes to, and what every career of an entity keeps.

import Appliance.Proofs.EntityOp
import Appliance.Proofs.Revision

namespace Appliance

/-- Items from the namespace can be read for entities of the kind. -/
def Kind.parses (kind : Kind) (ns : Namespace) : Bool :=
  (ns = .toggle || ns = .toggleX) && kind.carries .power ||
    match kind, ns with
    | .light, _ | .diffuserLight, _ | .diffuserSpray, _ | .sensor, _ => true
    | .climate, .thermostatMode | .mediaPlayer, .mp3 => true
    | _, _ => false

/-- The errors with which items are refused. -/
def Kind.Refuses (kind : Kind) (ns : Namespace) (error : Error) : Prop :=
  if kind.parses ns then ∃ fault, error = .payload ns fault
  else error = .unsupported (.cannotParse kind ns)

namespace Entity

/-! ## Calls

The operations of an entity, as data. Updates never fail. -/

inductive Call where
  | power (on : Bool)
  | device (x : Float)
  | native (x : Float)
  | state (text : String)
  | mode (mode : Int64)
  | extra (attributes : List (String × Json))
  | humidity (humidity : Float)
  | stateWith (text : String) (attributes : List (String × Json))
  | deviceWith (x : Float) (attributes : List (String × Json))
  | item (ns : Namespace) (body : Json)
  | unavailable

namespace Call

def run (c : Call) (e : Entity) : Change (Except Error Bool) :=
  match c with
  | power on => (e.updatePower on).map .ok
  | device x => (e.updateDevice x).map .ok
  | native x => (e.updateNative x).map .ok
  | state text => (e.updateState text).map .ok
  | mode m => (e.updateMode m).map .ok
  | extra attributes => (e.updateExtra attributes).map .ok
  | humidity x => (e.updateHumidity x).map .ok
  | stateWith text attributes => (e.updateStateWith text attributes).map .ok
  | deviceWith x attributes => (e.updateDeviceWith x attributes).map .ok
  | item ns body => e.parse ns body
  | unavailable => e.setUnavailable.map .ok

/-- The part that an update is about. Attributes are carried by all. -/
def part? : Call → Option Part
  | power _ => some .power
  | device _ | native _ | deviceWith .. => some .device
  | state _ | stateWith .. => some .state
  | mode _ => some .mode
  | humidity _ => some .humidity
  | extra _ | item .. | unavailable => none

/-- All that the call holds of numbers are numbers. -/
def Proper : Call → Prop
  | device x | native x | humidity x => x ≠ Float.nan
  | extra attributes | stateWith _ attributes => Appliance.Proper attributes
  | deviceWith x attributes => x ≠ Float.nan ∧ Appliance.Proper attributes
  | item _ body => body.WellFormed
  | power _ | state _ | mode _ | unavailable => True

end Call

/-! ### What calls come to

A call leaves the entity as it is, or commits a single revision of its status,
or takes all that is known of it away. -/

/-- An item puts the light of a diffuser into a mode that is not in the list. -/
structure Strays (e : Entity) (ns : Namespace) (body : Json) (m : Int64) : Prop where
  kind : e.kind = .diffuserLight
  toggle : ns ≠ .toggle
  toggleX : ns ≠ .toggleX
  mode : body.int64At? "mode" = some m
  unnamed : Light.modeName? m = none

/-- What is answered to a call that has revised the status: whether the entity
    changed, but that a stray mode is told as an error. -/
inductive Answers (e : Entity) : Call → (Bool → Except Error Bool) → Prop where
  | changed {c : Call} : Answers e c .ok
  | stray {ns : Namespace} {body : Json} {m : Int64} (h : e.Strays ns body m) :
    Answers e (.item ns body) fun _ => .error (.payload ns (.unknownLightMode m))

inductive Effect (e : Entity) : Call → Change (Except Error Bool) → Prop where
  | refuses {ns : Namespace} {body : Json} {error : Error} (h : e.kind.Refuses ns error) :
    Effect e (.item ns body) (e.reject error)
  | ignores {c : Call} : Effect e c (e.keep (.ok false))
  | revises {c : Call} (r : Status.Revision) (fits : r.Fits e.status)
    (proper : c.Proper → r.Proper) {answer : Bool → Except Error Bool} (h : Answers e c answer) :
    Effect e c ((e.commit (e.status.revise r)).map answer)
  | clears : Effect e .unavailable (e.setUnavailable.map .ok)

namespace Effect

section Updates

variable {e : Entity} {c : Call}

theorem of_revision {r : Status.Revision} {ρ : Report} (hr : r.report? = some ρ)
    (hfits : r.Fits e.status) (hρ : c.Proper → ρ.Proper) :
    Effect e c ((e.commit (e.status.revise r)).map .ok) :=
  .revises r hfits (fun hc => .of_report hr (hρ hc)) .changed

theorem of_update {b : Bool} {r : Status.Revision} (hfits : r.Fits e.status)
    (hr : c.Proper → r.Proper) :
    Effect e c ((if b then e.commit (e.status.revise r) else e.keep false).map .ok) := by
  cases b with
  | false => exact .ignores
  | true => exact .revises r hfits hr .changed

end Updates

section Items

variable {e : Entity} {ns : Namespace} {body : Json}

theorem of_reject (h : e.kind.parses ns = true) (fault : Fault) :
    Effect e (.item ns body) (e.reject (.payload ns fault)) := by
  refine .refuses ?_
  rw [Kind.Refuses, if_pos h]
  exact ⟨fault, rfl⟩

theorem of_applyToggle (h : e.kind.parses ns = true) :
    Effect e (.item ns body) (e.applyToggle ns body) := by
  unfold applyToggle
  cases body.flagAt? "onoff" with
  | none => exact of_reject h _
  | some on =>
    exact of_update (r := .power on) trivial fun _ =>
      .of_report rfl (EntityOp.proper_power on .switch _ rfl)

theorem of_applyLight (hlight : e.status.light.isSome = true) (ht : ns ≠ .toggle)
    (hx : ns ≠ .toggleX) : Effect e (.item ns body) (e.applyLight ns body) := by
  unfold applyLight
  generalize hr : Light.Report.ofItem (e.kind = .diffuserLight) body = report
  have hproper : (Status.Revision.light report).Proper :=
    .of_report rfl (EntityOp.proper_ofLight report)
  simp only
  split
  · exact .ignores
  · refine .revises (.light report) hlight (fun _ => hproper) ?_
    cases hm : report.unknownMode? with
    | none => exact .changed
    | some m =>
      obtain ⟨hmode, hname⟩ := Option.filter_eq_some_iff.1 hm
      obtain ⟨hkind, hmode⟩ : e.kind = .diffuserLight ∧ body.int64At? "mode" = some m := by
        simpa [← hr, Light.Report.ofItem] using hmode
      exact .stray ⟨hkind, ht, hx, hmode, by simpa using hname⟩

theorem of_applySpray (h : e.kind.parses ns = true) :
    Effect e (.item ns body) (e.applySpray ns body) := by
  unfold applySpray
  cases body.int64At? "mode" with
  | none => exact of_reject h _
  | some m =>
    simp only
    cases Spray.option? m with
    | none => exact of_reject h _
    | some option =>
      exact of_update (r := .state option) trivial fun _ =>
        .of_report rfl (EntityOp.proper_state option .stateSensor _ rfl)

theorem of_applyClimate (hclimate : e.status.climate.isSome = true)
    (h : e.kind.parses .thermostatMode = true) :
    Effect e (.item .thermostatMode body) (e.applyClimate body) := by
  unfold applyClimate
  cases honoff : body.flagAt? "onoff" with
  | none => exact of_reject h _
  | some power =>
    cases hmode : body.int64At? "mode" with
    | none => exact of_reject h _
    | some m =>
      refine of_revision (r := .climate _) rfl hclimate fun hbody =>
        EntityOp.proper_ofClimate hbody ?_
      simp only [climateReport?, honoff, hmode]

theorem of_device {key : String} {x : Float} (hx : body.floatAt? key = some x) :
    Effect e (.item ns body) ((e.updateDevice x).map .ok) :=
  of_update (r := .device x) trivial fun (hbody : body.WellFormed) =>
    .of_report rfl (EntityOp.proper_ofDevice (hbody.floatAt? hx))

theorem of_applyTemperature : Effect e (.item ns body) (e.applyTemperature body) := by
  unfold applyTemperature
  cases hx : body.floatAt? "currentTemp" with
  | none => exact .ignores
  | some x => exact of_device hx

theorem of_applyValue (h : e.kind.parses ns = true) :
    Effect e (.item ns body) (e.applyValue ns body) := by
  unfold applyValue
  cases hx : body.floatAt? "value" with
  | none => exact of_reject h _
  | some x => exact of_device hx

theorem of_applyPlayer : Effect e (.item ns body) (e.applyPlayer body) := by
  unfold applyPlayer
  simp only
  split
  · exact .ignores
  · exact of_revision (r := .player _) rfl trivial fun hbody => EntityOp.proper_ofPlayer hbody

theorem of_parse (hs : e.Shaped) (ns : Namespace) (body : Json) :
    Effect e (.item ns body) (e.parse ns body) := by
  have hpower : e.status.power.isSome = e.kind.carries .power := hs.carries .power
  have hlight : e.status.light.isSome = e.kind.carries .effect := by
    rw [← hs.carries, Status.datum?, Option.isSome_map]
  have hclimate : e.status.climate.isSome = e.kind.carries .heating := by
    rw [← hs.carries, Status.datum?, Option.isSome_map]
  unfold parse
  split
  · rename_i htoggled
    rw [isToggledBy, hpower] at htoggled
    exact of_applyToggle (Bool.or_eq_true_iff.2 (.inl htoggled))
  · rename_i htoggled
    rw [isToggledBy, hpower, Bool.not_eq_true] at htoggled
    have hplain : e.kind.carries .power = true → ns ≠ .toggle ∧ ns ≠ .toggleX := by
      intro hcarries
      simpa [hcarries] using htoggled
    cases hk : e.kind with
    | light | diffuserLight =>
      obtain ⟨ht, hx⟩ := hplain (by rw [hk]; rfl)
      exact of_applyLight (hlight.trans (by rw [hk]; rfl)) ht hx
    | diffuserSpray => exact of_applySpray (by simp [Kind.parses, hk])
    | climate =>
      cases ns with
      | thermostatMode =>
        exact of_applyClimate (hclimate.trans (by rw [hk]; rfl)) (by simp [Kind.parses, hk])
      | _ => exact .refuses (by simp_all [Kind.Refuses, Kind.parses])
    | sensor =>
      cases ns with
      | thermostatMode => exact of_applyTemperature
      | _ => exact of_applyValue (by simp [Kind.parses, hk])
    | mediaPlayer =>
      cases ns with
      | mp3 => exact of_applyPlayer
      | _ => exact .refuses (by simp_all [Kind.Refuses, Kind.parses])
    | switch | binarySensor | stateSensor =>
      exact .refuses (by simp_all [Kind.Refuses, Kind.parses])

end Items

end Effect

theorem Call.effect_run {e : Entity} (hs : e.Shaped) (c : Call) : Effect e c (c.run e) := by
  cases c with
  | power on =>
    exact .of_update (r := .power on) trivial fun _ =>
      .of_report rfl (EntityOp.proper_power on .switch _ rfl)
  | device x =>
    exact .of_update (r := .device x) trivial fun hx => .of_report rfl (EntityOp.proper_ofDevice hx)
  | native x =>
    refine .of_update (r := .native x) trivial fun hx => ⟨nofun, ?_⟩
    rintro y hy
    cases hy
    exact hx
  | state text =>
    exact .of_update (r := .state text) trivial fun _ =>
      .of_report rfl (EntityOp.proper_state text .stateSensor _ rfl)
  | mode m =>
    exact .of_update (r := .mode m) trivial fun _ =>
      .of_report rfl (EntityOp.proper_mode m .climate _ rfl)
  | extra attributes =>
    simp only [run, updateExtra]
    split
    · exact .ignores
    · refine .of_revision (r := .extra attributes) rfl trivial fun hattributes => ?_
      intro p v hv
      cases p <;> cases hv
      exact hattributes
  | humidity x =>
    exact .of_update (r := .humidity x) trivial fun hx =>
      .of_report rfl (EntityOp.proper_humidity hx .climate _ rfl)
  | stateWith text attributes =>
    exact .of_update (r := .stateWith text attributes) trivial fun hattributes =>
      .of_report rfl (EntityOp.proper_stateWith text hattributes .stateSensor _ rfl)
  | deviceWith x attributes =>
    exact .of_update (r := .deviceWith x attributes) trivial fun h =>
      .of_report rfl (EntityOp.proper_deviceWith h.1 h.2 .sensor _ rfl)
  | item ns body => exact .of_parse hs ns body
  | unavailable => exact .clears

/-! ## Careers -/

/-- What becomes of an entity: it is called, and its device registers it for
    namespaces. -/
inductive Career (admits : Call → Prop) (e₀ : Entity) : Entity → Prop where
  | made : Career admits e₀ e₀
  | call {e : Entity} (h : Career admits e₀ e) {c : Call} (hc : admits c) :
    Career admits e₀ (c.run e).entity
  | registered {e : Entity} (h : Career admits e₀ e) (namespaces : Table Namespace Unit) :
    Career admits e₀ { e with namespaces }

/-- The second entity is the first at another point of its career: what it
    carries is the same, and nothing is known of it while it is unavailable. -/
structure Kept (e₀ e : Entity) : Prop where
  frame : e = { e₀ with status := e.status, namespaces := e.namespaces }
  clear : e.status.clear = e₀.status.clear
  idle : e.status.available = false → e.status = e.status.clear

namespace Kept

variable {e₀ e : Entity}

theorem of_made (h : e.Made) : Kept e e := ⟨rfl, rfl, h.sound.idle⟩

theorem id (h : Kept e₀ e) : e.id = e₀.id := by rw [h.frame]

theorem kind (h : Kept e₀ e) : e.kind = e₀.kind := by rw [h.frame]

theorem commandedBy (h : Kept e₀ e) : e.commandedBy = e₀.commandedBy := by rw [h.frame]

theorem shaped (h : Kept e₀ e) (hmade : e₀.Made) : e.Shaped := by
  rw [Shaped, h.clear, h.kind]
  exact hmade.sound.shaped

theorem registered (h : Kept e₀ e) (namespaces : Table Namespace Unit) :
    Kept e₀ { e with namespaces } := by
  refine ⟨?_, h.clear, h.idle⟩
  rw [h.frame]

theorem restated (h : Kept e₀ e) {s : Status} (hclear : s.clear = e.status.clear)
    (hidle : s.available = false → s = s.clear) : Kept e₀ { e with status := s } := by
  refine ⟨?_, hclear.trans h.clear, hidle⟩
  rw [h.frame]

theorem effect (h : Kept e₀ e) {c : Call} {change : Change (Except Error Bool)}
    (heffect : Effect e c change) : Kept e₀ change.entity := by
  cases heffect with
  | refuses _ => exact h
  | ignores => exact h
  | revises r fits _ _ => exact h.restated (Status.clear_revise fits) nofun
  | clears => exact h.restated (Status.clear_clear _) fun _ => (Status.clear_clear _).symm

end Kept

namespace Career

variable {admits : Call → Prop} {e₀ e : Entity}

theorem kept (hmade : e₀.Made) (h : Career admits e₀ e) : Kept e₀ e := by
  induction h with
  | made => exact .of_made hmade
  | call _ _ ih => exact ih.effect (Call.effect_run (ih.shaped hmade) _)
  | registered _ namespaces ih => exact ih.registered namespaces

theorem shaped (hmade : e₀.Made) (h : Career admits e₀ e) : e.Shaped := (h.kept hmade).shaped hmade

/-- What the constructor establishes of the status, and every effect keeps,
    holds all along. -/
theorem invariant {inv : Status → Prop} (hmade : e₀.Made) (hinit : inv e₀.status)
    (hstep : ∀ {e c change}, Kept e₀ e → inv e.status → admits c → Effect e c change →
      inv change.entity.status) (h : Career admits e₀ e) : inv e.status := by
  induction h with
  | made => exact hinit
  | call h hc ih => exact hstep (h.kept hmade) ih hc (Call.effect_run (h.shaped hmade) _)
  | registered _ _ ih => exact ih

end Career

end Entity

end Appliance
