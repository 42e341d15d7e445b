-- SUMMARY: The operations on entities as data, what they preserve, and that listeners hear of exactly the changes.

import Appliance.Proofs.Hearing

namespace Appliance

open Entity

/-! ## Operations

The operations that a device performs on its entities. -/

inductive EntityOp where
  | power (on : Bool)
  | device (x : Float)
  | state (text : String)
  | mode (mode : Int64)
  | stateWith (text : String) (attributes : List (String × Json))
  | deviceWith (x : Float) (attributes : List (String × Json))
  | humidity (humidity : Float)
  | item (ns : Namespace) (body : Json)
  | unavailable

namespace EntityOp

/-- The operation, whatever it answers. -/
def run (op : EntityOp) (e : Entity) : Change Unit :=
  match op with
  | power on => (e.updatePower on).map fun _ => ()
  | device x => (e.updateDevice x).map fun _ => ()
  | state text => (e.updateState text).map fun _ => ()
  | mode m => (e.updateMode m).map fun _ => ()
  | stateWith text attributes => (e.updateStateWith text attributes).map fun _ => ()
  | deviceWith x attributes => (e.updateDeviceWith x attributes).map fun _ => ()
  | humidity x => (Device.giveHumidity x e).map fun _ => ()
  | item ns body => (e.parse ns body).map fun _ => ()
  | unavailable => e.setUnavailable.map fun _ => ()

/-- What the operation makes an entity of a kind hear. -/
def report? (kind : Kind) : EntityOp → Option Report
  | power on => heardIf (kind.carries .power) (.ofPower on)
  | device x => heardIf (kind.carries .device) (.ofDevice x)
  | state text => heardIf (kind.carries .state) (.ofState text)
  | mode m => heardIf (kind.carries .mode) (.ofMode m)
  | stateWith text attributes => heardIf (kind.carries .state) (.ofStateWith text attributes)
  | deviceWith x attributes => heardIf (kind.carries .device) (.ofDeviceWith x attributes)
  | humidity x => heardIf (kind = .climate) (.ofHumidity x)
  | item ns body => heard? kind ns body
  | unavailable => none

/-- The operation never makes an entity hear of something that differs from itself. -/
def Proper (op : EntityOp) : Prop := ∀ kind ρ, op.report? kind = some ρ → ρ.Proper

theorem hears_run {op : EntityOp} {e : Entity} (h : e.Sound) (hop : op ≠ unavailable) :
    Hears (op.report? e.kind) e (op.run e) := by
  cases op with
  | power on => exact (hears_updatePower h on).map _
  | device x => exact (hears_updateDevice h x).map _
  | state text => exact (hears_updateState h text).map _
  | mode m => exact (hears_updateMode h m).map _
  | stateWith text attributes => exact (hears_updateStateWith h text attributes).map _
  | deviceWith x attributes => exact (hears_updateDeviceWith h x attributes).map _
  | humidity x => exact (hears_giveHumidity h x).map _
  | item ns body => exact (hears_parse h ns body).map _
  | unavailable => exact absurd rfl hop

/-- An operation does nothing, or makes the entity heed a report, or takes
    everything that is known of it away. -/
theorem run_cases (op : EntityOp) {e : Entity} (h : e.Sound) :
    ((op.run e).entity = e ∧ (op.run e).flushes = []) ∨
      (∃ ρ, op.report? e.kind = some ρ ∧ Heeds ρ e (op.run e)) ∨
      (op = unavailable ∧ (op.run e).entity = { e with status := e.status.clear } ∧
        (op.run e).flushes =
          if e.status.available then [{ e with status := e.status.clear }] else []) := by
  by_cases hop : op = unavailable
  · subst hop
    exact .inr (.inr ⟨rfl, rfl, rfl⟩)
  · have hears := hears_run h hop
    cases hr : op.report? e.kind with
    | none =>
      rw [hr] at hears
      exact .inl hears
    | some ρ =>
      rw [hr] at hears
      exact .inr (.inl ⟨ρ, rfl, hears⟩)

/-! ## What operations preserve -/

section Run

variable (op : EntityOp) {e : Entity} (h : e.Sound)
include h

/-- Only what is known of the entity changes. -/
theorem run_frame : (op.run e).entity = { e with status := (op.run e).entity.status } := by
  rcases run_cases op h with ⟨hkeep, -⟩ | ⟨ρ, -, hρ⟩ | ⟨-, hclear, -⟩
  · rw [hkeep]
  · exact hρ.frame
  · rw [hclear]

@[simp] theorem id_run : (op.run e).entity.id = e.id := by rw [run_frame op h]

@[simp] theorem kind_run : (op.run e).entity.kind = e.kind := by rw [run_frame op h]

@[simp] theorem namespaces_run : (op.run e).entity.namespaces = e.namespaces := by
  rw [run_frame op h]

theorem clear_run : (op.run e).entity.status.clear = e.status.clear := by
  rcases run_cases op h with ⟨hkeep, -⟩ | ⟨ρ, -, hρ⟩ | ⟨-, hclear, -⟩
  · rw [hkeep]
  · exact hρ.settles.clear
  · rw [hclear, Status.clear_clear]

theorem sound_run : (op.run e).entity.Sound := by
  refine ⟨?_, ?_, ?_⟩
  · rw [Shaped, clear_run op h, kind_run op h]
    exact h.shaped
  · rcases run_cases op h with ⟨hkeep, -⟩ | ⟨ρ, -, hρ⟩ | ⟨-, hclear, -⟩
    · rw [hkeep]
      exact h.consistent
    · exact hρ.settles.consistent h.consistent
    · rw [hclear]
      exact e.status.consistent_clear
  · intro ha
    rcases run_cases op h with ⟨hkeep, -⟩ | ⟨ρ, -, hρ⟩ | ⟨-, hclear, -⟩
    · rw [hkeep] at ha ⊢
      exact h.idle ha
    · rw [hρ.available] at ha
      cases ha
    · rw [hclear, Status.clear_clear]

theorem scaled_run (hs : e.Scaled) : (op.run e).entity.Scaled := hs.congr (clear_run op h)

end Run

/-! ## What listeners hear -/

private theorem flush_of_heeds {ρ : Report} {e : Entity} {c : Change Unit} (h : Heeds ρ e c)
    (hs : e.Sound) :
    c.flushes = [] ∧ c.entity = e ∨
      c.flushes = [c.entity] ∧ (e.status == c.entity.status) = false ∧
        (ρ.Proper → e.status ≠ c.entity.status) := by
  cases ha : e.status.available with
  | false =>
    refine .inr ⟨by simp [h.flushes, ha], ?_, fun _ hsame => ?_⟩
    · simp [Status.beq_eq, ha, h.available]
    · rw [hsame, h.available] at ha
      cases ha
  | true =>
    cases hd : e.status.differs ρ with
    | false =>
      have hsame : c.entity.status = e.status :=
        h.settles.eq_of_not_differs hs.consistent hd (by rw [h.available, ha])
      refine .inl ⟨by simp [h.flushes, ha, hd], ?_⟩
      rw [h.frame, hsame]
    | true =>
      refine .inr ⟨by simp [h.flushes, hd], h.settles.beq_of_differs hd, fun hρ => ?_⟩
      exact h.settles.ne_of_differs hρ hd

/-- An operation either changes nothing and tells nobody, or hands the entity
    on, once, as it then is, and it is different. -/
theorem run_flushes (op : EntityOp) {e : Entity} (h : e.Sound) :
    (op.run e).flushes = [] ∧ (op.run e).entity = e ∨
      (op.run e).flushes = [(op.run e).entity] ∧
        (e.status == (op.run e).entity.status) = false ∧
          (op.Proper → e.status ≠ (op.run e).entity.status) := by
  rcases run_cases op h with hkeep | ⟨ρ, hr, hρ⟩ | ⟨-, hclear, hflush⟩
  · exact .inl hkeep.symm
  · rcases flush_of_heeds hρ h with hsilent | ⟨htold, hbeq, hne⟩
    · exact .inl hsilent
    · exact .inr ⟨htold, hbeq, fun hop => hne (hop _ _ hr)⟩
  · rw [hclear, hflush]
    cases ha : e.status.available with
    | false =>
      refine .inl ⟨rfl, ?_⟩
      rw [← h.idle ha]
    | true =>
      refine .inr ⟨rfl, ?_, fun _ hsame => ?_⟩
      · simp [Status.beq_eq, ha, Status.clear]
      · rw [hsame] at ha
        cases ha

/-! ## Proper operations -/

private theorem proper_heardIf {b : Bool} {ρ ρ' : Report} (h : ρ.Proper)
    (hr : heardIf b ρ = some ρ') : ρ'.Proper := by
  cases b with
  | false => cases hr
  | true =>
    cases hr
    exact h

theorem proper_power (on : Bool) : (power on).Proper :=
  fun _ _ => proper_heardIf fun p v hv => by cases p <;> cases hv; simp

theorem proper_mode (m : Int64) : (mode m).Proper :=
  fun _ _ => proper_heardIf fun p v hv => by cases p <;> cases hv; simp

theorem proper_state (text : String) : (state text).Proper :=
  fun _ _ => proper_heardIf fun p v hv => by cases p <;> cases hv; simp

theorem proper_unavailable : unavailable.Proper := by
  intro kind ρ hr
  cases hr

theorem proper_device {x : Float} (hx : x ≠ Float.nan) : (device x).Proper :=
  fun _ _ => proper_heardIf fun p v hv => by cases p <;> cases hv; simpa using hx

theorem proper_humidity {x : Float} (hx : x ≠ Float.nan) : (humidity x).Proper :=
  fun _ _ => proper_heardIf fun p v hv => by cases p <;> cases hv; simpa using hx

theorem proper_stateWith (text : String) {attributes : List (String × Json)}
    (h : Appliance.Proper attributes) : (stateWith text attributes).Proper := by
  refine fun _ _ => proper_heardIf fun p v hv => ?_
  cases p <;> cases hv
  · simp
  · exact h

theorem proper_deviceWith {x : Float} {attributes : List (String × Json)} (hx : x ≠ Float.nan)
    (h : Appliance.Proper attributes) : (deviceWith x attributes).Proper := by
  refine fun _ _ => proper_heardIf fun p v hv => ?_
  cases p <;> cases hv
  · simpa using hx
  · exact h

theorem proper_ofLight (r : Light.Report) : (Report.ofLight r).Proper := by
  intro p v hv
  cases p <;> simp [Report.ofLight] at hv <;> obtain ⟨x, -, rfl⟩ := hv <;> simp

private theorem degrees_proper {t : Option Float} {v : Option Float}
    (ht : ∀ x, t = some x → x ≠ Float.nan) (hv : Climate.degrees t = some v) :
    Appliance.Proper v := by
  obtain ⟨x, hx, rfl⟩ := Option.map_eq_some_iff.1 hv
  exact proper_some.2 (proper_float.2 (Double.div_ne_nan (ht x hx) (by decide)))

private theorem levelOfStep_ne_nan {x : Float} (hx : x ≠ Float.nan) :
    Player.levelOfStep x ≠ Float.nan := by
  simp only [Player.levelOfStep]
  split
  · decide
  · split
    · decide
    · exact Double.div_ne_nan hx (by decide)

theorem proper_ofPlayer {item : Json} (h : item.WellFormed) :
    (Report.ofPlayer (Player.Report.ofItem item)).Proper := by
  intro p v hv
  cases p with
  | volume =>
    obtain ⟨x, hx, rfl⟩ := Option.map_eq_some_iff.1 hv
    exact proper_some.2 (proper_float.2 (levelOfStep_ne_nan (h.floatAt? hx)))
  | state | muted | track | title =>
    obtain ⟨x, -, rfl⟩ := Option.map_eq_some_iff.1 hv
    simp
  | _ => cases hv

private theorem proper_attributes {r : Climate.Report}
    (h : ∀ w, r.warning = some w → w.WellFormed) : Appliance.Proper r.attributes := by
  unfold Climate.Report.attributes
  cases hw : r.warning with
  | none => simp
  | some w => simpa using (h w hw).proper

theorem proper_ofClimate {item : Json} (h : item.WellFormed) {r : Climate.Report}
    (hr : climateReport? item = some r) : (Report.ofClimate r).Proper := by
  unfold climateReport? at hr
  split at hr
  · cases hr
    intro p v hv
    cases p with
    | min | max | current | target => exact degrees_proper (fun x hx => h.floatAt? hx) hv
    | extra =>
      cases hv
      exact proper_attributes fun w hw => h.get? hw
    | power | mode =>
      cases hv
      simp
    | heating =>
      obtain ⟨active, -, rfl⟩ := Option.map_eq_some_iff.1 hv
      simp
    | _ => cases hv
  · cases hr

private theorem proper_map {α : Type} {o : Option α} {f : α → Report} {ρ : Report}
    (h : ∀ a, o = some a → (f a).Proper) (hρ : o.map f = some ρ) : ρ.Proper := by
  obtain ⟨a, ha, rfl⟩ := Option.map_eq_some_iff.1 hρ
  exact h a ha

theorem proper_ofDevice {x : Float} (hx : x ≠ Float.nan) : (Report.ofDevice x).Proper := by
  intro p v hv
  cases p <;> cases hv
  simpa using hx

/-- The numbers in a well-formed item are numbers, and remain so when they are scaled. -/
theorem proper_item (ns : Namespace) {body : Json} (h : body.WellFormed) :
    (item ns body).Proper := by
  intro kind ρ hρ
  replace hρ : heard? kind ns body = some ρ := hρ
  unfold heard? at hρ
  split at hρ
  · refine proper_map (fun on _ => ?_) hρ
    intro p v hv
    cases p <;> cases hv
    simp
  · split at hρ
    · exact proper_heardIf (proper_ofLight _) hρ
    · exact proper_heardIf (proper_ofLight _) hρ
    · refine proper_map (fun text _ => ?_) hρ
      intro p v hv
      cases p <;> cases hv
      simp
    · exact proper_map (fun r hr => proper_ofClimate h hr) hρ
    · exact proper_map (fun x hx => proper_ofDevice (h.floatAt? hx)) hρ
    · exact proper_heardIf (proper_ofPlayer h) hρ
    · exact proper_map (fun x hx => proper_ofDevice (h.floatAt? hx)) hρ
    · cases hρ

end EntityOp

end Appliance
