-- SUMMARY: Listeners are told of a call exactly when it has made a difference, and its answer says so.

import Appliance.Proofs.Call

namespace Appliance

/-! ## Numeric statuses

A status in which all that should be numbers are numbers equals itself. -/

structure Measure.Numeric (m : Measure) : Prop where
  device : Proper m.device
  native : Proper m.native
  scale : Double.IsScale m.scale

namespace Measure.Numeric

variable {m : Measure} (h : m.Numeric)
include h

theorem proper : Proper m := by
  have hscale : Proper m.scale := proper_float.2 (Double.ne_nan_of_isFinite h.scale.1)
  rw [Proper, Status.measure_beq]
  simp only [Bool.and_eq_true]
  exact ⟨h.device, h.native, hscale⟩

theorem clear : m.clear.Numeric := ⟨proper_none, proper_none, h.scale⟩

theorem setDevice {x : Float} (hx : x ≠ Float.nan) : (m.setDevice x).value.Numeric := by
  unfold Measure.setDevice
  split
  · exact h
  · exact ⟨proper_float.2 hx, proper_float.2 (Double.div_ne_nan hx h.scale), h.scale⟩

theorem setNative {x : Float} (hx : x ≠ Float.nan) : (m.setNative x).value.Numeric := by
  unfold Measure.setNative
  split
  · exact h
  · exact ⟨proper_float.2 (Double.mul_ne_nan hx h.scale), proper_float.2 hx, h.scale⟩

theorem onMeasure {r : Status.Revision} (hr : r.Proper) : (r.onMeasure m).Numeric := by
  cases r with
  | device x => exact h.setDevice (proper_float.1 (hr.1 _ rfl .device (some x) rfl))
  | deviceWith x _ => exact h.setDevice (proper_float.1 (hr.1 _ rfl .device (some x) rfl))
  | native x => exact h.setNative (hr.2 x rfl)
  | _ => exact h

end Measure.Numeric

theorem proper_option {α : Type} [BEq α] {o : Option α} (h : ∀ a, o = some a → Proper a) :
    Proper o := by
  cases o with
  | none => exact proper_none
  | some a => exact proper_some.2 (h a rfl)

namespace Status

structure Numeric (s : Status) : Prop where
  measure : ∀ m, s.measure = some m → m.Numeric
  datum : ∀ p a, s.datum? p = some a → Appliance.Proper a

/-- What is unknown is not something other than a number. -/
theorem proper_of_clear {s : Status} {p : Part} {a : p.Value} (h : s.clear.datum? p = some a) :
    Appliance.Proper a := by
  cases p with
  | extra =>
    cases h
    exact proper_nil
  | _ =>
    simp only [clear, datum?, Option.map_map, Option.map_eq_some_iff] at h
    obtain ⟨_, -, rfl⟩ := h
    exact proper_none

namespace Numeric

variable {s : Status} (h : s.Numeric)
include h

theorem proper_climate {c : Climate} (hc : s.climate = some c) : Appliance.Proper c := by
  have hdatum : ∀ p, Appliance.Proper (s.datum? p) := fun p => proper_option (h.datum p)
  have hmin := hdatum .min
  have hmax := hdatum .max
  have hcurrent := hdatum .current
  have htarget := hdatum .target
  have hhumidity := hdatum .humidity
  simp only [datum?, hc, Option.map_some, proper_some] at hmin hmax hcurrent htarget hhumidity
  rw [Appliance.Proper, climate_beq]
  simp only [Bool.and_eq_true]
  exact ⟨hcurrent, htarget, hmin, hmax, hhumidity, BEq.refl _⟩

theorem proper_player {p : Player} (hp : s.player = some p) : Appliance.Proper p := by
  have hvolume : Appliance.Proper (s.datum? .volume) := proper_option (h.datum .volume)
  simp only [datum?, hp, Option.map_some, proper_some] at hvolume
  rw [Appliance.Proper, player_beq]
  simp only [Bool.and_eq_true]
  exact ⟨BEq.refl _, BEq.refl _, BEq.refl _, hvolume⟩

theorem proper : Appliance.Proper s := by
  have hmeasure : Appliance.Proper s.measure := proper_option fun m hm => (h.measure m hm).proper
  have hclimate : Appliance.Proper s.climate := proper_option fun _ => h.proper_climate
  have hplayer : Appliance.Proper s.player := proper_option fun _ => h.proper_player
  have hextra : Appliance.Proper s.extra := h.datum .extra s.extra rfl
  rw [Appliance.Proper, beq_eq]
  simp only [Bool.and_eq_true]
  exact ⟨BEq.refl _, hmeasure, BEq.refl _, BEq.refl _, BEq.refl _, BEq.refl _, hclimate, hplayer,
    hextra⟩

theorem clear : s.clear.Numeric := by
  refine ⟨fun m hm => ?_, fun _ _ => proper_of_clear⟩
  obtain ⟨m', hm', rfl⟩ := Option.map_eq_some_iff.1 hm
  exact (h.measure m' hm').clear

theorem revise {r : Revision} (hfits : r.Fits s) (hr : r.Proper) :
    (s.revise r).value.Numeric := by
  have hmeasure : ∀ m, (s.revise r).value.measure = some m → m.Numeric := by
    intro m hm
    rw [measure_revise, Option.map_eq_some_iff] at hm
    obtain ⟨m', hm', rfl⟩ := hm
    exact (h.measure m' hm').onMeasure hr
  refine ⟨hmeasure, fun p a ha => ?_⟩
  cases hreport : r.report? with
  | some ρ =>
    rw [(edits_revise hfits hreport).settles.datum] at ha
    cases hp : s.datum? p with
    | none =>
      rw [hp] at ha
      cases ha
    | some b =>
      rw [hp] at ha
      exact Part.proper_take (hr.1 ρ hreport p) (h.datum p b hp) ha
  | none =>
    obtain ⟨x, rfl⟩ := Revision.eq_native_of_report? hreport
    cases p with
    | device =>
      obtain ⟨m, hm, rfl⟩ := Option.map_eq_some_iff.1 ha
      exact (hmeasure m hm).device
    | _ => exact h.datum _ a ha

end Numeric

end Status

/-! ## What listeners are told -/

namespace Entity

/-- Of a call listeners are told once, of the entity as it then is, where it is
    different, and not at all where it is not. Of a part that is not carried,
    and of no attributes on an unavailable entity, there is nothing to tell. -/
structure Call.Told (c : Call) (e : Entity) : Prop where
  flushes : (c.run e).flushes =
    if e.status == (c.run e).entity.status then [] else [(c.run e).entity]
  answer : ∀ b, (c.run e).answer = .ok b → (b = true ↔ (c.run e).flushes ≠ [])
  absent : ∀ p, c.part? = some p → e.status.datum? p = none →
    (c.run e).entity = e ∧ (c.run e).flushes = []
  empty : c = .extra [] → e.status.available = false →
    (c.run e).entity = e ∧ (c.run e).flushes = []

theorem run_absent {c : Call} {p : Part} {e : Entity} (hp : c.part? = some p)
    (h : e.status.datum? p = none) : c.run e = e.keep (.ok false) := by
  cases c <;> cases hp <;>
    simp_all [Status.datum?, Call.run, updatePower, updateDevice, updateNative, updateState,
      updateMode, updateHumidity, updateStateWith, updateDeviceWith] <;> rfl

theorem run_empty {e : Entity} (h : e.status.available = false) :
    (Call.extra []).run e = e.keep (.ok false) := by
  simp only [Call.run, updateExtra, h]
  rfl

section Announces

variable {α : Type} {e : Entity} {change : Change α}

/-- The change is told once, as it then is, where it makes a difference. -/
def Announces (e : Entity) (change : Change α) : Prop :=
  change.flushes = if e.status == change.entity.status then [] else [change.entity]

theorem announces_of_same (hproper : Proper e.status) (hentity : change.entity = e)
    (hflushes : change.flushes = []) : Announces e change := by
  rw [Announces, hentity, hflushes]
  exact (if_pos hproper).symm

theorem announces_of_differs (hdiffers : (e.status == change.entity.status) = false)
    (hflushes : change.flushes = [change.entity]) : Announces e change := by
  rw [Announces, hdiffers, hflushes]
  rfl

theorem beq_of_available {s s' : Status} (h : s.available ≠ s'.available) : (s == s') = false := by
  rw [Status.beq_eq, beq_false_of_ne h, Bool.false_and]

theorem announces_commit {r : Status.Revision} (hfits : r.Fits e.status)
    (hproper : Proper e.status) : Announces e (e.commit (e.status.revise r)) := by
  have havailable := Status.available_revise r e.status
  cases ha : e.status.available with
  | false =>
    refine announces_of_differs (beq_of_available ?_) ?_
    · rw [ha]
      nofun
    · simp [commit, havailable, ha]
  | true =>
    have hstatus : (e.commit (e.status.revise r)).entity.status = (e.status.revise r).value := by
      rw [ha] at havailable
      simp only [commit, ← havailable]
    cases hc : (e.status.revise r).changed with
    | false =>
      refine announces_of_same hproper ?_ ?_
      · rw [Status.candid_revise hfits hc] at hstatus
        exact congrArg (fun s => { e with status := s }) hstatus
      · simp [commit, hc, havailable, ha]
    | true =>
      refine announces_of_differs ?_ ?_
      · rw [hstatus]
        exact Status.differs_revise hfits hc
      · simp [commit, hc]

theorem announces_setUnavailable (hproper : Proper e.status)
    (hidle : e.status.available = false → e.status = e.status.clear) :
    Announces e e.setUnavailable := by
  cases ha : e.status.available with
  | false =>
    refine announces_of_same hproper ?_ ?_
    · rw [setUnavailable, ← hidle ha]
    · simp [setUnavailable, ha]
  | true =>
    refine announces_of_differs (beq_of_available ?_) ?_
    · rw [ha]
      nofun
    · simp [setUnavailable, ha]

end Announces

variable {e : Entity}

theorem answer_commit (t : Tracked Status) :
    (e.commit t).answer = true ↔ (e.commit t).flushes ≠ [] := by
  cases hc : t.changed || !t.value.available <;> simp [commit, hc]

namespace Effect

variable {c : Call} {change : Change (Except Error Bool)}

theorem announces (heffect : Effect e c change) (hproper : Proper e.status)
    (hidle : e.status.available = false → e.status = e.status.clear) : Announces e change := by
  cases heffect with
  | refuses _ => exact announces_of_same hproper rfl rfl
  | ignores => exact announces_of_same hproper rfl rfl
  | revises r fits _ _ => exact announces_commit fits hproper
  | clears => exact announces_setUnavailable hproper hidle

theorem answer (heffect : Effect e c change) {b : Bool} (hb : change.answer = .ok b) :
    b = true ↔ change.flushes ≠ [] := by
  cases heffect with
  | refuses _ => cases hb
  | ignores =>
    cases hb
    simp [keep]
  | revises r _ _ hanswer =>
    cases hanswer with
    | changed =>
      cases hb
      exact answer_commit _
    | stray _ => cases hb
  | clears =>
    cases hb
    simp [setUnavailable]

theorem numeric (heffect : Effect e c change) (hc : c.Proper) (h : e.status.Numeric) :
    change.entity.status.Numeric := by
  cases heffect with
  | refuses _ => exact h
  | ignores => exact h
  | revises r fits proper _ =>
    have hrevised := h.revise fits (proper hc)
    exact ⟨hrevised.measure, fun p a ha => hrevised.datum p a (by cases p <;> exact ha)⟩
  | clears => exact h.clear

end Effect

theorem Made.numeric (h : e.Made) (hscaled : e.Scaled) : e.status.Numeric := by
  refine ⟨fun m hm => ?_, fun p a ha => ?_⟩
  · have hscale := hscaled m hm
    rw [← h.blank] at hm
    obtain ⟨m', -, rfl⟩ := Option.map_eq_some_iff.1 hm
    exact ⟨proper_none, proper_none, hscale⟩
  · rw [← h.blank] at ha
    exact Status.proper_of_clear ha

/-- Listeners are told of what becomes different, and of nothing else. -/
theorem Career.told {e₀ : Entity} (hmade : e₀.Made) (hscaled : e₀.Scaled)
    (h : Career Call.Proper e₀ e) (c : Call) : c.Told e := by
  have hnumeric : e.status.Numeric :=
    h.invariant hmade (hmade.numeric hscaled) fun _ hinv hc heffect => heffect.numeric hc hinv
  have heffect : Effect e c (c.run e) := c.effect_run (h.shaped hmade)
  refine ⟨heffect.announces hnumeric.proper (h.kept hmade).idle, fun b => heffect.answer,
    fun p hp habsent => ?_, ?_⟩
  · rw [run_absent hp habsent]
    exact ⟨rfl, rfl⟩
  · rintro rfl hlost
    rw [run_empty hlost]
    exact ⟨rfl, rfl⟩

/-- The temperature sensor of a thermostat, at twenty-one and a half degrees. -/
def warmSensor : Entity :=
  ((Call.device 215.0).run (sensor (.keyed (.int 0) "temperature") 10.0)).entity

theorem Career.told_sensor :
    (Call.native 21.5).Told warmSensor ∧ (Call.unavailable).Told warmSensor ∧
      (Call.unavailable.run warmSensor).flushes =
        [sensor (.keyed (.int 0) "temperature") 10.0] := by
  have hscaled : (sensor (.keyed (.int 0) "temperature") 10.0).Scaled := by
    intro m hm
    cases hm
    decide
  have hcareer : Career Call.Proper (sensor (.keyed (.int 0) "temperature") 10.0) warmSensor :=
    .call .made (c := .device 215.0) (by decide : (215.0 : Float) ≠ Float.nan)
  exact ⟨Career.told (.sensor _ _) hscaled hcareer _, Career.told (.sensor _ _) hscaled hcareer _,
    rfl⟩

end Entity

end Appliance
