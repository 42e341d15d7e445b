-- SUMMARY: What each edit of a status takes in, and that it tells a change exactly where there is one.

import Appliance.Proofs.Report

namespace Appliance

/-! ## Reports

A report says something of some parts and is silent on the others. Each edit
of a status takes in a report that does not depend on the status. -/

abbrev Report := (p : Part) → Option p.Value

namespace Report

/-- No part is reported as something that differs from itself. -/
def Proper (ρ : Report) : Prop := ∀ p v, ρ p = some v → Appliance.Proper v

def ofPower (on : Bool) : Report
  | .power => some (some on)
  | _ => none

def ofDevice (x : Float) : Report
  | .device => some (some x)
  | _ => none

def ofState (text : String) : Report
  | .state => some (some text)
  | _ => none

def ofMode (mode : Int64) : Report
  | .mode => some (some mode)
  | _ => none

def ofHumidity (humidity : Float) : Report
  | .humidity => some (some humidity)
  | _ => none

def ofExtra (attributes : List (String × Json)) : Report
  | .extra => some attributes
  | _ => none

def ofStateWith (text : String) (attributes : List (String × Json)) : Report
  | .state => some (some text)
  | .extra => some attributes
  | _ => none

def ofDeviceWith (x : Float) (attributes : List (String × Json)) : Report
  | .device => some (some x)
  | .extra => some attributes
  | _ => none

def ofLight (r : Light.Report) : Report
  | .power => r.power.map some
  | .luminance => r.luminance.map some
  | .rgb => r.rgb.map some
  | .temperature => r.temperature.map some
  | .effect => r.mode.map Light.effectOf
  | _ => none

def ofPlayer (r : Player.Report) : Report
  | .state => r.mute.map fun m => some (Player.activity m)
  | .muted => r.mute.map some
  | .track => r.song.map some
  | .title => r.song.map Player.title?
  | .volume => r.volume.map fun step => some (Player.levelOfStep step)
  | _ => none

def ofClimate (r : Climate.Report) : Report
  | .power => some (some r.power)
  | .mode => some (some r.mode)
  | .extra => some r.attributes
  | .min => Climate.degrees r.min
  | .max => Climate.degrees r.max
  | .current => Climate.degrees r.current
  | .target => Climate.degrees r.target
  | .heating => r.active.map fun active => some (active && r.power)
  | _ => none

end Report

/-! ## Edits -/

namespace Status

/-- A report says something else of a part. -/
def differs (s : Status) (ρ : Report) : Bool :=
  Part.all.any fun p => Part.clash (ρ p) (s.datum? p)

theorem differs_iff {s : Status} {ρ : Report} :
    s.differs ρ = true ↔ ∃ p v a, ρ p = some v ∧ s.datum? p = some a ∧ (a == v) = false := by
  simp [differs, Part.clash_iff]

/-- The second status is the first with a report taken in. -/
structure Settles (ρ : Report) (s s' : Status) : Prop where
  clear : s'.clear = s.clear
  consistent : s.Consistent → s'.Consistent
  datum : ∀ p, s'.datum? p = Part.take (ρ p) (s.datum? p)

/-- A report that says nothing else changes nothing. -/
theorem Settles.eq_of_not_differs {ρ : Report} {s s' : Status} (h : Settles ρ s s')
    (hs : s.Consistent) (hd : s.differs ρ = false) (ha : s'.available = s.available) :
    s' = s := by
  refine ext_datum (h.consistent hs) hs h.clear ha fun p => ?_
  rw [h.datum]
  apply Part.take_of_not_clash
  rw [← Bool.not_eq_true] at hd ⊢
  intro hclash
  obtain ⟨v, a, hv, ha, hne⟩ := Part.clash_iff.1 hclash
  exact hd (differs_iff.2 ⟨p, v, a, hv, ha, hne⟩)

theorem Settles.beq_of_differs {ρ : Report} {s s' : Status} (h : Settles ρ s s')
    (hd : s.differs ρ = true) : (s == s') = false := by
  obtain ⟨p, v, a, hv, ha, hne⟩ := differs_iff.1 hd
  rw [← Bool.not_eq_true]
  intro hsame
  have hp := beq_datum? hsame p
  rw [h.datum, hv, ha] at hp
  simp [Part.take, assign_some, hne] at hp

theorem Settles.ne_of_differs {ρ : Report} {s s' : Status} (h : Settles ρ s s')
    (hρ : ρ.Proper) (hd : s.differs ρ = true) : s ≠ s' := by
  rintro rfl
  obtain ⟨p, v, a, hv, ha, hne⟩ := differs_iff.1 hd
  have hp := h.datum p
  rw [hv, ha, Part.take_carried, assign_some, hne] at hp
  obtain rfl : a = v := by simpa using hp
  rw [hρ p a hv] at hne
  cases hne

/-- An edit takes in a report, and tells whether it says something else. -/
structure Edits (ρ : Report) (s : Status) (t : Tracked Status) : Prop where
  settles : Settles ρ s t.value
  available : t.value.available = s.available
  changed : t.changed = s.differs ρ

private theorem Consistent.congr {s t : Status} (h : s.Consistent)
    (hm : t.measure = s.measure) (hx : t.selection = s.selection) : t.Consistent :=
  ⟨fun m ht => h.native m (hm ▸ ht), fun x ht => h.preset x (hx ▸ ht)⟩

private theorem Consistent.setDevice {s : Status} (h : s.Consistent) (x : Float) :
    (s.setDevice x).value.Consistent := by
  refine ⟨fun m hm => ?_, h.preset⟩
  simp only [Status.setDevice, Tracked.value_bind, Tracked.value_within, Tracked.value_pure,
    Option.map_eq_some_iff] at hm
  obtain ⟨m', hm', rfl⟩ := hm
  unfold Measure.setDevice
  split
  · exact h.native m' hm'
  · rfl

private theorem Consistent.select {s : Status} (h : s.Consistent) (mode : Int64) :
    (s.select mode).value.Consistent := by
  refine ⟨h.native, fun x hx => ?_⟩
  simp only [Status.select, Tracked.value_bind, Tracked.value_within, Tracked.value_pure,
    Option.map_eq_some_iff] at hx
  obtain ⟨x', hx', rfl⟩ := hx
  unfold Selection.select
  split
  · exact h.preset x' hx'
  · rfl

private theorem clear_setDevice (m : Measure) (x : Float) :
    (m.setDevice x).value.clear = m.clear := by
  unfold Measure.setDevice
  split <;> rfl

private theorem clear_select (x : Selection) (mode : Int64) :
    (x.select mode).value.clear = x.clear := by
  unfold Selection.select
  split <;> rfl

/-- A measure is compared by the device's units alone. -/
private theorem device_setDevice (m : Measure) (x : Float) :
    assign m.device (some (some x)) =
      ⟨(m.setDevice x).value.device, (m.setDevice x).changed⟩ := by
  rw [Measure.setDevice, assign_some]
  split <;> rfl

private theorem mode_select (x : Selection) (mode : Int64) :
    assign x.mode (some (some mode)) =
      ⟨(x.select mode).value.mode, (x.select mode).changed⟩ := by
  rw [Selection.select, assign_some]
  split <;> rfl

theorem edits_setPower (on : Bool) (s : Status) : Edits (.ofPower on) s (s.setPower on) := by
  refine ⟨⟨?_, fun h => h.congr rfl rfl, fun p => ?_⟩, rfl, ?_⟩
  · cases hs : s.power <;> simp [setPower, clear, hs]
  · cases p <;> simp [setPower, datum?, Report.ofPower]
    rfl
  · simp [setPower, differs, Part.all, Report.ofPower, datum?]
    rfl

theorem edits_setState (text : String) (s : Status) :
    Edits (.ofState text) s (s.setState text) := by
  refine ⟨⟨?_, fun h => h.congr rfl rfl, fun p => ?_⟩, rfl, ?_⟩
  · cases hs : s.state <;> simp [setState, clear, hs]
  · cases p <;> simp [setState, datum?, Report.ofState]
    rfl
  · simp [setState, differs, Part.all, Report.ofState, datum?]
    rfl

theorem edits_setExtra (attributes : List (String × Json)) (s : Status) :
    Edits (.ofExtra attributes) s (s.setExtra attributes) := by
  refine ⟨⟨rfl, fun h => h.congr rfl rfl, fun p => ?_⟩, rfl, ?_⟩
  · cases p <;> simp [setExtra, datum?, Report.ofExtra]
  · simp [setExtra, differs, Part.all, Report.ofExtra, datum?]

theorem edits_setHumidity (humidity : Float) (s : Status) :
    Edits (.ofHumidity humidity) s (s.setHumidity humidity) := by
  refine ⟨⟨?_, fun h => h.congr rfl rfl, fun p => ?_⟩, rfl, ?_⟩
  · cases hs : s.climate <;> simp [setHumidity, clear, hs]
  · cases p <;> cases hs : s.climate <;>
      simp [setHumidity, datum?, Report.ofHumidity, hs, Climate.reviseHumidity]
  · cases hs : s.climate <;>
      simp [setHumidity, differs, Part.all, Report.ofHumidity, datum?, hs,
        Climate.reviseHumidity]

theorem edits_setDevice (x : Float) (s : Status) :
    Edits (.ofDevice x) s (s.setDevice x) := by
  refine ⟨⟨?_, fun h => h.setDevice x, fun p => ?_⟩, rfl, ?_⟩
  · cases hs : s.measure <;> simp [setDevice, clear, hs, clear_setDevice]
  · cases p <;> cases hs : s.measure <;>
      simp [setDevice, datum?, Report.ofDevice, hs, device_setDevice]
  · cases hs : s.measure <;>
      simp [setDevice, differs, Part.all, Report.ofDevice, datum?, hs, device_setDevice]

theorem edits_select (mode : Int64) (s : Status) : Edits (.ofMode mode) s (s.select mode) := by
  refine ⟨⟨?_, fun h => h.select mode, fun p => ?_⟩, rfl, ?_⟩
  · cases hs : s.selection <;> simp [select, clear, hs, clear_select]
  · cases p <;> cases hs : s.selection <;>
      simp [select, datum?, Report.ofMode, hs, mode_select]
  · cases hs : s.selection <;>
      simp [select, differs, Part.all, Report.ofMode, datum?, hs, mode_select]

theorem edits_setStateWith (text : String) (attributes : List (String × Json)) (s : Status) :
    Edits (.ofStateWith text attributes) s
      (do
        let s ← s.setState text
        s.setExtra attributes) := by
  refine ⟨⟨?_, fun h => h.congr rfl rfl, fun p => ?_⟩, rfl, ?_⟩
  · cases hs : s.state <;> simp [setState, setExtra, clear, hs]
  · cases p <;> simp [setState, setExtra, datum?, Report.ofStateWith]
    rfl
  · simp [setState, setExtra, differs, Part.all, Report.ofStateWith, datum?]
    exact Bool.or_comm _ _

theorem edits_setDeviceWith (x : Float) (attributes : List (String × Json)) (s : Status) :
    Edits (.ofDeviceWith x attributes) s
      (do
        let s ← s.setDevice x
        s.setExtra attributes) := by
  refine ⟨⟨?_, fun h => (h.setDevice x).congr rfl rfl, fun p => ?_⟩, rfl, ?_⟩
  · cases hs : s.measure <;> simp [setDevice, setExtra, clear, hs, clear_setDevice]
  · cases p <;> cases hs : s.measure <;>
      simp [setDevice, setExtra, datum?, Report.ofDeviceWith, hs, device_setDevice]
  · cases hs : s.measure <;>
      simp [setDevice, setExtra, differs, Part.all, Report.ofDeviceWith, datum?, hs,
        device_setDevice]

theorem edits_reviseLight (r : Light.Report) {s : Status} (h : s.light.isSome) :
    Edits (.ofLight r) s (s.reviseLight r) := by
  obtain ⟨l, hl⟩ := Option.isSome_iff_exists.1 h
  refine ⟨⟨?_, fun h => h.congr rfl rfl, fun p => ?_⟩, rfl, ?_⟩
  · cases hs : s.power <;> simp [reviseLight, clear, hs, hl]
  · cases p <;> simp [reviseLight, datum?, Report.ofLight, hl, Light.revise]
    rfl
  · cases hs : s.power <;>
      simp [reviseLight, differs, Part.all, Report.ofLight, datum?, hl, hs, Light.revise]

theorem edits_revisePlayer (r : Player.Report) (s : Status) :
    Edits (.ofPlayer r) s (s.revisePlayer r) := by
  refine ⟨⟨?_, fun h => h.congr rfl rfl, fun p => ?_⟩, rfl, ?_⟩
  · cases hs : s.state <;> cases hp : s.player <;> simp [revisePlayer, clear, hs, hp]
  · cases p <;> cases hs : s.player <;>
      simp [revisePlayer, datum?, Report.ofPlayer, hs, Player.revise] <;> rfl
  · cases hs : s.state <;> cases hp : s.player <;>
      simp [revisePlayer, differs, Part.all, Report.ofPlayer, datum?, hs, hp, Player.revise,
        Bool.or_assoc]

theorem edits_reviseClimate (r : Climate.Report) {s : Status} (h : s.climate.isSome) :
    Edits (.ofClimate r) s (s.reviseClimate r) := by
  obtain ⟨c, hc⟩ := Option.isSome_iff_exists.1 h
  refine ⟨⟨?_, fun h => ?_, fun p => ?_⟩, rfl, ?_⟩
  · cases hs : s.power <;> cases hx : s.selection <;>
      simp [reviseClimate, setPower, select, setExtra, clear, hs, hx, hc, clear_select]
  · exact (h.select r.mode).congr rfl rfl
  · cases p <;> cases hx : s.selection <;>
      simp [reviseClimate, setPower, select, setExtra, datum?, Report.ofClimate, hc, hx,
        mode_select, Climate.revise] <;> rfl
  · cases hs : s.power <;> cases hx : s.selection <;>
      simp [reviseClimate, setPower, select, setExtra, differs, Part.all, Report.ofClimate, datum?,
        hc, hs, hx, mode_select, Climate.revise]

end Status

end Appliance
