-- SUMMARY: The edits that entities commit, each as a whole: what they make of a status, and that they tell a change where there is one.

import Appliance.Proofs.Edit

namespace Appliance

/-! ## Candid steps

A step that tells of no change has made none. -/

namespace Tracked

variable {α β : Type}

def Candid (t : Tracked α) (old : α) : Prop := t.changed = false → t.value = old

theorem candid_pure (a : α) : (pure a : Tracked α).Candid a := fun _ => rfl

theorem Candid.bind {x : Tracked α} {f : α → Tracked β} {a : α} {b : β} (hx : x.Candid a)
    (hf : (f a).Candid b) : (x >>= f).Candid b := by
  intro hsilent
  obtain ⟨hfirst, hrest⟩ := Bool.or_eq_false_iff.1 hsilent
  have hvalue : x.value = a := hx hfirst
  rw [hvalue] at hrest
  rw [value_bind, hvalue]
  exact hf hrest

theorem candid_within {f : α → Tracked α} (h : ∀ a, (f a).Candid a) (o : Option α) :
    (within f o).Candid o := by
  cases o with
  | none => exact candid_pure none
  | some a => exact (h a).bind (candid_pure (some a))

theorem candid_assign [BEq α] (old : α) (new : Option α) : (assign old new).Candid old := by
  cases new with
  | none => exact fun _ => rfl
  | some v =>
    intro hsilent
    rw [assign_some] at hsilent ⊢
    split
    · rfl
    · rename_i hne
      rw [if_neg hne] at hsilent
      cases hsilent

end Tracked

open Tracked

theorem Measure.candid_setDevice (x : Float) (m : Measure) : (m.setDevice x).Candid m := by
  unfold setDevice
  split
  · exact fun _ => rfl
  · exact nofun

theorem Measure.candid_setNative (x : Float) (m : Measure) : (m.setNative x).Candid m := by
  unfold setNative
  split
  · exact fun _ => rfl
  · exact nofun

theorem Selection.candid_select (mode : Int64) (x : Selection) : (x.select mode).Candid x := by
  unfold select
  split
  · exact fun _ => rfl
  · exact nofun

theorem Light.candid_revise (r : Light.Report) (l : Light) : (l.revise r).Candid l :=
  (candid_assign _ _).bind <| (candid_assign _ _).bind <| (candid_assign _ _).bind <|
    (candid_assign _ _).bind <| candid_pure l

theorem Player.candid_revise (r : Player.Report) (p : Player) : (p.revise r).Candid p :=
  (candid_assign _ _).bind <| (candid_assign _ _).bind <| (candid_assign _ _).bind <|
    (candid_assign _ _).bind <| candid_pure p

theorem Climate.candid_revise (r : Climate.Report) (c : Climate) : (c.revise r).Candid c :=
  (candid_assign _ _).bind <| (candid_assign _ _).bind <| (candid_assign _ _).bind <|
    (candid_assign _ _).bind <| (candid_assign _ _).bind <| candid_pure c

theorem Climate.candid_reviseHumidity (humidity : Float) (c : Climate) :
    (c.reviseHumidity humidity).Candid c :=
  (candid_assign _ _).bind <| candid_pure c

/-! ## Revisions

The edits of a status that an entity commits, each as a whole. -/

namespace Status

inductive Revision where
  | power (on : Bool)
  | device (x : Float)
  | native (x : Float)
  | state (text : String)
  | mode (mode : Int64)
  | extra (attributes : List (String × Json))
  | humidity (humidity : Float)
  | stateWith (text : String) (attributes : List (String × Json))
  | deviceWith (x : Float) (attributes : List (String × Json))
  | light (r : Light.Report)
  | player (r : Player.Report)
  | climate (r : Climate.Report)

def revise (s : Status) : Revision → Tracked Status
  | .power on => s.setPower on
  | .device x => s.setDevice x
  | .native x => s.setNative x
  | .state text => s.setState text
  | .mode mode => s.select mode
  | .extra attributes => s.setExtra attributes
  | .humidity humidity => s.setHumidity humidity
  | .stateWith text attributes => do
    let s ← s.setState text
    s.setExtra attributes
  | .deviceWith x attributes => do
    let s ← s.setDevice x
    s.setExtra attributes
  | .light r => s.reviseLight r
  | .player r => s.revisePlayer r
  | .climate r => s.reviseClimate r

namespace Revision

/-- Reports on lights and on thermostats would put in a component that is missing. -/
def Fits (s : Status) : Revision → Prop
  | light _ => s.light.isSome = true
  | climate _ => s.climate.isSome = true
  | _ => True

/-- What the revision takes in. A measure in natural units is no part of a
    status: what it makes of the device's units hangs on the scale. -/
def report? : Revision → Option Report
  | power on => some (.ofPower on)
  | device x => some (.ofDevice x)
  | native _ => none
  | state text => some (.ofState text)
  | mode m => some (.ofMode m)
  | extra attributes => some (.ofExtra attributes)
  | humidity x => some (.ofHumidity x)
  | stateWith text attributes => some (.ofStateWith text attributes)
  | deviceWith x attributes => some (.ofDeviceWith x attributes)
  | light r => some (.ofLight r)
  | player r => some (.ofPlayer r)
  | climate r => some (.ofClimate r)

/-- All numbers that the revision sets are numbers. -/
def Proper (r : Revision) : Prop :=
  (∀ ρ, r.report? = some ρ → ρ.Proper) ∧ ∀ x, r = native x → x ≠ Float.nan

theorem Proper.of_report {r : Revision} {ρ : Report} (hr : r.report? = some ρ) (h : ρ.Proper) :
    r.Proper := by
  refine ⟨fun ρ' hρ' => ?_, ?_⟩
  · obtain rfl : ρ = ρ' := Option.some.inj (hr.symm.trans hρ')
    exact h
  · rintro x rfl
    cases hr

/-- What the revision makes of a measure. -/
def onMeasure (m : Measure) : Revision → Measure
  | device x | deviceWith x _ => (m.setDevice x).value
  | native x => (m.setNative x).value
  | _ => m

/-- What the revision makes of a selection. -/
def onSelection (x : Selection) : Revision → Selection
  | mode m => (x.select m).value
  | climate r => (x.select r.mode).value
  | _ => x

/-- What the revision makes of a player. -/
def onPlayer (p : Player) : Revision → Player
  | player r => (p.revise r).value
  | _ => p

end Revision

section Revise

variable {r : Revision} {s : Status}

theorem edits_revise {ρ : Report} (hfits : r.Fits s) (h : r.report? = some ρ) :
    Edits ρ s (s.revise r) := by
  cases r <;> cases h
  case power on => exact s.edits_setPower on
  case device x => exact s.edits_setDevice x
  case state text => exact s.edits_setState text
  case mode mode => exact s.edits_select mode
  case extra attributes => exact s.edits_setExtra attributes
  case humidity humidity => exact s.edits_setHumidity humidity
  case stateWith text attributes => exact s.edits_setStateWith text attributes
  case deviceWith x attributes => exact s.edits_setDeviceWith x attributes
  case light r => exact s.edits_reviseLight r hfits
  case player r => exact s.edits_revisePlayer r
  case climate r => exact s.edits_reviseClimate r hfits

theorem candid_setPower (on : Bool) (s : Status) : (s.setPower on).Candid s :=
  (candid_within (fun _ => candid_assign _ _) _).bind (candid_pure s)

theorem candid_setDevice (x : Float) (s : Status) : (s.setDevice x).Candid s :=
  (candid_within (Measure.candid_setDevice x) _).bind (candid_pure s)

theorem candid_setNative (x : Float) (s : Status) : (s.setNative x).Candid s :=
  (candid_within (Measure.candid_setNative x) _).bind (candid_pure s)

theorem candid_setState (text : String) (s : Status) : (s.setState text).Candid s :=
  (candid_within (fun _ => candid_assign _ _) _).bind (candid_pure s)

theorem candid_select (mode : Int64) (s : Status) : (s.select mode).Candid s :=
  (candid_within (Selection.candid_select mode) _).bind (candid_pure s)

theorem candid_setExtra (attributes : List (String × Json)) (s : Status) :
    (s.setExtra attributes).Candid s :=
  (candid_assign _ _).bind (candid_pure s)

theorem candid_setHumidity (humidity : Float) (s : Status) : (s.setHumidity humidity).Candid s :=
  (candid_within (Climate.candid_reviseHumidity humidity) _).bind (candid_pure s)

theorem candid_reviseLight (r : Light.Report) {s : Status} (h : s.light.isSome = true) :
    (s.reviseLight r).Candid s := by
  obtain ⟨l, hl⟩ := Option.isSome_iff_exists.1 h
  have hsame : ({ s with light := some l } : Status) = s := by rw [← hl]
  refine (candid_within (fun _ => candid_assign _ _) _).bind ?_
  rw [hl]
  refine (Light.candid_revise r l).bind ?_
  exact fun _ => hsame

theorem candid_revisePlayer (r : Player.Report) (s : Status) : (s.revisePlayer r).Candid s :=
  (candid_within (Player.candid_revise r) _).bind <|
    (candid_within (fun _ => candid_assign _ _) _).bind (candid_pure s)

theorem candid_reviseClimate (r : Climate.Report) {s : Status} (h : s.climate.isSome = true) :
    (s.reviseClimate r).Candid s := by
  obtain ⟨c, hc⟩ := Option.isSome_iff_exists.1 h
  have hsame : ({ s with climate := some c } : Status) = s := by rw [← hc]
  refine (candid_setPower r.power s).bind <| (candid_select r.mode s).bind <|
    (candid_setExtra r.attributes s).bind ?_
  rw [hc]
  refine (Climate.candid_revise r c).bind ?_
  exact fun _ => hsame

theorem candid_revise (hfits : r.Fits s) : (s.revise r).Candid s := by
  cases r with
  | power on => exact s.candid_setPower on
  | device x => exact s.candid_setDevice x
  | native x => exact s.candid_setNative x
  | state text => exact s.candid_setState text
  | mode mode => exact s.candid_select mode
  | extra attributes => exact s.candid_setExtra attributes
  | humidity humidity => exact s.candid_setHumidity humidity
  | stateWith text attributes =>
    exact (s.candid_setState text).bind (s.candid_setExtra attributes)
  | deviceWith x attributes =>
    exact (s.candid_setDevice x).bind (s.candid_setExtra attributes)
  | light r => exact candid_reviseLight r hfits
  | player r => exact s.candid_revisePlayer r
  | climate r => exact candid_reviseClimate r hfits

theorem available_revise (r : Revision) (s : Status) :
    (s.revise r).value.available = s.available := by
  cases r <;> rfl

theorem Revision.eq_native_of_report? (h : r.report? = none) : ∃ x, r = native x := by
  cases r with
  | native x => exact ⟨x, rfl⟩
  | _ => cases h

theorem differs_setNative {x : Float} (h : (s.setNative x).changed = true) :
    (s == (s.setNative x).value) = false := by
  cases hm : s.measure with
  | none => simp [setNative, hm] at h
  | some m =>
    simp only [setNative, hm, Tracked.changed_bind, Tracked.changed_within, Option.any_some,
      Tracked.changed_pure, Bool.or_false] at h
    unfold Measure.setNative at h
    split at h
    · cases h
    · rename_i hne
      have hmeasure : (m == (m.setNative x).value) = false := by
        rw [Measure.setNative, if_neg hne, measure_beq]
        simp [hne]
      simp [beq_eq, setNative, hm, hmeasure]

theorem clear_setNative (x : Float) (s : Status) : (s.setNative x).value.clear = s.clear := by
  have hmeasure : ∀ m : Measure, (m.setNative x).value.clear = m.clear := by
    intro m
    unfold Measure.setNative
    split <;> rfl
  cases hs : s.measure <;> simp [setNative, clear, hs, hmeasure]

theorem clear_revise (hfits : r.Fits s) : (s.revise r).value.clear = s.clear := by
  cases hr : r.report? with
  | some ρ => exact (edits_revise hfits hr).settles.clear
  | none =>
    obtain ⟨x, rfl⟩ := Revision.eq_native_of_report? hr
    exact s.clear_setNative x

/-- What tells of a change has made the status different. -/
theorem differs_revise (hfits : r.Fits s) (h : (s.revise r).changed = true) :
    (s == (s.revise r).value) = false := by
  cases hr : r.report? with
  | some ρ =>
    have hedits := edits_revise hfits hr
    exact hedits.settles.beq_of_differs (hedits.changed ▸ h)
  | none =>
    obtain ⟨x, rfl⟩ := Revision.eq_native_of_report? hr
    exact differs_setNative h

theorem measure_revise (r : Revision) (s : Status) :
    (s.revise r).value.measure = s.measure.map fun m => r.onMeasure m := by
  cases r <;>
    simp [revise, Revision.onMeasure, setPower, setDevice, setNative, setState, select, setExtra,
      setHumidity, reviseLight, revisePlayer, reviseClimate]

theorem selection_revise (r : Revision) (s : Status) :
    (s.revise r).value.selection = s.selection.map fun x => r.onSelection x := by
  cases r <;>
    simp [revise, Revision.onSelection, setPower, setDevice, setNative, setState, select, setExtra,
      setHumidity, reviseLight, revisePlayer, reviseClimate]

theorem player_revise (r : Revision) (s : Status) :
    (s.revise r).value.player = s.player.map fun p => r.onPlayer p := by
  cases r <;>
    simp [revise, Revision.onPlayer, setPower, setDevice, setNative, setState, select, setExtra,
      setHumidity, reviseLight, revisePlayer, reviseClimate]

end Revise

end Status

end Appliance
