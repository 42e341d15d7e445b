-- SUMMARY: Statuses part by part, and the reports that settle parts of them.

import Appliance.Proofs.Sameness
import Appliance.Status

namespace Appliance

/-! ## Tracked steps

A report on a value that is there is taken in by `assign`. Whether it changes
anything hangs on the value and the report alone. -/

section Tracked

variable {α : Type}

@[simp] theorem Tracked.value_within (f : α → Tracked α) (o : Option α) :
    (Tracked.within f o).value = o.map fun a => (f a).value := by
  cases o <;> rfl

@[simp] theorem Tracked.changed_within (f : α → Tracked α) (o : Option α) :
    (Tracked.within f o).changed = o.any fun a => (f a).changed := by
  cases o with
  | none => rfl
  | some a => simp [Tracked.within]

namespace Part

variable [BEq α]

/-- The value of a part after a report on it, if the part is carried. -/
def take (r o : Option α) : Option α := o.map fun o => (assign o r).value

/-- The part is carried and the report says something else of it. -/
def clash (r o : Option α) : Bool := o.any fun o => (assign o r).changed

@[simp] theorem take_none (o : Option α) : take none o = o := by
  cases o <;> rfl

@[simp] theorem clash_none (o : Option α) : clash none o = false := by
  cases o <;> rfl

@[simp] theorem take_carried (r : Option α) (a : α) :
    take r (some a) = some (assign a r).value := rfl

@[simp] theorem clash_carried (r : Option α) (a : α) :
    clash r (some a) = (assign a r).changed := rfl

@[simp] theorem take_missing (r : Option α) : take r none = none := rfl

@[simp] theorem clash_missing (r : Option α) : clash r none = false := rfl

theorem take_of_not_clash {r o : Option α} (h : clash r o = false) : take r o = o := by
  cases o with
  | none => rfl
  | some o =>
    cases r with
    | none => rfl
    | some v =>
      rw [clash_carried, assign_some] at h
      rw [take_carried, assign_some]
      split at h <;> simp_all

/-- Where the value and the report are numbers, so is what is made of them. -/
theorem proper_take {r : Option α} {a a' : α} (hr : ∀ v, r = some v → Proper v) (ha : Proper a)
    (h : take r (some a) = some a') : Proper a' := by
  cases r with
  | none =>
    rw [take_none] at h
    obtain rfl := Option.some.inj h
    exact ha
  | some v =>
    rw [take_carried, assign_some] at h
    split at h
    · obtain rfl := Option.some.inj h
      exact ha
    · obtain rfl := Option.some.inj h
      exact hr v rfl

theorem clash_iff {r o : Option α} :
    clash r o = true ↔ ∃ v a, r = some v ∧ o = some a ∧ (a == v) = false := by
  cases o with
  | none => simp [clash]
  | some a =>
    cases r with
    | none => simp [clash]
    | some v =>
      rw [clash_carried, assign_some]
      split <;> simp_all

end Part

end Tracked

/-! ## Parts

A status is seen as the values of its parts. What is computed from others,
natural measures and presets, is no part. -/

/-- A part of a status. -/
inductive Part where
  | device
  | power
  | state
  | mode
  | luminance
  | rgb
  | temperature
  | effect
  | min
  | max
  | current
  | target
  | humidity
  | heating
  | muted
  | track
  | title
  | volume
  | extra
deriving DecidableEq

namespace Part

/-- The parts, in an order in which items report on them. -/
def all : List Part :=
  [.device, .power, .mode, .extra, .min, .max, .current, .target, .heating, .humidity,
    .luminance, .rgb, .temperature, .effect, .muted, .track, .title, .volume, .state]

@[simp] theorem mem_all (p : Part) : p ∈ all := by
  cases p <;> decide

/-- The values of a part. -/
@[reducible] def Value : Part → Type
  | .power | .heating | .muted => Option Bool
  | .state | .effect | .title => Option String
  | .mode | .luminance | .rgb | .temperature | .track => Option Int64
  | .device | .min | .max | .current | .target | .humidity | .volume => Option Float
  | .extra => List (String × Json)

instance (p : Part) : BEq p.Value := by
  cases p <;> infer_instance

instance (p : Part) : PartialEquivBEq p.Value := by
  cases p <;> infer_instance

end Part

namespace Status

/-- The value of a part, if the status carries it. -/
def datum? (s : Status) : (p : Part) → Option p.Value
  | .device => s.measure.map (·.device)
  | .power => s.power
  | .state => s.state
  | .mode => s.selection.map (·.mode)
  | .luminance => s.light.map (·.luminance)
  | .rgb => s.light.map (·.rgb)
  | .temperature => s.light.map (·.temperature)
  | .effect => s.light.map (·.effect)
  | .min => s.climate.map (·.min)
  | .max => s.climate.map (·.max)
  | .current => s.climate.map (·.current)
  | .target => s.climate.map (·.target)
  | .humidity => s.climate.map (·.humidity)
  | .heating => s.climate.map (·.heating)
  | .muted => s.player.map (·.muted)
  | .track => s.player.map (·.track)
  | .title => s.player.map (·.title)
  | .volume => s.player.map (·.volume)
  | .extra => some s.extra

/-- What is computed from other values agrees with them. -/
structure Consistent (s : Status) : Prop where
  native : ∀ m, s.measure = some m → m.native = m.device.map (· / m.scale)
  preset : ∀ x, s.selection = some x → x.preset = x.mode.bind x.presets.preset?

theorem clear_clear (s : Status) : s.clear.clear = s.clear := by
  simp only [clear, Option.map_map]
  rfl

/-- Where nothing is known nothing disagrees. -/
theorem consistent_clear (s : Status) : s.clear.Consistent := by
  refine ⟨fun m hm => ?_, fun x hx => ?_⟩
  · obtain ⟨m', -, rfl⟩ := Option.map_eq_some_iff.1 hm
    rfl
  · obtain ⟨x', -, rfl⟩ := Option.map_eq_some_iff.1 hx
    rfl

private theorem measure_eq {s t : Status} (hs : s.Consistent) (ht : t.Consistent)
    (hclear : s.clear = t.clear) (h : s.datum? .device = t.datum? .device) :
    s.measure = t.measure := by
  have hblank : s.clear.measure = t.clear.measure := by rw [hclear]
  cases hm : s.measure with
  | none => cases hm' : t.measure <;> simp_all [clear]
  | some m =>
    cases hm' : t.measure with
    | none => simp_all [clear]
    | some m' =>
      obtain ⟨device, native, scale⟩ := m
      obtain ⟨device', native', scale'⟩ := m'
      have hn := hs.native _ hm
      have hn' := ht.native _ hm'
      simp_all [clear, datum?, Measure.clear]

theorem selection_eq {s t : Status} (hs : s.Consistent) (ht : t.Consistent)
    (hclear : s.clear = t.clear) (h : s.datum? .mode = t.datum? .mode) :
    s.selection = t.selection := by
  have hblank : s.clear.selection = t.clear.selection := by rw [hclear]
  cases hx : s.selection with
  | none => cases hx' : t.selection <;> simp_all [clear]
  | some x =>
    cases hx' : t.selection with
    | none => simp_all [clear]
    | some x' =>
      obtain ⟨mode, preset, presets⟩ := x
      obtain ⟨mode', preset', presets'⟩ := x'
      have hp := hs.preset _ hx
      have hp' := ht.preset _ hx'
      simp_all [clear, datum?, Selection.clear]

private theorem light_eq {s t : Status} (h : ∀ p, s.datum? p = t.datum? p) :
    s.light = t.light := by
  have hlum := h .luminance
  have hrgb := h .rgb
  have htemp := h .temperature
  have heffect := h .effect
  simp only [datum?] at hlum hrgb htemp heffect
  rcases hl : s.light with _ | ⟨lum, rgb, temp, effect⟩ <;>
    rcases hl' : t.light with _ | ⟨lum', rgb', temp', effect'⟩ <;> simp_all

private theorem climate_eq {s t : Status} (h : ∀ p, s.datum? p = t.datum? p) :
    s.climate = t.climate := by
  have hmin := h .min
  have hmax := h .max
  have hcurrent := h .current
  have htarget := h .target
  have hhumidity := h .humidity
  have hheating := h .heating
  simp only [datum?] at hmin hmax hcurrent htarget hhumidity hheating
  rcases hc : s.climate with _ | ⟨cur, tgt, lo, hi, hum, heat⟩ <;>
    rcases hc' : t.climate with _ | ⟨cur', tgt', lo', hi', hum', heat'⟩ <;> simp_all

private theorem player_eq {s t : Status} (h : ∀ p, s.datum? p = t.datum? p) :
    s.player = t.player := by
  have hmuted := h .muted
  have htrack := h .track
  have htitle := h .title
  have hvolume := h .volume
  simp only [datum?] at hmuted htrack htitle hvolume
  rcases hp : s.player with _ | ⟨muted, track, title, volume⟩ <;>
    rcases hp' : t.player with _ | ⟨muted', track', title', volume'⟩ <;> simp_all

/-- A status is known from its parts and from what it has when nothing is known. -/
theorem ext_datum {s t : Status} (hs : s.Consistent) (ht : t.Consistent)
    (hclear : s.clear = t.clear) (havailable : s.available = t.available)
    (h : ∀ p, s.datum? p = t.datum? p) : s = t := by
  have hmeasure := measure_eq hs ht hclear (h .device)
  have hselection := selection_eq hs ht hclear (h .mode)
  have hlight := light_eq h
  have hclimate := climate_eq h
  have hplayer := player_eq h
  have hpower : s.power = t.power := h .power
  have hstate : s.state = t.state := h .state
  have hextra : s.extra = t.extra := by simpa [datum?] using h .extra
  clear h
  obtain ⟨a, m, pw, st, sel, l, c, pl, x⟩ := s
  obtain ⟨a', m', pw', st', sel', l', c', pl', x'⟩ := t
  simp_all

/-! ### Equality part by part -/

private theorem map_beq {α β : Type} [BEq α] [BEq β] {f : α → β} {a b : Option α}
    (h : (a == b) = true) (hf : ∀ x y, (x == y) = true → (f x == f y) = true) :
    (a.map f == b.map f) = true := by
  cases a <;> cases b <;> simp_all

theorem measure_beq (m m' : Measure) :
    (m == m') = (m.device == m'.device && (m.native == m'.native && m.scale == m'.scale)) := by
  cases m
  cases m'
  rfl

theorem climate_beq (c c' : Climate) :
    (c == c') = (c.current == c'.current && (c.target == c'.target && (c.min == c'.min &&
      (c.max == c'.max && (c.humidity == c'.humidity && c.heating == c'.heating))))) := by
  cases c
  cases c'
  rfl

theorem player_beq (p p' : Player) :
    (p == p') = (p.muted == p'.muted && (p.track == p'.track && (p.title == p'.title &&
      p.volume == p'.volume))) := by
  cases p
  cases p'
  rfl

theorem beq_eq (s t : Status) :
    (s == t) = (s.available == t.available && (s.measure == t.measure && (s.power == t.power &&
      (s.state == t.state && (s.selection == t.selection && (s.light == t.light &&
        (s.climate == t.climate && (s.player == t.player && s.extra == t.extra)))))))) := by
  obtain ⟨a, m, pw, st, sel, l, c, pl, x⟩ := s
  obtain ⟨a', m', pw', st', sel', l', c', pl', x'⟩ := t
  rfl

/-- Equal statuses have equal parts. -/
theorem beq_datum? {s t : Status} (h : (s == t) = true) (p : Part) :
    (s.datum? p == t.datum? p) = true := by
  rw [beq_eq] at h
  simp only [Bool.and_eq_true] at h
  obtain ⟨-, hm, hpw, hst, hsel, hl, hc, hpl, hx⟩ := h
  cases p with
  | device => exact map_beq hm fun x y h => by simp_all [measure_beq]
  | power => exact hpw
  | state => exact hst
  | mode => exact map_beq hsel fun x y h => by simp_all
  | luminance | rgb | temperature | effect => exact map_beq hl fun x y h => by simp_all
  | min | max | current | target | humidity | heating =>
    exact map_beq hc fun x y h => by simp_all [climate_beq]
  | muted | track | title | volume => exact map_beq hpl fun x y h => by simp_all [player_beq]
  | extra => exact hx

end Status

end Appliance
