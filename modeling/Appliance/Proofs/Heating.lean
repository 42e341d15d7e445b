-- SUMMARY: Thermostats that are off and still said to heat: what makes them so, and that nothing else does.

import Appliance.Proofs.ClimateSensors

namespace Appliance

namespace Device

open Entity (TookOps)

/-! ## Turning off

Only an item that speaks of the heating says whether a thermostat heats. A
thermostat that heats and is turned off in any other way is off and still said
to heat. -/

/-- The item says whether a thermostat is on, and nothing of the heating. -/
def Silent (ns : Namespace) (body : Json) (on : Bool) : Prop :=
  (ns = .toggle ∨ ns = .toggleX) ∧ body.flagAt? "onoff" = some on ∨
    ns = .thermostatMode ∧
      ∃ r, Entity.climateReport? body = some r ∧ r.power = on ∧ r.active = none

/-- The deed turns off what is on a channel without a word on the heating. -/
def Quells (c : Channel) : OperationDeed → Prop
  | .pass (ns, item) => item.channel = some c ∧ Silent ns item.body false
  | .carry id (.power _ _ on) => id = .channel c ∧ on = false
  | .carry _ (.mode _ _) | .carry _ (.spray _ _ _) | .carry _ (.player _ _ _) => False
  | .read _ | .forget | .keep _ => False

/-- The deed turns off no thermostat that heats without a word on the heating. -/
def Careful (d : Device) (x : OperationDeed) : Prop :=
  ∀ c k, d.entity? (.channel c) = some k → k.kind = .climate → k.heating? = some true →
    ¬Quells c x

/-! ### What items say to thermostats -/

section Items

variable {ns : Namespace} {body : Json}

theorem report?_toggle (hns : ns = .toggle ∨ ns = .toggleX) :
    (EntityOp.item ns body).report? .climate = (body.flagAt? "onoff").map .ofPower := by
  rcases hns with rfl | rfl <;> rfl

theorem report?_thermostat : (EntityOp.item .thermostatMode body).report? .climate =
    (Entity.climateReport? body).map .ofClimate := rfl

theorem says?_of_silent {on : Bool} (h : Silent ns body on) :
    EntityOp.says? .climate .power (.item ns body) = some (some on) ∧
      EntityOp.says? .climate .heating (.item ns body) = none := by
  unfold EntityOp.says?
  rcases h with ⟨hns, hflag⟩ | ⟨rfl, r, hreport, rfl, hactive⟩
  · rw [report?_toggle hns, hflag]
    exact ⟨rfl, rfl⟩
  · rw [report?_thermostat, hreport, Option.map_some, Option.bind_some, Option.bind_some]
    refine ⟨rfl, ?_⟩
    rw [Report.ofClimate, hactive]
    rfl

/-- An item that thermostats hear says whether they are on. What it says of the
    heating, if anything, it says of those that are on. -/
theorem item_cases (ns : Namespace) (body : Json) :
    (EntityOp.item ns body).heard .climate = false ∨ (∃ on, Silent ns body on) ∨
      ∃ on active, EntityOp.says? .climate .power (.item ns body) = some (some on) ∧
        EntityOp.says? .climate .heating (.item ns body) = some (some (active && on)) := by
  have htoggle : ns = .toggle ∨ ns = .toggleX →
      (EntityOp.item ns body).heard .climate = false ∨ ∃ on, Silent ns body on := by
    intro hns
    cases hflag : body.flagAt? "onoff" with
    | none =>
      rw [EntityOp.heard, report?_toggle hns, hflag]
      exact .inl rfl
    | some on => exact .inr ⟨on, .inl ⟨hns, hflag⟩⟩
  cases ns with
  | toggle => exact (htoggle (.inl rfl)).imp_right .inl
  | toggleX => exact (htoggle (.inr rfl)).imp_right .inl
  | thermostatMode =>
    unfold EntityOp.heard EntityOp.says?
    rw [report?_thermostat]
    cases hreport : Entity.climateReport? body with
    | none => exact .inl rfl
    | some r =>
      cases hactive : r.active with
      | none => exact .inr (.inl ⟨r.power, .inr ⟨rfl, r, hreport, rfl, hactive⟩⟩)
      | some active =>
        refine .inr (.inr ⟨r.power, active, rfl, ?_⟩)
        rw [Option.map_some, Option.bind_some, Report.ofClimate, hactive]
        rfl
  | _ => exact .inl rfl

end Items

/-! ### What thermostats make of it -/

section Entities

variable {k k' : Entity} {ops : List EntityOp}

theorem power?_of_unsaid (h : TookOps ops k k') (hunsaid : EntityOp.writes k.kind .power ops = []) :
    k'.power? = k.power? := congrArg Option.join (h.datum_of_unsaid hunsaid)

theorem heating?_of_unsaid (h : TookOps ops k k')
    (hunsaid : EntityOp.writes k.kind .heating ops = []) :
    k'.heating? = k.heating? := by
  rw [heating?_eq_join, heating?_eq_join, h.datum_of_unsaid hunsaid]

/-- What is told neither to be on or off nor to heat stays as it is. -/
theorem on_of_unsaid (h : TookOps ops k k') (hpower : EntityOp.writes k.kind .power ops = [])
    (hheating : EntityOp.writes k.kind .heating ops = [])
    (hon : k.heating? = some true → k.power? = some true) :
    k'.heating? = some true → k'.power? = some true := by
  rw [power?_of_unsaid h hpower, heating?_of_unsaid h hheating]
  exact hon

section Told

variable {op : EntityOp} (hs : k.Sound) (hkind : k.kind = .climate) (h : TookOps [op] k k')
include hs hkind h

theorem power?_of_told {on : Bool} (hpower : EntityOp.says? .climate .power op = some (some on)) :
    k'.power? = some on := by
  rw [← hkind] at hpower
  refine power?_of_said hs ?_ h hpower
  rw [hkind]
  rfl

theorem heating?_of_told {v : Option Bool}
    (hheating : EntityOp.says? .climate .heating op = some v) :
    k'.heating? = v := by
  obtain ⟨a, ha⟩ := hs.exists_datum hkind (p := .heating) rfl
  have hdatum := h.datum .heating
  rw [ha, EntityOp.writes_singleton, hkind, hheating] at hdatum
  rw [heating?_eq_join]
  exact congrArg Option.join (hdatum.trans (congrArg some (Part.overwrite_lawful [v] a)))

/-- A thermostat that is told to be on or off, and nothing of the heating, is said
    to heat as before. -/
theorem told_power {on : Bool} (hpower : EntityOp.says? .climate .power op = some (some on))
    (hheating : EntityOp.says? .climate .heating op = none) :
    k'.heating? = k.heating? ∧ k'.power? = some on := by
  refine ⟨heating?_of_unsaid h ?_, power?_of_told hs hkind h hpower⟩
  rw [hkind, EntityOp.writes_singleton, hheating]
  rfl

theorem on_of_power {on : Bool} (hpower : EntityOp.says? .climate .power op = some (some on))
    (hheating : EntityOp.says? .climate .heating op = none)
    (hquells : k.heating? = some true → on ≠ false) :
    k'.heating? = some true → k'.power? = some true := by
  obtain ⟨hsame, hon⟩ := told_power hs hkind h hpower hheating
  rw [hsame, hon]
  intro hheats
  rw [Bool.eq_true_of_not_eq_false (hquells hheats)]

end Told

theorem on_of_item {ns : Namespace} {body : Json} (hs : k.Sound) (hkind : k.kind = .climate)
    (h : TookOps [.item ns body] k k') (hon : k.heating? = some true → k.power? = some true)
    (hquells : k.heating? = some true → ¬Silent ns body false) :
    k'.heating? = some true → k'.power? = some true := by
  rcases item_cases ns body with hunheard | ⟨on, hsilent⟩ | ⟨on, active, hpower, hheating⟩
  · have hnil : ∀ p, EntityOp.writes k.kind p [EntityOp.item ns body] = [] := by
      intro p
      rw [hkind, EntityOp.writes_singleton, EntityOp.says?_of_not_heard hunheard]
      rfl
    exact on_of_unsaid h (hnil _) (hnil _) hon
  · obtain ⟨hpower, hheating⟩ := says?_of_silent hsilent
    refine on_of_power hs hkind h hpower hheating fun hheats => ?_
    rintro rfl
    exact hquells hheats hsilent
  · rw [heating?_of_told hs hkind h hheating, power?_of_told hs hkind h hpower]
    intro hboth
    rw [((Bool.and_eq_true _ _).mp (Option.some.inj hboth)).2]

theorem on_of_reaches {mask : UInt8} {descriptor : Descriptor} {d : Device}
    (hd : Descends mask descriptor d) {x : OperationDeed} (hcareful : Careful d x) {c : Channel}
    (hk : d.entity? (.channel c) = some k) (hkind : k.kind = .climate)
    (h : Reaches d c x ops) (htook : TookOps ops k k')
    (hon : k.heating? = some true → k.power? = some true) :
    k'.heating? = some true → k'.power? = some true := by
  have hs := hd.fit.sound _ _ hk
  cases h with
  | nothing => exact on_of_unsaid htook (EntityOp.writes_nil ..) (EntityOp.writes_nil ..) hon
  | item hchannel haddressed =>
    exact on_of_item hs hkind htook hon fun hheats hsilent =>
      hcareful c k hk hkind hheats ⟨hchannel, hsilent⟩
  | humidity | mode =>
    refine on_of_unsaid htook ?_ ?_ hon
    all_goals
      rw [hkind, EntityOp.writes_singleton]
      rfl
  | power on =>
    exact on_of_power hs hkind htook rfl rfl fun hheats hoff =>
      hcareful c k hk hkind hheats ⟨rfl, hoff⟩

end Entities

/-! ## What derived sensors say together

The two sensors of a channel are told at the same time, but the sensor of the
heating only where it is known whether the climate heats. Once that is known it
stays known, so neither falls behind the other. -/

/-- What the sensor of the heating on a channel shows, if there is one. -/
def shownHeating (d : Device) (c : Channel) : Option Bool :=
  (d.entity? (.keyed c outputPowerKey)).bind (·.power?)

/-- What the mode sensor on a channel shows, if there is one. -/
def shownMode (d : Device) (c : Channel) : Option String :=
  (d.entity? (.keyed c modeStateKey)).bind (·.state?)

section Shown

variable {d d' : Device} {c : Channel} {id : EntityId}

theorem shown_of_unavailable (hs : d.Sound)
    (h : ∀ e, d.entity? id = some e → e.status.available = false) :
    (d.entity? id).bind (·.power?) = none ∧ (d.entity? id).bind (·.state?) = none := by
  cases he : d.entity? id with
  | none => exact ⟨rfl, rfl⟩
  | some e =>
    obtain ⟨hpower, hstate, -⟩ := blank_of_unavailable (hs id e he) (h e he)
    exact ⟨hpower, hstate⟩

/-- What is told nothing shows what it showed. -/
theorem shown_of_nil (h : TookOpsAt d d' id []) :
    (d'.entity? id).bind (·.power?) = (d.entity? id).bind (·.power?) ∧
      (d'.entity? id).bind (·.state?) = (d.entity? id).bind (·.state?) := by
  have hkept : ∀ {e e' : Entity}, TookOps [] e e' →
      e'.power? = e.power? ∧ e'.state? = e.state? := by
    intro e e' htook
    have hdatum : ∀ p, e'.status.datum? p = e.status.datum? p := fun p =>
      htook.datum_of_unsaid (EntityOp.writes_nil ..)
    exact ⟨congrArg Option.join (hdatum .power), congrArg Option.join (hdatum .state)⟩
  cases he : d.entity? id with
  | some e =>
    obtain ⟨e', he', htook⟩ := h.present e he
    rw [he']
    exact hkept htook
  | none =>
    rcases h.absent he with ⟨he', -⟩ | ⟨e, e', hmade, he', htook⟩
    · rw [he']
      exact ⟨rfl, rfl⟩
    · obtain ⟨hpower, hstate, -⟩ := blank_of_unavailable hmade.sound hmade.unavailable
      obtain ⟨hpower', hstate'⟩ := hkept htook
      rw [he']
      exact ⟨hpower'.trans hpower, hstate'.trans hstate⟩

theorem datum_of_not_carries {e e' : Entity} {ops : List EntityOp} (hs : e.Sound) {p : Part}
    (hp : e.kind.carries p = false) (h : TookOps ops e e') : e'.status.datum? p = none := by
  rw [h.datum, hs.shaped.datum_eq_none hp, Option.map_none]

section Sound

variable (hs : d.Sound)
include hs

/-- What is told to be on or off shows it, if it can. -/
theorem shown_of_power {on : Bool} (h : TookOpsAt d d' id [.power on]) :
    (d'.entity? id).bind (·.power?) = none ∨ (d'.entity? id).bind (·.power?) = some on := by
  cases he' : d'.entity? id with
  | none => exact .inl rfl
  | some e' =>
    obtain ⟨e, hsound, htook⟩ := h.origin hs he'
    cases hcarries : e.kind.carries .power with
    | true => exact .inr (power?_of_said hsound hcarries htook (says?_power_power hcarries on))
    | false =>
      have hnone := datum_of_not_carries hsound hcarries htook
      exact .inl (congrArg Option.join hnone)

/-- What is told to show a climate shows its mode, if it can. -/
theorem shown_of_showing {k : Entity} (h : TookOpsAt d d' id [showing k]) :
    (d'.entity? id).bind (·.state?) = none ∨
      (d'.entity? id).bind (·.state?) = some (Climate.activity k.power? k.heating?) := by
  cases he' : d'.entity? id with
  | none => exact .inl rfl
  | some e' =>
    obtain ⟨e, hsound, htook⟩ := h.origin hs he'
    cases hcarries : e.kind.carries .state with
    | true => exact .inr (state?_of_said hsound hcarries htook (says?_state_showing hcarries k))
    | false =>
      have hnone := datum_of_not_carries hsound hcarries htook
      exact .inl (congrArg Option.join hnone)

theorem shownHeating_followed
    (h : TookOpsAt d d' (.keyed c outputPowerKey) (d'.following c (.keyed c outputPowerKey))) :
    d'.shownHeating c = none ∨
      (∃ k on, d'.leader? c = some k ∧ k.heating? = some on ∧ d'.shownHeating c = some on) ∨
        (d'.leader? c).bind (·.heating?) = none ∧ d'.shownHeating c = d.shownHeating c := by
  cases he' : d'.entity? (.keyed c outputPowerKey) with
  | none => exact .inl (by rw [shownHeating, he', Option.bind_none])
  | some e' =>
    rw [following_power (he' ▸ rfl)] at h
    cases hheats : (d'.leader? c).bind (·.heating?) with
    | none =>
      rw [hheats] at h
      exact .inr (.inr ⟨rfl, (shown_of_nil h).1⟩)
    | some on =>
      rw [hheats] at h
      obtain ⟨k, hk, hon⟩ := Option.bind_eq_some_iff.1 hheats
      exact (shown_of_power hs h).imp_right fun hshown => .inl ⟨k, on, hk, hon, hshown⟩

theorem shownMode_followed
    (h : TookOpsAt d d' (.keyed c modeStateKey) (d'.following c (.keyed c modeStateKey))) :
    d'.shownMode c = none ∨
      (∃ k, d'.leader? c = some k ∧
        d'.shownMode c = some (Climate.activity k.power? k.heating?)) ∨
        d'.leader? c = none ∧ d'.shownMode c = d.shownMode c := by
  cases he' : d'.entity? (.keyed c modeStateKey) with
  | none => exact .inl (by rw [shownMode, he', Option.bind_none])
  | some e' =>
    rw [following_mode (he' ▸ rfl)] at h
    cases hk : d'.leader? c with
    | none =>
      rw [hk] at h
      exact .inr (.inr ⟨rfl, (shown_of_nil h).2⟩)
    | some k =>
      rw [hk] at h
      exact (shown_of_showing hs h).imp_right fun hshown => .inl ⟨k, rfl, hshown⟩

end Sound

end Shown

/-! ## Honest channels -/

/-- On the channel, a thermostat that is said to heat is on, and no sensor says
    otherwise. -/
structure Honest (d : Device) (c : Channel) : Prop where
  on : ∀ k, d.entity? (.channel c) = some k → k.kind = .climate →
    k.heating? = some true → k.power? = some true
  known : d.shownHeating c ≠ none →
    ∃ k, d.entity? (.channel c) = some k ∧ k.kind = .climate ∧ k.heating?.isSome = true
  apart : d.shownHeating c = some true → d.shownMode c ≠ some "off"

theorem honest_of_unavailable {d : Device} (hs : d.Sound)
    (h : ∀ id e, d.entity? id = some e → e.status.available = false) (c : Channel) :
    Honest d c := by
  have hnone : d.shownHeating c = none := (shown_of_unavailable hs (h _)).1
  refine ⟨fun k hk _ hheats => ?_, fun hne => absurd hnone hne, fun hshown => ?_⟩
  · rw [heating?_of_unavailable (hs _ _ hk) (h _ _ hk)] at hheats
    cases hheats
  · rw [hnone] at hshown
    cases hshown

/-- What is on and heats is not shown to be off. -/
theorem activity_ne_off {k : Entity} (hheats : k.heating? = some true)
    (hon : k.power? = some true) : Climate.activity k.power? k.heating? ≠ "off" := by
  rw [hheats, hon]
  decide

section Derived

variable {d d' : Device} {c : Channel} (h : Honest d c)
  (hon : ∀ k, d'.entity? (.channel c) = some k → k.kind = .climate →
    k.heating? = some true → k.power? = some true)
  (hknown : d.shownHeating c ≠ none →
    ∃ k, d'.entity? (.channel c) = some k ∧ k.kind = .climate ∧ k.heating?.isSome = true)
include hknown

/-- Where the sensor of the heating shows that a climate heats that its channel
    follows, the climate heats. -/
theorem heats_of_shown (hs : d.Sound)
    (hfollow : TookOpsAt d d' (.keyed c outputPowerKey) (d'.following c (.keyed c outputPowerKey)))
    {k : Entity} (hleader : d'.leader? c = some k) (hshown : d'.shownHeating c = some true) :
    k.heating? = some true := by
  rcases shownHeating_followed hs hfollow with
    hnone | ⟨k', on, hleader', hheats, hshown'⟩ | ⟨hunknown, hsame⟩
  · rw [hnone] at hshown
    cases hshown
  · obtain rfl := Option.some.inj (hleader.symm.trans hleader')
    rw [hheats, ← hshown', hshown]
  · -- a sensor that is not told now was never told before
    rw [hsame] at hshown
    obtain ⟨k', hk', -, hsome⟩ := hknown (hshown ▸ nofun)
    obtain ⟨-, hk, -, -⟩ := leader?_eq_some.1 hleader
    obtain rfl := Option.some.inj (hk.symm.trans hk')
    rw [hleader, Option.bind_some] at hunknown
    rw [hunknown] at hsome
    cases hsome

include h hon

theorem honest_of_follows (hs : d.Sound)
    (hfollow : ∀ id ∈ derivedIds c, TookOpsAt d d' id (d'.following c id)) : Honest d' c := by
  have houtput := hfollow _ (List.mem_cons_self ..)
  have hheating := shownHeating_followed hs houtput
  have hmode := shownMode_followed hs
    (hfollow _ (List.mem_cons_of_mem _ (List.mem_cons_self ..)))
  refine ⟨hon, fun hshown => ?known, fun hshown => ?apart⟩
  case known =>
    rcases hheating with hnone | ⟨k, on, hleader, hheats, -⟩ | ⟨-, hsame⟩
    · exact absurd hnone hshown
    · obtain ⟨-, hk, hkind, -⟩ := leader?_eq_some.1 hleader
      exact ⟨k, hk, hkind, by rw [hheats]; rfl⟩
    · rw [hsame] at hshown
      exact hknown hshown
  case apart =>
    rcases hmode with hnone | ⟨k, hleader, hmode⟩ | ⟨hnone, hsame⟩
    · rw [hnone]
      exact nofun
    · obtain ⟨-, hk, hkind, -⟩ := leader?_eq_some.1 hleader
      have hheats := heats_of_shown hknown hs houtput hleader hshown
      rw [hmode, ne_eq, Option.some.injEq]
      exact activity_ne_off hheats (hon k hk hkind hheats)
    · rcases hheating with hnone' | ⟨k, on, hleader, -, -⟩ | ⟨-, hsame'⟩
      · rw [hnone'] at hshown
        cases hshown
      · rw [hnone] at hleader
        cases hleader
      · rw [hsame'] at hshown
        rw [hsame]
        exact h.apart hshown

theorem honest_of_stays (hstay : ∀ id ∈ derivedIds c, TookOpsAt d d' id []) : Honest d' c := by
  have hheating : d'.shownHeating c = d.shownHeating c :=
    (shown_of_nil (hstay _ (List.mem_cons_self ..))).1
  have hmode : d'.shownMode c = d.shownMode c :=
    (shown_of_nil (hstay _ (List.mem_cons_of_mem _ (List.mem_cons_self ..)))).2
  refine ⟨hon, fun hshown => ?_, fun hshown => ?_⟩
  · rw [hheating] at hshown
    exact hknown hshown
  · rw [hheating] at hshown
    rw [hmode]
    exact h.apart hshown

end Derived

theorem honest_act {mask : UInt8} {descriptor : Descriptor} {d : Device} {x : OperationDeed}
    (hd : Descends mask descriptor d) (hapt : x.Apt d) (hcareful : Careful d x) {c : Channel}
    (h : Honest d c) : Honest (x.act d).device c := by
  by_cases hx : x = .forget
  · subst hx
    exact honest_of_unavailable (hd.act hapt).fit.sound
      (fun id e he => (lost_setUnavailable d).unavailable he) c
  · have hstirs := stirs hd c hapt hx
    have hon : ∀ k', (x.act d).device.entity? (.channel c) = some k' → k'.kind = .climate →
        k'.heating? = some true → k'.power? = some true := by
      intro k' hk' hkind'
      obtain ⟨k, hk, hkind, hreaches, htook⟩ := climate_act hd hapt hx hk' hkind'
      exact on_of_reaches hd hcareful hk hkind hreaches htook (h.on k hk hkind)
    have hknown : d.shownHeating c ≠ none → ∃ k, (x.act d).device.entity? (.channel c) = some k ∧
        k.kind = .climate ∧ k.heating?.isSome = true := by
      intro hshown
      obtain ⟨k, hk, hkind, hsome⟩ := h.known hshown
      obtain ⟨k', hk', htook⟩ := hstirs.climate.present k hk
      exact ⟨k', hk', htook.kind.trans hkind, isSome_heating? htook hsome⟩
    by_cases hsyncs : x.Syncs d c
    · exact honest_of_follows h hon hknown hd.fit.sound (hstirs.follow hsyncs)
    · exact honest_of_stays h hon hknown (hstirs.stay hsyncs)

/-! ## Courses -/

/-- Wherever a course leads on which no thermostat that heats is turned off
    without a word on the heating, a thermostat that is said to heat is on, and
    no sensor shows that it heats while another shows that it is off. -/
theorem heating_on {mask : UInt8} {descriptor : Descriptor} {d : Device}
    (h : Course Careful mask descriptor d)
    (hbuild : Along Careful (digestDeeds descriptor.digest) (furnish mask descriptor)) :
    (∀ id k, d.entity? id = some k → k.kind = .climate →
        k.heating? = some true → k.power? = some true) ∧
      ∀ c p s, d.entity? (.keyed c "output_power_state") = some p →
        d.entity? (.keyed c "mode_state") = some s →
          ¬(p.power? = some true ∧ s.state? = some "off") := by
  have hfurnish : ∀ c, Honest (furnish mask descriptor) c := by
    refine honest_of_unavailable (sound_furnish mask descriptor) fun id e he => ?_
    rw [← unheard_furnish mask descriptor id e he]
    rfl
  obtain ⟨hd, hhonest⟩ := h.invariant (I := fun d => ∀ c, Honest d c) hfurnish hbuild
    fun d x hd hapt hcareful hI c => honest_act hd hapt hcareful (hI c)
  refine ⟨fun id k hk hkind => ?_, fun c p s hp hs hboth => ?_⟩
  · obtain ⟨c, rfl, -⟩ := hd.thermostat hk hkind
    exact (hhonest c).on k hk hkind
  · refine (hhonest c).apart ?_ ?_
    · exact (congrArg (Option.bind · _) hp).trans hboth.1
    · exact (congrArg (Option.bind · _) hs).trans hboth.2

/-- A radiator says whether its thermostat heats each time. -/
theorem careful_radiatorDigest (on : Int) (d : Device) :
    Along Careful (digestDeeds (Descriptor.radiatorDigest on)) d := by
  refine along_of_forall (fun x hx d' c k _ _ _ hquells => ?_) d
  have hdeeds : digestDeeds (Descriptor.radiatorDigest on) =
      [.pass (.thermostatMode, ⟨some (.int 0), .obj [("channel", .int 0), ("mode", .int 0),
        ("onoff", .int on), ("state", .int 1)]⟩)] := rfl
  rw [hdeeds] at hx
  obtain rfl := List.mem_singleton.1 hx
  obtain ⟨-, ⟨htoggle | htoggle, -⟩ | ⟨-, r, hreport, -, hactive⟩⟩ := hquells
  · cases htoggle
  · cases htoggle
  · unfold Entity.climateReport? at hreport
    split at hreport
    · cases hreport
      cases hactive
    · cases hreport

/-- A radiator whose thermostat told that it was turned off. -/
def coldRadiator : Device :=
  ((Operation.parseDigest (Descriptor.radiatorDigest 0)).run obliging
    (build 3 .radiator).device).device

/-- When its thermostat is turned off at the radiator nothing is said to heat. -/
theorem heating_on_radiator :
    (∃ k, coldRadiator.entity? (.channel (.int 0)) = some k ∧ k.power? = some false ∧
        k.heating? ≠ some true) ∧
      ∃ p s, coldRadiator.entity? (.keyed (.int 0) "output_power_state") = some p ∧
        coldRadiator.entity? (.keyed (.int 0) "mode_state") = some s ∧
          s.state? = some "off" ∧ p.power? ≠ some true := by
  have hcourse : Course Careful 3 .radiator coldRadiator := by
    have hbuilt : Course Careful 3 .radiator (build 3 .radiator).device := .built
    have hroutine : (Operation.parseDigest (Descriptor.radiatorDigest 0)).Routine := trivial
    exact hbuilt.step (t := obliging) hroutine (careful_radiatorDigest 0 _)
  have hthermostat : (coldRadiator.entity? (.channel (.int 0))).map (fun k =>
      (k.kind, k.power?)) = some (.climate, some false) := by decide
  have houtput : (coldRadiator.entity? (.keyed (.int 0) "output_power_state")).isSome = true := by
    decide
  have hmode : (coldRadiator.entity? (.keyed (.int 0) "mode_state")).map (·.state?) =
      some (some "off") := by decide
  obtain ⟨hon, happart⟩ := heating_on hcourse (careful_radiatorDigest 1 _)
  obtain ⟨k, hk, hpair⟩ := Option.map_eq_some_iff.1 hthermostat
  obtain ⟨p, hp⟩ := Option.isSome_iff_exists.1 houtput
  obtain ⟨s, hs, hoff⟩ := Option.map_eq_some_iff.1 hmode
  rw [Prod.mk.injEq] at hpair
  refine ⟨⟨k, hk, hpair.2, fun hheats => ?_⟩, p, s, hp, hs, hoff, fun hpower => ?_⟩
  · have hboth := hon _ k hk hpair.1 hheats
    rw [hpair.2] at hboth
    cases hboth
  · exact happart (.int 0) p s hp hs ⟨hpower, hoff⟩

/-! ## Quelled thermostats -/

theorem told_of_quells {d : Device} {x : OperationDeed} {c : Channel} {k k' : Entity}
    {ops : List EntityOp}
    (hs : k.Sound) (hkind : k.kind = .climate) (h : Reaches d c x ops) (hreached : ops ≠ [])
    (hquells : Quells c x) (htook : TookOps ops k k') :
    k'.heating? = k.heating? ∧ k'.power? = some false := by
  cases h with
  | nothing => exact absurd rfl hreached
  | item =>
    obtain ⟨hpower, hheating⟩ := says?_of_silent hquells.2
    exact told_power hs hkind htook hpower hheating
  | power on =>
    obtain rfl : on = false := hquells.2
    exact told_power hs hkind htook rfl rfl
  | humidity | mode => exact hquells.elim

/-- A thermostat that heats and is turned off without a word on the heating is
    off and still said to heat. -/
theorem heats_of_quells {mask : UInt8} {descriptor : Descriptor} {d : Device}
    (hd : Descends mask descriptor d) {x : OperationDeed} (hapt : x.Apt d) {c : Channel}
    {k : Entity} (hk : d.entity? (.channel c) = some k) (hkind : k.kind = .climate)
    (hheats : k.heating? = some true) (hquells : Quells c x) (hreached : x.opsAt d c ≠ []) :
    ∃ k', (x.act d).device.entity? (.channel c) = some k' ∧ k'.heating? = some true ∧
      k'.power? = some false := by
  have hx : x ≠ .forget := by
    rintro rfl
    exact hquells
  obtain ⟨k', hk', htook⟩ := (stirs hd c hapt hx).climate.present k hk
  obtain ⟨hsame, hoff⟩ := told_of_quells (hd.fit.sound _ _ hk) hkind (reaches hd hapt hk hkind)
    hreached hquells htook
  exact ⟨k', hk', hsame.trans hheats, hoff⟩

/-- A radiator that was turned off by a command. -/
def quelledRadiator : Device :=
  ((Operation.command (.channel (.int 0)) (.power false)).run obliging
    (build 3 .radiator).device).device

/-- The thermostat of a radiator that is turned off by a command is off and
    said to heat, and its sensors show both. -/
theorem heats_while_off :
    Course (fun _ _ => True) 3 .radiator quelledRadiator ∧
      (∃ k, quelledRadiator.entity? (.channel (.int 0)) = some k ∧ k.kind = .climate ∧
        k.heating? = some true ∧ k.power? = some false) ∧
        ∃ p s, quelledRadiator.entity? (.keyed (.int 0) "output_power_state") = some p ∧
          quelledRadiator.entity? (.keyed (.int 0) "mode_state") = some s ∧
            p.power? = some true ∧ s.state? = some "off" := by
  have hbuilt : Course (fun _ _ => True) 3 .radiator (build 3 .radiator).device := .built
  have hroutine : (Operation.command (.channel (.int 0)) (.power false)).Routine := trivial
  have hthermostat : (quelledRadiator.entity? (.channel (.int 0))).map (fun k =>
      (k.kind, k.heating?, k.power?)) = some (.climate, some true, some false) := by decide
  have houtput : (quelledRadiator.entity? (.keyed (.int 0) "output_power_state")).map (·.power?) =
      some (some true) := by decide
  have hmode : (quelledRadiator.entity? (.keyed (.int 0) "mode_state")).map (·.state?) =
      some (some "off") := by decide
  obtain ⟨k, hk, htriple⟩ := Option.map_eq_some_iff.1 hthermostat
  obtain ⟨p, hp, hpower⟩ := Option.map_eq_some_iff.1 houtput
  obtain ⟨s, hs, hoff⟩ := Option.map_eq_some_iff.1 hmode
  simp only [Prod.mk.injEq] at htriple
  exact ⟨hbuilt.step hroutine (along_true _ _), ⟨k, hk, htriple⟩, p, s, hp, hs, hpower, hoff⟩

end Device

end Appliance
