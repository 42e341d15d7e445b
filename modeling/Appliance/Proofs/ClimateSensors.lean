-- SUMMARY: Derived climate sensors show what their climate does, wherever a course leads.

import Appliance.Proofs.Thermostat

namespace Appliance

namespace Device

open Entity (TookOps)

/-! ## What derived sensors show

What a derived sensor shows of a climate is said of the two entities alone.
Where the climate changes the sensor is told, or what it shows of the climate
is as it was. -/

/-- A mode sensor shows a climate. -/
structure ShowsMode (k s : Entity) : Prop where
  available : s.status.available = k.status.available
  state : k.status.available = true → s.state? = some (Climate.activity k.power? k.heating?)
  extra : k.status.available = true → s.status.extra = leaderAttributes k

/-- A sensor of the heating shows a climate, as far as it is known whether it heats. -/
structure ShowsHeating (k s : Entity) : Prop where
  unavailable : k.status.available = false → s.status.available = false
  power : ∀ on, k.heating? = some on → s.power? = some on

/-- What derived sensors show of a climate has stayed. -/
structure LooksAlike (k k' : Entity) : Prop where
  available : k'.status.available = k.status.available
  power : k'.power? = k.power?
  heating : k'.heating? = k.heating?
  attributes : leaderAttributes k' = leaderAttributes k

/-- Nothing is known of what is unavailable. -/
theorem blank_of_unavailable {e : Entity} (he : e.Sound) (h : e.status.available = false) :
    e.power? = none ∧ e.state? = none ∧ e.heating? = none := by
  unfold Entity.power? Entity.state? Entity.heating?
  rw [he.idle h]
  unfold Status.clear
  cases e.status.power <;> cases e.status.state <;> cases e.status.climate <;> exact ⟨rfl, rfl, rfl⟩

theorem heating?_of_unavailable {k : Entity} (hk : k.Sound) (h : k.status.available = false) :
    k.heating? = none := (blank_of_unavailable hk h).2.2

theorem extra_of_unavailable {s : Entity} (hs : s.Sound) (h : s.status.available = false) :
    s.status.extra = [] := by
  rw [hs.idle h]
  rfl

section Entities

variable {k k' s s' : Entity} {ops : List EntityOp}

theorem unavailable_of_tookOps (h : TookOps ops k k') (hk' : k'.status.available = false) :
    k.status.available = false := by
  rw [h.available] at hk'
  exact (Bool.or_eq_false_iff.1 hk').1

theorem power?_of_said {op : EntityOp} {on : Option Bool} (hs : s.Sound)
    (hcarries : s.kind.carries .power = true) (h : TookOps [op] s s')
    (hsaid : EntityOp.says? s.kind .power op = some on) : s'.power? = on := by
  obtain ⟨a, ha⟩ := hs.exists_datum rfl hcarries
  have hpower := h.datum .power
  rw [ha, EntityOp.writes_singleton, hsaid] at hpower
  exact congrArg Option.join (hpower.trans (congrArg some (Part.overwrite_lawful [on] a)))

theorem state?_of_said {op : EntityOp} {text : Option String} (hs : s.Sound)
    (hcarries : s.kind.carries .state = true) (h : TookOps [op] s s')
    (hsaid : EntityOp.says? s.kind .state op = some text) : s'.state? = text := by
  obtain ⟨a, ha⟩ := hs.exists_datum rfl hcarries
  have hstate := h.datum .state
  rw [ha, EntityOp.writes_singleton, hsaid] at hstate
  exact congrArg Option.join (hstate.trans (congrArg some (Part.overwrite_lawful [text] a)))

theorem says?_state_showing {kind : Kind} (h : kind.carries .state = true) (k : Entity) :
    EntityOp.says? kind .state (showing k) =
      some (some (Climate.activity k.power? k.heating?)) := by
  rw [says?_showing, if_pos h]
  rfl

theorem says?_power_power {kind : Kind} (h : kind.carries .power = true) (on : Bool) :
    EntityOp.says? kind .power (.power on) = some (some on) := by
  rw [says?_power, if_pos h]
  rfl

theorem looksAlike_of_tookOps (hk : k.Sound) (hk' : k'.Sound) (h : TookOps ops k k')
    (hpower : EntityOp.writes k.kind .power ops = [])
    (hheating : EntityOp.writes k.kind .heating ops = [])
    (hmode : EntityOp.writes k.kind .mode ops = [])
    (htarget : EntityOp.writes k.kind .target ops = [])
    (havailable : k.status.available = true ∨ ops.any (·.heard k.kind) = false) :
    LooksAlike k k' where
  available := by
    rw [h.available]
    rcases havailable with h | h <;> simp [h]
  power := congrArg Option.join (h.datum_of_unsaid hpower)
  heating := by
    rw [heating?_eq_join, heating?_eq_join, h.datum_of_unsaid hheating]
  attributes := by
    rw [leaderAttributes_eq, leaderAttributes_eq, target?_eq_join, target?_eq_join,
      h.datum_of_unsaid htarget, preset?_congr hk hk' h.clear (h.datum_of_unsaid hmode)]

theorem looksAlike_of_unheard (hk : k.Sound) (hk' : k'.Sound) (h : TookOps ops k k')
    (hunheard : ∀ op ∈ ops, op.heard k.kind = false) : LooksAlike k k' := by
  have hnil : ∀ p, EntityOp.writes k.kind p ops = [] := fun p =>
    List.filterMap_eq_nil_iff.2 fun op hop => EntityOp.says?_of_not_heard (hunheard op hop) p
  refine looksAlike_of_tookOps hk hk' h (hnil _) (hnil _) (hnil _) (hnil _) (.inr ?_)
  exact List.any_eq_false.2 fun op hop => by simp [hunheard op hop]

/-- A humidity does not show at the derived sensors of a climate that is available. -/
theorem looksAlike_of_humidity (hk : k.Sound) (hk' : k'.Sound) {x : Float}
    (h : TookOps [.humidity x] k k') (hkind : k.kind = .climate)
    (havailable : k.status.available = true) : LooksAlike k k' := by
  refine looksAlike_of_tookOps hk hk' h ?_ ?_ ?_ ?_ (.inl havailable)
  all_goals
    rw [hkind, EntityOp.writes_singleton]
    rfl

/-! ### Mode sensors -/

/-- What a mode sensor is told of a climate. -/
def modeSaid (k : Entity) : List EntityOp := if k.status.available then [showing k] else []

theorem ShowsMode.lost (hk : k.status.available = false) (hs : s.status.available = false) :
    ShowsMode k s where
  available := hs.trans hk.symm
  state h := by
    rw [hk] at h
    cases h
  extra h := by
    rw [hk] at h
    cases h

theorem ShowsMode.stay (h : ShowsMode k s) (hlooks : LooksAlike k k') (hs : TookOps [] s s') :
    ShowsMode k' s' := by
  have hdatum : ∀ p, s'.status.datum? p = s.status.datum? p := fun p =>
    hs.datum_of_unsaid (EntityOp.writes_nil ..)
  have havailable : s'.status.available = s.status.available := by
    rw [hs.available, List.any_nil, Bool.or_false]
  refine ⟨?_, fun hk' => ?_, fun hk' => ?_⟩
  · rw [havailable, h.available, hlooks.available]
  · rw [hlooks.available] at hk'
    rw [hlooks.power, hlooks.heating, ← h.state hk']
    exact congrArg Option.join (hdatum .state)
  · rw [hlooks.available] at hk'
    rw [hlooks.attributes, ← h.extra hk']
    exact Option.some.inj (hdatum .extra)

/-- The attributes of a climate show also where they were found equal to those
    that were shown before. -/
theorem ShowsMode.extra_told (h : ShowsMode k s) (hk : TookOps ops k k') (hops : ops.length ≤ 1)
    (hs : s.Sound) (hkind : s.kind = .stateSensor) (hsaid : TookOps [showing k'] s s') :
    s'.status.extra = leaderAttributes k' := by
  have hextra : s'.status.extra = (assign s.status.extra (some (leaderAttributes k'))).value := by
    have hdatum := hsaid.datum .extra
    rw [hkind, EntityOp.writes_singleton, says?_showing] at hdatum
    exact Option.some.inj hdatum
  cases hbeq : s.status.extra == leaderAttributes k' with
  | false => rw [hextra, Part.value_assign_of_not_beq hbeq]
  | true =>
    rw [hextra, Part.value_assign_of_beq hbeq]
    cases havailable : k.status.available with
    | true =>
      rw [h.extra havailable] at hbeq ⊢
      exact leaderAttributes_stable hops hk hbeq
    | false =>
      rw [extra_of_unavailable hs (h.available.trans havailable)] at hbeq ⊢
      cases hnil : leaderAttributes k' with
      | nil => rfl
      | cons a l =>
        rw [hnil] at hbeq
        cases hbeq

theorem ShowsMode.follow (h : ShowsMode k s) (hk : TookOps ops k k') (hops : ops.length ≤ 1)
    (hs : s.Sound) (hkind : s.kind = .stateSensor) (hsaid : TookOps (modeSaid k') s s') :
    ShowsMode k' s' := by
  unfold modeSaid at hsaid
  cases hk' : k'.status.available with
  | false =>
    rw [hk', if_neg Bool.false_ne_true] at hsaid
    refine ShowsMode.lost hk' ?_
    rw [hsaid.available, List.any_nil, Bool.or_false, h.available, unavailable_of_tookOps hk hk']
  | true =>
    rw [hk', if_pos rfl] at hsaid
    have hcarries : s.kind.carries .state = true := by
      rw [hkind]
      rfl
    refine ⟨?_, fun _ => ?_, fun _ => h.extra_told hk hops hs hkind hsaid⟩
    · rw [hsaid.available, hk', List.any_cons, heard_showing, hcarries]
      exact Bool.or_true _
    · exact state?_of_said hs hcarries hsaid (says?_state_showing hcarries k')

/-! ### Sensors of the heating -/

/-- What a sensor of the heating is told of a climate. -/
def heatingSaid (k : Entity) : List EntityOp := (k.heating?.map EntityOp.power).toList

theorem ShowsHeating.lost (hk : k.Sound) (hlost : k.status.available = false)
    (hs : s.status.available = false) : ShowsHeating k s where
  unavailable _ := hs
  power on hon := by
    rw [heating?_of_unavailable hk hlost] at hon
    cases hon

theorem ShowsHeating.stay (h : ShowsHeating k s) (hlooks : LooksAlike k k')
    (hs : TookOps [] s s') : ShowsHeating k' s' where
  unavailable hk' := by
    rw [hs.available, List.any_nil, Bool.or_false]
    exact h.unavailable (hlooks.available.symm.trans hk')
  power on hon := by
    have hsame : s'.status.datum? .power = s.status.datum? .power :=
      hs.datum_of_unsaid (EntityOp.writes_nil ..)
    rw [← h.power on (hlooks.heating.symm.trans hon)]
    exact congrArg Option.join hsame

theorem ShowsHeating.follow (h : ShowsHeating k s) (hk : TookOps ops k k') (hk' : k'.Sound)
    (hs : s.Sound) (hkind : s.kind = .binarySensor) (hsaid : TookOps (heatingSaid k') s s') :
    ShowsHeating k' s' where
  unavailable hlost := by
    rw [heatingSaid, heating?_of_unavailable hk' hlost] at hsaid
    rw [hsaid.available]
    exact (Bool.or_false _).trans (h.unavailable (unavailable_of_tookOps hk hlost))
  power on hon := by
    have hcarries : s.kind.carries .power = true := by
      rw [hkind]
      rfl
    rw [heatingSaid, hon] at hsaid
    exact power?_of_said hs hcarries hsaid (says?_power_power hcarries on)

end Entities

/-! ## What a climate is told by deeds -/

/-- The deed keeps to what derived sensors get to know: it toggles no climate,
    and gives a humidity to none that is unavailable. -/
def Spares (d : Device) : OperationDeed → Prop
  | .pass (ns, item) => ns = .toggle ∨ ns = .toggleX → ∀ c k, item.channel = some c →
      d.entity? (.channel c) = some k → k.kind = .climate → .channel c ∉ d.addressees ns c
  | .read r => ∀ c k, r.humidityOf = some c →
      d.entity? (.channel c) = some k → k.kind = .climate → k.status.available = true
  | .forget | .carry _ _ | .keep _ => True

/-- What reaches a climate without a word to the derived sensors does not show at them. -/
theorem looksAlike_of_reaches {mask : UInt8} {descriptor : Descriptor} {d : Device}
    (hd : Descends mask descriptor d) {x : OperationDeed} (hspares : Spares d x) {c : Channel}
    {k k' : Entity} (hk : d.entity? (.channel c) = some k) (hkind : k.kind = .climate)
    (hk' : k'.Sound) {ops : List EntityOp} (h : Reaches d c x ops) (htook : TookOps ops k k')
    (hsyncs : ¬x.Syncs d c) : LooksAlike k k' := by
  have hsound := hd.fit.sound _ _ hk
  cases h with
  | nothing => exact looksAlike_of_unheard hsound hk' htook (List.forall_mem_nil _)
  | @item ns item hchannel haddressed =>
    refine looksAlike_of_unheard hsound hk' htook fun op hop => ?_
    obtain rfl := List.mem_singleton.1 hop
    rw [hkind]
    cases ns with
    | toggle => exact absurd haddressed (hspares (.inl rfl) c k hchannel hk hkind)
    | toggleX => exact absurd haddressed (hspares (.inr rfl) c k hchannel hk hkind)
    | thermostatMode => exact absurd ⟨rfl, hchannel, List.ne_nil_of_mem haddressed⟩ hsyncs
    | _ => rfl
  | humidity y hshared =>
    exact looksAlike_of_humidity hsound hk' htook hkind (hspares c k hshared hk hkind)
  | power on => exact absurd ⟨rfl, rfl⟩ hsyncs
  | mode m => exact absurd ⟨rfl, rfl⟩ hsyncs

/-! ## The derived sensors of a device -/

/-- The derived sensors that there are show their climates. -/
def Mirrored (mask : UInt8) (d : Device) : Prop :=
  ∀ c k, d.entity? (.channel c) = some k → k.kind = .climate →
    (mask &&& Member.modeStateBit ≠ 0 →
      ∃ s, d.entity? (.keyed c modeStateKey) = some s ∧ ShowsMode k s) ∧
    (mask &&& Member.outputPowerBit ≠ 0 →
      ∃ s, d.entity? (.keyed c outputPowerKey) = some s ∧ ShowsHeating k s)

theorem mirrored_of_unavailable {mask : UInt8} {descriptor : Descriptor} {d : Device}
    (hd : Descends mask descriptor d)
    (h : ∀ id e, d.entity? id = some e → e.status.available = false) : Mirrored mask d := by
  intro c k hk hkind
  refine ⟨fun hmask => ?_, fun hmask => ?_⟩
  · obtain ⟨s, hs, -⟩ := hd.modeState hk hkind hmask
    exact ⟨s, hs, .lost (h _ _ hk) (h _ _ hs)⟩
  · obtain ⟨s, hs, -⟩ := hd.outputPower hk hkind hmask
    exact ⟨s, hs, .lost (hd.fit.sound _ _ hk) (h _ _ hk) (h _ _ hs)⟩

section Leader

variable {d : Device} {c : Channel} {k s : Entity} (hmask : d.climateSensors ≠ 0)
  (hk : d.entity? (.channel c) = some k) (hkind : k.kind = .climate)
include hmask hk hkind

theorem leader?_of_climate : d.leader? c = if k.status.available then some k else none := by
  unfold leader?
  rw [if_neg hmask, hk]
  cases havailable : k.status.available <;> simp [hkind, havailable]

theorem following_modeState (hs : d.entity? (.keyed c modeStateKey) = some s) :
    d.following c (.keyed c modeStateKey) = modeSaid k := by
  rw [following_mode (hs ▸ rfl), leader?_of_climate hmask hk hkind, modeSaid]
  cases k.status.available <;> rfl

theorem following_outputPower (hsound : k.Sound)
    (hs : d.entity? (.keyed c outputPowerKey) = some s) :
    d.following c (.keyed c outputPowerKey) = heatingSaid k := by
  rw [following_power (hs ▸ rfl), leader?_of_climate hmask hk hkind, heatingSaid]
  cases havailable : k.status.available with
  | false =>
    rw [heating?_of_unavailable hsound havailable]
    rfl
  | true => rfl

end Leader

section Step

variable {mask : UInt8} {descriptor : Descriptor} {d : Device} {x : OperationDeed}
  (hd : Descends mask descriptor d) (hapt : x.Apt d) (hspares : Spares d x)
include hd hapt hspares

/-- A derived sensor follows its climate, or what it shows of it has stayed. -/
theorem follows_or_stays (hx : x ≠ .forget) {c : Channel} {k k' s : Entity}
    (hk : d.entity? (.channel c) = some k) (hkind : k.kind = .climate)
    (hk' : (x.act d).device.entity? (.channel c) = some k') {id : EntityId}
    (hid : id ∈ derivedIds c) (hs : d.entity? id = some s) :
    ∃ s', (x.act d).device.entity? id = some s' ∧
      (TookOps ((x.act d).device.following c id) s s' ∨ LooksAlike k k' ∧ TookOps [] s s') := by
  have hstirs := stirs hd c hapt hx
  by_cases hsyncs : x.Syncs d c
  · obtain ⟨s', hs', hsaid⟩ := (hstirs.follow hsyncs id hid).present s hs
    exact ⟨s', hs', .inl hsaid⟩
  · obtain ⟨s', hs', hstay⟩ := (hstirs.stay hsyncs id hid).present s hs
    obtain ⟨k₁, hk₁, htook⟩ := hstirs.climate.present k hk
    obtain rfl := Option.some.inj (hk'.symm.trans hk₁)
    have hsound := (hd.act hapt).fit.sound _ _ hk'
    exact ⟨s', hs', .inr ⟨looksAlike_of_reaches hd hspares hk hkind hsound
      (reaches hd hapt hk hkind) htook hsyncs, hstay⟩⟩

theorem mirrored_act (h : Mirrored mask d) : Mirrored mask (x.act d).device := by
  have hd' := hd.act hapt
  by_cases hx : x = .forget
  · subst hx
    exact mirrored_of_unavailable hd' fun id e he => (lost_setUnavailable d).unavailable he
  · intro c k' hk' hkind'
    obtain ⟨k, hk, hkind, -, htook⟩ := climate_act hd hapt hx hk' hkind'
    have hsingle := (stirs hd c hapt hx).single
    have hsound' := hd'.fit.sound _ _ hk'
    have hnonzero : ∀ {bit : UInt8}, mask &&& bit ≠ 0 → (x.act d).device.climateSensors ≠ 0 := by
      intro bit hbit
      rw [hd'.climateSensors]
      rintro rfl
      exact hbit UInt8.zero_and
    refine ⟨fun hmask => ?mode, fun hmask => ?heating⟩
    case mode =>
      obtain ⟨s, hs, hshows⟩ := (h c k hk hkind).1 hmask
      obtain ⟨s₀, hs₀, hsensor⟩ := hd.modeState hk hkind hmask
      obtain rfl := Option.some.inj (hs.symm.trans hs₀)
      obtain ⟨s', hs', hsaid | ⟨hlooks, hstay⟩⟩ := follows_or_stays hd hapt hspares hx hk hkind hk'
        (List.mem_cons_of_mem _ (List.mem_cons_self ..)) hs
      · rw [following_modeState (hnonzero hmask) hk' hkind' hs'] at hsaid
        exact ⟨s', hs', hshows.follow htook hsingle (hd.fit.sound _ _ hs) hsensor hsaid⟩
      · exact ⟨s', hs', hshows.stay hlooks hstay⟩
    case heating =>
      obtain ⟨s, hs, hshows⟩ := (h c k hk hkind).2 hmask
      obtain ⟨s₀, hs₀, hsensor⟩ := hd.outputPower hk hkind hmask
      obtain rfl := Option.some.inj (hs.symm.trans hs₀)
      obtain ⟨s', hs', hsaid | ⟨hlooks, hstay⟩⟩ := follows_or_stays hd hapt hspares hx hk hkind hk'
        (List.mem_cons_self ..) hs
      · rw [following_outputPower (hnonzero hmask) hk' hkind' hsound' hs'] at hsaid
        exact ⟨s', hs', hshows.follow htook hsound' (hd.fit.sound _ _ hs) hsensor hsaid⟩
      · exact ⟨s', hs', hshows.stay hlooks hstay⟩

end Step

theorem mirrored_furnish (mask : UInt8) (descriptor : Descriptor) :
    Mirrored mask (furnish mask descriptor) :=
  mirrored_of_unavailable (descends_furnish mask descriptor) fun _ _ => unavailable_furnish

/-- No digest toggles a climate of the device that is built from it. -/
theorem spares_digestDeeds (mask : UInt8) (descriptor : Descriptor) :
    Along Spares (digestDeeds descriptor.digest) (furnish mask descriptor) := by
  refine along_of_descends (descends_furnish mask descriptor) (along_digestDeeds _ _)
    fun x hx d hd => ?_
  obtain ⟨⟨ns, item⟩, hmem, rfl⟩ := List.mem_map.1 hx
  intro hns c k hchannel hk hkind haddressed
  obtain ⟨k₀, hk₀, hbare⟩ := hd.climate hk hkind
  rw [hd.addressees] at haddressed
  refine kind_of_digest hmem hns hchannel haddressed hk₀ ?_
  rw [← Entity.kind_bare, ← hbare]
  exact hkind

/-! ## Courses -/

/-- The deed is no toggle item for the channel of a climate, and no humidity
    for a climate that is unavailable. -/
def Undisturbed (d : Device) : OperationDeed → Prop
  | .pass (ns, item) => ns = .toggle ∨ ns = .toggleX → ∀ c k, item.channel = some c →
      d.entity? (.channel c) = some k → k.kind ≠ .climate
  | .read r => ∀ c k, r.humidityOf = some c →
      d.entity? (.channel c) = some k → k.kind = .climate → k.status.available = true
  | .forget | .carry _ _ | .keep _ => True

theorem Undisturbed.spares {d : Device} {x : OperationDeed} (h : Undisturbed d x) : Spares d x := by
  cases x with
  | pass x => exact fun hns c k hchannel hk hkind => absurd hkind (h hns c k hchannel hk)
  | read r => exact h
  | forget | carry id o | keep digest => trivial

/-- Commands disturb no derived sensors. -/
theorem undisturbed_command (t : Transport) (id : EntityId) (c : Command) (d : Device) :
    Along Undisturbed ((Operation.command id c).deeds t d) d := by
  refine along_of_forall (fun x hx d' => ?_) d
  cases Operation.comesTo_of_mem hx with
  | received receives => cases receives
  | loss | order => trivial

/-- Wherever a course leads, each climate has a channel, and the sensors that
    the mask derives from it show its mode, its preset, its target and whether
    it heats. While it is unavailable, so are they. -/
theorem climate_mirrored {mask : UInt8} {descriptor : Descriptor} {d : Device}
    (h : Course Undisturbed mask descriptor d) {id : EntityId} {k : Entity}
    (hk : d.entity? id = some k) (hkind : k.kind = .climate) :
    ∃ c, id = .channel c ∧
      (mask &&& Member.modeStateBit ≠ 0 →
        ∃ s, d.entity? (.keyed c "mode_state") = some s ∧
          s.status.available = k.status.available ∧
          (k.status.available = true →
            s.state? = some (if k.power? = some false then "off"
              else if k.heating? = some true then "heating" else "idle") ∧
            s.status.extra = (k.preset?.map fun p => ("preset", .str p)).toList ++
              (k.target?.map fun t => ("target_temperature", .ofFloat t)).toList)) ∧
      (mask &&& Member.outputPowerBit ≠ 0 →
        ∃ s, d.entity? (.keyed c "output_power_state") = some s ∧
          (k.status.available = true → ∀ on, k.heating? = some on → s.power? = some on) ∧
          (k.status.available = false → s.status.available = false)) := by
  obtain ⟨hd, hmirrored⟩ := (h.mono fun _ _ => Undisturbed.spares).invariant
    (mirrored_furnish mask descriptor) (spares_digestDeeds mask descriptor)
    fun d x hd hapt hspares hd' => mirrored_act hd hapt hspares hd'
  obtain ⟨c, rfl, -⟩ := hd.thermostat hk hkind
  obtain ⟨hmode, hheating⟩ := hmirrored c k hk hkind
  refine ⟨c, rfl, fun hmask => ?_, fun hmask => ?_⟩
  · obtain ⟨s, hs, hshows⟩ := hmode hmask
    exact ⟨s, hs, hshows.available, fun havailable =>
      ⟨hshows.state havailable, hshows.extra havailable⟩⟩
  · obtain ⟨s, hs, hshows⟩ := hheating hmask
    exact ⟨s, hs, fun _ => hshows.power, hshows.unavailable⟩

/-- A radiator that was put to its second mode. -/
def sleepingRadiator : Device :=
  ((Operation.command (.channel (.int 0)) (.mode 1)).run obliging (build 3 .radiator).device).device

/-- The mode sensor of a radiator shows the preset that its thermostat was put to. -/
theorem climate_mirrored_radiator : ∃ k s,
    sleepingRadiator.entity? (.channel (.int 0)) = some k ∧ k.preset? = some "sleep" ∧
      sleepingRadiator.entity? (.keyed (.int 0) "mode_state") = some s ∧
        s.status.available = true ∧ s.state? = some "heating" ∧
          s.status.extra = [("preset", .str "sleep")] := by
  have hcourse : Course Undisturbed 3 .radiator sleepingRadiator := by
    have hbuilt : Course Undisturbed 3 .radiator (build 3 .radiator).device := .built
    have hroutine : (Operation.command (.channel (.int 0)) (.mode 1)).Routine := trivial
    exact hbuilt.step hroutine (undisturbed_command obliging _ _ _)
  have hclimate : (sleepingRadiator.entity? (.channel (.int 0))).map (fun k =>
      (k.kind, k.status.available)) = some (.climate, true) := by decide
  have hmode : (sleepingRadiator.entity? (.channel (.int 0))).map (fun k =>
      (k.power?, k.heating?)) = some (some true, some true) := by decide
  have hextra : (sleepingRadiator.entity? (.channel (.int 0))).map (fun k =>
      (k.preset?, k.target?.isNone)) = some (some "sleep", true) := by decide
  obtain ⟨k, hk, hkind⟩ := Option.map_eq_some_iff.1 hclimate
  rw [hk, Option.map_some, Option.some.injEq, Prod.mk.injEq] at hmode hextra
  rw [Prod.mk.injEq] at hkind
  obtain ⟨c, hc, hshown, -⟩ := climate_mirrored hcourse hk hkind.1
  obtain rfl := EntityId.channel.inj hc
  obtain ⟨s, hs, havailable, hshows⟩ := hshown (by decide)
  obtain ⟨hstate, hattributes⟩ := hshows hkind.2
  rw [hmode.1, hmode.2] at hstate
  rw [hextra.1, Option.isNone_iff_eq_none.1 hextra.2] at hattributes
  exact ⟨k, s, hk, hextra.1, hs, havailable.trans hkind.2, hstate, hattributes⟩

end Device

end Appliance
