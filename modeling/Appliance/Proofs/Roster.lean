-- SUMMARY: A new device has exactly the entities that its descriptor speaks of, registered for exactly the namespaces that name them.

import Appliance.Proofs.Course

namespace Appliance

/-! ## What a descriptor names -/

/-- The channels that the data of a namespace names. In a list, items without a
    channel that can be used name none; an object that stands alone is about
    channel zero unless it names another. -/
def Json.channels : Json → List Channel
  | .arr items => items.filterMap fun item => (item.get? "channel").bind Channel.ofJson?
  | .obj fields =>
    match fields.lookup "channel" with
    | some v => (Channel.ofJson? v).toList
    | none => [.int 0]
  | _ => []

/-- The ids that data of a namespace about a channel is for. Sprays and players
    have keys, and a thermostat comes with a sensor of the temperature. -/
def Namespace.ids (ns : Namespace) (c : Channel) : List EntityId :=
  match ns with
  | .diffuserSpray => [.keyed c "spray"]
  | .thermostatMode => [.channel c, .keyed c "temperature"]
  | .mp3 => [.keyed c "mp3"]
  | _ => [.channel c]

namespace Descriptor

/-- What a digest holds for a namespace. -/
def subtree? (descriptor : Descriptor) : Namespace → Option Json
  | .light => descriptor.digest.descend? ["light"]
  | .toggle => descriptor.digest.descend? ["toggle"]
  | .toggleX => descriptor.digest.descend? ["togglex"]
  | .diffuserLight => descriptor.digest.descend? ["diffuser", "light"]
  | .diffuserSpray => descriptor.digest.descend? ["diffuser", "spray"]
  | .thermostatMode => descriptor.digest.descend? ["thermostat", "mode"]
  | .systemAll | .systemAbility | .diffuserSensor | .sensorLatest | .sensorLatestX | .mp3 => none

/-- The channels that a descriptor names for a namespace. A toggle is about
    channel zero, and so is a player, which the digest says nothing of. -/
def channels (descriptor : Descriptor) (ns : Namespace) : List Channel :=
  match ns with
  | .toggle => if (descriptor.subtree? .toggle).any Json.isObject then [.int 0] else []
  | .mp3 => if descriptor.ability.contains .mp3 then [.int 0] else []
  | ns => ((descriptor.subtree? ns).map Json.channels).getD []

/-- The descriptor names the id for the namespace. -/
def Names (descriptor : Descriptor) (ns : Namespace) (id : EntityId) : Prop :=
  ∃ c ∈ descriptor.channels ns, id ∈ ns.ids c

/-- The entity that a descriptor speaks of by an id. -/
def roster (mask : UInt8) (descriptor : Descriptor) : EntityId → Option Entity
  | .channel c =>
    if c ∈ descriptor.channels .light then some (.light (.channel c) .light)
    else if c ∈ descriptor.channels .toggle then some (.switch (.channel c) .toggle)
    else if c ∈ descriptor.channels .toggleX then some (.switch (.channel c) .toggleX)
    else if c ∈ descriptor.channels .diffuserLight then some (.diffuserLight (.channel c))
    else if c ∈ descriptor.channels .thermostatMode then
      some (.climate (.channel c) .thermostat)
    else none
  | .keyed c key =>
    match key with
    | "spray" =>
      if c ∈ descriptor.channels .diffuserSpray then some (.diffuserSpray (.keyed c "spray"))
      else none
    | "temperature" =>
      if c ∈ descriptor.channels .thermostatMode then some (.sensor (.keyed c "temperature") 10.0)
      else none
    | "output_power_state" =>
      if c ∈ descriptor.channels .thermostatMode ∧ mask &&& 1 ≠ 0 then
        some (.binarySensor (.keyed c "output_power_state"))
      else none
    | "mode_state" =>
      if c ∈ descriptor.channels .thermostatMode ∧ mask &&& 2 ≠ 0 then
        some (.stateSensor (.keyed c "mode_state"))
      else none
    | "mp3" =>
      if c ∈ descriptor.channels .mp3 then some (.mediaPlayer (.keyed c "mp3")) else none
    | _ => none
  | .key _ => none

end Descriptor

namespace Device

/-! ## Registrations of a new device

A new device has registered its members, for the namespaces that it has, and
nothing else. -/

theorem Form.channel? {m : Member} (h : Form m) : ∃ c, m.entity.id.channel? = some c := by
  cases h <;> exact ⟨_, rfl⟩

theorem enrolls_join {m : Member} (hm : m.entity.Made) (d : Device) (ns : Namespace) :
    (d.join m).enrolls ns = d.enrolls ns := by
  have hjoin : Trace .any d [] (d.join m) := trace_join hm.loose d
  rw [enrolls, enrolls, Dispatcher.isSome_routes?, Dispatcher.isSome_routes?,
    isCustom_trace hjoin, supports_trace hjoin]

theorem registered_join {d : Device} {m : Member} (hm : Form m) {ns : Namespace}
    {id : EntityId} :
    (d.join m).Registered ns id ↔
      d.Registered ns id ∨ d.enrolls ns = true ∧ m.ns = some ns ∧ m.entity.id = id := by
  have hinsert : (d.insert m.entity).Registered ns id ↔ d.Registered ns id :=
    registered_insert hm.made.namespaces
  unfold join
  cases hns : m.ns with
  | none =>
    refine hinsert.trans ?_
    simp
  | some ns' =>
    obtain ⟨c, hc⟩ := hm.channel?
    have hpresent : ((d.insert m.entity).entity? m.entity.id).isSome = true := by
      rw [entity?_insert]
      cases he : d.entity? m.entity.id <;> simp
    simp only [addAndRegister_eq, registered_register, register_fst, hinsert, hpresent,
      enrolls_insert, hc, Option.isSome_some, Bool.true_and, Bool.and_true, Option.some.injEq]
    refine or_congr_right ⟨?_, ?_⟩
    · rintro ⟨henrolled, rfl, rfl⟩
      exact ⟨henrolled, rfl, rfl⟩
    · rintro ⟨henrolled, rfl, rfl⟩
      exact ⟨henrolled, rfl, rfl⟩

theorem registered_joins {ms : List Member} (hms : ∀ m ∈ ms, Form m) {ns : Namespace}
    {id : EntityId} (d : Device) :
    (ms.foldl join d).Registered ns id ↔ d.Registered ns id ∨
      d.enrolls ns = true ∧ ∃ m ∈ ms, m.ns = some ns ∧ m.entity.id = id := by
  induction ms generalizing d with
  | nil => simp
  | cons m ms ih =>
    obtain ⟨hm, hrest⟩ := List.forall_mem_cons.1 hms
    rw [List.foldl_cons, ih hrest, registered_join hm, enrolls_join hm.made, or_assoc,
      ← and_or_left, List.exists_mem_cons_iff]

theorem registered_furnish {mask : UInt8} {descriptor : Descriptor} {ns : Namespace}
    {id : EntityId} :
    (furnish mask descriptor).Registered ns id ↔ descriptor.ability.contains ns = true ∧
      ∃ m ∈ Member.ofDescriptor mask descriptor, m.ns = some ns ∧ m.entity.id = id := by
  have henrolls : (blank descriptor mask).enrolls ns = descriptor.ability.contains ns :=
    Bool.and_true _
  have hnone : ¬(blank descriptor mask).Registered ns id := by
    rintro ⟨e, he, -⟩
    cases he
  unfold Registered
  rw [entity?_furnish]
  change ((Member.ofDescriptor mask descriptor).foldl join _).Registered ns id ↔ _
  rw [registered_joins (fun m hm => form_member hm), henrolls, or_iff_right hnone]

end Device

/-! ## Members by channel -/

namespace Member

theorem channelsOf_eq (ns : Namespace) (data : Option Json) :
    channelsOf ns data = (data.map Json.channels).getD [] := by
  cases data with
  | none => rfl
  | some j =>
    cases j with
    | arr items =>
      simp only [channelsOf, Option.map_some, Item.split, List.filterMap_map]
      rfl
    | obj fields =>
      simp only [channelsOf, Option.map_some, Item.split, Item.ofSingle, Json.get?_obj,
        Json.channels, Option.getD_some]
      cases fields.lookup "channel" with
      | none => rfl
      | some v => cases hc : Channel.ofJson? v <;> simp [hc]
    | _ => rfl

/-- What a descriptor that names a channel for a namespace puts there. -/
def on (mask : UInt8) (ns : Namespace) (c : Channel) : List Member :=
  match ns with
  | .light => [⟨.light (.channel c) .light, some .light⟩]
  | .toggle => [⟨.switch (.channel c) .toggle, some .toggle⟩]
  | .toggleX => [⟨.switch (.channel c) .toggleX, some .toggleX⟩]
  | .diffuserLight => [⟨.diffuserLight (.channel c), some .diffuserLight⟩]
  | .diffuserSpray => [⟨.diffuserSpray (.keyed c "spray"), some .diffuserSpray⟩]
  | .thermostatMode => thermostat mask c
  | .mp3 => [⟨.mediaPlayer (.keyed c "mp3"), some .mp3⟩]
  | .systemAll | .systemAbility | .diffuserSensor | .sensorLatest | .sensorLatestX => []

/-- The namespaces, in the order in which members of them come. -/
def order : List Namespace :=
  [.light, .toggle, .toggleX, .diffuserLight, .diffuserSpray, .thermostatMode, .mp3]

theorem flatMap_if {p : Prop} [Decidable p] (f : Channel → List Member) (c : Channel) :
    (if p then [c] else []).flatMap f = if p then f c else [] := by
  split <;> simp

theorem ofDescriptor_eq (mask : UInt8) (descriptor : Descriptor) :
    ofDescriptor mask descriptor =
      order.flatMap fun ns => (descriptor.channels ns).flatMap (on mask ns) := by
  have htoggle : ∀ o : Option Json, (o.map Json.isObject).getD false = o.any Json.isObject := by
    intro o
    cases o <;> rfl
  have hget : ∀ key, descriptor.digest.get? key = descriptor.digest.descend? [key] := by
    intro key
    rw [Json.descend?_cons]
    cases descriptor.digest.get? key <;> rfl
  simp only [ofDescriptor, ofDigest, hget, htoggle, channelsOf_eq, order, Descriptor.channels,
    List.flatMap_cons, List.flatMap_nil, flatMap_if, List.append_nil, List.append_assoc,
    List.map_eq_flatMap]
  rfl

theorem derived_cases {mask : UInt8} {c : Channel} {m : Member} (h : m ∈ derived mask c) :
    mask &&& 1 ≠ 0 ∧ m = ⟨.binarySensor (.keyed c "output_power_state"), none⟩ ∨
      mask &&& 2 ≠ 0 ∧ m = ⟨.stateSensor (.keyed c "mode_state"), none⟩ := by
  rcases List.mem_append.1 h with h | h
  all_goals
    split at h
    · rename_i hmask
      obtain rfl := List.mem_singleton.1 h
      first | exact .inl ⟨hmask, rfl⟩ | exact .inr ⟨hmask, rfl⟩
    · cases h

/-- What is put on a channel has an id on that channel. -/
theorem channel?_of_mem_on {mask : UInt8} {ns : Namespace} {c : Channel} {m : Member}
    (h : m ∈ on mask ns c) : m.entity.id.channel? = some c := by
  cases ns with
  | thermostatMode =>
    rcases List.mem_append.1 h with h | h
    · rcases List.mem_pair.1 h with rfl | rfl <;> rfl
    · rcases derived_cases h with ⟨-, rfl⟩ | ⟨-, rfl⟩ <;> rfl
  | systemAll | systemAbility | diffuserSensor | sensorLatest | sensorLatestX => cases h
  | _ =>
    obtain rfl := List.mem_singleton.1 h
    rfl

/-- The first of the members on a row of channels that has an id is on the
    channel of the id. -/
theorem find?_flatMap_on {mask : UInt8} {ns : Namespace} {id : EntityId} {c : Channel}
    (hid : id.channel? = some c) (cs : List Channel) :
    (cs.flatMap (on mask ns)).find? (·.entity.id = id) =
      if c ∈ cs then (on mask ns c).find? (·.entity.id = id) else none := by
  induction cs with
  | nil => rfl
  | cons c' cs ih =>
    rw [List.flatMap_cons, List.find?_append, ih]
    by_cases hc : c' = c
    · subst hc
      cases (on mask ns c').find? (·.entity.id = id) <;> simp
    · have hother : (on mask ns c').find? (·.entity.id = id) = none := by
        refine List.find?_eq_none.2 fun m hm hsame => hc ?_
        have hchannel := channel?_of_mem_on hm
        rw [of_decide_eq_true hsame, hid] at hchannel
        exact (Option.some.inj hchannel).symm
      rw [hother, Option.none_or]
      simp [Ne.symm hc]

theorem find?_ite {p : Prop} [Decidable p] (m : Member) (q : Member → Bool) :
    (if p then [m] else []).find? q = if p ∧ q m then some m else none := by
  by_cases hp : p <;> cases hq : q m <;> simp [hp, hq]

theorem or_ite {α : Type} {p : Prop} [Decidable p] (a : α) (o : Option α) :
    (if p then some a else none).or o = if p then some a else o := by
  split <;> rfl

theorem find?_derived (mask : UInt8) (c : Channel) (k : String) :
    (derived mask c).find? (·.entity.id = .keyed c k) =
      if mask &&& 1 ≠ 0 ∧ "output_power_state" = k then
        some ⟨.binarySensor (.keyed c "output_power_state"), none⟩
      else if mask &&& 2 ≠ 0 ∧ "mode_state" = k then
        some ⟨.stateSensor (.keyed c "mode_state"), none⟩
      else none := by
  rw [derived, List.find?_append, find?_ite, find?_ite, or_ite]
  simp [Entity.binarySensor, Entity.stateSensor, Entity.fresh, outputPowerBit, modeStateBit,
    Device.outputPowerKey, Device.modeStateKey]

theorem find?_on_keyed (mask : UInt8) (ns : Namespace) (c : Channel) (k : String) :
    (on mask ns c).find? (·.entity.id = .keyed c k) =
      match ns with
      | .diffuserSpray =>
        if "spray" = k then some ⟨.diffuserSpray (.keyed c "spray"), some .diffuserSpray⟩ else none
      | .thermostatMode =>
        if "temperature" = k then
          some ⟨.sensor (.keyed c "temperature") 10.0, some .thermostatMode⟩
        else if mask &&& 1 ≠ 0 ∧ "output_power_state" = k then
          some ⟨.binarySensor (.keyed c "output_power_state"), none⟩
        else if mask &&& 2 ≠ 0 ∧ "mode_state" = k then
          some ⟨.stateSensor (.keyed c "mode_state"), none⟩
        else none
      | .mp3 => if "mp3" = k then some ⟨.mediaPlayer (.keyed c "mp3"), some .mp3⟩ else none
      | _ => none := by
  cases ns with
  | thermostatMode =>
    rw [on, thermostat, List.find?_append, find?_derived]
    by_cases hk : "temperature" = k
    · simp [hk, Entity.climate, Entity.sensor, Entity.fresh, Climate.scale]
    · simp [hk, Entity.climate, Entity.sensor, Entity.fresh]
  | diffuserSpray | mp3 =>
    simp [on, Entity.diffuserSpray, Entity.mediaPlayer, Entity.fresh, List.find?_singleton]
  | systemAll | systemAbility | diffuserSensor | sensorLatest | sensorLatestX => rfl
  | light | toggle | toggleX | diffuserLight =>
    simp [on, Entity.light, Entity.switch, Entity.diffuserLight, Entity.fresh]

/-- The first member with an id is what the descriptor speaks of by it. -/
theorem find?_ofDescriptor (mask : UInt8) (descriptor : Descriptor) (id : EntityId) :
    ((ofDescriptor mask descriptor).find? (·.entity.id = id)).map (·.entity) =
      descriptor.roster mask id := by
  cases id with
  | key k =>
    -- Every member is on a channel.
    rw [List.find?_eq_none.2]
    · rfl
    intro m hm hid
    rw [ofDescriptor_eq] at hm
    obtain ⟨ns, -, hm⟩ := List.mem_flatMap.1 hm
    obtain ⟨c, -, hm⟩ := List.mem_flatMap.1 hm
    have hchannel := channel?_of_mem_on hm
    rw [of_decide_eq_true hid] at hchannel
    cases hchannel
  | channel c =>
    have hid : (EntityId.channel c).channel? = some c := rfl
    simp only [ofDescriptor_eq, order, List.flatMap_cons, List.flatMap_nil, List.append_nil,
      List.find?_append, find?_flatMap_on hid]
    simp [on, thermostat, derived, Entity.light, Entity.switch, Entity.fresh,
      Entity.diffuserLight, Entity.diffuserSpray, Entity.climate, Entity.sensor,
      Entity.mediaPlayer, Descriptor.roster]
    split_ifs <;> rfl
  | keyed c k =>
    have hid : (EntityId.keyed c k).channel? = some c := rfl
    simp only [ofDescriptor_eq, order, List.flatMap_cons, List.flatMap_nil, List.append_nil,
      List.find?_append, find?_flatMap_on hid, find?_on_keyed]
    simp only [ite_self, Option.none_or]
    symm
    dsimp only [Descriptor.roster]
    -- No two namespaces put the same key on a channel, so that their order is no matter here.
    split
    case h_6 hspray htemperature hpower hmode hmp3 =>
      simp [Ne.symm hspray, Ne.symm htemperature, Ne.symm hpower, Ne.symm hmode, Ne.symm hmp3]
    case h_3 | h_4 =>
      by_cases hc : c ∈ descriptor.channels .thermostatMode <;> simp [hc, apply_ite]
    all_goals simp [apply_ite]

/-! ### Members by namespace -/

/-- Members are registered for the namespace that puts them on their channel. -/
theorem mem_on {mask : UInt8} {ns ns' : Namespace} {c : Channel} {id : EntityId} :
    (∃ m ∈ on mask ns' c, m.ns = some ns ∧ m.entity.id = id) ↔
      ns' = ns ∧ ns' ∈ order ∧ id ∈ ns'.ids c := by
  cases ns' with
  | thermostatMode =>
    constructor
    · rintro ⟨m, hm, hns, rfl⟩
      rcases List.mem_append.1 hm with hm | hm
      · rcases List.mem_pair.1 hm with rfl | rfl <;> cases hns
        · exact ⟨rfl, by decide, List.mem_cons_self ..⟩
        · exact ⟨rfl, by decide, List.mem_cons_of_mem _ (List.mem_cons_self ..)⟩
      · rcases derived_cases hm with ⟨-, rfl⟩ | ⟨-, rfl⟩ <;> cases hns
    · rintro ⟨rfl, -, hid⟩
      rcases List.mem_pair.1 hid with rfl | rfl
      · exact ⟨_, List.mem_cons_self .., rfl, rfl⟩
      · exact ⟨_, List.mem_cons_of_mem _ (List.mem_cons_self ..), rfl, rfl⟩
  | systemAll | systemAbility | diffuserSensor | sensorLatest | sensorLatestX =>
    simp [on, order]
  | _ =>
    constructor
    · rintro ⟨m, hm, hns, rfl⟩
      obtain rfl := List.mem_singleton.1 hm
      cases hns
      exact ⟨rfl, by decide, List.mem_singleton_self _⟩
    · rintro ⟨rfl, -, hid⟩
      obtain rfl := List.mem_singleton.1 hid
      exact ⟨_, List.mem_singleton_self _, rfl, rfl⟩

theorem mem_order {descriptor : Descriptor} {ns : Namespace} {c : Channel}
    (h : c ∈ descriptor.channels ns) : ns ∈ order := by
  cases ns with
  | systemAll | systemAbility | diffuserSensor | sensorLatest | sensorLatestX => cases h
  | _ => decide

/-- There is a member to register where the descriptor names one, and nowhere else. -/
theorem names_iff {mask : UInt8} {descriptor : Descriptor} {ns : Namespace} {id : EntityId} :
    (∃ m ∈ ofDescriptor mask descriptor, m.ns = some ns ∧ m.entity.id = id) ↔
      descriptor.Names ns id := by
  simp only [ofDescriptor_eq, List.mem_flatMap]
  constructor
  · rintro ⟨m, ⟨ns', -, c, hc, hm⟩, hns, hid⟩
    obtain ⟨rfl, -, hmem⟩ := mem_on.1 ⟨m, hm, hns, hid⟩
    exact ⟨c, hc, hmem⟩
  · rintro ⟨c, hc, hmem⟩
    have hput : ∃ m ∈ on mask ns c, m.ns = some ns ∧ m.entity.id = id :=
      mem_on.2 ⟨rfl, mem_order hc, hmem⟩
    obtain ⟨m, hm, hns, hid⟩ := hput
    exact ⟨m, ⟨ns, mem_order hc, c, hc, hm⟩, hns, hid⟩

end Member

/-! ## Taking in the digest

Items of the digest are for members that are registered by then, so that none
is made or registered when they are passed on. -/

namespace Device

theorem channels_eq {descriptor : Descriptor} {ns : Namespace} (htoggle : ns ≠ .toggle)
    (hmp3 : ns ≠ .mp3) :
    descriptor.channels ns = Member.channelsOf ns (descriptor.subtree? ns) := by
  rw [Member.channelsOf_eq]
  cases ns with
  | toggle => exact absurd rfl htoggle
  | mp3 => exact absurd rfl hmp3
  | _ => rfl

/-- Whatever item the digest holds for a channel, the descriptor names the channel. -/
theorem mem_channels {descriptor : Descriptor} {ns : Namespace} {item : Item} {c : Channel}
    (hx : (ns, item) ∈ digestItems descriptor.digest) (hchannel : item.channel = some c)
    (htoggle : ns ≠ .toggle) : c ∈ descriptor.channels ns := by
  obtain ⟨path, data, items, hroute, hdata, hitems, hitem⟩ := exists_of_mem_digestItems hx
  have hpath : descriptor.subtree? ns = descriptor.digest.descend? path ∧ ns ≠ .mp3 := by
    simp only [digestRoutes, List.mem_cons, Prod.mk.injEq, List.not_mem_nil, or_false] at hroute
    rcases hroute with
      ⟨rfl, rfl⟩ | ⟨rfl, rfl⟩ | ⟨rfl, rfl⟩ | ⟨rfl, rfl⟩ | ⟨rfl, rfl⟩ | ⟨rfl, rfl⟩ <;>
      exact ⟨rfl, by decide⟩
  rw [channels_eq htoggle hpath.2, hpath.1, hdata]
  unfold Member.channelsOf
  simp only [Option.map_some, hitems]
  exact List.mem_filterMap.2 ⟨item, hitem, hchannel⟩

theorem supports_furnish (mask : UInt8) (descriptor : Descriptor) (ns : Namespace) :
    (furnish mask descriptor).dispatcher.supports ns = descriptor.ability.contains ns := by
  refine furnish_invariant
    (I := fun d => d.dispatcher.supports ns = descriptor.ability.contains ns) rfl
    (fun d m hm hd => ?_) fun d ns' _ hd => ?_
  · have hjoin : Trace .any d [] (d.join m) := trace_join hm.made.loose d
    exact (supports_trace hjoin ns).trans hd
  · exact (Dispatcher.supports_registerCustom d.dispatcher ns' ns).trans hd

/-- What the data for a channel would make by default is what it is for. -/
theorem defaultId_mem_ids {ns : Namespace} {kind : Kind} (h : ns.policy = .createDefault kind)
    (c : Channel) : defaultId kind c ∈ ns.ids c ∧ ns ≠ .toggle := by
  cases ns <;> cases h <;> exact ⟨List.mem_singleton_self _, nofun⟩

theorem registered_furnish_iff {mask : UInt8} {descriptor : Descriptor} {ns : Namespace}
    {id : EntityId} :
    (furnish mask descriptor).Registered ns id ↔
      descriptor.ability.contains ns = true ∧ descriptor.Names ns id := by
  rw [registered_furnish, Member.names_iff]

theorem roster_furnish (mask : UInt8) (descriptor : Descriptor) (id : EntityId) :
    ((furnish mask descriptor).entity? id).map Entity.bare = descriptor.roster mask id := by
  rw [bare_furnish, Member.find?_ofDescriptor]

theorem exists_member {mask : UInt8} {descriptor : Descriptor} {m : Member}
    (hm : m ∈ Member.ofDescriptor mask descriptor) :
    ∃ e, (furnish mask descriptor).entity? m.entity.id = some e := by
  have hfound : ((Member.ofDescriptor mask descriptor).find?
      (·.entity.id = m.entity.id)).isSome = true :=
    List.find?_isSome.2 ⟨m, hm, decide_eq_true rfl⟩
  have hbare := congrArg Option.isSome (bare_furnish mask descriptor m.entity.id)
  rw [Option.isSome_map, Option.isSome_map, hfound] at hbare
  exact Option.isSome_iff_exists.1 hbare

theorem receptive_furnish {mask : UInt8} {descriptor : Descriptor} {x : Namespace × Item}
    (hx : x ∈ digestItems descriptor.digest) : Receptive x (furnish mask descriptor) := by
  have hwired := wired_furnish mask descriptor
  intro c hc id hid
  rcases lookup_of_addressees (furnish mask descriptor) x.1 c with ⟨-, htargets, -⟩ | ⟨-, hlookup⟩
  -- Those that are listed are registered already; the default of a channel without any is a
  -- member as well, but one that could not be registered.
  · rw [htargets, hwired.mem_targets] at hid
    obtain ⟨-, e, he, hcontains⟩ := hid
    exact ⟨e, he, fun _ => hcontains⟩
  · rw [addressees_eq, hlookup] at hid
    cases hpolicy : x.1.policy with
    | logOnly | ignore =>
      rw [hpolicy] at hid
      cases hid
    | createDefault kind =>
      rw [hpolicy] at hid
      obtain rfl := List.mem_singleton.1 hid
      obtain ⟨hids, htoggle⟩ := defaultId_mem_ids hpolicy c
      have hnames : descriptor.Names x.1 (defaultId kind c) :=
        ⟨c, mem_channels hx hc htoggle, hids⟩
      have hmember : ∃ m ∈ Member.ofDescriptor mask descriptor, m.ns = some x.1 ∧
          m.entity.id = defaultId kind c := Member.names_iff.2 hnames
      obtain ⟨m, hm, -, hsame⟩ := hmember
      obtain ⟨e, he⟩ := exists_member hm
      rw [hsame] at he
      refine ⟨e, he, fun henrolls => ?_⟩
      have hability : descriptor.ability.contains x.1 = true := by
        rw [← supports_furnish mask]
        exact (Bool.and_eq_true_iff.1 henrolls).1
      obtain ⟨e', he', hcontains⟩ := registered_furnish_iff.2 ⟨hability, hnames⟩
      obtain rfl := Option.some.inj (he.symm.trans he')
      exact hcontains

/-! ## The device that is built -/

theorem Leaves.registered {d d' : Device} (h : Leaves d d') {ns : Namespace} {id : EntityId} :
    d'.Registered ns id ↔ d.Registered ns id := by
  have hnamespaces := h.namespaces id
  constructor
  · rintro ⟨e', he', hcontains⟩
    rw [he', Option.map_some] at hnamespaces
    obtain ⟨e, he, hsame⟩ := Option.map_eq_some_iff.1 hnamespaces.symm
    exact ⟨e, he, hsame ▸ hcontains⟩
  · rintro ⟨e, he, hcontains⟩
    rw [he, Option.map_some] at hnamespaces
    obtain ⟨e', he', hsame⟩ := Option.map_eq_some_iff.1 hnamespaces
    exact ⟨e', he', hsame ▸ hcontains⟩

/-- To take in the digest makes and registers nothing more. -/
theorem leaves_build (mask : UInt8) (descriptor : Descriptor) :
    Leaves (furnish mask descriptor) (build mask descriptor).device := by
  unfold build
  rw [device_parseDigest]
  exact (repeatable_pass _).leaves_forEach (fit_furnish mask descriptor) fun x hx =>
    receptive_furnish hx

theorem descends_build (mask : UInt8) (descriptor : Descriptor) :
    Descends mask descriptor (build mask descriptor).device := by
  have hcourse : Course (fun _ _ => True) mask descriptor (build mask descriptor).device := .built
  exact (hcourse.invariant (I := fun _ => True) trivial (along_true _ _)
    fun _ _ _ _ _ _ => trivial).1

theorem bare_build (mask : UInt8) (descriptor : Descriptor) (id : EntityId) :
    ((build mask descriptor).device.entity? id).map Entity.bare =
      ((furnish mask descriptor).entity? id).map Entity.bare := by
  have hnamespaces := (leaves_build mask descriptor).namespaces id
  cases he : (furnish mask descriptor).entity? id with
  | none =>
    rw [he, Option.map_none, Option.map_eq_none_iff] at hnamespaces
    rw [hnamespaces]
  | some e =>
    obtain ⟨e', he', hbare⟩ := (descends_build mask descriptor).stays he
    rw [he', Option.map_some, Option.map_some, hbare]

/-- The entities of a device are those of the descriptor, and they are registered
    for the namespaces of the device that name them. -/
structure Musters (mask : UInt8) (descriptor : Descriptor) (d : Device) : Prop where
  entities : ∀ id, (d.entity? id).map Entity.bare = descriptor.roster mask id
  registered : ∀ ns id, d.Registered ns id ↔
    descriptor.ability.contains ns = true ∧ descriptor.Names ns id
  listed : ∀ ns c id, id ∈ d.dispatcher.targets ns c ↔
    id.channel? = some c ∧ d.Registered ns id

/-- A device is built with what its descriptor speaks of, whatever the digest
    holds, and with nothing else. -/
theorem build_musters (mask : UInt8) (descriptor : Descriptor) :
    Musters mask descriptor (build mask descriptor).device where
  entities id := by rw [bare_build, roster_furnish]
  registered ns id := by rw [(leaves_build mask descriptor).registered, registered_furnish_iff]
  listed ns c id := (descends_build mask descriptor).fit.wired.mem_targets

end Device

end Appliance
