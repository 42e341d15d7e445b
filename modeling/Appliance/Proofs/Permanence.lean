-- SUMMARY: What is there stays what it is until it is taken out, and what comes in comes in under its own id.

import Appliance.Proofs.Course
import Appliance.Proofs.Usable

namespace Appliance

/-! ## Entities that endure -/

namespace Entity

/-- The entity is what another was before: what is known of it may be new, and
    it may be registered for more. -/
structure Endures (e e' : Entity) : Prop where
  id : e'.id = e.id
  kind : e'.kind = e.kind
  commandedBy : e'.commandedBy = e.commandedBy
  measure : e'.status.measure.isSome = e.status.measure.isSome
  power : e'.status.power.isSome = e.status.power.isSome
  state : e'.status.state.isSome = e.status.state.isSome
  selection : e'.status.selection.isSome = e.status.selection.isSome
  light : e'.status.light.isSome = e.status.light.isSome
  climate : e'.status.climate.isSome = e.status.climate.isSome
  player : e'.status.player.isSome = e.status.player.isSome
  scale : e'.status.measure.map (·.scale) = e.status.measure.map (·.scale)
  presets : e'.status.selection.map (·.presets) = e.status.selection.map (·.presets)
  namespaces : ∀ ns, e.namespaces.contains ns = true → e'.namespaces.contains ns = true

theorem isSome_of_map {α β : Type} {f : α → β} {o o' : Option α} (h : o'.map f = o.map f) :
    o'.isSome = o.isSome := by
  have hsome := congrArg Option.isSome h
  rwa [Option.isSome_map, Option.isSome_map] at hsome

/-- What is left when all values are forgotten endures. -/
theorem Endures.of_bare {e e' : Entity} (h : e'.bare = e.bare)
    (hnamespaces : ∀ ns, e.namespaces.contains ns = true → e'.namespaces.contains ns = true) :
    e.Endures e' := by
  have hclear : e'.status.clear = e.status.clear := congrArg Entity.status h
  have hmeasure := congrArg Status.measure hclear
  have hselection := congrArg Status.selection hclear
  exact {
    id := by rw [← id_bare e', h, id_bare]
    kind := by rw [← kind_bare e', h, kind_bare]
    commandedBy := by rw [← commandedBy_bare e', h, commandedBy_bare]
    measure := isSome_of_map hmeasure
    power := isSome_of_map (congrArg Status.power hclear)
    state := isSome_of_map (congrArg Status.state hclear)
    selection := isSome_of_map hselection
    light := isSome_of_map (congrArg Status.light hclear)
    climate := isSome_of_map (congrArg Status.climate hclear)
    player := isSome_of_map (congrArg Status.player hclear)
    scale := Device.scale_congr hclear
    presets := by
      have hpresets := congrArg (Option.map Selection.presets) hselection
      rwa [Status.clear, Status.clear, Option.map_map, Option.map_map] at hpresets
    namespaces := hnamespaces }

theorem Endures.refl (e : Entity) : e.Endures e := .of_bare rfl fun _ h => h

theorem Endures.trans {e e' e'' : Entity} (h : e.Endures e') (h' : e'.Endures e'') :
    e.Endures e'' where
  id := h'.id.trans h.id
  kind := h'.kind.trans h.kind
  commandedBy := h'.commandedBy.trans h.commandedBy
  measure := h'.measure.trans h.measure
  power := h'.power.trans h.power
  state := h'.state.trans h.state
  selection := h'.selection.trans h.selection
  light := h'.light.trans h.light
  climate := h'.climate.trans h.climate
  player := h'.player.trans h.player
  scale := h'.scale.trans h.scale
  presets := h'.presets.trans h.presets
  namespaces ns hns := h'.namespaces ns (h.namespaces ns hns)

end Entity

theorem DeviceMove.endures {m : DeviceMove} {d : Device} (hd : d.Sound) {id : EntityId} {e : Entity}
    (he : d.entity? id = some e) (hm : m ≠ .remove id) :
    ∃ e', (m.run d).device.entity? id = some e' ∧ e.Endures e' := by
  obtain ⟨e', he', hbare⟩ := DeviceMove.bare_stays hd he hm
  refine ⟨e', he', .of_bare hbare fun ns hns => ?_⟩
  rcases DeviceMove.entity?_cases he' with
    h | ⟨op, e₀, -, h, rfl⟩ | ⟨-, -, hnone⟩ | ⟨ns', e₀, -, h, rfl⟩
  · obtain rfl := Option.some.inj (he.symm.trans h)
    exact hns
  · obtain rfl := Option.some.inj (he.symm.trans h)
    rw [EntityOp.namespaces_run op (hd id e h)]
    exact hns
  · rw [hnone] at he
    cases he
  · obtain rfl := Option.some.inj (he.symm.trans h)
    rw [Table.contains] at hns ⊢
    rw [Table.get?_insert]
    split
    · rfl
    · exact hns

theorem Trace.endures {sc : Scope} {d d' : Device} {es : List Event} (h : Trace sc d es d')
    (henters : ∀ e, sc.enters e → e.Sound) (hd : d.Sound) (hleaves : ¬sc.leaves) {id : EntityId}
    {e : Entity} (he : d.entity? id = some e) :
    ∃ e', d'.entity? id = some e' ∧ e.Endures e' := by
  induction h generalizing e with
  | nil d => exact ⟨e, he, .refl e⟩
  | @cons d _ _ m allowed rest ih =>
    have hm : m ≠ .remove id := by
      rintro rfl
      exact hleaves allowed
    obtain ⟨e₁, he₁, hfirst⟩ := DeviceMove.endures hd he hm
    obtain ⟨e₂, he₂, hrest⟩ := ih (hd.move henters allowed) he₁
    exact ⟨e₂, he₂, hfirst.trans hrest⟩

/-- The operation takes entities out. -/
def Operation.TakesOut : Operation → Prop
  | .remove _ | .shutdown => True
  | _ => False

namespace Operation

theorem endures_run {d : Device} (hd : d.Sound) (t : Transport) {op : Operation}
    (hop : ¬op.TakesOut) {id : EntityId} {e : Entity} (he : d.entity? id = some e) :
    ∃ e', (op.run t d).device.entity? id = some e' ∧ e.Endures e' := by
  by_cases hadd : ∃ e₀, op = .add e₀
  · -- what is added may be anything, so it is not within any scope
    obtain ⟨e₀, rfl⟩ := hadd
    rw [device_add]
    exact DeviceMove.endures (m := .insert e₀) hd he DeviceMove.noConfusion
  · have hwithin : op.Within .selfmade := by
      cases op with
      | add e₀ => exact absurd ⟨e₀, rfl⟩ hadd
      | remove id => exact hop trivial
      | shutdown => exact hop trivial
      | _ => trivial
    have htrace : Traced .selfmade (op.run t) d :=
      traced_run Scope.opens_selfmade hwithin (fun hp => hp.elim) (fun hp => hp.elim) d
    exact htrace.endures (fun e he => (Entity.Supplied.made he).sound) hd not_false he

/-- An id that is taken is not given again. -/
theorem add_of_taken (t : Transport) {d : Device} {e : Entity}
    (h : (d.entity? e.id).isSome = true) :
    (add e).run t d = ⟨d, [], .failed (.unsupported (.entityExists e.id))⟩ := by
  have htaken : d.entities.contains e.id = true := h
  simp [run, Device.add, htaken]

end Operation

/-! ## Newcomers

What a device makes by itself it makes for an item or for a reading, under the
id that these call for. -/

/-- The id that a namespace gives to what it makes for a channel. -/
inductive Namespace.Makes (ns : Namespace) (c : Channel) : EntityId → Prop where
  | channel {kind : Kind} (policy : ns.policy = .createDefault kind)
      (hkind : kind ≠ .diffuserSpray) : Makes ns c (.channel c)
  | spray (policy : ns.policy = .createDefault .diffuserSpray) : Makes ns c (.keyed c "spray")

/-- A digest has an item of a namespace for a channel. -/
inductive Json.Digests (digest : Json) (ns : Namespace) (c : Channel) : Prop where
  | intro {path : List String} {data : Json} {items : List Item} {i : Item}
      (hroute : (path, ns) ∈ Device.digestRoutes) (hdata : digest.descend? path = some data)
      (hitems : Item.split ns data = .ok items) (hi : i ∈ items) (hc : i.channel = some c)

/-- The ids that a message can bring in. -/
inductive Introduces (header : Header) (payload : Json) : EntityId → Prop where
  /-- The payload has an item for the channel. -/
  | item {ns : Namespace} {items : List Item} {i : Item} {c : Channel} {id : EntityId}
      (known : header.known? = some ns) (hitems : Item.ofPayload ns payload = .ok items)
      (hi : i ∈ items) (hc : i.channel = some c) (hid : ns.Makes c id) :
      Introduces header payload id
  /-- The payload is a summary, and its digest has an item for the channel. -/
  | digest {digest : Json} {ns : Namespace} {c : Channel} {id : EntityId}
      (known : header.known? = some .systemAll)
      (hdigest : payload.descend? ["all", "digest"] = some digest) (hc : digest.Digests ns c)
      (hid : ns.Makes c id) : Introduces header payload id
  /-- A latest value is a number. -/
  | latest {entry value number : Json} {c : Channel} {key : String} {x : Float}
      (known : header.known? = some .sensorLatest) (hentry : entry ∈ payload.listAt "latest")
      (hc : Reading.channelOf entry = some c) (hvalue : value ∈ entry.listAt "value")
      (hfield : (key, number) ∈ value.fields) (hx : number.asFloat? = some x) :
      Introduces header payload (.keyed c ("sensor_" ++ key))
  /-- A latest sample has a number. -/
  | sample {entry data samples sample : Json} {c : Channel} {key : String} {x : Float}
      (known : header.known? = some .sensorLatestX) (hentry : entry ∈ payload.listAt "latest")
      (hc : Reading.channelOf entry = some c) (hdata : entry.get? "data" = some data)
      (hfield : (key, samples) ∈ data.fields) (hsample : samples.at? [.index 0] = some sample)
      (hx : sample.floatAt? "value" = some x) :
      Introduces header payload (.keyed c ("sensor_" ++ key))
  /-- A diffuser reports a number. -/
  | diffuser {key : String} {sensor : Json} {x : Float}
      (known : header.known? = some .diffuserSensor)
      (hkey : key = "humidity" ∨ key = "temperature") (hsensor : payload.get? key = some sensor)
      (hx : sensor.floatAt? "value" = some x) : Introduces header payload (.key key)

/-- The ids that an operation can bring in. -/
inductive Operation.Brings (t : Transport) : Operation → EntityId → Prop where
  | handle {m : Message} {id : EntityId}
      (speaks : m.header.method = .push ∨ m.header.method = .getAck)
      (hid : Introduces m.header m.payload id) : Brings t (.handle m) id
  | dispatch {header : Header} {payload : Json} {id : EntityId}
      (hid : Introduces header payload id) : Brings t (.dispatch header payload) id
  | digest {digest : Json} {ns : Namespace} {c : Channel} {id : EntityId}
      (hc : digest.Digests ns c) (hid : ns.Makes c id) : Brings t (.parseDigest digest) id
  | poll {ns : Namespace} {m : Message} {id : EntityId}
      (answer : t (Device.pollRequest ns) = .ok m) (hid : Introduces m.header m.payload id) :
      Brings t (.poll ns) id
  | add (e : Entity) : Brings t (.add e) e.id

namespace Device

theorem makes_defaultId {ns : Namespace} {kind : Kind} (h : ns.policy = .createDefault kind)
    (c : Channel) : ns.Makes c (defaultId kind c) := by
  unfold defaultId
  split
  · rename_i hkind
    subst hkind
    exact .spray h
  · rename_i hkind
    exact .channel h hkind

/-! ### What deeds bring in -/

/-- The ids that a deed can bring in. -/
def OperationDeed.Brings (id : EntityId) : OperationDeed → Prop
  | .pass x => ∃ c, x.2.channel = some c ∧ x.1.Makes c id
  | .read r => r.id = id
  | .forget | .carry _ _ | .keep _ => False

/-- All may come in but one. -/
def barring (id : EntityId) : Scope := ⟨fun e => e.id ≠ id, True, False⟩

theorem absent_trace {d d' : Device} {es : List Event} {id : EntityId}
    (h : Trace (barring id) d es d') (hd : d.entity? id = none) : d'.entity? id = none := by
  refine h.invariant (I := fun d => d.entity? id = none) (fun d m hd hm => ?_) hd
  refine Option.eq_none_iff_forall_ne_some.2 fun e' he' => ?_
  rcases DeviceMove.entity?_cases he' with h | ⟨_, e, -, h, -⟩ | ⟨rfl, hid, -⟩ | ⟨_, e, -, h, -⟩
  · rw [hd] at h
    cases h
  · rw [hd] at h
    cases h
  · exact hm hid
  · rw [hd] at h
    cases h

theorem traced_barring {d : Device} {x : OperationDeed} {id : EntityId} (hapt : x.Apt d)
    (hx : ¬x.Brings id) : Traced (barring id) x.act d := by
  cases x with
  | pass x =>
    have henters : ∀ kind c, x.2.channel = some c → x.1.policy = .createDefault kind →
        (barring id).enters (.ofKind kind (defaultId kind c) x.1) := by
      intro kind c hc hpolicy heq
      rw [id_ofKind] at heq
      exact hx ⟨c, hc, heq ▸ makes_defaultId hpolicy c⟩
    exact traced_dispatchItem_of x.1 henters (fun hp => hp.elim) d
  | read r =>
    have hsane : SaneReading (barring id).proper r :=
      ⟨hapt.1, fun hp => hp.elim, fun hp => hp.elim⟩
    exact traced_applyReading_of (fun heq => hx heq) hsane d
  | forget => exact traced_setUnavailable d
  | carry id o => exact Traced.bind (traced_carryOut id o d) (Traced.pure _ _)
  | keep digest => exact Traced.move (.keepDigest digest) trivial

theorem absent_after {xs : List OperationDeed} {d : Device} {id : EntityId}
    (hapt : Along (fun d x => x.Apt d) xs d) (hxs : ∀ x ∈ xs, ¬x.Brings id)
    (hd : d.entity? id = none) : (after xs d).entity? id = none := by
  induction xs generalizing d with
  | nil => exact hd
  | cons x xs ih =>
    obtain ⟨hx, hrest⟩ := List.forall_mem_cons.1 hxs
    exact ih hapt.2 hrest (absent_trace (traced_barring hapt.1 hx) hd)

/-! ### What payloads bring in -/

theorem digests_of_mem {digest : Json} {x : Namespace × Item} (h : x ∈ digestItems digest)
    {c : Channel} (hc : x.2.channel = some c) : digest.Digests x.1 c := by
  obtain ⟨path, data, items, hroute, hdata, hitems, hi⟩ := exists_of_mem_digestItems h
  exact .intro hroute hdata hitems hi hc

theorem introduces_reading {header : Header} {ns : Namespace} (known : header.known? = some ns)
    {payload : Json} {r : Reading} (h : r ∈ Reading.usable ns payload) :
    Introduces header payload r.id := by
  cases ns with
  | sensorLatest =>
    rw [Reading.usable_sensorLatest] at h
    obtain ⟨entry, hentry, h⟩ := List.mem_flatMap.1 h
    unfold Reading.latestReadings at h
    split at h
    · cases h
    · rename_i c hc
      obtain ⟨value, hvalue, h⟩ := List.mem_flatMap.1 h
      obtain ⟨⟨key, number⟩, hfield, h⟩ := List.mem_flatMap.1 h
      obtain ⟨-, x, hx, rfl⟩ := Reading.fieldReading?_eq_some.1 (Option.mem_toList.1 h)
      exact .latest known hentry hc hvalue hfield hx
  | sensorLatestX =>
    rw [Reading.usable_sensorLatestX] at h
    obtain ⟨entry, hentry, h⟩ := List.mem_flatMap.1 h
    unfold Reading.sampleReadings at h
    split at h
    · rename_i c data hc hdata
      obtain ⟨⟨key, samples⟩, hfield, h⟩ := List.mem_flatMap.1 h
      obtain ⟨fields, number, x, hsample, hnumber, hx, rfl⟩ :=
        Reading.sampleReading?_eq_some.1 (Option.mem_toList.1 h)
      exact .sample known hentry hc hdata hfield hsample
        (Option.bind_eq_some_iff.2 ⟨number, hnumber, hx⟩)
    · cases h
  | diffuserSensor =>
    rw [Reading.usable_diffuserSensor] at h
    obtain ⟨key, hkey, h⟩ := List.mem_flatMap.1 h
    obtain ⟨x, hvalue, rfl⟩ := Option.map_eq_some_iff.1 (Option.mem_toList.1 h)
    obtain ⟨number, hnumber, hx⟩ := Option.bind_eq_some_iff.1 hvalue
    obtain ⟨sensor, hsensor, hat⟩ := Option.bind_eq_some_iff.1 hnumber
    rw [Json.at?_singleton] at hat
    exact .diffuser known (List.mem_pair.1 hkey) hsensor
      (Option.bind_eq_some_iff.2 ⟨number, hat, hx⟩)
  | _ => cases h

theorem introduces_of_comesTo {header : Header} {payload : Json} {x : OperationDeed}
    (hx : ComesTo header payload x) {id : EntityId} (hid : x.Brings id) :
    Introduces header payload id := by
  cases hx with
  | digest known hdigest hy =>
    obtain ⟨c, hc, hid⟩ := hid
    exact .digest known hdigest (digests_of_mem hy hc) hid
  | keep => exact hid.elim
  | reading known hparts hr =>
    obtain rfl : _ = id := hid
    exact introduces_reading known (Reading.mem_usable hparts hr)
  | item known hitems hi =>
    obtain ⟨c, hc, hid⟩ := hid
    exact .item known hitems hi hc hid

end Device

namespace Operation

theorem brings_of_mem {t : Transport} {d : Device} {op : Operation} {x : Device.OperationDeed}
    (hx : x ∈ op.deeds t d) {id : EntityId} (hid : x.Brings id) : op.Brings t id := by
  cases comesTo_of_mem hx with
  | received receives comes =>
    have hintroduces := Device.introduces_of_comesTo comes hid
    cases receives with
    | handle speaks => exact .handle speaks hintroduces
    | dispatch => exact .dispatch hintroduces
    | poll answer => exact .poll answer hintroduces
  | digest hy =>
    obtain ⟨c, hc, hid⟩ := hid
    exact .digest (Device.digests_of_mem hy hc) hid
  | loss | order => exact hid.elim

theorem brings_of_new {t : Transport} {d : Device} {op : Operation} {id : EntityId}
    (hnone : d.entity? id = none) (hsome : (op.run t d).device.entity? id ≠ none) :
    op.Brings t id := by
  by_contra hnot
  refine hsome ?_
  have hroutine : op.Routine → (op.run t d).device.entity? id = none := by
    intro hroutine
    rw [device_run hroutine]
    exact Device.absent_after (Device.along_apt op t d)
      (fun x hx hid => hnot (brings_of_mem hx hid)) hnone
  cases op with
  | shutdown => exact Device.entity?_shutdown d id
  | add e =>
    rw [device_add, Device.entity?_insert, if_neg]
    · exact hnone
    · rintro ⟨-, rfl⟩
      exact hnot (.add e)
  | register ns i =>
    change (d.register ns i).2.entity? id = none
    rw [Device.entity?_register]
    split
    · rename_i hid
      rw [← hid.2, hnone]
      rfl
    · exact hnone
  | remove i =>
    change (d.remove i).2.entity? id = none
    rw [Device.entity?_remove]
    split
    · rfl
    · exact hnone
  | _ => exact hroutine trivial

/-- What is there stays what it is, whatever is done but taking it out, and its
    id is not given again. What is new is what the operation brings in. -/
theorem run_lasting {d : Device} (hd : d.Reachable) (t : Transport) (op : Operation) :
    (¬op.TakesOut → ∀ id e, d.entity? id = some e →
        ∃ e', (op.run t d).device.entity? id = some e' ∧ e.Endures e') ∧
      (∀ e, (d.entity? e.id).isSome = true →
        (add e).run t d = ⟨d, [], .failed (.unsupported (.entityExists e.id))⟩) ∧
      ∀ id, d.entity? id = none → (op.run t d).device.entity? id ≠ none → op.Brings t id :=
  ⟨fun hop _ _ he => endures_run hd.sound t hop he, fun _ he => add_of_taken t he,
    fun _ => brings_of_new⟩

/-- A plug is told of a second outlet: the first stays a switch, and the second
    has the channel it was told of. -/
theorem run_lasting_plug :
    (∃ e, ((dispatch (Device.pushHeader .toggleX)
        (.obj [("togglex", .obj [("channel", .int 1), ("onoff", .int 1)])])).run
          (fun _ => .error .timeout) (Chronicle.start 0 .plug).device).device.entity?
            (.channel (.int 0)) = some e ∧ e.kind = .switch) ∧
      (dispatch (Device.pushHeader .toggleX)
        (.obj [("togglex", .obj [("channel", .int 1), ("onoff", .int 1)])])).Brings
          (fun _ => .error .timeout) (.channel (.int 1)) := by
  have hbuilt : Reached (fun _ _ => True) 0 .plug (.start 0 .plug) := .built
  have hlasting := run_lasting hbuilt.reachable (fun _ => .error .timeout)
    (dispatch (Device.pushHeader .toggleX)
      (.obj [("togglex", .obj [("channel", .int 1), ("onoff", .int 1)])]))
  refine ⟨?_, hlasting.2.2 _ rfl fun h => ?_⟩
  · obtain ⟨e, he, hendures⟩ := hlasting.1 not_false (.channel (.int 0)) _ rfl
    exact ⟨e, he, hendures.kind⟩
  · cases h

end Operation

end Appliance
