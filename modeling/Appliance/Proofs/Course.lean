-- SUMMARY: Courses: what a device goes through while callers neither add nor register nor take out anything, deed by deed.

import Appliance.Proofs.Command
import Appliance.Proofs.Locality
import Appliance.Proofs.Mirror
import Appliance.Proofs.Origin
import Appliance.Proofs.Paths
import Appliance.Proofs.Replay

namespace Appliance

/-- What a device does while callers leave its entities to it: nothing goes, and
    what comes in the device made by itself. -/
def Scope.selfmade : Scope := ⟨Entity.Supplied, False, False⟩

theorem Scope.opens_selfmade : Scope.selfmade.Opens := fun _ h => h

theorem Scope.calm_of_selfmade {d : Device} {m : DeviceMove} (h : Scope.selfmade.Allows d m) :
    Scope.calm.Allows d m := by
  cases m with
  | insert e => exact ⟨Entity.Supplied.made h, Entity.Supplied.scaled h⟩
  | remove id => exact False.elim h
  | edit _ _ | register _ _ | keepDigest _ | warn _ | send _ => exact h

/-- A device makes no climate by itself. -/
theorem Entity.Supplied.kind_ne_climate {e : Entity} (h : e.Supplied) : e.kind ≠ .climate := by
  cases h with
  | @item ns kind policy c => cases ns <;> cases policy <;> exact Kind.noConfusion
  | reading id => exact Kind.noConfusion

namespace Device

/-! ## Deeds

Messages, polls, commands and losses all come to a row of deeds: single items
and readings, orders that were accepted, digests that are kept. What is only
warned about or asked for is no deed. -/

inductive OperationDeed where
  /-- Passes on an item. -/
  | pass (x : Namespace × Item)
  /-- Takes in a reading. -/
  | read (r : Reading)
  /-- Makes all entities unavailable. -/
  | forget
  /-- Lets an accepted order show at an entity. -/
  | carry (id : EntityId) (o : Order)
  /-- Keeps a digest. -/
  | keep (digest : Json)

namespace OperationDeed

def act : OperationDeed → Action Unit
  | pass x => Device.pass x
  | read r => applyReading r
  | forget => setUnavailable
  | carry id o => do
    let _ ← carryOut id o
  | keep digest => .modify (·.keepDigest digest)

/-- The deed is one that a device comes to: readings have ids of their own, and
    an order is for an entity that takes it. -/
def Apt (d : Device) : OperationDeed → Prop
  | read r =>
    Double.IsScale r.scale ∧ (∀ c, r.id ≠ .channel c) ∧ ∀ c, r.id ∉ derivedIds c
  | carry id o => ∃ e ch c, d.entity? id = some e ∧ id.channel? = some ch ∧ o.ServesCommand e ch c
  | pass _ | forget | keep _ => True

end OperationDeed

/-- The device after a row of deeds. -/
def after (xs : List OperationDeed) (d : Device) : Device :=
    (Action.forEach xs OperationDeed.act d).device

@[simp] theorem after_nil (d : Device) : after [] d = d := rfl

@[simp] theorem after_cons (x : OperationDeed) (xs : List OperationDeed) (d : Device) :
    after (x :: xs) d = after xs (x.act d).device := rfl

theorem after_append (xs ys : List OperationDeed) (d : Device) :
    after (xs ++ ys) d = after ys (after xs d) := by
  unfold after
  rw [Action.forEach_append]

/-- Each deed of a row suits the device that it is done to. -/
def Along (ok : Device → OperationDeed → Prop) : List OperationDeed → Device → Prop
  | [], _ => True
  | x :: xs, d => ok d x ∧ Along ok xs (x.act d).device

theorem along_of_forall {ok : Device → OperationDeed → Prop} {xs : List OperationDeed}
    (h : ∀ x ∈ xs, ∀ d, ok d x) (d : Device) : Along ok xs d := by
  induction xs generalizing d with
  | nil => trivial
  | cons x xs ih =>
    exact ⟨h x (List.mem_cons_self ..) d, ih (fun y hy => h y (List.mem_cons_of_mem _ hy)) _⟩

theorem along_true (xs : List OperationDeed) (d : Device) : Along (fun _ _ => True) xs d :=
  along_of_forall (fun _ _ _ => trivial) d

/-! ### The deeds of a payload -/

/-- The deeds that items come to. -/
def itemDeeds (ns : Namespace) : Except Error (List Item) → List OperationDeed
  | .ok items => items.map fun i => .pass (ns, i)
  | .error _ => []

def readingDeed? : Reading.Part → Option OperationDeed
  | .ok r => some (.read r)
  | .error _ => none

/-- The deeds that a sensor payload comes to. -/
def readingDeeds : Except Fault (List Reading.Part) → List OperationDeed
  | .ok parts => parts.filterMap readingDeed?
  | .error _ => []

def digestDeeds (digest : Json) : List OperationDeed := (digestItems digest).map .pass

/-- The deeds that a payload comes to. -/
def dispatchDeeds (d : Device) (header : Header) (payload : Json) : List OperationDeed :=
  match header.known? with
  | some .systemAll =>
    match payload.descend? ["all", "digest"] with
    | some digest => digestDeeds digest ++ [.keep digest]
    | none => []
  | some .systemAbility | none => []
  | some ns =>
    if d.dispatcher.isCustom ns then readingDeeds (Reading.ofPayload ns payload)
    else itemDeeds ns (Item.ofPayload ns payload)

/-- The deeds that a message comes to. -/
def handleDeeds (d : Device) (m : Message) : List OperationDeed :=
  match m.header.method with
  | .push | .getAck => d.dispatchDeeds m.header m.payload
  | .error | .get | .set | .setAck => []

theorem device_parseDigest_deeds (digest : Json) (d : Device) :
    (parseDigest digest d).device = after (digestDeeds digest) d := by
  rw [device_parseDigest, after, digestDeeds, Action.forEach_map]
  rfl

theorem device_dispatchItems (ns : Namespace) (items : Except Error (List Item)) (d : Device) :
    (dispatchItems ns items d).device = after (itemDeeds ns items) d := by
  cases items with
  | error error => rfl
  | ok items =>
    rw [after, itemDeeds, Action.forEach_map]
    rfl

theorem device_applyReadings (ns : Namespace) (payload : Json) (d : Device) :
    (applyReadings ns payload d).device =
      after (readingDeeds (Reading.ofPayload ns payload)) d := by
  unfold applyReadings
  cases Reading.ofPayload ns payload with
  | error fault => rfl
  | ok parts =>
    rw [after, readingDeeds, Action.forEach_filterMap]
    refine device_forEach_congr (fun part d => ?_) parts d
    cases part <;> rfl

theorem device_dispatch (header : Header) (payload : Json) (d : Device) :
    (dispatch header payload d).device = after (d.dispatchDeeds header payload) d := by
  unfold dispatchDeeds
  split
  · rename_i hknown
    split
    · rename_i digest hdigest
      rw [dispatch_summary hknown hdigest, after_append, ← device_parseDigest_deeds]
      rfl
    · rename_i hdigest
      rw [dispatch_no_summary hknown hdigest]
      rfl
  · rename_i hknown
    unfold dispatch
    rw [hknown]
    rfl
  · rename_i hknown
    unfold dispatch
    rw [hknown]
    rfl
  · rename_i ns hall hability hknown
    rw [dispatch_of_known hknown hall hability, dispatchNamespace_eq]
    split
    · exact device_applyReadings ns payload d
    · exact device_dispatchItems ns _ d

theorem device_handle (m : Message) (d : Device) :
    (handle m d).device = after (d.handleDeeds m) d := by
  unfold handleDeeds handle
  cases m.header.method with
  | push | getAck => exact device_dispatch m.header m.payload d
  | error | get | set | setAck => rfl

end Device

/-! ### The deeds of an operation -/

namespace Operation

open Device (OperationDeed after Along)

/-- Operations that leave it to the device which entities there are. -/
def Routine : Operation → Prop
  | .handle _ | .dispatch _ _ | .parseDigest _ | .setUnavailable | .poll _ | .command _ _ => True
  | .shutdown | .add _ | .register _ _ | .remove _ => False

/-- The deeds that a routine operation comes to. -/
def deeds (t : Transport) (d : Device) : Operation → List OperationDeed
  | .handle m => d.handleDeeds m
  | .dispatch header payload => d.dispatchDeeds header payload
  | .parseDigest digest => Device.digestDeeds digest
  | .setUnavailable => [.forget]
  | .poll ns =>
    match t (Device.pollRequest ns) with
    | .ok m => if m.acknowledges .get then d.handleDeeds m else []
    | .error error => if error.isUnreachable then [.forget] else []
  | .command id c =>
    match d.order id c with
    | .ok o =>
      match t o.request with
      | .ok m => if m.acknowledges .set then [.carry id o] else []
      | .error _ => []
    | .error _ => []
  | .shutdown | .add _ | .register _ _ | .remove _ => []

theorem device_poll (t : Transport) (ns : Namespace) (d : Device) :
    (Device.poll t ns d).device = after ((poll ns).deeds t d) d := by
  unfold deeds
  simp only
  split
  · rename_i m hm
    split
    · rename_i hack
      rw [Device.poll_answered t ns d hm (Device.acknowledges_get.1 hack)]
      exact Device.device_handle m d
    · rename_i hack
      rw [Device.poll_rejected t ns d hm fun hmethod => hack (Device.acknowledges_get.2 hmethod)]
      rfl
  · rename_i error herror
    rw [Device.poll_undelivered t ns d herror]
    unfold Device.noteFailure
    split <;> rfl

theorem device_command (t : Transport) (id : EntityId) (c : Command) (d : Device) :
    (Device.command t id c d).device = after ((command id c).deeds t d) d := by
  unfold deeds Device.command
  rw [Action.bind_apply]
  simp only [Action.device]
  cases d.order id c with
  | error error => rfl
  | ok o =>
    simp only [Action.bind_apply, Action.send]
    cases t o.request with
    | error error => rfl
    | ok m =>
      simp only
      split <;> rfl

theorem device_run {op : Operation} (h : op.Routine) (t : Transport) (d : Device) :
    (op.run t d).device = after (op.deeds t d) d := by
  cases op with
  | handle m => exact Device.device_handle m d
  | dispatch header payload => exact Device.device_dispatch header payload d
  | parseDigest digest => exact Device.device_parseDigest_deeds digest d
  | setUnavailable => rfl
  | poll ns => exact device_poll t ns d
  | command id c => exact device_command t id c d
  | shutdown | add e | register ns id | remove id => exact h.elim

end Operation

/-! ### What deeds there are -/

namespace Device

theorem sensorKey_ne (key : String) :
    Reading.sensorKey key ≠ outputPowerKey ∧ Reading.sensorKey key ≠ modeStateKey := by
  constructor
  all_goals
    intro h
    have hchars := congrArg String.toList h
    simp [Reading.sensorKey, outputPowerKey, modeStateKey] at hchars

theorem sensor_not_mem_derivedIds (c c' : Channel) (key : String) :
    EntityId.keyed c (Reading.sensorKey key) ∉ derivedIds c' := by
  intro h
  rcases List.mem_pair.1 h with h | h
  · exact (sensorKey_ne key).1 (EntityId.keyed.inj h).2
  · exact (sensorKey_ne key).2 (EntityId.keyed.inj h).2

/-- Readings have ids that no item and no climate has. -/
theorem apt_read {ns : Namespace} {payload : Json} {parts : List Reading.Part}
    (hparts : Reading.ofPayload ns payload = .ok parts) {r : Reading} (hr : .ok r ∈ parts)
    (d : Device) : (OperationDeed.read r).Apt d := by
  have hsane : SaneReading False r := sane_ofPayload (fun hp => hp.elim) hparts hr
  refine ⟨hsane.scale, ?_⟩
  have hkeyed : (∃ key, r.id = .key key) ∨ ∃ c key, r.IsFor c key := by
    cases Reading.source_ofPayload hparts with
    | diffuser h => exact .inl (h r hr).2
    | values h =>
      obtain ⟨c, key, hfor, -⟩ := h r hr
      exact .inr ⟨c, key, hfor⟩
    | samples h => exact .inr (h r hr).2
  rcases hkeyed with ⟨key, hid⟩ | ⟨c, key, hfor⟩
  · rw [hid]
    refine ⟨fun _ => EntityId.noConfusion, fun c h => ?_⟩
    rcases List.mem_pair.1 h with h | h <;> cases h
  · rw [hfor.id]
    exact ⟨fun _ => EntityId.noConfusion, fun c' => sensor_not_mem_derivedIds c c' key⟩

/-- The deeds that a payload can come to. -/
inductive ComesTo (header : Header) (payload : Json) : OperationDeed → Prop where
  /-- An item in the digest of a summary. -/
  | digest {digest : Json} {x : Namespace × Item} (known : header.known? = some .systemAll)
      (hdigest : payload.descend? ["all", "digest"] = some digest) (hx : x ∈ digestItems digest) :
      ComesTo header payload (.pass x)
  /-- The digest itself. -/
  | keep {digest : Json} (known : header.known? = some .systemAll)
      (hdigest : payload.descend? ["all", "digest"] = some digest) :
      ComesTo header payload (.keep digest)
  | reading {ns : Namespace} {parts : List Reading.Part} {r : Reading}
      (known : header.known? = some ns) (hparts : Reading.ofPayload ns payload = .ok parts)
      (hr : .ok r ∈ parts) : ComesTo header payload (.read r)
  | item {ns : Namespace} {items : List Item} {i : Item} (known : header.known? = some ns)
      (hitems : Item.ofPayload ns payload = .ok items) (hi : i ∈ items) :
      ComesTo header payload (.pass (ns, i))

theorem comesTo_of_mem {d : Device} {header : Header} {payload : Json} {x : OperationDeed}
    (h : x ∈ d.dispatchDeeds header payload) : ComesTo header payload x := by
  unfold dispatchDeeds at h
  split at h
  · rename_i hknown
    split at h
    · rename_i digest hdigest
      rcases List.mem_append.1 h with h | h
      · obtain ⟨y, hy, rfl⟩ := List.mem_map.1 h
        exact .digest hknown hdigest hy
      · obtain rfl := List.mem_singleton.1 h
        exact .keep hknown hdigest
    · cases h
  · cases h
  · cases h
  · rename_i ns _ _ hknown
    split at h
    · cases hparts : Reading.ofPayload ns payload with
      | error fault =>
        rw [hparts] at h
        cases h
      | ok parts =>
        rw [hparts] at h
        obtain ⟨part, hpart, hx⟩ := List.mem_filterMap.1 h
        cases part with
        | error fault => cases hx
        | ok r =>
          cases hx
          exact .reading hknown hparts hpart
    · cases hitems : Item.ofPayload ns payload with
      | error error =>
        rw [hitems] at h
        cases h
      | ok items =>
        rw [hitems] at h
        obtain ⟨i, hi, rfl⟩ := List.mem_map.1 h
        exact .item hknown hitems hi

theorem mem_handleDeeds {d : Device} {m : Message} {x : OperationDeed} (h : x ∈ d.handleDeeds m) :
    (m.header.method = .push ∨ m.header.method = .getAck) ∧
      x ∈ d.dispatchDeeds m.header m.payload := by
  unfold handleDeeds at h
  cases hmethod : m.header.method with
  | push =>
    rw [hmethod] at h
    exact ⟨.inl rfl, h⟩
  | getAck =>
    rw [hmethod] at h
    exact ⟨.inr rfl, h⟩
  | error | get | set | setAck =>
    rw [hmethod] at h
    cases h

theorem ComesTo.apt {header : Header} {payload : Json} {x : OperationDeed}
    (h : ComesTo header payload x) (d : Device) : x.Apt d := by
  cases h with
  | reading _ hparts hr => exact apt_read hparts hr d
  | digest | keep | item => trivial

end Device

namespace Operation

/-- What an operation takes in: a message that tells something, handed to the
    device or sent in answer to a poll. -/
inductive Receives (t : Transport) : Operation → Header → Json → Prop where
  | handle {m : Message} (speaks : m.header.method = .push ∨ m.header.method = .getAck) :
      Receives t (.handle m) m.header m.payload
  | dispatch (header : Header) (payload : Json) :
      Receives t (.dispatch header payload) header payload
  | poll {ns : Namespace} {m : Message} (answer : t (Device.pollRequest ns) = .ok m) :
      Receives t (.poll ns) m.header m.payload

/-- The deeds that an operation can come to. -/
inductive ComesTo (t : Transport) (d : Device) : Operation → Device.OperationDeed → Prop where
  | received {op : Operation} {header : Header} {payload : Json} {x : Device.OperationDeed}
      (receives : op.Receives t header payload) (comes : Device.ComesTo header payload x) :
      ComesTo t d op x
  | digest {digest : Json} {x : Namespace × Item} (hx : x ∈ Device.digestItems digest) :
      ComesTo t d (.parseDigest digest) (.pass x)
  | loss (op : Operation) : ComesTo t d op .forget
  | order {id : EntityId} {c : Command} {o : Order} (ordered : d.order id c = .ok o) :
      ComesTo t d (.command id c) (.carry id o)

theorem comesTo_of_mem {t : Transport} {d : Device} {op : Operation} {x : Device.OperationDeed}
    (h : x ∈ op.deeds t d) : op.ComesTo t d x := by
  cases op with
  | handle m =>
    obtain ⟨speaks, hx⟩ := Device.mem_handleDeeds h
    exact .received (.handle speaks) (Device.comesTo_of_mem hx)
  | dispatch header payload => exact .received (.dispatch ..) (Device.comesTo_of_mem h)
  | parseDigest digest =>
    obtain ⟨y, hy, rfl⟩ := List.mem_map.1 h
    exact .digest hy
  | setUnavailable =>
    obtain rfl := List.mem_singleton.1 h
    exact .loss _
  | poll ns =>
    simp only [deeds] at h
    split at h
    · rename_i m answer
      split at h
      · exact .received (.poll answer) (Device.comesTo_of_mem (Device.mem_handleDeeds h).2)
      · cases h
    · split at h
      · obtain rfl := List.mem_singleton.1 h
        exact .loss _
      · cases h
  | command id c =>
    simp only [deeds] at h
    split at h
    · rename_i ordered
      split at h
      · split at h
        · obtain rfl := List.mem_singleton.1 h
          exact .order ordered
        · cases h
      · cases h
    · cases h
  | shutdown | add e | register ns id | remove id => cases h

/-- Only an order has to suit the device it is for. -/
theorem ComesTo.apt {t : Transport} {d : Device} {op : Operation} {x : Device.OperationDeed}
    (h : op.ComesTo t d x) (hop : ∀ id c, op ≠ .command id c) (d' : Device) : x.Apt d' := by
  cases h with
  | received _ comes => exact comes.apt d'
  | order => exact absurd rfl (hop _ _)
  | digest | loss => trivial

end Operation

namespace Device

/-- Each deed that an operation comes to is apt. -/
theorem along_apt (op : Operation) (t : Transport) (d : Device) :
    Along (fun d x => x.Apt d) (op.deeds t d) d := by
  cases op with
  | command id c =>
    have hanswers := answers_order d id c
    unfold Operation.deeds
    simp only
    cases horder : d.order id c with
    | error error => trivial
    | ok o =>
      rw [horder] at hanswers
      obtain ⟨e, ch, he, hch, hserves⟩ := hanswers
      simp only
      cases t o.request with
      | error error => trivial
      | ok m =>
        simp only
        split
        · exact ⟨⟨e, ch, c, he, hch, hserves⟩, trivial⟩
        · trivial
  | _ =>
    exact along_of_forall (fun x hx d' =>
      (Operation.comesTo_of_mem hx).apt (fun _ _ => Operation.noConfusion) d') d

/-! ## Descent

While a device goes through deeds, what it was furnished with stays, and so do
those that items are for. -/

structure Descends (mask : UInt8) (descriptor : Descriptor) (d : Device) : Prop where
  trace : ∃ es, Trace .selfmade (furnish mask descriptor) es d
  addressees : ∀ ns c, d.addressees ns c = (furnish mask descriptor).addressees ns c

section Deeds

variable {d : Device} {x : OperationDeed}

theorem traced_act (h : x.Apt d) : Traced .selfmade x.act d := by
  cases x with
  | pass x => exact traced_dispatchItem Scope.opens_selfmade x.1 (fun hp => hp.elim) d
  | read r =>
    exact traced_applyReading Scope.opens_selfmade
      ⟨h.1, fun hp => hp.elim, fun hp => hp.elim⟩ d
  | forget => exact traced_setUnavailable d
  | carry id o => exact Traced.bind (traced_carryOut id o d) (Traced.pure _ _)
  | keep digest => exact Traced.move (.keepDigest digest) trivial

theorem dispatcher_applyReading (r : Reading) (d : Device) :
    (applyReading r d).device.dispatcher = d.dispatcher := by
  have hmeasured : (d.measured r).dispatcher = d.dispatcher := by
    refine (keeps_update (measure r) r.id (d.ensureSensor r.id r.scale)).dispatcher.trans ?_
    unfold ensureSensor
    split <;> rfl
  rw [device_applyReading]
  split
  · exact hmeasured
  · exact (keeps_update _ _ _).dispatcher.trans hmeasured

theorem addressees_act (h : x.Apt d) (ns : Namespace) (c : Channel) :
    (x.act d).device.addressees ns c = d.addressees ns c := by
  have hkept : ∀ {d' : Device}, d'.dispatcher = d.dispatcher →
      d'.addressees ns c = d.addressees ns c := by
    intro d' hd'
    unfold addressees
    rw [hd']
  cases x with
  | pass x => exact addressees_pass x d ns c
  | read r => exact hkept (dispatcher_applyReading r d)
  | forget => rfl
  | carry id o =>
    obtain ⟨e, ch, cmd, he, -, hserves⟩ := h
    exact hkept (keeps_carryOut he hserves).dispatcher
  | keep digest => rfl

theorem Descends.act {mask : UInt8} {descriptor : Descriptor} (hd : Descends mask descriptor d)
    (h : x.Apt d) : Descends mask descriptor (x.act d).device := by
  obtain ⟨es, htrace⟩ := hd.trace
  exact ⟨⟨_, htrace.trans (traced_act h)⟩,
    fun ns c => (addressees_act h ns c).trans (hd.addressees ns c)⟩

end Deeds

theorem descends_furnish (mask : UInt8) (descriptor : Descriptor) :
    Descends mask descriptor (furnish mask descriptor) :=
  ⟨⟨[], .nil _⟩, fun _ _ => rfl⟩

theorem fit_furnish (mask : UInt8) (descriptor : Descriptor) : (furnish mask descriptor).Fit where
  wired := wired_furnish mask descriptor
  sound := sound_furnish mask descriptor
  scaled id e he m hm := ((clean_furnish mask descriptor id e he).2 m hm).1

theorem climateSensors_furnish (mask : UInt8) (descriptor : Descriptor) :
    (furnish mask descriptor).climateSensors = mask := by
  refine furnish_invariant (I := fun d => d.climateSensors = mask) rfl (fun d m hm hd => ?_)
    fun d ns _ hd => hd
  have htrace : Trace .any d [] (d.join m) := trace_join hm.made.loose d
  exact (climateSensors_trace htrace).trans hd

namespace Descends

variable {mask : UInt8} {descriptor : Descriptor} {d : Device} {id : EntityId}
  (h : Descends mask descriptor d)
include h

theorem fit : d.Fit := by
  obtain ⟨es, htrace⟩ := h.trace
  exact htrace.invariant (fun d m hd hm => hd.move (Scope.calm_of_selfmade hm))
    (fit_furnish mask descriptor)

theorem climateSensors : d.climateSensors = mask := by
  obtain ⟨es, htrace⟩ := h.trace
  exact (climateSensors_trace htrace).trans (climateSensors_furnish mask descriptor)

/-- What the device was furnished with is still there. -/
theorem stays {e : Entity} (he : (furnish mask descriptor).entity? id = some e) :
    ∃ e', d.entity? id = some e' ∧ e'.bare = e.bare := by
  obtain ⟨es, htrace⟩ := h.trace
  exact htrace.stays (fun e he => (Entity.Supplied.made he).sound) (sound_furnish mask descriptor)
    not_false he

/-- Climates were there from the start: no device makes one by itself. -/
theorem climate {k : Entity} (hk : d.entity? id = some k) (hkind : k.kind = .climate) :
    ∃ k₀, (furnish mask descriptor).entity? id = some k₀ ∧ k.bare = k₀.bare := by
  obtain ⟨es, htrace⟩ := h.trace
  have hsound : ∀ e, Scope.selfmade.enters e → e.Sound :=
    fun e he => (Entity.Supplied.made he).sound
  rcases htrace.stems hsound (sound_furnish mask descriptor) hk with
    hstay | ⟨e, hsupplied, -, hbare⟩
  · exact hstay
  · have hsame : e.bare.kind = k.bare.kind := by rw [hbare]
    have hmade : e.kind = .climate := hsame.trans hkind
    exact absurd hmade (Entity.Supplied.kind_ne_climate hsupplied)

end Descends

/-! ## Courses -/

/-- What can be reached from a built device by routine operations, with each of
    their deeds as it is asked for. -/
inductive Course (ok : Device → OperationDeed → Prop) (mask : UInt8) (descriptor : Descriptor) :
    Device → Prop where
  | built : Course ok mask descriptor (build mask descriptor).device
  | step {d : Device} (h : Course ok mask descriptor d) {t : Transport} {op : Operation}
      (routine : op.Routine) (along : Along ok (op.deeds t d) d) :
      Course ok mask descriptor (op.run t d).device

section Course

variable {ok : Device → OperationDeed → Prop} {mask : UInt8} {descriptor : Descriptor} {d : Device}

theorem Course.mono {ok' : Device → OperationDeed → Prop} (hok : ∀ d x, ok d x → ok' d x)
    (h : Course ok mask descriptor d) : Course ok' mask descriptor d := by
  have halong : ∀ {xs d}, Along ok xs d → Along ok' xs d := by
    intro xs
    induction xs with
    | nil => exact fun _ => trivial
    | cons x xs ih => exact fun h => ⟨hok _ x h.1, ih h.2⟩
  induction h with
  | built => exact .built
  | step _ routine along ih => exact .step ih routine (halong along)

/-- A run of routine operations whose deeds are as they are asked for is a course. -/
theorem Course.of_reached {fit : Transport → Operation → Prop}
    (hfit : ∀ t op d, fit t op → op.Routine ∧ Along ok (op.deeds t d) d) {c : Chronicle}
    (h : Reached fit mask descriptor c) : Course ok mask descriptor c.device := by
  induction h with
  | built => exact .built
  | @step c _ t op _ fits ih =>
    obtain ⟨routine, along⟩ := hfit t op c.device fits
    exact .step ih routine along

/-- What is preserved by each deed that is apt and as it is asked for. -/
theorem invariant_after {I : Device → Prop}
    (hdeed : ∀ d x, Descends mask descriptor d → x.Apt d → ok d x → I d → I (x.act d).device)
    {xs : List OperationDeed} (hd : Descends mask descriptor d) (hI : I d)
    (hapt : Along (fun d x => x.Apt d) xs d) (hok : Along ok xs d) :
    Descends mask descriptor (after xs d) ∧ I (after xs d) := by
  induction xs generalizing d with
  | nil => exact ⟨hd, hI⟩
  | cons x xs ih => exact ih (hd.act hapt.1) (hdeed d x hd hapt.1 hok.1 hI) hapt.2 hok.2

/-- What is asked for at every device on the way is asked for along it. -/
theorem along_of_descends {xs : List OperationDeed} (hd : Descends mask descriptor d)
    (hapt : Along (fun d x => x.Apt d) xs d)
    (h : ∀ x ∈ xs, ∀ d, Descends mask descriptor d → ok d x) : Along ok xs d := by
  induction xs generalizing d with
  | nil => trivial
  | cons x xs ih =>
    exact ⟨h x (List.mem_cons_self ..) d hd,
      ih (hd.act hapt.1) hapt.2 fun y hy => h y (List.mem_cons_of_mem _ hy)⟩

theorem along_digestDeeds (digest : Json) (d : Device) :
    Along (fun d x => x.Apt d) (digestDeeds digest) d :=
  along_apt (.parseDigest digest) (fun _ => .error .timeout) d

/-- What holds of the furnished device and is preserved by each deed holds all
    along a course. -/
theorem Course.invariant {I : Device → Prop} (h : Course ok mask descriptor d)
    (hfurnish : I (furnish mask descriptor))
    (hbuild : Along ok (digestDeeds descriptor.digest) (furnish mask descriptor))
    (hdeed : ∀ d x, Descends mask descriptor d → x.Apt d → ok d x → I d →
      I (x.act d).device) : Descends mask descriptor d ∧ I d := by
  induction h with
  | built =>
    unfold build
    rw [device_parseDigest_deeds]
    exact invariant_after hdeed (descends_furnish mask descriptor) hfurnish
      (along_digestDeeds _ _) hbuild
  | @step d _ t op routine along ih =>
    rw [Operation.device_run routine]
    exact invariant_after hdeed ih.1 ih.2 (along_apt op t d) along

end Course

end Device

end Appliance
