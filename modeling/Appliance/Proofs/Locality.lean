-- SUMMARY: Work on a device stays within the channels it is about: it changes, tells and reads nothing elsewhere.

import Appliance.Proofs.Following
import Appliance.Proofs.Readers
import Appliance.Proofs.Remeasure

namespace Appliance

namespace Device

/-! ## Places

An entity has its place on the channel of its id, or beside all channels. What
items do is about places: an item finds the ids of its channel, and they all
have their place there. -/

/-- A channel, or what is beside all channels. -/
abbrev Place := Option Channel

/-- The registry is in order, and of the namespaces that the device has those
    of sensors are read apart. -/
structure Orderly (d : Device) : Prop where
  wired : d.Wired
  sound : d.Sound
  readsApart : d.ReadsApart

theorem Reachable.orderly {d : Device} (h : d.Reachable) : d.Orderly := by
  have hapart := h.readsApart
  obtain ⟨mask, descriptor, c, hreached, rfl⟩ := h
  exact ⟨hreached.wired.1, hreached.sound.1, hapart⟩

theorem Orderly.trace {d d' : Device} {es : List Event} (h : d.Orderly) (ht : Trace .calm d es d') :
    d'.Orderly := by
  have hinvariant : d'.Wired ∧ d'.Sound := by
    refine ht.invariant (I := fun d => d.Wired ∧ d.Sound) (fun d m hd hm => ?_) ⟨h.wired, h.sound⟩
    have hany := Scope.any_of_calm hm
    exact ⟨hd.1.move hd.2 hany, hd.2.trace (Trace.move m hany)⟩
  refine ⟨hinvariant.1, hinvariant.2, fun ns => ?_⟩
  rw [isCustom_trace ht, supports_trace ht]
  exact h.readsApart ns

theorem Orderly.traced {α : Type} {f : Action α} {d : Device} (h : d.Orderly)
    (hf : Traced .calm f d) : (f d).device.Orderly := h.trace hf

theorem climateSensors_trace {sc : Scope} {d d' : Device} {es : List Event}
    (h : Trace sc d es d') : d'.climateSensors = d.climateSensors :=
  h.invariant (I := fun d' => d'.climateSensors = d.climateSensors)
    (fun d' m hd' _ => (climateSensors_move m d').trans hd') rfl

/-! ## Agreement -/

/-- Two devices have the same entities and registrations in some places. What
    is the same for all places they have in common. -/
structure Agree (C : Place → Prop) (d d' : Device) : Prop where
  climateSensors : d'.climateSensors = d.climateSensors
  isCustom : ∀ ns, d'.dispatcher.isCustom ns = d.dispatcher.isCustom ns
  supports : ∀ ns, d'.dispatcher.supports ns = d.dispatcher.supports ns
  entity : ∀ id, C id.channel? → d'.entity? id = d.entity? id
  targets : ∀ ns c, C (some c) → d'.dispatcher.targets ns c = d.dispatcher.targets ns c

namespace Agree

variable {C C' : Place → Prop} {d d' d'' : Device} {es es' : List Event}

theorem refl (C : Place → Prop) (d : Device) : Agree C d d :=
  ⟨rfl, fun _ => rfl, fun _ => rfl, fun _ _ => rfl, fun _ _ _ => rfl⟩

theorem symm (h : Agree C d d') : Agree C d' d where
  climateSensors := h.climateSensors.symm
  isCustom ns := (h.isCustom ns).symm
  supports ns := (h.supports ns).symm
  entity id hid := (h.entity id hid).symm
  targets ns c hc := (h.targets ns c hc).symm

theorem trans (h : Agree C d d') (h' : Agree C d' d'') : Agree C d d'' where
  climateSensors := h'.climateSensors.trans h.climateSensors
  isCustom ns := (h'.isCustom ns).trans (h.isCustom ns)
  supports ns := (h'.supports ns).trans (h.supports ns)
  entity id hid := (h'.entity id hid).trans (h.entity id hid)
  targets ns c hc := (h'.targets ns c hc).trans (h.targets ns c hc)

theorem mono (h : Agree C d d') (hC : ∀ p, C' p → C p) : Agree C' d d' where
  climateSensors := h.climateSensors
  isCustom := h.isCustom
  supports := h.supports
  entity id hid := h.entity id (hC _ hid)
  targets ns c hc := h.targets ns c (hC _ hc)

/-- Places in which devices agree add up. -/
theorem union {D : Place → Prop} (h : Agree C d d') (h' : Agree C' d d')
    (hD : ∀ p, D p → C p ∨ C' p) : Agree D d d' where
  climateSensors := h.climateSensors
  isCustom := h.isCustom
  supports := h.supports
  entity id hid := (hD _ hid).elim (h.entity id) (h'.entity id)
  targets ns c hc := (hD _ hc).elim (h.targets ns c) (h'.targets ns c)

/-- Work never touches what is the same for all places. -/
theorem of_trace (ht : Trace .calm d es d')
    (entity : ∀ id, C id.channel? → d'.entity? id = d.entity? id)
    (targets : ∀ ns c, C (some c) → d'.dispatcher.targets ns c = d.dispatcher.targets ns c) :
    Agree C d d' :=
  ⟨climateSensors_trace ht, isCustom_trace ht, supports_trace ht, entity, targets⟩

theorem of_traces {d₁ d₁' : Device} (h : Agree C d d') (ht : Trace .calm d es d₁)
    (ht' : Trace .calm d' es' d₁')
    (entity : ∀ id, C id.channel? → d₁'.entity? id = d₁.entity? id)
    (targets : ∀ ns c, C (some c) → d₁'.dispatcher.targets ns c = d₁.dispatcher.targets ns c) :
    Agree C d₁ d₁' where
  climateSensors := by rw [climateSensors_trace ht', climateSensors_trace ht, h.climateSensors]
  isCustom ns := by rw [isCustom_trace ht', isCustom_trace ht, h.isCustom]
  supports ns := by rw [supports_trace ht', supports_trace ht, h.supports]
  entity := entity
  targets := targets

theorem enrolls (h : Agree C d d') (ns : Namespace) : d'.enrolls ns = d.enrolls ns := by
  unfold Device.enrolls
  rw [h.supports, Dispatcher.isSome_routes?, Dispatcher.isSome_routes?, h.isCustom]

end Agree

/-! ## Locality -/

/-- What an action does on a device it does in some places. Elsewhere nothing
    changes, and listeners hear of no entity elsewhere. What is there elsewhere
    has no part in it: on a device that agrees in the places it answers and
    tells the same, and leaves a device that agrees again. -/
structure LocalAt {α : Type} (C : Place → Prop) (f : Action α) (d : Device) : Prop where
  descriptor : (f d).device.descriptor = d.descriptor
  elsewhere : Agree (fun p => ¬C p) d (f d).device
  within : ∀ e, .flushed e ∈ (f d).events → C e.id.channel?
  determined : ∀ d', d'.Orderly → Agree C d d' →
    Traced .calm f d' ∧ (f d').answer = (f d).answer ∧ (f d').events = (f d).events ∧
      Agree C (f d).device (f d').device

def Local {α : Type} (C : Place → Prop) (f : Action α) : Prop := ∀ d, d.Orderly → LocalAt C f d

namespace LocalAt

variable {α β : Type} {C : Place → Prop} {d : Device}

theorem calm {f : Action α} (h : LocalAt C f d) (hd : d.Orderly) : Traced .calm f d :=
  (h.determined d hd (.refl C d)).1

theorem pure (a : α) (d : Device) : LocalAt C (pure a : Action α) d where
  descriptor := rfl
  elsewhere := .refl _ d
  within e he := by cases he
  determined d' _ h := ⟨Traced.pure a d', rfl, rfl, h⟩

theorem warn (w : Warning) (d : Device) : LocalAt C (Action.warn w) d where
  descriptor := rfl
  elsewhere := .refl _ d
  within e he := by cases List.mem_singleton.1 he
  determined d' _ h := ⟨Traced.warn w d', rfl, rfl, h⟩

theorem bind {f : Action α} {g : α → Action β} (hf : LocalAt C f d)
    (hg : LocalAt C (g (f d).answer) (f d).device) : LocalAt C (f >>= g) d where
  descriptor := hg.descriptor.trans hf.descriptor
  elsewhere := hf.elsewhere.trans hg.elsewhere
  within e he := by
    rw [Action.bind_apply] at he
    rcases List.mem_append.1 he with he | he
    · exact hf.within e he
    · exact hg.within e he
  determined d' hd' h := by
    obtain ⟨hcalm, hanswer, hevents, hagree⟩ := hf.determined d' hd' h
    obtain ⟨hcalm', hanswer', hevents', hagree'⟩ := hg.determined _ (hd'.traced hcalm) hagree
    rw [← hanswer] at hcalm'
    have hbind : (f >>= g) d' =
        ⟨(g (f d).answer (f d').device).device,
          (f d').events ++ (g (f d).answer (f d').device).events,
          (g (f d).answer (f d').device).answer⟩ := by
      rw [Action.bind_apply, hanswer]
    refine ⟨hcalm.bind hcalm', ?_, ?_, ?_⟩
    · rw [hbind]
      exact hanswer'
    · rw [hbind, hevents]
      exact congrArg ((f d).events ++ ·) hevents'
    · rw [hbind]
      exact hagree'

/-- What hangs on the device must hang on the places in which it agrees. -/
theorem read {g : Device → Action α}
    (hsame : ∀ d', d'.Orderly → Agree C d d' → g d' = g d)
    (h : LocalAt C (g d) d) : LocalAt C (Action.device >>= g) d where
  descriptor := h.descriptor
  elsewhere := h.elsewhere
  within := h.within
  determined d' hd' hagree := by
    have hread : (Action.device >>= g) d' = g d d' := by
      rw [← hsame d' hd' hagree]
      rfl
    unfold Traced
    rw [hread]
    exact h.determined d' hd' hagree

/-- Each element is worked on as the ones before have left the device. -/
theorem forEach {xs : List α} {f : α → Action Unit} (hd : d.Orderly)
    (h : ∀ x ∈ xs, ∀ {es d'}, Trace .calm d es d' → LocalAt C (f x) d') :
    LocalAt C (Action.forEach xs f) d := by
  induction xs generalizing d with
  | nil => exact pure () d
  | cons x xs ih =>
    have hx := h x (List.mem_cons_self ..) (.nil d)
    have hcalm := hx.calm hd
    refine bind hx (ih (hd.traced hcalm) fun y hy es d' ht => ?_)
    exact h y (List.mem_cons_of_mem _ hy) (hcalm.trans ht)

theorem forEach_of_local {xs : List α} {f : α → Action Unit} (hd : d.Orderly)
    (h : ∀ x ∈ xs, Local C (f x)) : LocalAt C (Action.forEach xs f) d :=
  forEach hd fun x hx _ d' ht => h x hx d' (hd.trace ht)

/-- A change tells of what it changes. -/
theorem id_of_flushed_update {f : Entity → Entity.Change α} (op : EntityOp)
    (hop : ∀ e, op.run e = (f e).map fun _ => ()) (hd : d.Orderly) {id : EntityId} {e : Entity}
    (he : .flushed e ∈ (Device.update id f d).events) : e.id = id := by
  unfold Device.update at he
  split at he
  · cases he
  · rename_i e' he'
    obtain ⟨e'', hflush, heq⟩ := List.mem_map.1 he
    cases heq
    have hsound := hd.sound id e' he'
    have hfrom : e ∈ (op.run e').flushes := by
      rw [hop]
      exact hflush
    rcases EntityOp.run_flushes op hsound with ⟨hnil, -⟩ | ⟨hone, -⟩
    · rw [hnil] at hfrom
      cases hfrom
    · rw [hone] at hfrom
      rw [List.mem_singleton.1 hfrom, EntityOp.id_run op hsound, hd.wired.stored id e' he']

/-- A change of an entity is within its place. -/
theorem update {f : Entity → Entity.Change α} (op : EntityOp)
    (hop : ∀ e, op.run e = (f e).map fun _ => ()) (hd : d.Orderly) {id : EntityId}
    (hid : C id.channel?) : LocalAt C (Device.update id f) d := by
  have hcalm : ∀ d, Traced .calm (Device.update id f) d :=
    fun d => Traced.update op hop fun hp => hp.elim
  refine ⟨(keeps_update f id d).descriptor, .of_trace (hcalm d) (fun i hi => ?_) fun ns c _ => ?_,
    fun e he => ?_, fun d' hd' h => ⟨hcalm d', ?_⟩⟩
  · have hne : i ≠ id := by
      rintro rfl
      exact hi hid
    rw [entity?_update, if_neg hne]
  · rw [(keeps_update f id d).dispatcher]
  · rw [id_of_flushed_update op hop hd he]
    exact hid
  · have hentity := h.entity id hid
    refine ⟨?_, ?_, h.of_traces (hcalm d) (hcalm d') (fun i hi => ?_) fun ns c hc => ?_⟩
    · simp only [Device.update, hentity]
      cases d.entity? id <;> rfl
    · simp only [Device.update, hentity]
      cases d.entity? id <;> rfl
    · rw [entity?_update, entity?_update, hentity, h.entity i hi]
    · rw [(keeps_update f id d).dispatcher, (keeps_update f id d').dispatcher, h.targets ns c hc]

theorem change {f : Entity → Entity.Change α} (op : EntityOp)
    (hop : ∀ e, op.run e = (f e).map fun _ => ()) (hd : d.Orderly) {id : EntityId}
    (hid : C id.channel?) : LocalAt C (Device.change id f) d :=
  bind (update op hop hd hid) (pure () _)

/-- A change of the device that tells nobody. -/
theorem modify {g : Device → Device} (hcalm : ∀ d, Traced .calm (.modify g) d)
    (hdescriptor : (g d).descriptor = d.descriptor)
    (helsewhere : ∀ id, ¬C id.channel? → (g d).entity? id = d.entity? id)
    (hothers : ∀ ns c, ¬C (some c) →
      (g d).dispatcher.targets ns c = d.dispatcher.targets ns c)
    (hagree : ∀ d', Agree C d d' →
      (∀ id, C id.channel? → (g d').entity? id = (g d).entity? id) ∧
        ∀ ns c, C (some c) → (g d').dispatcher.targets ns c = (g d).dispatcher.targets ns c) :
    LocalAt C (.modify g) d where
  descriptor := hdescriptor
  elsewhere := .of_trace (hcalm d) helsewhere hothers
  within e he := by cases he
  determined d' _ h :=
    ⟨hcalm d', rfl, rfl, h.of_traces (hcalm d) (hcalm d') (hagree d' h).1 (hagree d' h).2⟩

end LocalAt

/-! ### Entities that come in -/

theorem entity?_addAndRegister_of_ne {d : Device} {e : Entity} {ns : Namespace} {id : EntityId}
    (h : id ≠ e.id) : (d.addAndRegister e ns).entity? id = d.entity? id := by
  rw [addAndRegister_eq, entity?_register, if_neg fun hid => h hid.2, entity?_insert,
    if_neg fun hid => h hid.2]

theorem entity?_addAndRegister_self (d : Device) {e : Entity} {ns : Namespace} {c : Channel}
    (hc : e.id.channel? = some c) :
    (d.addAndRegister e ns).entity? e.id = some (d.enroll ns ((d.entity? e.id).getD e)) := by
  have hinsert : (d.insert e).entity? e.id = some ((d.entity? e.id).getD e) := by
    rw [entity?_insert]
    cases d.entity? e.id <;> simp
  rw [addAndRegister_eq, entity?_register, register_fst, hinsert, enrolls_insert, hc]
  cases henrolled : d.enrolls ns <;> simp [enroll, henrolled]

theorem descriptor_addAndRegister (d : Device) (e : Entity) (ns : Namespace) :
    (d.addAndRegister e ns).descriptor = d.descriptor := by
  rw [addAndRegister_eq]
  rcases register_spec (d.insert e) ns e.id with ⟨-, hsame⟩ | ⟨-, -, -, -, hdescriptor, -⟩
  · rw [hsame, descriptor_insert]
  · rw [hdescriptor, descriptor_insert]

theorem localAt_addAndRegister {C : Place → Prop} {e : Entity} {c : Channel}
    (henters : Scope.calm.enters e) (hid : e.id.channel? = some c) (hc : C (some c))
    (ns : Namespace) (d : Device) : LocalAt C (.modify (·.addAndRegister e ns)) d := by
  refine .modify (fun d => traced_addAndRegister henters ns d) (descriptor_addAndRegister d e ns)
    (fun i hi => ?_) (fun ns' c' hc' => ?_) fun d' h => ⟨fun i hi => ?_, fun ns' c' hc' => ?_⟩
  · refine entity?_addAndRegister_of_ne ?_
    rintro rfl
    rw [hid] at hi
    exact hi hc
  · rw [targets_addAndRegister, hid, if_neg]
    rintro ⟨-, -, hsame⟩
    cases hsame
    exact hc' hc
  · by_cases hsame : i = e.id
    · rw [hsame, entity?_addAndRegister_self d' hid, entity?_addAndRegister_self d hid]
      rw [hsame] at hi
      rw [enroll, enroll, h.enrolls, h.entity e.id hi]
    · rw [entity?_addAndRegister_of_ne hsame, entity?_addAndRegister_of_ne hsame, h.entity i hi]
  · rw [targets_addAndRegister, targets_addAndRegister, h.enrolls, h.targets ns c' hc',
      h.targets ns' c' hc']

theorem localAt_ensureSensor {C : Place → Prop} {id : EntityId} {scale : Float}
    (hscale : Double.IsScale scale) (hid : C id.channel?) (d : Device) :
    LocalAt C (.modify (·.ensureSensor id scale)) d := by
  have htargets : ∀ (d : Device) ns c,
      (d.ensureSensor id scale).dispatcher.targets ns c = d.dispatcher.targets ns c := by
    intro d ns c
    rw [← insert_sensor, dispatcher_insert]
  refine .modify (fun d => traced_ensureSensor Scope.opens_calm id hscale d) ?_ (fun i hi => ?_)
    (fun ns c _ => htargets d ns c) fun d' h => ⟨fun i hi => ?_, fun ns c hc => ?_⟩
  · rw [← insert_sensor, descriptor_insert]
  · rw [entity?_ensureSensor, if_neg]
    rintro rfl
    exact hi hid
  · rw [entity?_ensureSensor, entity?_ensureSensor, h.entity id hid, h.entity i hi]
  · rw [htargets, htargets, h.targets ns c hc]

/-! ### Items -/

section Items

variable {C : Place → Prop} {d : Device} {c : Channel}

theorem localAt_followHeating (on : Option Bool) (hd : d.Orderly) (hc : C (some c)) :
    LocalAt C (followHeating c on) d := by
  unfold followHeating
  cases on with
  | none => exact .pure () d
  | some on => exact .change (.power on) (fun _ => rfl) hd hc

theorem localAt_sync (hd : d.Orderly) (hc : C (some c)) : LocalAt C (syncClimateSensors c) d := by
  refine .read (fun d' _ h => ?_) ?_
  · have hleader : d'.leader? c = d.leader? c := by
      unfold leader?
      rw [h.climateSensors, h.entity (.channel c) hc]
    simp only [hleader]
  · cases d.leader? c with
    | none => exact .pure () d
    | some climate =>
      have hheating := localAt_followHeating climate.heating? hd hc
      exact .bind hheating
        (.change (.stateWith _ _) (fun _ => rfl) (hd.traced (hheating.calm hd)) hc)

theorem localAt_syncAfter (ns : Namespace) (hd : d.Orderly) (hc : C (some c)) :
    LocalAt C (syncAfter ns c) d := by
  unfold syncAfter
  split
  · exact localAt_sync hd hc
  · exact .pure () d

theorem localAt_parseEntity (ns : Namespace) (body : Json) {id : EntityId} (hd : d.Orderly)
    (hid : C id.channel?) : LocalAt C (parseEntity ns body id) d := by
  refine .bind (.update (.item ns body) (fun _ => rfl) hd hid) ?_
  split
  · exact .warn _ _
  · exact .pure () _
  · exact .pure () _

/-- The ids that are listed on a channel have their place there. -/
theorem localAt_parseAll (ns : Namespace) (body : Json) (hd : d.Orderly) (hc : C (some c)) :
    LocalAt C (.forEach (d.dispatcher.targets ns c) (parseEntity ns body)) d := by
  refine .forEach_of_local hd fun id hid d' hd' => ?_
  refine localAt_parseEntity ns body hd' ?_
  rw [(hd.wired.mem_targets.1 hid).1]
  exact hc

theorem localAt_makeDefault (ns : Namespace) (body : Json) (kind : Kind) (hd : d.Orderly)
    (hc : C (some c)) :
    LocalAt C
      (do
        .modify (·.addAndRegister (.ofKind kind (defaultId kind c) ns) ns)
        parseEntity ns body (defaultId kind c) : Action Unit) d := by
  have henters : Scope.calm.enters (.ofKind kind (defaultId kind c) ns) :=
    ⟨Entity.made_ofKind kind _ ns, Entity.scaled_ofKind kind _ ns⟩
  have hid : (Entity.ofKind kind (defaultId kind c) ns).id.channel? = some c := by
    rw [id_ofKind, channel?_defaultId]
  have hadd := localAt_addAndRegister henters hid hc ns d
  refine .bind hadd (localAt_parseEntity ns body (hd.traced (hadd.calm hd)) ?_)
  rw [channel?_defaultId]
  exact hc

/-- An item does its work on the channel that it names. -/
theorem local_dispatchItem (ns : Namespace) {item : Item}
    (hitem : ∀ c, item.channel = some c → C (some c)) : Local C (dispatchItem ns item) := by
  intro d hd
  unfold dispatchItem
  cases hchannel : item.channel with
  | none => exact .warn _ d
  | some c =>
    have hc := hitem c hchannel
    refine .read (fun d' _ h => ?_) ?_
    · have hlookup : d'.dispatcher.lookup ns c = d.dispatcher.lookup ns c := by
        unfold Dispatcher.lookup
        rw [h.targets ns c hc]
      simp only [hlookup]
    · rcases lookup_of_addressees d ns c with ⟨-, -, hlookup⟩ | ⟨-, hlookup⟩
      · rw [hlookup]
        have hall := localAt_parseAll ns item.body hd hc
        exact .bind hall (localAt_syncAfter ns (hd.traced (hall.calm hd)) hc)
      · rw [hlookup]
        cases ns.policy with
        | ignore => exact .pure () d
        | logOnly => exact .warn _ d
        | createDefault kind => exact localAt_makeDefault ns item.body kind hd hc

/-- Nobody is listed for a namespace that the device does not have. -/
theorem localAt_dispatchItem_of_not_supports {ns : Namespace} (hpolicy : ns.policy = .logOnly)
    (item : Item) (hd : d.Orderly) (hns : d.dispatcher.supports ns = false) :
    LocalAt C (dispatchItem ns item) d := by
  have hlookup : ∀ {d' : Device} {c}, d'.Orderly → d'.dispatcher.supports ns = false →
      d'.dispatcher.lookup ns c = .notFound .logOnly := by
    intro d' c hd' hns'
    unfold Dispatcher.lookup Dispatcher.targets
    cases hget : d'.dispatcher.handlers.get? ns with
    | none => simp only [hpolicy]
    | some handler =>
      rw [(hd'.wired.tidy ns handler hget).1] at hns'
      cases hns'
  unfold dispatchItem
  cases item.channel with
  | none => exact .warn _ d
  | some c =>
    refine .read (fun d' hd' h => ?_) ?_
    · simp only [hlookup hd hns, hlookup hd' ((h.supports ns).trans hns)]
    · rw [hlookup hd hns]
      exact .warn _ d

end Items

/-! ### Readings -/

section Readings

variable {C : Place → Prop} {d : Device} {r : Reading}

/-- The places that a reading is about. -/
structure ReadsIn (C : Place → Prop) (r : Reading) : Prop where
  scale : Double.IsScale r.scale
  id : C r.id.channel?
  humidityOf : ∀ c, r.humidityOf = some c → C (some c)

theorem localAt_shareHumidity {sensor : EntityId} {c : Channel} (hd : d.Orderly)
    (hsensor : C sensor.channel?) (hc : C (some c)) : LocalAt C (shareHumidity sensor c) d := by
  refine .read (fun d' _ h => ?_) ?_
  · rw [h.entity sensor hsensor]
  · cases (d.entity? sensor).bind (·.native?) with
    | none => exact .pure () d
    | some humidity => exact .change (.humidity humidity) (fun _ => rfl) hd hc

theorem local_applyReading (h : ReadsIn C r) : Local C (applyReading r) := by
  intro d hd
  have hensure := localAt_ensureSensor h.scale h.id d
  have hensured := hd.traced (hensure.calm hd)
  have hmeasure : LocalAt C (Device.change r.id (measure r)) (d.ensureSensor r.id r.scale) :=
    .change (measureOp r) (run_measureOp r) hensured h.id
  refine .bind hensure (.bind hmeasure ?_)
  cases hhumidity : r.humidityOf with
  | none => exact .pure () _
  | some c =>
    exact localAt_shareHumidity (hensured.traced (hmeasure.calm hensured)) h.id
      (h.humidityOf c hhumidity)

theorem local_applyPart (ns : Namespace) {part : Reading.Part}
    (h : ∀ r, part = .ok r → ReadsIn C r) : Local C (applyPart ns part) := by
  cases part with
  | ok r => exact local_applyReading (h r rfl)
  | error fault => exact fun d _ => .warn _ d

end Readings

end Device

end Appliance
