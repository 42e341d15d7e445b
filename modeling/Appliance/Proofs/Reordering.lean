-- SUMMARY: Messages about different channels, and the items of a list, come to the same in any order.

import Appliance.Proofs.Commuting

namespace Appliance

/-! ## The places of a message -/

/-- The channels that a payload of a namespace names. The readings of a
    diffuser belong to none, whatever stands beside them. -/
def Payload.channels (ns : Namespace) (payload : Json) : List Channel :=
  if ns = .diffuserSensor then [] else Member.channelsOf ns (payload.get? ns.key)

/-- The channels that a message names. -/
def Message.channels (m : Message) : List Channel :=
  (m.header.known?.map fun ns => Payload.channels ns m.payload).getD []

namespace Reading

/-- The parts of an item of latest values or latest samples. -/
def ofItem (ns : Namespace) (item : Json) : List Part :=
  if ns = .sensorLatest then ofLatest item else ofLatestSamples item

/-- A list is read item by item. -/
theorem ofPayload_of_items {ns : Namespace} (hns : ns = .sensorLatest ∨ ns = .sensorLatestX)
    {payload : Json} {items : List Json} (h : payload.get? ns.key = some (.arr items)) :
    ofPayload ns payload = .ok (items.flatMap (ofItem ns)) := by
  rcases hns with rfl | rfl
  all_goals
    have hlatest : payload.get? "latest" = some (.arr items) := h
    simp only [ofPayload, hlatest]
    rfl

end Reading

namespace Device

/-- The places that a payload of a namespace is about. -/
def IsAbout (ns : Namespace) (payload : Json) : Place → Prop
  | some c => c ∈ Payload.channels ns payload
  | none => ns = .diffuserSensor

/-- The place that an item is about, if it names a channel. -/
def IsAt (item : Json) (p : Place) : Prop := ∃ c, Reading.channelOf item = some c ∧ p = some c

theorem isAbout_of_item {ns : Namespace} (hns : ns ≠ .diffuserSensor) {payload : Json}
    {items : List Item} (hitems : Item.ofPayload ns payload = .ok items) {item : Item}
    (hitem : item ∈ items) {c : Channel} (hc : item.channel = some c) :
    IsAbout ns payload (some c) := by
  unfold Item.ofPayload at hitems
  split at hitems
  · rename_i data hdata
    have hchannels : Payload.channels ns payload = items.filterMap (·.channel) := by
      rw [Payload.channels, if_neg hns, hdata, Member.channelsOf, Option.map_some, hitems]
    rw [IsAbout, hchannels]
    exact List.mem_filterMap.2 ⟨item, hitem, hc⟩
  · cases hitems

theorem isAbout_of_isAt {ns : Namespace} (hns : ns ≠ .diffuserSensor) {payload item : Json}
    {items : List Json} (hitems : payload.get? ns.key = some (.arr items)) (hitem : item ∈ items)
    {p : Place} (h : IsAt item p) : IsAbout ns payload p := by
  obtain ⟨c, hc, rfl⟩ := h
  exact isAbout_of_item hns (Item.ofPayload_of_arr hitems) (List.mem_map_of_mem hitem) hc

section Readings

variable {C C' : Place → Prop} {r : Reading}

theorem ReadsIn.mono (h : ReadsIn C r) (hC : ∀ p, C p → C' p) : ReadsIn C' r :=
  ⟨h.scale, hC _ h.id, fun c hc => hC _ (h.humidityOf c hc)⟩

theorem readsIn_ofDiffuser {payload : Json} (h : .ok r ∈ Reading.ofDiffuser payload) :
    ReadsIn (· = none) r := by
  obtain ⟨key, _, x, -, -, rfl⟩ := Reading.mem_ofDiffuser h
  have hscale : Double.IsScale 10.0 := by decide
  exact ⟨hscale, rfl, fun c hc => by cases hc⟩

theorem readsIn_ofLatest {item : Json} (h : .ok r ∈ Reading.ofLatest item) :
    ReadsIn (IsAt item) r := by
  obtain ⟨c, _, _, _, hc, -, -, -, hr⟩ := Reading.mem_ofLatest h
  obtain ⟨_, key, _, -, -, hr⟩ := Reading.mem_ofValue hr
  obtain ⟨x, -, rfl⟩ := Reading.ofField_ok hr
  refine ⟨isScale_scaleOf key, ⟨c, hc, rfl⟩, fun c' hc' => ?_⟩
  simp only [Option.ite_none_right_eq_some, Option.some.injEq] at hc'
  exact ⟨c, hc, congrArg some hc'.2.symm⟩

theorem readsIn_ofLatestSamples {item : Json} (h : .ok r ∈ Reading.ofLatestSamples item) :
    ReadsIn (IsAt item) r := by
  obtain ⟨c, _, _, key, _, hc, -, -, -, hr⟩ := Reading.mem_ofLatestSamples h
  obtain ⟨_, _, x, -, -, rfl⟩ := Reading.ofSamples_ok hr
  exact ⟨isScale_scaleOf key, ⟨c, hc, rfl⟩, fun c hc => by cases hc⟩

theorem readsIn_ofItem {ns : Namespace} {item : Json} (h : .ok r ∈ Reading.ofItem ns item) :
    ReadsIn (IsAt item) r := by
  unfold Reading.ofItem at h
  split at h
  · exact readsIn_ofLatest h
  · exact readsIn_ofLatestSamples h

/-- The readings of a payload are about the places of the payload. -/
theorem readsIn_ofPayload {ns : Namespace} {payload : Json} {parts : List Reading.Part}
    (hparts : Reading.ofPayload ns payload = .ok parts) (h : .ok r ∈ parts) :
    ReadsIn (IsAbout ns payload) r := by
  rcases Reading.ofPayload_cases hparts with
    ⟨rfl, rfl⟩ | rfl | ⟨list, items, hlist, hitems, hlatest⟩
  · refine (readsIn_ofDiffuser h).mono fun p hp => ?_
    rw [hp]
    rfl
  · cases h
  · rw [Json.eq_arr_of_asItems? hitems] at hlist
    rcases hlatest with ⟨rfl, rfl⟩ | ⟨rfl, rfl⟩
    · have hlatest : payload.get? Namespace.sensorLatest.key = some (.arr items) := hlist
      obtain ⟨item, hitem, h⟩ := List.mem_flatMap.1 h
      exact (readsIn_ofLatest h).mono fun p => isAbout_of_isAt (by decide) hlatest hitem
    · have hlatest : payload.get? Namespace.sensorLatestX.key = some (.arr items) := hlist
      obtain ⟨item, hitem, h⟩ := List.mem_flatMap.1 h
      exact (readsIn_ofLatestSamples h).mono fun p => isAbout_of_isAt (by decide) hlatest hitem

end Readings

/-! ## Messages in their places -/

theorem local_applyReadings (ns : Namespace) (payload : Json) :
    Local (IsAbout ns payload) (applyReadings ns payload) := by
  intro d hd
  unfold applyReadings
  cases hparts : Reading.ofPayload ns payload with
  | error fault => exact .warn _ d
  | ok parts =>
    refine .forEach_of_local hd fun part hpart => local_applyPart ns fun r hr => ?_
    exact readsIn_ofPayload hparts (hr ▸ hpart)

/-- A device that has no readings of diffusers only warns about them. -/
theorem localAt_dispatchItems (ns : Namespace) (payload : Json) {d : Device} (hd : d.Orderly)
    (hcustom : d.dispatcher.isCustom ns = false) :
    LocalAt (IsAbout ns payload) (dispatchItems ns (Item.ofPayload ns payload)) d := by
  cases hitems : Item.ofPayload ns payload with
  | error error => exact .warn _ d
  | ok items =>
    by_cases hns : ns = .diffuserSensor
    · have hnot : d.dispatcher.supports ns = false := by
        refine Bool.eq_false_iff.2 fun hsupports => ?_
        rw [(hd.readsApart ns).2 ⟨by simp [hns], hsupports⟩] at hcustom
        cases hcustom
      refine .forEach hd fun item _ es d' ht => ?_
      refine localAt_dispatchItem_of_not_supports (by rw [hns]; rfl) item (hd.trace ht) ?_
      rw [supports_trace ht, hnot]
    · refine .forEach_of_local hd fun item hitem => local_dispatchItem ns fun c hc => ?_
      exact isAbout_of_item hns hitems hitem hc

theorem local_dispatchNamespace (ns : Namespace) (payload : Json) :
    Local (IsAbout ns payload) (dispatchNamespace ns payload) := by
  intro d hd
  refine .read (fun d' _ h => ?_) ?_
  · rw [h.isCustom]
  · cases hcustom : d.dispatcher.isCustom ns with
    | true => exact local_applyReadings ns payload d hd
    | false => exact localAt_dispatchItems ns payload hd hcustom

/-- The places that a message is about. -/
def Touches (m : Message) : Place → Prop
  | some c => c ∈ m.channels
  | none => m.header.known? = some .diffuserSensor

theorem touches_eq {m : Message} {ns : Namespace} (hknown : m.header.known? = some ns) :
    Touches m = IsAbout ns m.payload := by
  funext p
  cases p with
  | some c =>
    rw [Touches, Message.channels, hknown]
    rfl
  | none => simp only [Touches, IsAbout, hknown, Option.some.injEq]

theorem local_dispatch {m : Message} (hm : m.header.known? ≠ some .systemAll) :
    Local (Touches m) (dispatch m.header m.payload) := by
  intro d hd
  cases hknown : m.header.known? with
  | none =>
    have hdispatch : dispatch m.header m.payload = warnUndefined m.header.ns m.payload := by
      unfold dispatch
      rw [hknown]
    rw [hdispatch]
    exact .warn _ d
  | some ns =>
    by_cases hability : ns = .systemAbility
    · have hdispatch : dispatch m.header m.payload = pure () := by
        unfold dispatch
        rw [hknown, hability]
      rw [hdispatch]
      exact .pure () d
    · have hall : ns ≠ .systemAll := fun h => hm (h ▸ hknown)
      rw [dispatch_of_known hknown hall hability, touches_eq hknown]
      exact local_dispatchNamespace ns m.payload d hd

theorem local_handle {m : Message} (hm : m.header.known? ≠ some .systemAll) :
    Local (Touches m) (handle m) := by
  intro d hd
  unfold handle
  split
  · exact local_dispatch hm d hd
  · exact local_dispatch hm d hd
  · exact .warn _ d
  all_goals exact .pure () d

/-! ## Items in any order -/

theorem apart_of_nodup {items : List Json} (h : (items.filterMap Reading.channelOf).Nodup) :
    items.Pairwise fun i j => ∀ p, IsAt i p → ¬IsAt j p := by
  refine (List.pairwise_filterMap.1 h).imp fun {i j} hne p hi hj => ?_
  obtain ⟨c, hc, rfl⟩ := hi
  obtain ⟨c', hc', hsame⟩ := hj
  exact hne c hc c' hc' (Option.some.inj hsame)

section Items

variable {ns : Namespace} {payload payload' : Json} {items items' : List Json}
  (hitems : payload.get? ns.key = some (.arr items))
  (hitems' : payload'.get? ns.key = some (.arr items')) (hperm : items.Perm items')
  (hnodup : (items.filterMap Reading.channelOf).Nodup) {d : Device} (hd : d.Orderly)
include hitems hitems' hperm hnodup hd

theorem dispatchItems_perm :
    Outcome.Matches (dispatchItems ns (Item.ofPayload ns payload) d)
      (dispatchItems ns (Item.ofPayload ns payload') d) := by
  rw [Item.ofPayload_of_arr hitems, Item.ofPayload_of_arr hitems']
  simp only [dispatchItems, Action.forEach_map]
  exact forEach_perm hperm (fun item _ => local_dispatchItem ns fun c hc => ⟨c, hc, rfl⟩)
    (apart_of_nodup hnodup) hd

theorem applyReadings_perm (hrest : ∀ key, key ≠ ns.key → payload'.get? key = payload.get? key) :
    Outcome.Matches (applyReadings ns payload d) (applyReadings ns payload' d) := by
  by_cases hlatest : ns = .sensorLatest ∨ ns = .sensorLatestX
  · simp only [applyReadings, Reading.ofPayload_of_items hlatest hitems,
      Reading.ofPayload_of_items hlatest hitems', Action.forEach_flatMap]
    refine forEach_perm hperm (fun item _ d hd => ?_) (apart_of_nodup hnodup) hd
    refine .forEach_of_local hd fun part hpart => local_applyPart ns fun r hr => ?_
    exact readsIn_ofItem (hr ▸ hpart)
  · have hsame : Reading.ofPayload ns payload' = Reading.ofPayload ns payload := by
      cases ns with
      | diffuserSensor =>
        have hkeys : ∀ key ∈ ["humidity", "temperature"], key ≠ Namespace.diffuserSensor.key := by
          decide
        refine congrArg Except.ok (List.filterMap_congr fun key hkey => ?_)
        rw [hrest key (hkeys key hkey)]
      | sensorLatest => exact absurd (.inl rfl) hlatest
      | sensorLatestX => exact absurd (.inr rfl) hlatest
      | _ => rfl
    rw [applyReadings, applyReadings, hsame]
    exact .refl _

theorem dispatchNamespace_perm
    (hrest : ∀ key, key ≠ ns.key → payload'.get? key = payload.get? key) :
    Outcome.Matches (dispatchNamespace ns payload d) (dispatchNamespace ns payload' d) := by
  rw [dispatchNamespace_eq, dispatchNamespace_eq]
  split
  · exact applyReadings_perm hitems hitems' hperm hnodup hd hrest
  · exact dispatchItems_perm hitems hitems' hperm hnodup hd

end Items

/-! ## Messages in either order -/

/-- Messages about different channels leave the same device and tell each
    entity's listeners the same, whichever comes first. Readings of a diffuser
    are about no channel, so that only one of the two may bring those. The
    items of a list may come in any order, if their channels differ. -/
theorem handle_commute {d : Device} (hd : d.Reachable) :
    (∀ m m' : Message, m.header.known? ≠ some .systemAll → m'.header.known? ≠ some .systemAll →
      (m.header.known? = some .diffuserSensor → m'.header.known? ≠ some .diffuserSensor) →
      (∀ c ∈ m.channels, c ∉ m'.channels) →
        Outcome.Matches ((do handle m; handle m') d) ((do handle m'; handle m) d)) ∧
      ∀ header ns payload payload' items items',
        header.known? = some ns → ns ≠ .systemAll →
        payload.get? ns.key = some (.arr items) → payload'.get? ns.key = some (.arr items') →
        (∀ key, key ≠ ns.key → payload'.get? key = payload.get? key) →
        items.Perm items' → (items.filterMap Reading.channelOf).Nodup →
          Outcome.Matches (handle ⟨header, payload⟩ d) (handle ⟨header, payload'⟩ d) := by
  refine ⟨?messages, ?items⟩
  case messages =>
    intro m m' hm hm' hdiffuser hchannels
    refine commute (local_handle hm') (local_handle hm) hd.orderly fun p hp' hp => ?_
    cases p with
    | some c => exact hchannels c hp hp'
    | none => exact hdiffuser hp hp'
  case items =>
    intro header ns payload payload' items items' hknown hall hitems hitems' hrest hperm hnodup
    have hdispatch : Outcome.Matches (dispatch header payload d) (dispatch header payload' d) := by
      by_cases hability : ns = .systemAbility
      · unfold dispatch
        rw [hknown, hability]
        exact .refl _
      · rw [dispatch_of_known hknown hall hability, dispatch_of_known hknown hall hability]
        exact dispatchNamespace_perm hitems hitems' hperm hnodup hd.orderly hrest
    unfold handle
    cases header.method with
    | push | getAck => exact hdispatch
    | error => exact ⟨rfl, fun _ => rfl⟩
    | get | set | setAck => exact .refl _

/-- A push in which a plug speaks of some outlets. -/
def ofOutlets (items : List Json) : Message :=
  ⟨pushHeader .toggleX, .obj [("togglex", .arr items)]⟩

/-- What a plug says of an outlet. -/
def outlet (c on : Int) : Json := .obj [("channel", .int c), ("onoff", .int on)]

/-- One outlet of a plug goes off and another one comes in, in whichever order
    the plug says so, and in whichever order one message lists them. -/
theorem handle_commute_plug :
    ((do handle (ofOutlets [outlet 0 0]); handle (ofOutlets [outlet 1 1]) : Action Unit)
        (Chronicle.start 0 .plug).device).device ≠ (Chronicle.start 0 .plug).device ∧
      Outcome.Matches
        ((do handle (ofOutlets [outlet 0 0]); handle (ofOutlets [outlet 1 1]))
          (Chronicle.start 0 .plug).device)
        ((do handle (ofOutlets [outlet 1 1]); handle (ofOutlets [outlet 0 0]))
          (Chronicle.start 0 .plug).device) ∧
      Outcome.Matches
        (handle (ofOutlets [outlet 0 0, outlet 1 1]) (Chronicle.start 0 .plug).device)
        (handle (ofOutlets [outlet 1 1, outlet 0 0]) (Chronicle.start 0 .plug).device) := by
  have hbuilt : Reached (fun _ _ => True) 0 .plug (.start 0 .plug) := .built
  obtain ⟨hmessages, hitems⟩ := handle_commute hbuilt.reachable
  have hknown : (pushHeader .toggleX).known? = some .toggleX := Namespace.ofName?_name .toggleX
  have hall : ∀ items, (ofOutlets items).header.known? ≠ some .systemAll := by
    intro items h
    rw [ofOutlets, hknown] at h
    cases h
  refine ⟨fun hsame => ?_, ?_, ?_⟩
  · have hnew := congrArg (fun d => (d.entity? (.channel (.int 1))).isSome) hsame
    cases hnew
  · refine hmessages _ _ (hall _) (hall _) (fun h => ?_) (by decide)
    rw [ofOutlets, hknown] at h
    cases h
  · refine hitems (pushHeader .toggleX) .toggleX _ _ _ _ hknown (by decide) rfl rfl ?_ (.swap ..) ?_
    · intro key hkey
      have hnone : ∀ data, (Json.obj [("togglex", data)]).get? key = none := by
        intro data
        have hne : (key == "togglex") = false := beq_eq_false_iff_ne.2 hkey
        simp [Json.get?, List.lookup_cons, hne]
      exact (hnone _).trans (hnone _).symm
    · decide

end Device

end Appliance
