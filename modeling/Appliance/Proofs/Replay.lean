-- SUMMARY: Messages and digests that come again find the device as they left it.

import Appliance.Proofs.Readers
import Appliance.Proofs.Stillness

namespace Appliance

/-! ## Work on lists

Lists that are worked on in turn, and lists of lists, are rows of steps. -/

namespace Action

variable {α β : Type}

theorem device_forEach_flatMap {f : α → Action Unit} {g : α → List β} {h : β → Action Unit}
    (hf : ∀ x d, (f x d).device = (forEach (g x) h d).device) (xs : List α) (d : Device) :
    (forEach xs f d).device = (forEach (xs.flatMap g) h d).device := by
  induction xs generalizing d with
  | nil => rfl
  | cons x xs ih =>
    have hrest := ih (f x d).device
    rw [List.flatMap_cons, forEach_append, ← hf]
    exact hrest

end Action

namespace Device

/-! ## Digests

The digest speaks of thermostats last. -/

/-- The items that a digest holds for one namespace. -/
def routeItems (digest : Json) (path : List String) (ns : Namespace) : List (Namespace × Item) :=
  match digest.descend? path with
  | none => []
  | some data =>
    match Item.split ns data with
    | .ok items => items.map fun i => (ns, i)
    | .error _ => []

def digestItems (digest : Json) : List (Namespace × Item) :=
  digestRoutes.flatMap fun route => routeItems digest route.1 route.2

theorem device_parseRoute (digest : Json) (path : List String) (ns : Namespace) (d : Device) :
    (parseRoute digest path ns d).device =
      (Action.forEach (routeItems digest path ns) pass d).device := by
  unfold parseRoute routeItems
  cases digest.descend? path with
  | none => rfl
  | some data =>
    simp only
    cases Item.split ns data with
    | error error => rfl
    | ok items =>
      simp only [dispatchItems]
      rw [Action.forEach_map]
      rfl

theorem device_parseDigest (digest : Json) (d : Device) :
    (parseDigest digest d).device = (Action.forEach (digestItems digest) pass d).device :=
  Action.device_forEach_flatMap (fun route d => device_parseRoute digest route.1 route.2 d)
    digestRoutes d

theorem mem_routeItems {digest : Json} {path : List String} {ns : Namespace}
    {x : Namespace × Item} :
    x ∈ routeItems digest path ns ↔ x.1 = ns ∧ ∃ data items, digest.descend? path = some data ∧
      Item.split ns data = .ok items ∧ x.2 ∈ items := by
  obtain ⟨ns', i⟩ := x
  unfold routeItems
  cases digest.descend? path with
  | none => simp
  | some data =>
    cases hitems : Item.split ns data with
    | error error => simp [hitems]
    | ok items => simp [hitems, and_comm, eq_comm]

theorem exists_of_mem_digestItems {digest : Json} {ns : Namespace} {i : Item}
    (h : (ns, i) ∈ digestItems digest) :
    ∃ path data items, (path, ns) ∈ digestRoutes ∧ digest.descend? path = some data ∧
      Item.split ns data = .ok items ∧ i ∈ items := by
  obtain ⟨⟨path, ns'⟩, hroute, hx⟩ := List.mem_flatMap.1 h
  obtain ⟨rfl, data, items, hdata, hitems, hi⟩ := mem_routeItems.1 hx
  exact ⟨path, data, items, hroute, hdata, hitems, hi⟩

theorem thermostatsLast_digestItems (digest : Json) : ThermostatsLast (digestItems digest) := by
  have hroutes : digestRoutes.Pairwise fun r s =>
      r.2 = .thermostatMode → s.2 = .thermostatMode := by decide
  refine List.pairwise_flatMap.2 ⟨fun route _ => ?_, hroutes.imp fun {r s} hrs x hx y hy hns => ?_⟩
  · refine List.Pairwise.imp_of_mem (R := fun _ _ => True) (fun {x y} hx hy _ hns => ?_)
      (List.pairwise_of_forall fun _ _ => trivial)
    rw [(mem_routeItems.1 hy).1, ← (mem_routeItems.1 hx).1]
    exact hns
  · rw [(mem_routeItems.1 hy).1]
    exact hrs ((mem_routeItems.1 hx).1 ▸ hns)

theorem wellFormed_digestItems {digest : Json} (h : digest.WellFormed) :
    ∀ x ∈ digestItems digest, x.2.body.WellFormed := by
  intro x hx
  obtain ⟨path, data, items, -, hdata, hitems, hi⟩ := exists_of_mem_digestItems hx
  exact wellFormed_split (h.descend? hdata) hitems x.2 hi

/-- A digest that comes again, whatever the descriptor keeps by then, changes nothing. -/
theorem parseDigest_again {digest : Json} (hwf : digest.WellFormed) {d d' : Device} (hd : d.Fit)
    (hd' : d'.Fit) (halike : Alike (parseDigest digest d).device d') :
    (parseDigest digest d').device = d' := by
  rw [device_parseDigest] at halike ⊢
  exact forEach_pass_again (wellFormed_digestItems hwf) hd halike hd'
    (thermostatsLast_digestItems digest)

theorem fit_parseDigest (digest : Json) {d : Device} (hd : d.Fit) :
    (parseDigest digest d).device.Fit :=
  hd.trace (traced_parseDigest Scope.opens_calm (fun hp => hp.elim) d)

theorem parseDigest_parseDigest {digest : Json} (hwf : digest.WellFormed) {d : Device}
    (hd : d.Fit) :
    (parseDigest digest (parseDigest digest d).device).device = (parseDigest digest d).device :=
  parseDigest_again hwf hd (fit_parseDigest digest hd) ⟨rfl, rfl, rfl⟩

/-! ## Payloads

Whether a namespace has a reader of its own never changes. So a payload is
read the second time as it was read the first time. -/

theorem dispatchItems_eq (ns : Namespace) (items : List Item) :
    dispatchItems ns (.ok items) = Action.forEach (items.map fun i => (ns, i)) pass :=
  (Action.forEach_map (fun i => (ns, i)) pass items).symm

section Payloads

variable (ns : Namespace) {payload : Json} (hwf : payload.WellFormed)
include hwf

theorem wellFormed_namespaceItems {items : List Item}
    (hitems : Item.ofPayload ns payload = .ok items) :
    ∀ x ∈ items.map fun i => (ns, i), x.2.body.WellFormed := by
  intro x hx
  obtain ⟨i, hi, rfl⟩ := List.mem_map.1 hx
  exact wellFormed_ofPayload hwf hitems i hi

variable {d : Device} (hd : d.Fit)
include hd

theorem applyReadings_again :
    (applyReadings ns payload (applyReadings ns payload d).device).device =
      (applyReadings ns payload d).device := by
  unfold applyReadings
  cases hparts : Reading.ofPayload ns payload with
  | error fault => rfl
  | ok parts => exact forEach_applyPart_again ns (Reading.apt_ofPayload hwf hparts) hd

theorem dispatchItems_again :
    (dispatchItems ns (Item.ofPayload ns payload)
        (dispatchItems ns (Item.ofPayload ns payload) d).device).device =
      (dispatchItems ns (Item.ofPayload ns payload) d).device := by
  cases hitems : Item.ofPayload ns payload with
  | error error => rfl
  | ok items =>
    have hlast : ThermostatsLast (items.map fun i => (ns, i)) := by
      exact List.pairwise_map.2 (List.pairwise_of_forall fun i j hns => hns)
    rw [dispatchItems_eq]
    exact forEach_pass_again (wellFormed_namespaceItems ns hwf hitems) hd ⟨rfl, rfl, rfl⟩
      ((repeatable_pass _).fit_forEach hd) hlast

theorem dispatchNamespace_again :
    (dispatchNamespace ns payload (dispatchNamespace ns payload d).device).device =
      (dispatchNamespace ns payload d).device := by
  have hcustom : (dispatchNamespace ns payload d).device.dispatcher.isCustom ns =
      d.dispatcher.isCustom ns :=
    isCustom_trace (traced_dispatchNamespace Scope.opens_calm ns (fun hp => hp.elim) d) ns
  rw [dispatchNamespace_eq ns payload (dispatchNamespace ns payload d).device, hcustom]
  rw [dispatchNamespace_eq ns payload d]
  cases d.dispatcher.isCustom ns with
  | true => exact applyReadings_again ns hwf hd
  | false => exact dispatchItems_again ns hwf hd

end Payloads

/-! ### Payloads at rest -/

/-- What is registered for nothing, and is made for nothing, gets no items. -/
theorem not_mem_addressees {d : Device} (hw : d.Wired) {id : EntityId}
    (hmade : ∀ kind c, id ≠ defaultId kind c) (h : ∀ ns, ¬d.Registered ns id) (ns : Namespace)
    (c : Channel) : id ∉ d.addressees ns c := by
  intro hmem
  rcases lookup_of_addressees d ns c with ⟨-, haddressees, -⟩ | ⟨-, hlookup⟩
  · rw [haddressees] at hmem
    exact h ns (hw.mem_targets.1 hmem).2
  · rw [addressees_eq, hlookup] at hmem
    cases hp : ns.policy with
    | ignore | logOnly => simp [hp] at hmem
    | createDefault kind =>
      rw [hp] at hmem
      exact hmade kind c (List.mem_singleton.1 hmem)

theorem derivedApart_of_not_registered {d : Device} (hw : d.Wired)
    (h : ∀ ns c, ∀ id ∈ derivedIds c, ¬d.Registered ns id) : d.DerivedApart := by
  intro c id hid ns c'
  refine not_mem_addressees hw ?_ (fun ns => h ns c id hid) ns c'
  rintro kind c'' rfl
  exact defaultId_not_mem_derivedIds kind c'' c hid

theorem derivedApart_forEach {d : Device} (h : d.DerivedApart) (xs : List (Namespace × Item)) :
    (Action.forEach xs pass d).device.DerivedApart := by
  intro c id hid ns c'
  rw [addressees_forEach]
  exact h c id hid ns c'

section Rest

variable (ns : Namespace) {payload : Json} (hwf : payload.WellFormed)
  (hspread : Payload.Spread ns payload) {d : Device} (hd : d.Fit)
include hwf hspread hd

theorem rests_applyReadings :
    Rests (applyReadings ns payload) (applyReadings ns payload d).device := by
  have hagain := applyReadings_again ns hwf hd
  unfold applyReadings at hagain ⊢
  cases hparts : Reading.ofPayload ns payload with
  | error fault => exact Rests.warn _ _
  | ok parts =>
    have hapt := Reading.apt_ofPayload hwf hparts
    have hrepeat := repeatable_applyPart ns hapt
    have hfit := hrepeat.fit_forEach hd
    have hready := hrepeat.ready_forEach hd
    simp only [hparts] at hagain
    refine hrepeat.rests hfit hready hagain
      (length_history_part ns hfit hapt (Reading.distinct_ofPayload hwf hspread hparts))
      partOps_ne_unavailable fun part hpart hidle => ?_
    refine rests_applyPart ns hfit (fun r hr => ?_) (hready part hpart) hidle
    exact hapt.sane r (hr ▸ hpart)

theorem rests_dispatchItems (hapart : d.DerivedApart) :
    Rests (dispatchItems ns (Item.ofPayload ns payload))
      (dispatchItems ns (Item.ofPayload ns payload) d).device := by
  have hagain := dispatchItems_again ns hwf hd
  cases hitems : Item.ofPayload ns payload with
  | error error => exact Rests.warn _ _
  | ok items =>
    have hbodies := wellFormed_namespaceItems ns hwf hitems
    have hchannels : ((items.map fun i => (ns, i)).filterMap (·.2.channel)).Nodup := by
      rw [List.filterMap_map]
      exact hspread.channels items hitems
    rw [hitems, dispatchItems_eq] at hagain
    rw [dispatchItems_eq]
    generalize items.map (fun i => (ns, i)) = xs at hagain hbodies hchannels
    have hfit := (repeatable_pass xs).fit_forEach hd
    have hready := (repeatable_pass xs).ready_forEach hd
    exact (repeatable_pass xs).rests hfit hready hagain
      (length_history_pass hfit (derivedApart_forEach hapart xs) hchannels)
      itemOps_ne_unavailable
      fun x hx hidle => rests_pass hfit (hready x hx) (hbodies x hx) hidle

theorem rests_dispatchNamespace (hapart : d.DerivedApart) :
    Rests (dispatchNamespace ns payload) (dispatchNamespace ns payload d).device := by
  have hcustom : (dispatchNamespace ns payload d).device.dispatcher.isCustom ns =
      d.dispatcher.isCustom ns :=
    isCustom_trace (traced_dispatchNamespace Scope.opens_calm ns (fun hp => hp.elim) d) ns
  have hagain := dispatchNamespace_eq ns payload (dispatchNamespace ns payload d).device
  rw [hcustom] at hagain
  have hfirst := dispatchNamespace_eq ns payload d
  cases hc : d.dispatcher.isCustom ns with
  | true =>
    rw [hc, if_pos rfl] at hagain hfirst
    have hrests := rests_applyReadings ns hwf hspread hd
    rw [← hfirst] at hrests
    exact ⟨hagain ▸ hrests.device, hagain ▸ hrests.quiet⟩
  | false =>
    rw [hc, if_neg Bool.noConfusion] at hagain hfirst
    have hrests := rests_dispatchItems ns hwf hspread hd hapart
    rw [← hfirst] at hrests
    exact ⟨hagain ▸ hrests.device, hagain ▸ hrests.quiet⟩

end Rest

/-! ## Messages -/

theorem dispatchSummary_again {payload : Json} (hwf : payload.WellFormed) {d : Device}
    (hd : d.Fit) :
    (dispatchSummary payload (dispatchSummary payload d).device).device =
      (dispatchSummary payload d).device := by
  have hfit : (dispatchSummary payload d).device.Fit :=
    hd.trace (traced_dispatchSummary Scope.opens_calm (fun hp => hp.elim) d)
  unfold dispatchSummary at hfit ⊢
  cases hdigest : payload.descend? ["all", "digest"] with
  | none => rfl
  | some digest =>
    simp only [hdigest] at hfit
    simp only [Action.bind_apply, Action.modify] at hfit ⊢
    rw [parseDigest_again (hwf.descend? hdigest) hd hfit ⟨rfl, rfl, rfl⟩]

/-- What becomes of a payload. -/
theorem dispatch_cases (header : Header) (payload : Json) :
    header.known? = some .systemAll ∧ dispatch header payload = dispatchSummary payload ∨
      (∃ ns, header.known? = some ns ∧ dispatch header payload = dispatchNamespace ns payload) ∨
        dispatch header payload = pure () ∨
          dispatch header payload = warnUndefined header.ns payload := by
  unfold dispatch
  split
  · rename_i hall
    exact .inl ⟨hall, rfl⟩
  · exact .inr (.inr (.inl rfl))
  · rename_i ns _ _ hns
    exact .inr (.inl ⟨ns, hns, rfl⟩)
  · exact .inr (.inr (.inr rfl))

theorem dispatch_again (header : Header) {payload : Json} (hwf : payload.WellFormed) {d : Device}
    (hd : d.Fit) :
    (dispatch header payload (dispatch header payload d).device).device =
      (dispatch header payload d).device := by
  rcases dispatch_cases header payload with ⟨-, h⟩ | ⟨ns, -, h⟩ | h | h <;> rw [h]
  · exact dispatchSummary_again hwf hd
  · exact dispatchNamespace_again ns hwf hd
  · rfl
  · rfl

theorem rests_dispatch {header : Header} (hknown : header.known? ≠ some .systemAll)
    {payload : Json} (hwf : payload.WellFormed)
    (hspread : ∀ ns, header.known? = some ns → Payload.Spread ns payload) {d : Device} (hd : d.Fit)
    (hapart : d.DerivedApart) :
    Rests (dispatch header payload) (dispatch header payload d).device := by
  rcases dispatch_cases header payload with ⟨hall, -⟩ | ⟨ns, hns, h⟩ | h | h
  · exact absurd hall hknown
  · rw [h]
    exact rests_dispatchNamespace ns hwf (hspread ns hns) hd hapart
  · rw [h]
    exact Rests.pure () _
  · rw [h]
    exact Rests.warn _ _

/-- A message is passed on, or it changes nothing and hands nothing on. -/
theorem handle_cases (m : Message) :
    handle m = dispatch m.header m.payload ∨ ∀ d, Rests (handle m) d := by
  unfold handle
  split
  · exact .inl rfl
  · exact .inl rfl
  · exact .inr fun d => Rests.warn _ d
  all_goals exact .inr fun d => Rests.pure () d

theorem Reachable.fit {d : Device} (h : d.Reachable)
    (hscaled : ∀ id e, d.entity? id = some e → e.Scaled) : d.Fit := by
  obtain ⟨mask, descriptor, c, hreached, rfl⟩ := h
  exact ⟨hreached.wired.1, hreached.sound.1, hscaled⟩

/-- A message that comes again leaves all entities, all handlers and the digest
    as it left them the first time, and so does a digest. What a message says
    to each entity it says once, unless it sums the device up, speaks of a
    channel twice or reaches a derived sensor by itself; then the second time
    nobody hears of it. Payloads are well-formed as all values are that a text
    can be read to: they need not be what their namespace asks for. -/
theorem handle_replay {d : Device} (hd : d.Reachable)
    (hscaled : ∀ id e, d.entity? id = some e → e.Scaled) :
    (∀ m : Message, m.payload.WellFormed →
        (handle m (handle m d).device).device = (handle m d).device ∧
          (m.header.known? ≠ some .systemAll →
            (∀ ns, m.header.known? = some ns → Payload.Spread ns m.payload) →
              (∀ ns c, ∀ id ∈ derivedIds c, ¬d.Registered ns id) →
                ∀ e, .flushed e ∉ (handle m (handle m d).device).events)) ∧
      ∀ digest : Json, digest.WellFormed →
        (parseDigest digest (parseDigest digest d).device).device =
          (parseDigest digest d).device := by
  have hfit := hd.fit hscaled
  refine ⟨fun m hwf => ?_, fun digest hwf => parseDigest_parseDigest hwf hfit⟩
  rcases handle_cases m with hdispatch | hrests
  · rw [hdispatch]
    refine ⟨dispatch_again m.header hwf hfit, fun hknown hspread hfree => ?_⟩
    exact (rests_dispatch hknown hwf hspread hfit
      (derivedApart_of_not_registered hfit.wired hfree)).quiet
  · exact ⟨(hrests _).device, fun _ _ _ => (hrests _).quiet⟩

/-- A push that turns the outlet of a plug off. -/
def outletOff : Message where
  header := pushHeader .toggleX
  payload := .obj [("togglex", .obj [("channel", .int 0), ("onoff", .int 0)])]

/-- The listeners hear of it when the outlet of a plug goes off, and not again
    when the plug says so again. -/
theorem handle_replay_plug :
    (∃ e, .flushed e ∈ (handle outletOff (Chronicle.start 0 .plug).device).events) ∧
      (handle outletOff (handle outletOff (Chronicle.start 0 .plug).device).device).device =
        (handle outletOff (Chronicle.start 0 .plug).device).device ∧
      (∀ e, .flushed e ∉
        (handle outletOff (handle outletOff (Chronicle.start 0 .plug).device).device).events) ∧
      (parseDigest (.obj []) (parseDigest (.obj [])
          (Chronicle.start 0 .plug).device).device).device =
        (parseDigest (.obj []) (Chronicle.start 0 .plug).device).device := by
  have hbuilt : Reached (fun _ _ => True) 0 .plug (.start 0 .plug) := .built
  have honly : ∀ id e, (Chronicle.start 0 .plug).device.entity? id = some e →
      id = .channel (.int 0) ∧ e.status.measure = none := by
    intro id e he
    have hmem := Table.mem_entries_iff.2 he
    obtain hsame := List.mem_singleton.1 hmem
    cases hsame
    exact ⟨rfl, rfl⟩
  have hscaled : ∀ id e, (Chronicle.start 0 .plug).device.entity? id = some e → e.Scaled := by
    intro id e he m hm
    rw [(honly id e he).2] at hm
    cases hm
  have hwf : outletOff.payload.WellFormed := by
    refine Json.WellFormed.obj.2 ⟨List.pairwise_singleton .., ?_⟩
    simpa using wellFormed_outlet 0
  have hknown : outletOff.header.known? = some .toggleX := Namespace.ofName?_name .toggleX
  have hspread : ∀ ns, outletOff.header.known? = some ns →
      Payload.Spread ns outletOff.payload := by
    intro ns hns
    rw [hknown] at hns
    cases hns
    refine ⟨fun items hitems => ?_, fun h => by cases h⟩
    cases hitems
    exact List.pairwise_singleton ..
  have hfree : ∀ ns c, ∀ id ∈ derivedIds c,
      ¬(Chronicle.start 0 .plug).device.Registered ns id := by
    rintro ns c id hid ⟨e, he, -⟩
    rw [(honly id e he).1] at hid
    exact not_mem_derivedIds_channel (.int 0) c hid
  obtain ⟨hmessage, hdigest⟩ := handle_replay hbuilt.reachable hscaled
  obtain ⟨hsame, hquiet⟩ := hmessage outletOff hwf
  refine ⟨⟨_, List.mem_singleton.2 rfl⟩, hsame, hquiet ?_ hspread hfree, hdigest (.obj []) ?_⟩
  · rw [hknown]
    decide
  · exact Json.WellFormed.obj.2 ⟨List.Pairwise.nil, List.forall_mem_nil _⟩

end Device

end Appliance
