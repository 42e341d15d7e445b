-- SUMMARY: Digests, lists and summaries come to the same as single messages, one after the other.

import Appliance.Proofs.Readers

namespace Appliance

/-! ## Work in turn -/

namespace Action

variable {α β : Type}

theorem forEach_singleton (x : α) (f : α → Action Unit) (d : Device) :
    forEach [x] f d = f x d := by
  rw [forEach_cons, forEach_nil]
  simp [Action.bind, Action.pure]

/-- Work on what is picked from a list is work on the list that passes over the rest. -/
theorem forEach_filterMap (pick : α → Option β) (f : β → Action Unit) (xs : List α) :
    forEach (xs.filterMap pick) f = forEach xs fun x => (pick x).elim (Action.pure ()) f := by
  induction xs with
  | nil => rfl
  | cons x xs ih =>
    rw [List.filterMap_cons, forEach_cons, ← ih]
    cases pick x <;> rfl

/-- Two kinds of work come to the same in turn if they do on every device on
    the way. -/
theorem forEach_congr {P : Device → Prop} {xs : List α} {f g : α → Action Unit}
    (h : ∀ x ∈ xs, ∀ d, P d → f x d = g x d ∧ P (f x d).device) {d : Device} (hd : P d) :
    forEach xs f d = forEach xs g d := by
  induction xs generalizing d with
  | nil => rfl
  | cons x xs ih =>
    obtain ⟨hx, hnext⟩ := h x (List.mem_cons_self ..) d hd
    have hrest := ih (fun y hy => h y (List.mem_cons_of_mem _ hy)) hnext
    rw [forEach_cons, forEach_cons]
    unfold Action.bind
    simp only [hrest]
    rw [hx]

end Action

/-! ## Operations in turn -/

/-- A throttle adds nothing. -/
theorem Throttle.screen_sublist (t : Throttle) (now : Nat) (es : List Event) :
    (t.screen now es).1.Sublist es := by
  induction es generalizing t with
  | nil => exact .slnil
  | cons e es ih =>
    have hone : (t.screenOne now e).1.Sublist [e] := by
      unfold Throttle.screenOne
      repeat' split
      all_goals simp
    exact hone.append (ih _)

namespace Operation

/-- Does an operation and leaves its answer aside. -/
def perform (t : Transport) (op : Operation) : Action Unit := do
  let _ ← op.run t

theorem perform_dispatch (t : Transport) (header : Header) (payload : Json) :
    (dispatch header payload).perform t = Device.dispatch header payload := by
  funext d
  simp [perform, run, Action.bind_apply, Action.pure_apply]

theorem perform_parseDigest (t : Transport) (digest : Json) :
    (parseDigest digest).perform t = Device.parseDigest digest := by
  funext d
  simp [perform, run, Action.bind_apply, Action.pure_apply]

/-- A message with the data of a namespace. -/
def tell (header : Header) (ns : Namespace) (data : Json) : Operation :=
  .dispatch header (.obj [(ns.key, data)])

/-- The messages in which a device speaks of what a digest holds, in the order
    of the routes. -/
def tellDigest (header : Namespace → Header) (digest : Json) : List Operation :=
  Device.digestRoutes.filterMap fun route =>
    (digest.descend? route.1).map fun data => tell (header route.2) route.2 data

end Operation

namespace Session

/-- Does operations at one time, one after the other. -/
def steps (s : Session) (now : Nat) (t : Transport) : List Operation → Session × List Event
  | [] => (s, [])
  | op :: ops =>
    let o := s.step now t op
    let rest := o.1.steps now t ops
    (rest.1, o.2.1 ++ rest.2)

/-- The throttle sees the warnings of operations in turn as it sees those of
    one piece of work. -/
theorem steps_eq_act (s : Session) (now : Nat) (t : Transport) (ops : List Operation) :
    s.steps now t ops =
      ((s.act now (.forEach ops (·.perform t))).1,
        (s.act now (.forEach ops (·.perform t))).2.1) := by
  induction ops generalizing s with
  | nil => rfl
  | cons op ops ih =>
    have hperform : s.act now (op.perform t) =
        ((s.step now t op).1, (s.step now t op).2.1, ()) := by
      simp only [Operation.perform, act_bind, act_pure, List.append_nil, step]
    rw [act_forEach_cons, hperform, steps, ih]

theorem steps_congr {s : Session} {t : Transport} {ops ops' : List Operation}
    (h : Action.forEach ops (·.perform t) s.device = Action.forEach ops' (·.perform t) s.device)
    (now : Nat) : s.steps now t ops = s.steps now t ops' := by
  rw [steps_eq_act, steps_eq_act, act, act, h]

end Session

/-! ## Data of a namespace -/

namespace Device

variable {header : Header} {ns : Namespace}

/-- A namespace without a reader of its own takes its data apart as a digest's
    are taken apart. -/
theorem perform_tell (hknown : header.known? = some ns) (hall : ns ≠ .systemAll)
    (hability : ns ≠ .systemAbility) (t : Transport) (data : Json) {d : Device}
    (hd : d.dispatcher.isCustom ns = false) :
    (Operation.tell header ns data).perform t d = dispatchItems ns (Item.split ns data) d := by
  have hitems : Item.ofPayload ns (.obj [(ns.key, data)]) = Item.split ns data := by
    simp [Item.ofPayload, Json.get?]
  rw [Operation.tell, Operation.perform_dispatch, dispatch_of_known hknown hall hability,
    dispatchNamespace_eq, hd, hitems]
  rfl

theorem isCustom_dispatchItem (ns ns' : Namespace) (item : Item) (d : Device) :
    (dispatchItem ns item d).device.dispatcher.isCustom ns' = d.dispatcher.isCustom ns' :=
  isCustom_trace (traced_dispatchItem Scope.opens_any ns (fun hp => hp.elim) d) ns'

theorem isCustom_parseRoute (digest : Json) (path : List String) (ns ns' : Namespace)
    (d : Device) :
    (parseRoute digest path ns d).device.dispatcher.isCustom ns' = d.dispatcher.isCustom ns' :=
  isCustom_trace (traced_parseRoute Scope.opens_any (fun hp => hp.elim) path ns d) ns'

/-- A list is told item by item. -/
theorem perform_tell_arr (hknown : header.known? = some ns) (hall : ns ≠ .systemAll)
    (hability : ns ≠ .systemAbility) (t : Transport) (items : List Json) {d : Device}
    (hd : d.dispatcher.isCustom ns = false) :
    (Operation.tell header ns (.arr items)).perform t d =
      Action.forEach items (fun i => (Operation.tell header ns (.arr [i])).perform t) d := by
  have hone : ∀ i ∈ items, ∀ d, d.dispatcher.isCustom ns = false →
      dispatchItem ns (.ofListed i) d = (Operation.tell header ns (.arr [i])).perform t d ∧
        (dispatchItem ns (.ofListed i) d).device.dispatcher.isCustom ns = false := by
    intro i _ d hd
    rw [perform_tell hknown hall hability t (.arr [i]) hd, isCustom_dispatchItem]
    exact ⟨(Action.forEach_singleton (Item.ofListed i) (dispatchItem ns) d).symm, hd⟩
  rw [perform_tell hknown hall hability t (.arr items) hd, ← Action.forEach_congr hone hd]
  exact congrFun (Action.forEach_map Item.ofListed (dispatchItem ns) items) d

/-- An object that names its channel is told as a list of one. -/
theorem perform_tell_obj (hknown : header.known? = some ns) (hall : ns ≠ .systemAll)
    (hability : ns ≠ .systemAbility) (t : Transport) {fields : List (String × Json)}
    (hchannel : ((Json.obj fields).get? "channel").isSome = true) {d : Device}
    (hd : d.dispatcher.isCustom ns = false) :
    (Operation.tell header ns (.obj fields)).perform t d =
      (Operation.tell header ns (.arr [.obj fields])).perform t d := by
  obtain ⟨c, hc⟩ := Option.isSome_iff_exists.1 hchannel
  have hsplit : Item.split ns (.obj fields) = Item.split ns (.arr [.obj fields]) := by
    simp [Item.split, Item.ofSingle, Item.ofListed, hc]
  rw [perform_tell hknown hall hability t _ hd, perform_tell hknown hall hability t _ hd, hsplit]

/-! ## Digests -/

theorem digestRoutes_plain :
    ∀ route ∈ digestRoutes, route.2 ≠ .systemAll ∧ route.2 ≠ .systemAbility ∧
      route.2 ∉ [Namespace.diffuserSensor, .sensorLatest, .sensorLatestX] := by decide

/-- What a digest holds might as well have been told in messages. -/
theorem perform_tellDigest {d : Device} (hd : d.ReadsApart) {header : Namespace → Header}
    (hknown : ∀ ns, (header ns).known? = some ns) (t : Transport) (digest : Json) :
    Action.forEach (Operation.tellDigest header digest) (·.perform t) d = parseDigest digest d := by
  have hroute : ∀ route ∈ digestRoutes, ∀ d : Device,
      (∀ route ∈ digestRoutes, d.dispatcher.isCustom route.2 = false) →
        parseRoute digest route.1 route.2 d =
            ((digest.descend? route.1).map fun data =>
              Operation.tell (header route.2) route.2 data).elim (Action.pure ()) (·.perform t) d ∧
          ∀ route' ∈ digestRoutes,
            (parseRoute digest route.1 route.2 d).device.dispatcher.isCustom route'.2 = false := by
    intro route hroute d hd
    obtain ⟨hall, hability, -⟩ := digestRoutes_plain route hroute
    refine ⟨?_, fun route' hroute' => ?_⟩
    · unfold parseRoute
      cases hdata : digest.descend? route.1 with
      | none => rfl
      | some data => exact (perform_tell (hknown _) hall hability t data (hd route hroute)).symm
    · rw [isCustom_parseRoute]
      exact hd route' hroute'
  have hplain : ∀ route ∈ digestRoutes, d.dispatcher.isCustom route.2 = false := by
    intro route hmem
    obtain ⟨-, -, hnot⟩ := digestRoutes_plain route hmem
    refine Bool.eq_false_iff.2 fun hcustom => hnot ((hd route.2).1 hcustom).1
  rw [Operation.tellDigest, Action.forEach_filterMap]
  exact (Action.forEach_congr hroute hplain).symm

/-! ## Summaries -/

/-- The device with another digest in its descriptor. -/
def keepDigest (d : Device) (digest : Json) : Device :=
  { d with descriptor := { d.descriptor with digest } }

/-- A summary is taken in as its digest is, which is then kept. -/
theorem dispatch_summary (hknown : header.known? = some .systemAll) {payload digest : Json}
    (hdigest : payload.descend? ["all", "digest"] = some digest) (d : Device) :
    dispatch header payload d =
      ⟨((parseDigest digest d).device.keepDigest digest), (parseDigest digest d).events, ()⟩ := by
  have hsummary : dispatch header payload = dispatchSummary payload := by
    unfold dispatch
    rw [hknown]
  rw [hsummary, dispatchSummary, hdigest]
  simp [Action.bind_apply, Action.modify, keepDigest]

theorem dispatch_no_summary (hknown : header.known? = some .systemAll) {payload : Json}
    (hdigest : payload.descend? ["all", "digest"] = none) (d : Device) :
    dispatch header payload d =
      ⟨d, [.warned (.malformed .systemAll (.payload .systemAll .missingDigest))], ()⟩ := by
  have hsummary : dispatch header payload = dispatchSummary payload := by
    unfold dispatch
    rw [hknown]
  rw [hsummary, dispatchSummary, hdigest]
  rfl

theorem handle_of_told {m : Message} (h : m.header.method = .push ∨ m.header.method = .getAck) :
    handle m = dispatch m.header m.payload := by
  unfold handle
  rcases h with h | h <;> rw [h]

end Device

/-! ## Agreement -/

namespace Session

/-- What a session is told as a digest, as a list or as a summary has the same
    effect as what it comes to when it is told in single messages: on the
    device, on the throttle and on all that is told in turn.

    A digest comes to a message for each route that it has data for. A list
    comes to a list for each of its items, unless its namespace has a reader
    of its own, and an object that names its channel to a list of one. A
    summary comes to the digest in it, which is then kept; without one it is
    only warned about. -/
theorem paths_agree {s : Session} (hs : s.device.Reachable) (now : Nat) (t : Transport) :
    (∀ header : Namespace → Header, (∀ ns, (header ns).known? = some ns) → ∀ digest,
        s.steps now t [.parseDigest digest] =
          s.steps now t (Operation.tellDigest header digest)) ∧
      (∀ header ns, header.known? = some ns → ns ≠ .systemAll → ns ≠ .systemAbility →
        s.device.dispatcher.isCustom ns = false →
          (∀ items, s.steps now t [.tell header ns (.arr items)] =
              s.steps now t (items.map fun i => .tell header ns (.arr [i]))) ∧
            ∀ fields, ((Json.obj fields).get? "channel").isSome = true →
              s.steps now t [.tell header ns (.obj fields)] =
                s.steps now t [.tell header ns (.arr [.obj fields])]) ∧
      (∀ header payload, header.known? = some .systemAll →
        (∀ digest, payload.descend? ["all", "digest"] = some digest →
            s.step now t (.dispatch header payload) =
              ({ (s.step now t (.parseDigest digest)).1 with
                  device := (s.step now t (.parseDigest digest)).1.device.keepDigest digest },
                (s.step now t (.parseDigest digest)).2)) ∧
          (payload.descend? ["all", "digest"] = none →
            (s.step now t (.dispatch header payload)).1.device = s.device ∧
              ∀ e ∈ (s.step now t (.dispatch header payload)).2.1, ∃ w, e = .warned w)) ∧
      ∀ m : Message, m.header.method = .push ∨ m.header.method = .getAck →
        s.step now t (.handle m) = s.step now t (.dispatch m.header m.payload) := by
  refine ⟨?digest, ?data, ?summary, ?message⟩
  case digest =>
    intro header hknown digest
    refine steps_congr ?_ now
    rw [Action.forEach_singleton, Operation.perform_parseDigest,
      Device.perform_tellDigest hs.readsApart hknown]
  case data =>
    intro header ns hknown hall hability hcustom
    refine ⟨fun items => steps_congr ?_ now, fun fields hchannel => steps_congr ?_ now⟩
    · rw [Action.forEach_singleton, Action.forEach_map,
        Device.perform_tell_arr hknown hall hability t items hcustom]
    · rw [Action.forEach_singleton, Action.forEach_singleton,
        Device.perform_tell_obj hknown hall hability t hchannel hcustom]
  case summary =>
    intro header payload hknown
    refine ⟨fun digest hdigest => ?_, fun hdigest => ?_⟩
    · have hrun : (Operation.dispatch header payload).run t s.device =
          ⟨((Operation.parseDigest digest).run t s.device).device.keepDigest digest,
            ((Operation.parseDigest digest).run t s.device).events, .done⟩ := by
        simp [Operation.run, Action.bind_apply, Action.pure_apply,
          Device.dispatch_summary hknown hdigest]
      rw [step, act, hrun]
      rfl
    · have hrun : (Operation.dispatch header payload).run t s.device =
          ⟨s.device, [.warned (.malformed .systemAll (.payload .systemAll .missingDigest))],
            .done⟩ := by
        simp [Operation.run, Action.bind_apply, Action.pure_apply,
          Device.dispatch_no_summary hknown hdigest]
      rw [step, act, hrun]
      refine ⟨rfl, fun e he => ?_⟩
      exact ⟨_, List.mem_singleton.1 ((s.throttle.screen_sublist now _).mem he)⟩
  case message =>
    intro m hm
    rw [step, step, Operation.run, Operation.run, Device.handle_of_told hm]

/-- What a plug tells of an outlet. -/
def outlet (channel on : Int) : Json := .obj [("channel", .int channel), ("onoff", .int on)]

/-- A plug that speaks of two outlets in its digest could have spoken of each in
    a push. Either way there are two switches then. -/
theorem paths_agree_plug :
    (start 0 0 .plug 0).1.steps 1 (fun _ => .error .timeout)
        [.parseDigest (.obj [("togglex", .arr [outlet 0 0, outlet 1 1])])] =
      (start 0 0 .plug 0).1.steps 1 (fun _ => .error .timeout)
        [.tell (Device.pushHeader .toggleX) .toggleX (.arr [outlet 0 0]),
          .tell (Device.pushHeader .toggleX) .toggleX (.arr [outlet 1 1])] ∧
      ((start 0 0 .plug 0).1.steps 1 (fun _ => .error .timeout)
        [.parseDigest (.obj [("togglex", .arr [outlet 0 0, outlet 1 1])])]).1.device.entities.keys =
          [.channel (.int 0), .channel (.int 1)] := by
  have hbuilt : Reached (fun _ _ => True) 0 .plug (.start 0 .plug) := .built
  have hknown : ∀ ns, (Device.pushHeader ns).known? = some ns := Namespace.ofName?_name
  have hagree := paths_agree (s := (start 0 0 .plug 0).1) hbuilt.reachable 1
    fun _ => .error .timeout
  refine ⟨?_, by rfl⟩
  rw [hagree.1 Device.pushHeader hknown]
  exact (hagree.2.1 _ .toggleX (hknown .toggleX) (by decide) (by decide) rfl).1
    [outlet 0 0, outlet 1 1]

end Session

end Appliance
