-- SUMMARY: A command is carried out as a whole once it is accepted, and not at all before.

import Appliance.Proofs.Orders
import Appliance.Proofs.Routing

namespace Appliance

/-! ## Requests and flushes -/

/-- The requests among events. -/
def requests (es : List Event) : List Request :=
  es.filterMap fun
    | .sent r => some r
    | .flushed _ | .warned _ => none

/-- Nothing came of an action but requests. -/
structure Outcome.InVain {α : Type} (d : Device) (o : Outcome α) : Prop where
  device : o.device = d
  silent : ∀ e, .flushed e ∉ o.events

/-- The action tells of changed entities and of nothing else. -/
def Action.Flushes {α : Type} (f : Action α) : Prop :=
  ∀ d, ∀ x ∈ (f d).events, ∃ e, x = .flushed e

namespace Action.Flushes

variable {α β : Type}

theorem pure (a : α) : Flushes (pure a : Action α) := by
  intro d x hx
  cases hx

theorem bind {f : Action α} {g : α → Action β} (hf : Flushes f) (hg : ∀ a, Flushes (g a)) :
    Flushes (f >>= g) := by
  intro d x hx
  rw [bind_apply] at hx
  rcases List.mem_append.1 hx with hx | hx
  · exact hf d x hx
  · exact hg _ _ x hx

theorem change {α : Type} (id : EntityId) (f : Entity → Entity.Change α) :
    Flushes (Device.change id f) := by
  refine bind ?_ fun _ => pure ()
  intro d x hx
  unfold Device.update at hx
  split at hx
  · cases hx
  · obtain ⟨e, -, rfl⟩ := List.mem_map.1 hx
    exact ⟨e, rfl⟩

theorem sync (c : Channel) : Flushes (Device.syncClimateSensors c) := by
  intro d
  cases hleader : d.leader? c with
  | none =>
    rw [Device.sync_of_none hleader]
    exact pure () d
  | some climate =>
    rw [Device.sync_of_some hleader]
    refine bind ?_ (fun _ => change _ _) d
    unfold Device.followHeating
    cases climate.heating? with
    | none => exact pure ()
    | some on => exact change _ _

theorem syncAfter (ns : Namespace) (c : Channel) : Flushes (Device.syncAfter ns c) := by
  unfold Device.syncAfter
  split
  · exact sync c
  · exact pure ()

theorem requests {f : Action α} (h : Flushes f) (d : Device) : requests (f d).events = [] := by
  refine List.filterMap_eq_nil_iff.2 fun x hx => ?_
  obtain ⟨e, rfl⟩ := h d x hx
  rfl

end Action.Flushes

/-! ## Carrying out -/

namespace Device

variable {d : Device} {id : EntityId} {e : Entity} {ch : Channel} {c : Command} {o : Order}

/-- A change of an entity that is there, in the terms of its operations. -/
theorem change_eq (he : d.entity? id = some e) {α : Type} {f : Entity → Entity.Change α}
    (op : EntityOp) (hop : op.run e = (f e).map fun _ => ()) :
    change id f d = change id op.run d := by
  simp only [change, Action.bind_apply, update, he, hop, Entity.Change.entity_map,
    Entity.Change.flushes_map]

theorem carryOut_player {key : String} {value : Int64} (he : d.entity? id = some e)
    (hkind : e.kind = .mediaPlayer) :
    carryOut id (.player ch key value) d =
      (do
        change id (Order.player ch key value).op.run
        return .ok () : Action (Except Error Unit)) d := by
  obtain ⟨changed, hok⟩ := e.applyPlayer_ok (Payload.playerItem ch key (.ofInt64 value))
  rw [← Entity.parse_player hkind] at hok
  have hchange := change_eq he (f := (·.parse .mp3 (Payload.playerItem ch key (.ofInt64 value))))
    (Order.player ch key value).op rfl
  rw [Action.bind_apply, ← hchange]
  simp only [carryOut, change, Action.bind_apply, update, he, hok, Action.pure_apply,
    List.append_nil]

/-- To carry out an order is to change its entity. After an order about a
    thermostat the derived sensors of its channel follow. -/
theorem carryOut_eq (he : d.entity? id = some e) (h : o.ServesCommand e ch c) :
    carryOut id o d =
      (do
        change id o.op.run
        syncAfter o.ns ch
        return .ok () : Action (Except Error Unit)) d := by
  cases h with
  | @power ns on _ _ =>
    have hchange := change_eq he (f := (·.updatePower on)) (.power on) rfl
    simp only [carryOut, Action.bind_apply, hchange]
    rfl
  | @mode m hkind | @preset _ m _ hkind =>
    have hchange := change_eq he (f := (·.updateMode m)) (.mode m) rfl
    simp only [carryOut, Action.bind_apply, hchange]
    rfl
  | @spray option _ hkind =>
    have hchange := change_eq he (f := (·.updateState option)) (.state option) rfl
    simp only [carryOut, Action.bind_apply, hchange]
    rfl
  | mute hkind | volume hkind | next hkind | previous hkind => exact carryOut_player he hkind

/-- The entity takes the order; of the others only derived sensors change. -/
theorem entity?_carryOut (he : d.entity? id = some e) (h : o.ServesCommand e ch c) {i : EntityId}
    (hi : o.ns = .thermostatMode → i ∉ derivedIds ch) :
    (carryOut id o d).device.entity? i =
      if i = id then some (o.op.run e).entity else d.entity? i := by
  have hsync : ∀ d : Device, (syncAfter o.ns ch d).device.entity? i = d.entity? i := by
    intro d
    unfold syncAfter
    split
    · rename_i hns
      exact entity?_sync (hi hns) d
    · rfl
  rw [carryOut_eq he h]
  change (syncAfter o.ns ch (update id o.op.run d).device).device.entity? i = _
  rw [hsync, entity?_update, he, Option.map_some]

theorem keeps_carryOut (he : d.entity? id = some e) (h : o.ServesCommand e ch c) :
    Keeps d (carryOut id o d).device := by
  rw [carryOut_eq he h]
  exact (keeps_update _ id d).trans (keeps_syncAfter o.ns ch _)

theorem requests_carryOut (he : d.entity? id = some e) (h : o.ServesCommand e ch c) :
    requests (carryOut id o d).events = [] := by
  rw [carryOut_eq he h]
  refine Action.Flushes.requests (Action.Flushes.bind (.change id _) fun _ => ?_) d
  exact .bind (.syncAfter o.ns ch) fun _ => .pure _

theorem answer_carryOut (he : d.entity? id = some e) (h : o.ServesCommand e ch c) :
    (carryOut id o d).answer = .ok () := by
  rw [carryOut_eq he h]
  rfl

/-! ## Commands -/

/-- Why a command fails: it did not become an order, the request did not go
    through, or the device answered by something else than an acknowledgement. -/
inductive Fails (d : Device) (t : Transport) (id : EntityId) : List Request → Error → Prop where
  | unordered {error : Error} (h : d.Unordered id error) : Fails d t id [] error
  | undelivered {r : Request} {error : Error} (h : t r = .error error) : Fails d t id [r] error
  | rejected {r : Request} {m : Message} (h : t r = .ok m) (method : m.header.method ≠ .setAck) :
      Fails d t id [r] (.notAcknowledged r.ns)

theorem acknowledges_set {m : Message} :
    m.acknowledges .set = true ↔ m.header.method = .setAck := by
  cases h : m.header.method <;> simp [Message.acknowledges, Method.ack?, h]

theorem acknowledges_get {m : Message} :
    m.acknowledges .get = true ↔ m.header.method = .getAck := by
  cases h : m.header.method <;> simp [Message.acknowledges, Method.ack?, h]

/-- A command fails and nothing comes of it, or it is ordered, acknowledged and
    carried out. -/
theorem command_cases (t : Transport) (id : EntityId) (c : Command) (d : Device) :
    (∃ error sent, d.Fails t id sent error ∧ (∀ r ∈ sent, r.method = .set) ∧
        command t id c d = ⟨d, sent.map .sent, .error error⟩) ∨
      ∃ o e ch m, d.entity? id = some e ∧ id.channel? = some ch ∧ o.ServesCommand e ch c ∧
        t o.request = .ok m ∧ m.header.method = .setAck ∧
          command t id c d =
            ⟨(carryOut id o d).device, .sent o.request :: (carryOut id o d).events, .ok ()⟩ := by
  have hanswers := answers_order d id c
  unfold command
  rw [Action.bind_apply]
  simp only [Action.device]
  cases horder : d.order id c with
  | error error =>
    rw [horder] at hanswers
    exact .inl ⟨error, [], .unordered hanswers, List.forall_mem_nil _, rfl⟩
  | ok o =>
    rw [horder] at hanswers
    obtain ⟨e, ch, he, hch, hserves⟩ := hanswers
    have hset : ∀ r ∈ [o.request], r.method = .set := by
      intro r hr
      rw [List.mem_singleton.1 hr]
      rfl
    simp only [Action.bind_apply, Action.send]
    cases hreply : t o.request with
    | error error => exact .inl ⟨error, [o.request], .undelivered hreply, hset, rfl⟩
    | ok m =>
      by_cases hmethod : m.header.method = .setAck
      · refine .inr ⟨o, e, ch, m, he, hch, hserves, hreply, hmethod, ?_⟩
        simp only [acknowledges_set.2 hmethod, if_true, answer_carryOut he hserves, List.nil_append,
          List.singleton_append]
      · refine .inl ⟨_, [o.request], .rejected hreply hmethod, hset, ?_⟩
        have hack : m.acknowledges .set = false := by
          rw [← Bool.not_eq_true, acknowledges_set]
          exact hmethod
        simp only [hack]
        rfl

/-! ## Polls -/

/-- The request of a poll. -/
def pollRequest (ns : Namespace) : Request := ⟨ns, .get, Payload.get ns⟩

/-- An entity of which nothing is known any more. -/
def forgotten (e : Entity) : Entity := { e with status := e.status.clear }

/-- Nothing is known of any entity any more. The handlers, the registrations
    and the descriptor are as they were. -/
structure Lost (d d' : Device) : Prop extends Keeps d d' where
  forgotten : ∀ id, d'.entity? id = (d.entity? id).map forgotten

theorem Lost.unavailable {d d' : Device} (h : Lost d d') {id : EntityId} {e : Entity}
    (he : d'.entity? id = some e) : e.status.available = false := by
  rw [h.forgotten] at he
  obtain ⟨e', -, rfl⟩ := Option.map_eq_some_iff.1 he
  rfl

theorem lost_setUnavailable (d : Device) : Lost d (setUnavailable d).device where
  descriptor := rfl
  dispatcher := rfl
  climateSensors := rfl
  forgotten id := entity?_setUnavailable d id

theorem events_setUnavailable (d : Device) :
    (setUnavailable d).events =
      (d.entities.values.filter (·.status.available)).map fun e => .flushed (forgotten e) := by
  unfold setUnavailable
  induction d.entities.values with
  | nil => rfl
  | cons e es ih =>
    simp only [List.flatMap_cons, List.filter_cons] at ih ⊢
    rw [ih]
    cases ha : e.status.available <;> simp [Entity.setUnavailable, ha, Device.forgotten]

section Poll

variable (t : Transport) (ns : Namespace) (d : Device)

theorem poll_undelivered {error : Error} (h : t (pollRequest ns) = .error error) :
    poll t ns d =
      ⟨(noteFailure error d).device, .sent (pollRequest ns) :: (noteFailure error d).events,
        .error error⟩ := by
  unfold pollRequest at h ⊢
  unfold poll
  simp only [Action.bind_apply, Action.send, h, Action.pure_apply, List.append_nil,
    List.singleton_append]

theorem poll_answered {m : Message} (h : t (pollRequest ns) = .ok m)
    (hmethod : m.header.method = .getAck) :
    poll t ns d =
      ⟨(handle m d).device, .sent (pollRequest ns) :: (handle m d).events, .ok ()⟩ := by
  unfold pollRequest at h ⊢
  unfold poll
  simp only [Action.bind_apply, Action.send, h, acknowledges_get.2 hmethod, if_true,
    Action.pure_apply, List.append_nil, List.singleton_append]

theorem poll_rejected {m : Message} (h : t (pollRequest ns) = .ok m)
    (hmethod : m.header.method ≠ .getAck) :
    poll t ns d = ⟨d, [.sent (pollRequest ns)], .error (.notAcknowledged ns)⟩ := by
  have hack : m.acknowledges .get = false := by
    rw [← Bool.not_eq_true, acknowledges_get]
    exact hmethod
  unfold pollRequest at h ⊢
  unfold poll
  simp only [Action.bind_apply, Action.send, h, hack]
  rfl

end Poll

/-! ## Atomicity -/

theorem requests_sent (sent : List Request) : requests (sent.map .sent) = sent := by
  induction sent with
  | nil => rfl
  | cons r sent ih => exact congrArg (r :: ·) ih

theorem Fails.length_le {t : Transport} {sent : List Request} {error : Error}
    (h : d.Fails t id sent error) : sent.length ≤ 1 := by
  cases h <;> simp

theorem inVain_of_requests {α : Type} (d : Device) (sent : List Request) (a : α) :
    (⟨d, sent.map .sent, a⟩ : Outcome α).InVain d where
  device := rfl
  silent e he := by
    obtain ⟨r, -, hr⟩ := List.mem_map.1 he
    cases hr

/-- Derived sensors are told by their keys. -/
theorem not_mem_derivedIds_of_key? (hpower : id.key? ≠ some outputPowerKey)
    (hmode : id.key? ≠ some modeStateKey) (ch : Channel) : id ∉ derivedIds ch := by
  intro hmem
  rcases List.mem_pair.1 hmem with rfl | rfl
  · exact hpower rfl
  · exact hmode rfl

/-- What a command that succeeds leaves. -/
theorem command_done {t : Transport} {m : Message} (hs : e.Sound) (he : d.entity? id = some e)
    (hch : id.channel? = some ch) (h : o.ServesCommand e ch c) (hm : t o.request = .ok m)
    (hmethod : m.header.method = .setAck) :
    ∃ r m, requests (.sent o.request :: (carryOut id o d).events) = [r] ∧ t r = .ok m ∧
      m.header.method = .setAck ∧
      (id.key? ≠ some outputPowerKey → id.key? ≠ some modeStateKey →
        ∃ before after, d.entity? id = some before ∧
          (carryOut id o d).device.entity? id = some after ∧
          after.status.available = true ∧ c.Shows before after) ∧
      Keeps d (carryOut id o d).device ∧
      ∀ i ≠ id,
        (r.ns = .thermostatMode → ∀ ch, id.channel? = some ch → i ∉ derivedIds ch) →
          (carryOut id o d).device.entity? i = d.entity? i := by
  have hrequests : requests (.sent o.request :: (carryOut id o d).events) = [o.request] :=
    congrArg (o.request :: ·) (requests_carryOut he h)
  refine ⟨o.request, m, hrequests, hm, hmethod, fun hpower hmode => ?_, keeps_carryOut he h,
    fun i hne hi => ?_⟩
  · obtain ⟨havailable, hshows⟩ := h.shows hs
    have hafter := entity?_carryOut he h fun _ => not_mem_derivedIds_of_key? hpower hmode ch
    rw [if_pos rfl] at hafter
    exact ⟨e, _, he, hafter, havailable, hshows⟩
  · rw [entity?_carryOut he h fun hns => hi hns ch hch, if_neg hne]

/-- A command is done as a whole or not at all. At most one request goes out,
    to set something. A command that fails leaves the device as it was and
    tells nobody, whatever the reason. One that succeeds was acknowledged; its
    entity then shows what was asked, unless it is a derived sensor by its key,
    and apart from it nothing but the derived sensors of its channel can have
    changed, and those only after an order about a thermostat.

    A poll that does not reach the device leaves nothing known of any entity,
    and tells so of each one that was available, in the order of their ids. A
    poll that fails otherwise leaves the device as it was. -/
theorem command_atomic {d : Device} (hd : d.Reachable) (t : Transport) :
    (∀ id c,
      (requests (command t id c d).events).length ≤ 1 ∧
        (∀ r ∈ requests (command t id c d).events, r.method = .set) ∧
        (∀ error, (command t id c d).answer = .error error →
          (command t id c d).InVain d ∧
            d.Fails t id (requests (command t id c d).events) error) ∧
        ((command t id c d).answer = .ok () →
          ∃ r m, requests (command t id c d).events = [r] ∧ t r = .ok m ∧
            m.header.method = .setAck ∧
            (id.key? ≠ some outputPowerKey → id.key? ≠ some modeStateKey →
              ∃ before after, d.entity? id = some before ∧
                (command t id c d).device.entity? id = some after ∧
                after.status.available = true ∧ c.Shows before after) ∧
            Keeps d (command t id c d).device ∧
            ∀ i ≠ id,
              (r.ns = .thermostatMode → ∀ ch, id.channel? = some ch → i ∉ derivedIds ch) →
                (command t id c d).device.entity? i = d.entity? i)) ∧
      ∀ ns,
        (∀ error, t (pollRequest ns) = .error error →
          (poll t ns d).answer = .error error ∧
            (error = .timeout ∨ error = .http →
              Lost d (poll t ns d).device ∧
                (∀ id e, (poll t ns d).device.entity? id = some e → e.status.available = false) ∧
                (poll t ns d).events = .sent (pollRequest ns) ::
                  (d.entities.values.filter (·.status.available)).map fun e =>
                    .flushed (forgotten e)) ∧
            (error ≠ .timeout → error ≠ .http → (poll t ns d).InVain d)) ∧
          ∀ m, t (pollRequest ns) = .ok m →
            (m.header.method = .getAck →
              poll t ns d =
                ⟨(handle m d).device, .sent (pollRequest ns) :: (handle m d).events, .ok ()⟩) ∧
              (m.header.method ≠ .getAck →
                (poll t ns d).answer = .error (.notAcknowledged ns) ∧ (poll t ns d).InVain d) := by
  obtain ⟨mask, descriptor, chronicle, hreached, rfl⟩ := hd
  refine ⟨fun id c => ?command, fun ns =>
    ⟨fun error herror => ?undelivered, fun m hm => ?delivered⟩⟩
  case command =>
    rcases command_cases t id c chronicle.device with
      ⟨error, sent, hfails, hset, hcommand⟩ | ⟨o, e, ch, m, he, hch, hserves, hm, hmethod, hcommand⟩
    · rw [hcommand, requests_sent]
      refine ⟨hfails.length_le, hset, fun error' herror => ?_, fun hok => by cases hok⟩
      cases herror
      exact ⟨inVain_of_requests _ sent _, hfails⟩
    · have hdone := command_done (hreached.sound.1 id e he) he hch hserves hm hmethod
      have hrequests : requests (command t id c chronicle.device).events = [o.request] := by
        rw [hcommand]
        exact congrArg (o.request :: ·) (requests_carryOut he hserves)
      rw [hrequests]
      refine ⟨Nat.le_refl 1, fun r hr => ?_, fun error herror => ?_, fun _ => ?_⟩
      · rw [List.mem_singleton.1 hr]
        rfl
      · rw [hcommand] at herror
        cases herror
      · rw [hcommand] at hrequests ⊢
        rw [← hrequests]
        exact hdone
  case undelivered =>
    rw [poll_undelivered t ns _ herror]
    refine ⟨rfl, fun hunreached => ?_, fun htimeout hhttp => ?_⟩
    · have hnote : noteFailure error = setUnavailable := by
        rcases hunreached with rfl | rfl <;> rfl
      have hlost := lost_setUnavailable chronicle.device
      rw [hnote, events_setUnavailable]
      exact ⟨hlost, fun id e he => hlost.unavailable he, rfl⟩
    · have hnote : noteFailure error = pure () := by
        cases error <;> first | rfl | contradiction
      rw [hnote]
      exact inVain_of_requests _ [pollRequest ns] _
  case delivered =>
    refine ⟨poll_answered t ns _ hm, fun hmethod => ?_⟩
    rw [poll_rejected t ns _ hm hmethod]
    exact ⟨rfl, inVain_of_requests _ [pollRequest ns] _⟩

/-- A plug that acknowledges everything. -/
def obliging : Transport := fun r => .ok ⟨{ pushHeader r.ns with method := .setAck }, .obj []⟩

/-- The outlet of a plug goes off when it is told to and the plug acknowledges;
    while the plug does not answer it stays as it is. -/
theorem command_atomic_plug :
    (∃ after, (command obliging (.channel (.int 0)) (.power false)
        (Chronicle.start 0 .plug).device).device.entity? (.channel (.int 0)) = some after ∧
          after.power? = some false) ∧
      (command (fun _ => .error .timeout) (.channel (.int 0)) (.power false)
        (Chronicle.start 0 .plug).device).InVain (Chronicle.start 0 .plug).device := by
  have hbuilt : Reached (fun _ _ => True) 0 .plug (.start 0 .plug) := .built
  obtain ⟨hobliged, -⟩ := command_atomic hbuilt.reachable obliging
  obtain ⟨hsilent, -⟩ := command_atomic hbuilt.reachable fun _ => .error .timeout
  obtain ⟨-, -, -, hdone⟩ := hobliged (.channel (.int 0)) (.power false)
  obtain ⟨-, -, hfailed, -⟩ := hsilent (.channel (.int 0)) (.power false)
  obtain ⟨r, m, -, -, -, hshows, -⟩ := hdone rfl
  obtain ⟨before, after, -, hafter, -, hpower⟩ := hshows (by decide) (by decide)
  exact ⟨⟨after, hafter, hpower⟩, (hfailed .timeout rfl).1⟩

end Device

end Appliance
