-- SUMMARY: Sessions: a device together with the throttle of its warnings, taken through operations one after the other.

import Appliance.Device.Advertised
import Appliance.Device.Command
import Appliance.Throttle

namespace Appliance

/-! ## Operations -/

/-- All that can be done to a device. -/
inductive Operation where
  | handle (m : Message)
  | dispatch (header : Header) (payload : Json)
  | parseDigest (digest : Json)
  | setUnavailable
  | shutdown
  | add (e : Entity)
  | register (ns : Namespace) (id : EntityId)
  | remove (id : EntityId)
  | poll (ns : Namespace)
  | command (id : EntityId) (c : Command)
deriving Inhabited

/-- What an operation answers. -/
inductive Answer where
  | done
  | flag (b : Bool)
  | entity (e : Option Entity)
  | failed (error : Error)
deriving Inhabited

namespace Operation

/-- The answer of an operation that succeeds or fails. -/
def answerOf : Except Error Unit → Answer
  | .ok () => .done
  | .error error => .failed error

/-- Does an operation, with a transport for the requests that it makes. -/
def run (t : Transport) : Operation → Action Answer
  | .handle m => do
    Device.handle m
    return .done
  | .dispatch header payload => do
    Device.dispatch header payload
    return .done
  | .parseDigest digest => do
    Device.parseDigest digest
    return .done
  | .setUnavailable => do
    Device.setUnavailable
    return .done
  | .shutdown => do
    .modify Device.shutdown
    return .done
  | .add e => fun d =>
    match d.add e with
    | .ok d => ⟨d, [], .entity e⟩
    | .error error => ⟨d, [], .failed error⟩
  | .register ns id => fun d =>
    let (registered, d) := d.register ns id
    ⟨d, [], .flag registered⟩
  | .remove id => fun d =>
    let (removed, d) := d.remove id
    ⟨d, [], .entity removed⟩
  | .poll ns => do return answerOf (← Device.poll t ns)
  | .command id c => do return answerOf (← Device.command t id c)

end Operation

/-! ## Sessions

The throttle stands between the device and whoever reads its warnings. It
never acts on the device, so what it holds back of an action can be told from
the events of the whole action as well as at each warning. -/

/-- A device and the throttle of its warnings. -/
structure Session where
  device : Device
  throttle : Throttle
deriving Inhabited

/-- Holds back an event that the throttle refuses; only warnings with a key
    are asked about. -/
def Throttle.screenOne (t : Throttle) (now : Nat) (e : Event) : List Event × Throttle :=
  match e with
  | .warned w =>
    match w.key? with
    | none => ([e], t)
    | some key =>
      match t.ask now key with
      | (true, t) => ([e], t)
      | (false, t) => ([], t)
  | .flushed _ | .sent _ => ([e], t)

/-- Holds back the events that the throttle refuses. -/
def Throttle.screen (t : Throttle) (now : Nat) : List Event → List Event × Throttle
  | [] => ([], t)
  | e :: es =>
    let (passed, t) := t.screenOne now e
    let (rest, t) := t.screen now es
    (passed ++ rest, t)

namespace Session

/-- Takes a session through an action at a time. -/
def act {α : Type} (s : Session) (now : Nat) (f : Action α) : Session × List Event × α :=
  let o := f s.device
  let (events, throttle) := s.throttle.screen now o.events
  (⟨o.device, throttle⟩, events, o.answer)

/-- Builds a device at a time. -/
def start (window : Nat) (mask : UInt8) (descriptor : Descriptor) (now : Nat) :
    Session × List Event :=
  let o := Device.build mask descriptor
  let (events, throttle) := (Throttle.ofWindow window).screen now o.events
  (⟨o.device, throttle⟩, events)

/-- Does an operation at a time. -/
def step (s : Session) (now : Nat) (t : Transport) (op : Operation) :
    Session × List Event × Answer :=
  s.act now (op.run t)

end Session

/-! ### Asking on the spot

A session goes through an action as if the device had the throttle in its hand:
it goes through the parts of the action in turn, at a warning it asks the
throttle right then, and what entities flush is told without asking. -/

theorem Throttle.screen_append (t : Throttle) (now : Nat) (es es' : List Event) :
    t.screen now (es ++ es') =
      ((t.screen now es).1 ++ ((t.screen now es).2.screen now es').1,
        ((t.screen now es).2.screen now es').2) := by
  induction es generalizing t with
  | nil => rfl
  | cons e es ih => simp [screen, ih]

theorem Throttle.screen_flushed (t : Throttle) (now : Nat) (es : List Entity) :
    t.screen now (es.map .flushed) = (es.map .flushed, t) := by
  induction es with
  | nil => rfl
  | cons e es ih => simp [screen, screenOne, ih]

namespace Session

variable {α β : Type} (s : Session) (now : Nat)

theorem act_pure (a : α) : s.act now (pure a) = (s, [], a) := rfl

theorem act_bind (f : Action α) (g : α → Action β) :
    s.act now (f >>= g) =
      let (s', events, a) := s.act now f
      let (s'', events', b) := s'.act now (g a)
      (s'', events ++ events', b) := by
  simp only [act, Action.bind_apply, Throttle.screen_append]

theorem act_forEach_cons (x : α) (xs : List α) (f : α → Action Unit) :
    s.act now (.forEach (x :: xs) f) =
      let (s', events, _) := s.act now (f x)
      let (s'', events', _) := s'.act now (.forEach xs f)
      (s'', events ++ events', ()) :=
  s.act_bind now (f x) fun _ => .forEach xs f

/-- A warning is told if it has no key or if the throttle lets its key through. -/
theorem act_warn (w : Warning) :
    s.act now (.warn w) =
      match w.key? with
      | none => (s, [.warned w], ())
      | some key =>
        let (passes, throttle) := s.throttle.ask now key
        (⟨s.device, throttle⟩, if passes then [.warned w] else [], ()) := by
  simp only [act, Action.warn, Action.tell, Throttle.screen, Throttle.screenOne]
  cases w.key? with
  | none => rfl
  | some key =>
    dsimp only
    rcases s.throttle.ask now key with ⟨passes, throttle⟩
    cases passes <;> rfl

/-- All that an entity of the device flushes is told. -/
theorem act_update (id : EntityId) (f : Entity → Entity.Change α) :
    s.act now (Device.update id f) =
      (⟨(Device.update id f s.device).device, s.throttle⟩,
        (Device.update id f s.device).events, (Device.update id f s.device).answer) := by
  have htold : ∃ es : List Entity, (Device.update id f s.device).events = es.map .flushed := by
    unfold Device.update
    split
    · exact ⟨[], rfl⟩
    · exact ⟨_, rfl⟩
  obtain ⟨es, hes⟩ := htold
  simp only [act, hes, Throttle.screen_flushed]

end Session

end Appliance
