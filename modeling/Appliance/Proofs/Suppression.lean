-- SUMMARY: The throttle takes repeated warnings out of what a session tells, and has no part in anything else.

import Appliance.Proofs.Routing

namespace Appliance

/-! ## Topics

What a throttle may hold back are warnings on a topic: a namespace with the
text of what is wrong in it, or the name of a namespace that nothing is set up
for. The throttle knows topics by their keys only, and no two topics share
one, whatever name the device makes up. -/

inductive Warning.Topic where
  | malformed (ns : Namespace) (text : String)
  | undefined (ns : String)
deriving DecidableEq, Repr

namespace Warning

def topic? : Warning → Option Topic
  | .malformed ns error => some (.malformed ns error.message)
  | .undefined ns _ => some (.undefined ns)
  | .replied .. => none

def Topic.key : Topic → String
  | .malformed ns text => ns.name ++ ":" ++ text
  | .undefined ns => "undefined:" ++ ns

theorem key?_eq_map_topic? (w : Warning) : w.key? = w.topic?.map Topic.key := by
  cases w <;> rfl

/-- The colon of a key comes right after the name of the namespace. -/
theorem colon_not_mem_name (ns : Namespace) : ':' ∉ ns.name.toList := by
  cases ns <;> decide

theorem name_injective {ns ns' : Namespace} (h : ns.name = ns'.name) : ns = ns' := by
  have hof : Namespace.ofName? ns.name = Namespace.ofName? ns'.name := congrArg _ h
  rw [Namespace.ofName?_name, Namespace.ofName?_name] at hof
  exact Option.some.inj hof

theorem malformed_key_ne_undefined_key (ns : Namespace) (text name : String) :
    (Topic.malformed ns text).key ≠ (Topic.undefined name).key := by
  intro h
  have hhead := congrArg (fun s : String => s.toList.head?) h
  cases ns <;> simp [Topic.key, Namespace.name] at hhead

theorem Topic.key_injective {a b : Topic} (h : a.key = b.key) : a = b := by
  cases a with
  | malformed ns text =>
    cases b with
    | malformed ns' text' =>
      have hlists : ns.name.toList ++ ':' :: text.toList =
          ns'.name.toList ++ ':' :: text'.toList := by
        simpa [Topic.key] using congrArg String.toList h
      have hlength : ns.name.toList.length = ns'.name.toList.length := by
        have hcolon := congrArg (List.idxOf ':') hlists
        rw [List.idxOf_append_of_notMem (colon_not_mem_name ns),
          List.idxOf_append_of_notMem (colon_not_mem_name ns')] at hcolon
        simpa using hcolon
      obtain ⟨hname, htext⟩ := List.append_inj hlists hlength
      obtain rfl := name_injective (String.toList_inj.1 hname)
      obtain rfl := String.toList_inj.1 (List.cons.inj htext).2
      rfl
    | undefined name => exact absurd h (malformed_key_ne_undefined_key ns text name)
  | undefined name =>
    cases b with
    | malformed ns text => exact absurd h.symm (malformed_key_ne_undefined_key ns text name)
    | undefined name' =>
      have hlists := congrArg String.toList h
      rw [Topic.key, Topic.key, String.toList_append, String.toList_append] at hlists
      obtain rfl := String.toList_inj.1 (List.append_cancel_left hlists)
      rfl

end Warning

/-! ## Repetitions -/

namespace Event

/-- What an event is about, if it is a warning that can be held back. -/
def topic? : Event → Option Warning.Topic
  | .warned w => w.topic?
  | .flushed _ | .sent _ => none

/-- The event warns about what an earlier one warned about. -/
def Repeats (earlier : List Event) (e : Event) : Prop :=
  e.topic?.isSome = true ∧ e.topic? ∈ earlier.map topic?

instance (earlier : List Event) (e : Event) : Decidable (e.Repeats earlier) :=
  inferInstanceAs (Decidable (_ ∧ _))

/-- Events without those that repeat an earlier one, be it among them or told
    before them. -/
def unrepeated (earlier : List Event) : List Event → List Event
  | [] => []
  | e :: es =>
    let rest := unrepeated (earlier ++ [e]) es
    if e.Repeats earlier then rest else e :: rest

theorem not_repeats_of_topic? {e : Event} (h : e.topic? = none) (earlier : List Event) :
    ¬e.Repeats earlier := by
  rintro ⟨hsome, -⟩
  rw [h] at hsome
  cases hsome

theorem repeats_iff {e : Event} {topic : Warning.Topic} (h : e.topic? = some topic)
    (earlier : List Event) : e.Repeats earlier ↔ some topic ∈ earlier.map topic? := by
  rw [Repeats, h]
  exact and_iff_right rfl

theorem unrepeated_cons (earlier : List Event) (e : Event) (es : List Event) :
    unrepeated earlier (e :: es) =
      (if e.Repeats earlier then [] else [e]) ++ unrepeated (earlier ++ [e]) es := by
  rw [unrepeated]
  split <;> rfl

theorem unrepeated_append (earlier es es' : List Event) :
    unrepeated earlier (es ++ es') =
      unrepeated earlier es ++ unrepeated (earlier ++ es) es' := by
  induction es generalizing earlier with
  | nil => simp [unrepeated]
  | cons e es ih =>
    rw [List.cons_append, unrepeated_cons, unrepeated_cons, ih, List.append_assoc,
      List.append_assoc, List.singleton_append]

/-- Flushes, requests and answers of the device are no repetitions. -/
theorem filter_unrepeated (earlier es : List Event) :
    (unrepeated earlier es).filter (·.topic?.isNone) = es.filter (·.topic?.isNone) := by
  induction es generalizing earlier with
  | nil => rfl
  | cons e es ih =>
    have hone : (if e.Repeats earlier then [] else [e]).filter (·.topic?.isNone) =
        [e].filter (·.topic?.isNone) := by
      cases htopic : e.topic? with
      | none => rw [if_neg (not_repeats_of_topic? htopic earlier)]
      | some topic => split <;> simp [htopic]
    rw [unrepeated_cons, List.filter_append, ih, hone, ← List.filter_append,
      List.singleton_append]

end Event

/-! ## What a throttle remembers -/

namespace Throttle

/-- The throttle has let through the topics of what was told so far, and each
    at one of the times at which it was asked. -/
structure Recalls (t : Throttle) (times : List Nat) (earlier : List Event) : Prop where
  passed : ∀ topic : Warning.Topic,
    (t.passed.get? topic.key).isSome = true ↔ some topic ∈ earlier.map Event.topic?
  time : ∀ key last, t.passed.get? key = some last → last ∈ times

/-- The window is longer than the time between any two of these times. -/
def Outlasts (t : Throttle) (times : List Nat) : Prop :=
  ∀ a ∈ times, ∀ b ∈ times, b - a < t.window

theorem recalls_ofWindow (window : Nat) (times : List Nat) :
    (ofWindow window).Recalls times [] where
  passed topic := by simp [ofWindow]
  time key last h := by cases h

variable {t : Throttle} {times : List Nat} {earlier : List Event} {now : Nat}

/-- Within the window all that was let through is recent. -/
theorem isRecent_iff (h : t.Recalls times earlier) (hlong : t.Outlasts times)
    (hnow : now ∈ times) (topic : Warning.Topic) :
    t.isRecent now topic.key = true ↔ some topic ∈ earlier.map Event.topic? := by
  rw [← h.passed, isRecent]
  cases hlast : t.passed.get? topic.key with
  | none => simp
  | some last => simpa using hlong last (h.time _ last hlast) now hnow

theorem window_ask (t : Throttle) (now : Nat) (key : String) :
    (t.ask now key).2.window = t.window := by
  unfold ask
  split <;> rfl

theorem screenOne_of_topic? {e : Event} (h : e.topic? = none) (t : Throttle) (now : Nat) :
    t.screenOne now e = ([e], t) := by
  cases e with
  | flushed e => rfl
  | sent r => rfl
  | warned w =>
    cases w with
    | replied ns payload => rfl
    | malformed ns error => cases h
    | undefined ns payload => cases h

theorem screenOne_of_topic {e : Event} {topic : Warning.Topic} (h : e.topic? = some topic)
    (t : Throttle) (now : Nat) :
    t.screenOne now e =
      (if (t.ask now topic.key).1 then [e] else [], (t.ask now topic.key).2) := by
  cases e with
  | flushed e => cases h
  | sent r => cases h
  | warned w =>
    have hkey : w.key? = some topic.key := by
      have htopic : w.topic? = some topic := h
      rw [Warning.key?_eq_map_topic?, htopic, Option.map_some]
    simp only [screenOne, hkey]
    cases t.ask now topic.key with
    | mk passes t' => cases passes <;> rfl

theorem window_screenOne (t : Throttle) (now : Nat) (e : Event) :
    (t.screenOne now e).2.window = t.window := by
  cases htopic : e.topic? with
  | none => rw [screenOne_of_topic? htopic]
  | some topic =>
    rw [screenOne_of_topic htopic]
    exact window_ask t now topic.key

/-! ### A throttle without a window -/

theorem screenOne_of_window_zero (h : t.window = 0) (now : Nat) (e : Event) :
    (t.screenOne now e).1 = [e] := by
  cases htopic : e.topic? with
  | none => rw [screenOne_of_topic? htopic]
  | some topic =>
    have hrecent : t.isRecent now topic.key = false := by
      obtain ⟨window, passed⟩ := t
      obtain rfl : window = 0 := h
      exact isRecent_of_window_zero passed now topic.key
    rw [screenOne_of_topic htopic, ask, hrecent]
    rfl

theorem screen_of_window_zero (h : t.window = 0) (now : Nat) (es : List Event) :
    (t.screen now es).1 = es ∧ (t.screen now es).2.window = 0 := by
  induction es generalizing t with
  | nil => exact ⟨rfl, h⟩
  | cons e es ih =>
    have hone := screenOne_of_window_zero h now e
    obtain ⟨hrest, hwindow⟩ := ih ((window_screenOne t now e).trans h)
    refine ⟨?_, hwindow⟩
    change (t.screenOne now e).1 ++ ((t.screenOne now e).2.screen now es).1 = e :: es
    rw [hone, hrest, List.singleton_append]

/-! ### A throttle with a long window -/

theorem Recalls.of_topic? (h : t.Recalls times earlier) {e : Event} (he : e.topic? = none) :
    t.Recalls times (earlier ++ [e]) where
  passed topic := by simp [h.passed, he]
  time := h.time

/-- Asking about a topic is what makes the throttle recall it. -/
theorem Recalls.ask (h : t.Recalls times earlier) (hlong : t.Outlasts times) (hnow : now ∈ times)
    {e : Event} {topic : Warning.Topic} (he : e.topic? = some topic) :
    (t.ask now topic.key).2.Recalls times (earlier ++ [e]) := by
  have hrecent := isRecent_iff h hlong hnow topic
  unfold Throttle.ask
  split
  · rename_i hpassed
    refine ⟨fun topic' => ?_, h.time⟩
    rw [h.passed, List.map_append, List.mem_append]
    refine ⟨.inl, fun hmem => hmem.elim id fun hlast => ?_⟩
    rw [List.mem_singleton.1 hlast, he]
    exact hrecent.1 hpassed
  · refine ⟨fun topic' => ?_, fun key last hlast => ?_⟩
    · rw [Table.get?_insert, List.map_append, List.mem_append, ← h.passed]
      by_cases hkey : topic'.key = topic.key
      · obtain rfl := Warning.Topic.key_injective hkey
        simp [he]
      · have hne : topic' ≠ topic := fun heq => hkey (congrArg _ heq)
        simp [hkey, he, hne]
    · rw [Table.get?_insert] at hlast
      split at hlast
      · cases hlast
        exact hnow
      · exact h.time key last hlast

/-- An event passes unless it repeats what was told before. -/
theorem Recalls.screenOne (h : t.Recalls times earlier) (hlong : t.Outlasts times)
    (hnow : now ∈ times) (e : Event) :
    (t.screenOne now e).1 = (if e.Repeats earlier then [] else [e]) ∧
      (t.screenOne now e).2.Recalls times (earlier ++ [e]) := by
  cases htopic : e.topic? with
  | none =>
    rw [screenOne_of_topic? htopic, if_neg (Event.not_repeats_of_topic? htopic earlier)]
    exact ⟨rfl, h.of_topic? htopic⟩
  | some topic =>
    rw [screenOne_of_topic htopic]
    refine ⟨?_, h.ask hlong hnow htopic⟩
    have hrepeats : e.Repeats earlier ↔ t.isRecent now topic.key = true :=
      (Event.repeats_iff htopic earlier).trans (isRecent_iff h hlong hnow topic).symm
    simp only [hrepeats, Throttle.ask]
    split <;> rfl

theorem Recalls.screen (h : t.Recalls times earlier) (hlong : t.Outlasts times)
    (hnow : now ∈ times) (es : List Event) :
    (t.screen now es).1 = Event.unrepeated earlier es ∧
      (t.screen now es).2.Recalls times (earlier ++ es) ∧
      (t.screen now es).2.Outlasts times := by
  induction es generalizing t earlier with
  | nil => exact ⟨rfl, by rwa [List.append_nil], hlong⟩
  | cons e es ih =>
    obtain ⟨hone, hrecalls⟩ := h.screenOne hlong hnow e
    have hlong' : (t.screenOne now e).2.Outlasts times := by
      intro a ha b hb
      rw [window_screenOne]
      exact hlong a ha b hb
    obtain ⟨hrest, hrecalls, hlong'⟩ := ih hrecalls hlong'
    rw [List.append_assoc, List.singleton_append] at hrecalls
    refine ⟨?_, hrecalls, hlong'⟩
    change (t.screenOne now e).1 ++ ((t.screenOne now e).2.screen now es).1 = _
    rw [hone, hrest, Event.unrepeated_cons]

end Throttle

/-! ## Lives

A life is what can be seen of a session from its start on: after the building
and after each call the device, what was answered, and what was told. -/

/-- A call of an operation at a time, with what answers its requests. -/
structure Call where
  now : Nat
  transport : Transport
  operation : Operation

/-- What a call leaves where it can be seen. -/
structure Stage where
  device : Device
  answer : Answer
  events : List Event

namespace Stage

/-- Stages whose events leave out what was told before, at the same stage, at
    an earlier one or before all of them. -/
def unrepeated (earlier : List Event) : List Stage → List Stage
  | [] => []
  | x :: xs =>
    { x with events := Event.unrepeated earlier x.events } :: unrepeated (earlier ++ x.events) xs

theorem map_unrepeated {α : Type} (f : Stage → α)
    (hf : ∀ x earlier, f { x with events := Event.unrepeated earlier x.events } = f x)
    (earlier : List Event) (xs : List Stage) : (unrepeated earlier xs).map f = xs.map f := by
  induction xs generalizing earlier with
  | nil => rfl
  | cons x xs ih => rw [unrepeated, List.map_cons, List.map_cons, hf, ih]

/-- Stage by stage or all at once, the same events are left out. -/
theorem flatMap_unrepeated (earlier : List Event) (xs : List Stage) :
    (unrepeated earlier xs).flatMap (·.events) =
      Event.unrepeated earlier (xs.flatMap (·.events)) := by
  induction xs generalizing earlier with
  | nil => rfl
  | cons x xs ih =>
    rw [unrepeated, List.flatMap_cons, List.flatMap_cons, Event.unrepeated_append, ih]

end Stage

namespace Session

/-- The stages of calls made one after the other. -/
def stages (s : Session) : List Call → List Stage
  | [] => []
  | c :: cs =>
    let o := s.step c.now c.transport c.operation
    ⟨o.1.device, o.2.2, o.2.1⟩ :: o.1.stages cs

/-- The life of a device that is built at a time, through calls. -/
def life (window : Nat) (mask : UInt8) (descriptor : Descriptor) (now : Nat) (calls : List Call) :
    List Stage :=
  let o := start window mask descriptor now
  ⟨o.1.device, .done, o.2⟩ :: o.1.stages calls

/-- Of two sessions with the same device, one of which holds back nothing and
    the other all repetitions, the stages differ in the repetitions. -/
theorem stages_unrepeated {device : Device} {quiet plain : Throttle} {times : List Nat}
    {earlier : List Event} {calls : List Call} (hplain : plain.window = 0)
    (hrecalls : quiet.Recalls times earlier) (hlong : quiet.Outlasts times)
    (htimes : ∀ c ∈ calls, c.now ∈ times) :
    stages ⟨device, quiet⟩ calls = Stage.unrepeated earlier (stages ⟨device, plain⟩ calls) := by
  induction calls generalizing device quiet plain earlier with
  | nil => rfl
  | cons c calls ih =>
    -- Both sessions let the same operation tell the same events.
    let o := c.operation.run c.transport device
    obtain ⟨hpasses, hzero⟩ := Throttle.screen_of_window_zero hplain c.now o.events
    obtain ⟨hquiet, hrecalls, hlong⟩ :=
      hrecalls.screen hlong (htimes c (List.mem_cons_self ..)) o.events
    change Stage.mk o.device o.answer (quiet.screen c.now o.events).1 ::
        stages ⟨o.device, (quiet.screen c.now o.events).2⟩ calls =
      Stage.unrepeated earlier (Stage.mk o.device o.answer (plain.screen c.now o.events).1 ::
        stages ⟨o.device, (plain.screen c.now o.events).2⟩ calls)
    rw [Stage.unrepeated, hpasses, hquiet, ih hzero hrecalls hlong]
    intro c' hc'
    exact htimes c' (List.mem_cons_of_mem _ hc')

/-- A throttle whose window is longer than a life changes nothing in it but
    what is told: devices and answers are at every stage those of the life in
    which nothing is held back, and so are flushes, requests and the answers
    of the device that are told as errors. What is missing are the warnings
    that repeat an earlier one, and nothing else. -/
theorem life_suppressed {window : Nat} {mask : UInt8} {descriptor : Descriptor} {now : Nat}
    {calls : List Call}
    (hlong : ∀ a ∈ now :: calls.map Call.now, ∀ b ∈ now :: calls.map Call.now, b - a < window) :
    (life window mask descriptor now calls).map (fun x => (x.device, x.answer)) =
        (life 0 mask descriptor now calls).map (fun x => (x.device, x.answer)) ∧
      (life window mask descriptor now calls).map (·.events.filter (·.topic?.isNone)) =
        (life 0 mask descriptor now calls).map (·.events.filter (·.topic?.isNone)) ∧
      (life window mask descriptor now calls).flatMap (·.events) =
        Event.unrepeated [] ((life 0 mask descriptor now calls).flatMap (·.events)) ∧
      life window mask descriptor now calls =
        Stage.unrepeated [] (life 0 mask descriptor now calls) := by
  have hlife : life window mask descriptor now calls =
      Stage.unrepeated [] (life 0 mask descriptor now calls) := by
    let o := Device.build mask descriptor
    have hwindow : (Throttle.ofWindow 0).window = 0 := rfl
    have hrecalls := Throttle.recalls_ofWindow window (now :: calls.map Call.now)
    obtain ⟨hpasses, hzero⟩ := Throttle.screen_of_window_zero hwindow now o.events
    obtain ⟨hquiet, hrecalls, hlong⟩ := hrecalls.screen hlong (List.mem_cons_self ..) o.events
    change Stage.mk o.device .done ((Throttle.ofWindow window).screen now o.events).1 ::
        stages ⟨o.device, ((Throttle.ofWindow window).screen now o.events).2⟩ calls =
      Stage.unrepeated [] (Stage.mk o.device .done ((Throttle.ofWindow 0).screen now o.events).1 ::
        stages ⟨o.device, ((Throttle.ofWindow 0).screen now o.events).2⟩ calls)
    rw [Stage.unrepeated, hpasses, hquiet, stages_unrepeated hzero hrecalls hlong]
    intro c hc
    exact List.mem_cons_of_mem _ (List.mem_map_of_mem hc)
  rw [hlife]
  refine ⟨?_, ?_, Stage.flatMap_unrepeated [] _, rfl⟩
  · exact Stage.map_unrepeated _ (fun x earlier => rfl) [] _
  · exact Stage.map_unrepeated _ (fun x earlier => Event.filter_unrepeated earlier x.events) [] _

/-- Two pushes without anything in them. -/
def emptyPushes : List Call :=
  [1, 2].map fun now =>
    ⟨now, fun _ => .error .timeout, .handle ⟨Device.pushHeader .toggleX, .obj []⟩⟩

/-- A plug that pushes nothing twice is warned about twice, but only once where
    repetitions are held back for ten milliseconds. -/
theorem life_suppressed_plug :
    ((life 0 0 .plug 0 emptyPushes).flatMap (·.events)).countP (·.topic?.isSome) = 2 ∧
      ((life 10 0 .plug 0 emptyPushes).flatMap (·.events)).countP (·.topic?.isSome) = 1 ∧
      (life 10 0 .plug 0 emptyPushes).map (fun x => (x.device, x.answer)) =
        (life 0 0 .plug 0 emptyPushes).map (fun x => (x.device, x.answer)) := by
  have hlong : ∀ a ∈ 0 :: emptyPushes.map Call.now, ∀ b ∈ 0 :: emptyPushes.map Call.now,
      b - a < 10 := by decide
  have hsuppressed : _ ∧ _ ∧ _ ∧ life 10 0 .plug 0 emptyPushes = _ := life_suppressed hlong
  obtain ⟨hsame, -, hevents, -⟩ := hsuppressed
  rw [hevents]
  exact ⟨by rfl, by rfl, hsame⟩

end Session

end Appliance
