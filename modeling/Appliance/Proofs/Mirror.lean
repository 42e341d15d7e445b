-- SUMMARY: Listeners know every entity as it is, and hear of it only when it is different.

import Appliance.Proofs.Coherence

namespace Appliance

/-! ## Numbers stay numbers

Where all that is reported is made of numbers, all that is known of a device
is. This is what it takes for a change to be a difference: a status with
something in it that is not a number differs from itself. -/

theorem EntityOp.clean_run {op : EntityOp} {e : Entity} (hs : e.Sound) (hc : e.Clean)
    (hop : op.Proper) : (op.run e).entity.Clean := by
  intro m' hm'
  have hscaled : (op.run e).entity.Scaled := EntityOp.scaled_run op hs fun m hm => (hc m hm).1
  refine ⟨hscaled m' hm', ?_⟩
  rcases EntityOp.run_cases op hs with ⟨hkeep, -⟩ | ⟨ρ, hr, hρ⟩ | ⟨-, hclear, -⟩
  · rw [hkeep] at hm'
    exact (hc m' hm').2
  · have hdevice := hρ.settles.datum .device
    simp only [Status.datum?, hm', Option.map_some] at hdevice
    cases hm : e.status.measure with
    | none =>
      rw [hm, Option.map_none, Part.take_missing] at hdevice
      cases hdevice
    | some m =>
      rw [hm, Option.map_some] at hdevice
      exact Part.proper_take (hop _ _ hr .device) (hc m hm).2 hdevice.symm
  · rw [hclear] at hm'
    obtain ⟨m, -, rfl⟩ := Option.map_eq_some_iff.1 hm'
    exact proper_none

/-- What a device does to itself while it is told only numbers: nothing goes,
    and what comes in is new. -/
def Scope.steady : Scope := ⟨fun e => e.Made ∧ e.Scaled, False, True⟩

theorem Scope.opens_steady : Scope.steady.Opens := fun _ h => ⟨h.made, h.scaled⟩

theorem Scope.any_of_steady {d : Device} {m : DeviceMove} (h : Scope.steady.Allows d m) :
    Scope.any.Allows d m := by
  cases m with
  | edit id op => exact fun hfalse => hfalse.elim
  | insert e => exact Entity.Made.loose (And.left h)
  | remove id => exact False.elim h
  | register _ _ | keepDigest _ | warn _ | send _ => trivial

namespace Device

theorem Clean.sound {d : Device} (h : d.Clean) : d.Sound := fun id e he => (h id e he).1

theorem Clean.move {d : Device} (h : d.Clean) {m : DeviceMove} (hm : Scope.steady.Allows d m) :
    (m.run d).device.Clean := by
  intro id e' he'
  have hsound : (m.run d).device.Sound :=
    h.sound.move (fun e (he : e.Made ∧ e.Scaled) => he.1.sound) hm
  refine ⟨hsound id e' he', ?_⟩
  rcases DeviceMove.entity?_cases he' with
    he | ⟨op, e, rfl, he, rfl⟩ | ⟨rfl, -, -⟩ | ⟨ns, e, -, he, rfl⟩
  · exact (h id e' he).2
  · exact EntityOp.clean_run (h id e he).1 (h id e he).2 (hm trivial h)
  · exact Entity.Made.clean (And.left hm) (And.right hm)
  · exact (h id e he).2

theorem Clean.remove {d : Device} (h : d.Clean) {id : EntityId} {e : Entity}
    (he : (d.remove id).1 = some e) : e.Clean := by
  unfold Device.remove at he
  split at he
  · cases he
  · rename_i e' he'
    cases he
    exact (h id e' he').2

end Device

/-! ## The log of an entity

The statuses that listeners were shown, the one that the entity came in with
being the first. -/

namespace Status

/-- The statuses are different, to the program and as values. -/
def Differs (s s' : Status) : Prop := s ≠ s' ∧ (s == s') = false

end Status

/-- A log ends with what is known of the entity now, and nothing in it was told
    for nothing. There is none of what is not there. -/
structure Mirrors (log : List Status) (o : Option Entity) : Prop where
  last : log.getLast? = o.map (·.status)
  chain : log.IsChain Status.Differs

namespace Mirrors

theorem arrival (e : Entity) : Mirrors [e.status] (some e) :=
  ⟨rfl, List.isChain_singleton _⟩

/-- Telling of a difference goes on with the log. -/
theorem tell {log : List Status} {e e' : Entity} (h : Mirrors log (some e))
    (hne : e.status.Differs e'.status) : Mirrors (log ++ [e'.status]) (some e') := by
  refine ⟨List.getLast?_concat .., ?_⟩
  refine List.IsChain.append h.chain (List.isChain_singleton _) fun s hs s' hs' => ?_
  rw [h.last] at hs
  obtain rfl := Option.mem_some_iff.1 hs
  obtain rfl := Option.mem_some_iff.1 hs'
  exact hne

/-- What is not known of the entity does not matter. -/
theorem congr {log : List Status} {e e' : Entity} (h : Mirrors log (some e))
    (hs : e'.status = e.status) : Mirrors log (some e') := by
  refine ⟨?_, h.chain⟩
  rw [h.last, Option.map_some, Option.map_some, hs]

end Mirrors

/-! ### Moves

One move tells of one entity at most, and at most once. -/

@[simp] theorem snapshots_nil (id : EntityId) : snapshots id [] = [] := rfl

@[simp] theorem snapshots_append (id : EntityId) (es es' : List Event) :
    snapshots id (es ++ es') = snapshots id es ++ snapshots id es' :=
  List.filterMap_append

theorem snapshots_flushed (id : EntityId) (e : Entity) :
    snapshots id [.flushed e] = if e.id = id then [e.status] else [] := by
  unfold snapshots
  split <;> simp_all

theorem DeviceMove.events_edit (id : EntityId) (op : EntityOp) (d : Device) :
    ((DeviceMove.edit id op).run d).events =
      ((d.entity? id).map fun e => (op.run e).flushes.map Event.flushed).getD [] := by
  simp only [DeviceMove.run, Device.change, Action.bind_apply, Action.pure_apply, List.append_nil,
    Device.update]
  cases d.entity? id <;> rfl

theorem DeviceMove.snapshots_eq_nil {m : DeviceMove} {d : Device} {id : EntityId}
    (h : ∀ op, m ≠ .edit id op) (hw : d.Wired) (hs : d.Sound) :
    snapshots id (m.run d).events = [] := by
  cases m with
  | edit i op =>
    rw [DeviceMove.events_edit]
    cases he : d.entity? i with
    | none => rfl
    | some e =>
      have hid : (op.run e).entity.id ≠ id := by
        rw [EntityOp.id_run op (hs i e he), hw.stored i e he]
        rintro rfl
        exact h op rfl
      rw [Option.map_some, Option.getD_some]
      rcases EntityOp.run_flushes op (hs i e he) with ⟨hsilent, -⟩ | ⟨htold, -⟩
      · rw [hsilent, List.map_nil, snapshots_nil]
      · rw [htold, List.map_singleton, snapshots_flushed, if_neg hid]
  | insert _ | register _ _ | remove _ | keepDigest _ | warn _ | send _ => rfl

section Log

variable {d d' : Device} {id : EntityId} {log : List Status} {es : List Event}

/-- What a move does not edit stays as it is known. -/
theorem DeviceMove.status_of_not_edit {m : DeviceMove} (h : ∀ op, m ≠ .edit id op)
    (hm : Scope.steady.Allows d m) {e : Entity} (he : d.entity? id = some e) :
    ∃ e', (m.run d).device.entity? id = some e' ∧ e'.status = e.status := by
  cases m with
  | edit i op =>
    have hi : id ≠ i := by
      rintro rfl
      exact h op rfl
    refine ⟨e, ?_, rfl⟩
    rw [DeviceMove.run, Device.device_change, Device.entity?_update, if_neg hi, he]
  | insert a =>
    refine ⟨e, ?_, rfl⟩
    rw [DeviceMove.device_insert, Device.entity?_insert, if_neg, he]
    rintro ⟨hfree, rfl⟩
    rw [he] at hfree
    cases hfree
  | register ns i =>
    have hkept := Device.status_register d ns i id
    rw [he, Option.map_some] at hkept
    exact Option.map_eq_some_iff.1 hkept
  | remove i => exact False.elim hm
  | keepDigest _ | warn _ | send _ => exact ⟨e, he, rfl⟩

/-- A move keeps the log of an entity that is there. -/
theorem DeviceMove.mirrors {m : DeviceMove} (hd : d.Clean) (hw : d.Wired)
    (hm : Scope.steady.Allows d m)
    {e : Entity} (he : d.entity? id = some e) (hlog : Mirrors log (some e)) :
    ∃ e', (m.run d).device.entity? id = some e' ∧ e'.status.clear = e.status.clear ∧
      Mirrors (log ++ snapshots id (m.run d).events) (some e') := by
  by_cases hedit : ∃ op, m = .edit id op
  · obtain ⟨op, rfl⟩ := hedit
    have hs : e.Sound := hd.sound id e he
    have hafter : ((DeviceMove.edit id op).run d).device.entity? id = some (op.run e).entity := by
      rw [DeviceMove.run, Device.device_change, Device.entity?_update, if_pos rfl, he,
        Option.map_some]
    refine ⟨_, hafter, EntityOp.clear_run op hs, ?_⟩
    rw [DeviceMove.events_edit, he, Option.map_some, Option.getD_some]
    rcases EntityOp.run_flushes op hs with ⟨hsilent, hsame⟩ | ⟨htold, hbeq, hne⟩
    · rw [hsilent, hsame, List.map_nil, snapshots_nil, List.append_nil]
      exact hlog
    · have hid : (op.run e).entity.id = id :=
        (EntityOp.id_run op hs).trans (hw.stored id e he)
      rw [htold, List.map_singleton, snapshots_flushed, if_pos hid]
      exact hlog.tell ⟨hne (hm trivial hd), hbeq⟩
  · have hother : ∀ op, m ≠ .edit id op := fun op h => hedit ⟨op, h⟩
    obtain ⟨e', he', hsame⟩ := DeviceMove.status_of_not_edit hother hm he
    refine ⟨e', he', by rw [hsame], ?_⟩
    rw [DeviceMove.snapshots_eq_nil hother hw hd.sound, List.append_nil]
    exact hlog.congr hsame

/-- A move tells nothing of what is not there, and may put it in. -/
theorem DeviceMove.arrives {m : DeviceMove} (hd : d.Clean) (hw : d.Wired)
    (hid : d.entity? id = none) :
    snapshots id (m.run d).events = [] ∧
      ∀ e', (m.run d).device.entity? id = some e' → m = .insert e' := by
  constructor
  · cases m with
    | edit i op =>
      by_cases hi : i = id
      · rw [DeviceMove.events_edit, hi, hid, Option.map_none, Option.getD_none, snapshots_nil]
      · refine DeviceMove.snapshots_eq_nil (fun op' h => ?_) hw hd.sound
        cases h
        exact hi rfl
    | insert _ | register _ _ | remove _ | keepDigest _ | warn _ | send _ => rfl
  · intro e' he'
    rcases DeviceMove.entity?_cases he' with he | ⟨_, e, -, he, -⟩ | ⟨hm, -, -⟩ | ⟨_, e, -, he, -⟩
    · rw [hid] at he
      cases he
    · rw [hid] at he
      cases he
    · exact hm
    · rw [hid] at he
      cases he

/-! ### Traces -/

theorem Trace.mirrors (h : Trace .steady d es d') (hd : d.Clean) (hw : d.Wired) {e : Entity}
    (he : d.entity? id = some e) (hlog : Mirrors log (some e)) :
    ∃ e', d'.entity? id = some e' ∧ e'.status.clear = e.status.clear ∧
      Mirrors (log ++ snapshots id es) (some e') := by
  induction h generalizing e log with
  | nil d =>
    refine ⟨e, he, rfl, ?_⟩
    rw [snapshots_nil, List.append_nil]
    exact hlog
  | @cons d d' es m allowed rest ih =>
    obtain ⟨e₁, he₁, hclear₁, hlog₁⟩ := DeviceMove.mirrors hd hw allowed he hlog
    obtain ⟨e', he', hclear, hlog'⟩ :=
      ih (hd.move allowed) (hw.move hd.sound (Scope.any_of_steady allowed)) he₁ hlog₁
    refine ⟨e', he', hclear.trans hclear₁, ?_⟩
    rw [snapshots_append, ← List.append_assoc]
    exact hlog'

/-- An entity that comes in during a trace is new, and its log begins with a
    status in which nothing is known. What does not come in is not told of. -/
theorem Trace.arrives (h : Trace .steady d es d') (hd : d.Clean) (hw : d.Wired)
    (hid : d.entity? id = none) :
    (d'.entity? id = none ∧ snapshots id es = []) ∨
      ∃ e', d'.entity? id = some e' ∧
        Mirrors (e'.status.clear :: snapshots id es) (some e') := by
  induction h with
  | nil d => exact .inl ⟨hid, rfl⟩
  | @cons d d' es m allowed rest ih =>
    have hd₁ : (m.run d).device.Clean := hd.move allowed
    have hw₁ : (m.run d).device.Wired := hw.move hd.sound (Scope.any_of_steady allowed)
    obtain ⟨hsilent, hcame⟩ := DeviceMove.arrives hd hw hid (m := m)
    rw [snapshots_append, hsilent, List.nil_append]
    cases he : (m.run d).device.entity? id with
    | none => exact ih hd₁ hw₁ he
    | some a =>
      obtain rfl := hcame a he
      obtain ⟨e', he', hclear, hlog⟩ := rest.mirrors hd₁ hw₁ he (Mirrors.arrival a)
      have hblank : a.status = e'.status.clear := by
        rw [hclear]
        exact (Entity.Made.blank (And.left allowed)).symm
      rw [hblank] at hlog
      exact .inr ⟨e', he', hlog⟩

end Log

/-! ## Chronicles -/

/-- What comes in with an operation are values as they are read, and what is
    added measures by a scale that can be divided by. -/
structure Operation.Sane (t : Transport) (op : Operation) : Prop where
  brings : Device.Brings t Json.WellFormed
  wellFormed : op.WellFormed
  scaled : ∀ e, op = .add e → e.Scaled

namespace Device

theorem clean_furnish (mask : UInt8) (descriptor : Descriptor) :
    (furnish mask descriptor).Clean := by
  refine furnish_invariant (fun id e he => by cases he) (fun d m hm hd => ?_) fun d ns _ hd => hd
  have henters : Scope.steady.enters m.entity := ⟨hm.made, hm.scaled⟩
  have hjoin : Trace .steady d [] (d.join m) := trace_join henters d
  exact hjoin.invariant (fun d m hd hm => hd.move hm) hd

/-- Nothing is known yet of any entity. -/
def Unheard (d : Device) : Prop :=
  ∀ id e, d.entity? id = some e → e.status.clear = e.status

theorem Unheard.join {d : Device} (h : d.Unheard) {m : Member} (hm : SaneMember m) :
    (d.join m).Unheard := by
  intro id e he
  have hstatus : ((d.join m).entity? id).map (·.status) =
      ((d.insert m.entity).entity? id).map (·.status) := by
    unfold Device.join
    cases m.ns with
    | none => rfl
    | some ns => exact status_register (d.insert m.entity) ns m.entity.id id
  rw [he, Option.map_some, entity?_insert] at hstatus
  split at hstatus
  · obtain hsame := Option.some.inj hstatus
    rw [hsame]
    exact hm.made.blank
  · obtain ⟨e', he', hsame⟩ := Option.map_eq_some_iff.1 hstatus.symm
    rw [← hsame]
    exact h id e' he'

theorem unheard_furnish (mask : UInt8) (descriptor : Descriptor) :
    (furnish mask descriptor).Unheard :=
  furnish_invariant (fun id e he => by cases he) (fun d m hm hd => hd.join hm) fun d ns _ hd => hd

theorem unavailable_furnish {mask : UInt8} {descriptor : Descriptor} {id : EntityId} {e : Entity}
    (he : (furnish mask descriptor).entity? id = some e) : e.status.available = false := by
  rw [← unheard_furnish mask descriptor id e he]
  rfl

end Device

/-- All that an operation does but adding and removing a device does by itself. -/
theorem Operation.trace_steady {t : Transport} {op : Operation} (hop : op.Sane t)
    (hadd : ∀ e, op ≠ .add e) (hremove : ∀ id, op ≠ .remove id) (hshutdown : op ≠ .shutdown)
    (d : Device) : Traced .steady (op.run t) d := by
  refine Operation.traced_run Scope.opens_steady ?_ (fun _ => hop.brings)
    (fun _ => hop.wellFormed) d
  cases op with
  | add e => exact absurd rfl (hadd e)
  | remove id => exact absurd rfl (hremove id)
  | shutdown => exact absurd rfl hshutdown
  | _ => trivial

theorem Operation.arrival_of_ne {op : Operation} (h : ∀ e, op ≠ .add e) (e : Entity) :
    op.arrival e = e.status.clear := by
  cases op with
  | add a => exact absurd rfl (h a)
  | _ => rfl

namespace Chronicle

/-- The listeners know all entities as they are, and all numbers are numbers. -/
structure Faithful (c : Chronicle) : Prop where
  clean : c.device.Clean
  held : ∀ e ∈ c.held, e.Loose ∧ e.Clean
  mirrors : ∀ id, Mirrors (c.shown id) (c.device.entity? id)

variable {c : Chronicle} {t : Transport} {op : Operation} {id : EntityId}

theorem shown_gone (h : (op.run t c.device).device.entity? id = none) :
    (c.next t op).shown id = [] := by
  simp only [next, h]

theorem shown_arrived {e : Entity} (hid : c.device.entity? id = none)
    (h : (op.run t c.device).device.entity? id = some e) :
    (c.next t op).shown id = op.arrival e :: snapshots id (op.run t c.device).events := by
  simp only [next, hid, h]

theorem shown_kept {e e' : Entity} (hid : c.device.entity? id = some e)
    (h : (op.run t c.device).device.entity? id = some e') :
    (c.next t op).shown id = c.shown id ++ snapshots id (op.run t c.device).events := by
  simp only [next, hid, h]

theorem mirrors_gone (h : (op.run t c.device).device.entity? id = none) :
    Mirrors ((c.next t op).shown id) ((op.run t c.device).device.entity? id) := by
  rw [shown_gone h, h]
  exact ⟨rfl, List.isChain_nil⟩

/-- Where an operation tells nothing, those that were there are known as before. -/
theorem mirrors_silent {e e' : Entity} (hc : Mirrors (c.shown id) (some e))
    (hid : c.device.entity? id = some e)
    (h : (op.run t c.device).device.entity? id = some e') (hs : e'.status = e.status)
    (hsilent : (op.run t c.device).events = []) :
    Mirrors ((c.next t op).shown id) ((op.run t c.device).device.entity? id) := by
  rw [shown_kept hid h, h, hsilent, snapshots_nil, List.append_nil]
  exact hc.congr hs

namespace Faithful

variable (h : c.Faithful)
include h

theorem steady (hw : c.device.Wired) (htrace : Traced .steady (op.run t) c.device)
    (hadd : ∀ e, op ≠ .add e) (htaken : op.taken c.device = []) : (c.next t op).Faithful where
  clean := Trace.invariant (fun d m hd hm => hd.move hm) htrace h.clean
  held := by
    change ∀ e ∈ op.taken c.device ++ c.held, _
    rw [htaken, List.nil_append]
    exact h.held
  mirrors id := by
    change Mirrors _ ((op.run t c.device).device.entity? id)
    cases he : c.device.entity? id with
    | none =>
      rcases Trace.arrives htrace h.clean hw he with ⟨hnone, -⟩ | ⟨e', he', hlog⟩
      · exact mirrors_gone hnone
      · rw [shown_arrived he he', he', Operation.arrival_of_ne hadd]
        exact hlog
    | some e =>
      have hmirrors := h.mirrors id
      rw [he] at hmirrors
      obtain ⟨e', he', -, hlog⟩ := Trace.mirrors htrace h.clean hw he hmirrors
      rw [shown_kept he he', he']
      exact hlog

theorem add {a : Entity} (ha : a.Loose ∧ a.Clean) : (c.next t (.add a)).Faithful where
  clean := by
    change ((Operation.add a).run t c.device).device.Clean
    rw [Operation.device_add]
    intro id e he
    rw [Device.entity?_insert] at he
    split at he
    · cases he
      exact ⟨ha.1.sound, ha.2⟩
    · exact h.clean id e he
  held := h.held
  mirrors id := by
    have hmirrors := h.mirrors id
    have hafter := Device.entity?_insert c.device a id
    rw [← Operation.device_add t] at hafter
    change Mirrors _ (((Operation.add a).run t c.device).device.entity? id)
    split at hafter
    · rename_i hnew
      obtain ⟨hfree, rfl⟩ := hnew
      rw [shown_arrived hfree hafter, hafter, Operation.events_add, snapshots_nil]
      exact .arrival a
    · cases he : c.device.entity? id with
      | none =>
        rw [he] at hafter
        exact mirrors_gone hafter
      | some e =>
        rw [he] at hafter hmirrors
        exact mirrors_silent hmirrors he hafter rfl (Operation.events_add t a c.device)

theorem remove {i : EntityId} : (c.next t (.remove i)).Faithful where
  clean := by
    intro id e he
    replace he : (c.device.remove i).2.entity? id = some e := he
    rw [Device.entity?_remove] at he
    split at he
    · cases he
    · exact h.clean id e he
  held := by
    intro e he
    rcases List.mem_append.1 he with he | he
    · have hremoved : (c.device.remove i).1 = some e := Option.mem_toList.1 he
      exact ⟨Device.loose_of_remove h.clean.sound hremoved, h.clean.remove hremoved⟩
    · exact h.held e he
  mirrors id := by
    have hmirrors := h.mirrors id
    have hafter := Device.entity?_remove c.device i id
    split at hafter
    · exact mirrors_gone hafter
    · cases he : c.device.entity? id with
      | none =>
        rw [he] at hafter
        exact mirrors_gone hafter
      | some e =>
        rw [he] at hafter hmirrors
        exact mirrors_silent hmirrors he hafter rfl rfl

theorem shutdown : (c.next t .shutdown).Faithful where
  clean := by
    intro id e he
    replace he : c.device.shutdown.entity? id = some e := he
    rw [Device.entity?_shutdown] at he
    cases he
  held := h.held
  mirrors id := mirrors_gone (Device.entity?_shutdown c.device id)

end Faithful

end Chronicle

namespace Reached

variable {mask : UInt8} {descriptor : Descriptor} {c : Chronicle}

theorem faithful_start (hdigest : descriptor.digest.WellFormed) :
    (Chronicle.start mask descriptor).Faithful := by
  have hclean := Device.clean_furnish mask descriptor
  have hwired := Device.wired_furnish mask descriptor
  have htrace : Traced .steady (Device.parseDigest descriptor.digest)
      (Device.furnish mask descriptor) :=
    Device.traced_parseDigest Scope.opens_steady (fun _ => hdigest) _
  refine ⟨htrace.invariant (fun d m hd hm => hd.move hm) hclean, fun e he => (by cases he), ?_⟩
  intro id
  unfold Chronicle.start Device.build
  cases he : (Device.furnish mask descriptor).entity? id with
  | none =>
    rcases Trace.arrives htrace hclean hwired he with ⟨hnone, -⟩ | ⟨e', he', hlog⟩
    · simp only [hnone]
      exact ⟨rfl, List.isChain_nil⟩
    · simp only [he']
      exact hlog
  | some e =>
    obtain ⟨e', he', hclear, hlog⟩ := Trace.mirrors htrace hclean hwired he (Mirrors.arrival e)
    simp only [he']
    rw [← Device.unheard_furnish mask descriptor id e he, ← hclear] at hlog
    exact hlog

theorem faithful (hdigest : descriptor.digest.WellFormed)
    (h : Reached Operation.Sane mask descriptor c) : c.Faithful := by
  induction h with
  | built => exact faithful_start hdigest
  | @step c h t op admissible sane ih =>
    have hw : c.device.Wired := h.wired.1
    cases op with
    | add e =>
      refine ih.add ?_
      rcases admissible with hmade | hheld
      · exact ⟨hmade.loose, hmade.clean (sane.scaled e rfl)⟩
      · exact ih.held e hheld
    | remove id => exact ih.remove
    | shutdown => exact ih.shutdown
    | _ =>
      have htrace := Operation.trace_steady sane (fun _ => Operation.noConfusion)
        (fun _ => Operation.noConfusion) Operation.noConfusion c.device
      exact ih.steady hw htrace (fun _ => Operation.noConfusion) rfl

/-- Of what is not there after an operation nothing was told by it. -/
theorem snapshots_gone (hc : c.Faithful) (hw : c.device.Wired) {t : Transport} {op : Operation}
    (sane : op.Sane t) {id : EntityId} (hid : (op.run t c.device).device.entity? id = none) :
    snapshots id (op.run t c.device).events = [] := by
  cases op with
  | add e => rw [Operation.events_add, snapshots_nil]
  | remove _ | shutdown => rfl
  | _ =>
    have htrace := Operation.trace_steady sane (fun _ => Operation.noConfusion)
      (fun _ => Operation.noConfusion) Operation.noConfusion c.device
    cases he : c.device.entity? id with
    | none =>
      rcases Trace.arrives htrace hc.clean hw he with ⟨-, hsilent⟩ | ⟨e', he', -⟩
      · exact hsilent
      · rw [hid] at he'
        cases he'
    | some e =>
      obtain ⟨e', he', -⟩ := Trace.mirrors htrace hc.clean hw he (Mirrors.arrival e)
      rw [hid] at he'
      cases he'

/-- What listeners were shown last of an entity is what is known of it, and
    before any call it is as it came in. No two calls in a row show the same,
    and there is no call for what is not there. -/
theorem shown_mirrors (hdigest : descriptor.digest.WellFormed)
    (h : Reached Operation.Sane mask descriptor c) :
    (∀ id e, c.device.entity? id = some e → (c.shown id).getLast? = some e.status) ∧
      (∀ id, (c.shown id).IsChain Status.Differs) ∧
        ∀ t (op : Operation), op.Admissible c.held → op.Sane t →
          ∀ e, .flushed e ∈ (op.run t c.device).events →
            (op.run t c.device).device.entity? e.id ≠ none := by
  have hc : c.Faithful := h.faithful hdigest
  refine ⟨fun id e he => ?_, fun id => (hc.mirrors id).chain,
    fun t op _ sane e hflushed hgone => ?_⟩
  · have hlast := (hc.mirrors id).last
    rw [he] at hlast
    exact hlast
  · have hshown : e.status ∈ snapshots e.id (op.run t c.device).events :=
      List.mem_filterMap.2 ⟨_, hflushed, if_pos rfl⟩
    rw [snapshots_gone hc h.wired.1 sane hgone] at hshown
    cases hshown

/-- The outlet of a plug is shown to be on, as the digest of the plug says. -/
theorem shown_mirrors_plug : ∃ e,
    (Chronicle.start 0 .plug).device.entity? (.channel (.int 0)) = some e ∧
      e.power? = some true ∧
        ((Chronicle.start 0 .plug).shown (.channel (.int 0))).getLast? = some e.status := by
  have hdigest : Descriptor.plug.digest.WellFormed := by
    refine Json.WellFormed.obj.2 ⟨List.pairwise_singleton .., ?_⟩
    simpa [Json.WellFormed.arr] using wellFormed_outlet 1
  have hbuilt : Reached Operation.Sane 0 .plug (.start 0 .plug) := .built
  refine ⟨_, rfl, rfl, (shown_mirrors hdigest hbuilt).1 _ _ rfl⟩

end Reached

end Appliance
