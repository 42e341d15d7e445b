-- SUMMARY: What players are asked to play: volume steps that they have, and songs that they have unless they were told of others.

import Appliance.Proofs.Selecting

namespace Appliance

/-! ## Songs and volume steps

The next song is one of the player from below the first song by one on, and
the previous song up to above the last song by one. Further out a step does not
come back among the songs. -/

namespace Player

variable {track : Option Int64}

/-- The song is one of the player or next to one. -/
def Near (song : Int64) : Prop := 0 ≤ song ∧ song ≤ 12

theorem nextSong_mem_iff :
    1 ≤ nextSong track ∧ nextSong track ≤ 11 ↔ ∀ song, track = some song → 0 ≤ song := by
  cases track with
  | none => simp [nextSong, firstSong]
  | some song =>
    simp only [nextSong, firstSong, lastSong, Option.some.injEq, forall_eq']
    grind

theorem previousSong_mem_iff :
    1 ≤ previousSong track ∧ previousSong track ≤ 11 ↔ ∀ song, track = some song → song ≤ 12 := by
  cases track with
  | none => simp [previousSong, firstSong]
  | some song =>
    simp only [previousSong, firstSong, lastSong, Option.some.injEq, forall_eq']
    grind

/-- A song is within reach if both steps from it lead to songs of the player. -/
theorem near_iff {song : Int64} :
    Near song ↔ (1 ≤ nextSong (some song) ∧ nextSong (some song) ≤ 11) ∧
      1 ≤ previousSong (some song) ∧ previousSong (some song) ≤ 11 := by
  rw [nextSong_mem_iff, previousSong_mem_iff]
  simp only [Near, Option.some.injEq, forall_eq']

theorem near_of_mem {song : Int64} (h : 1 ≤ song ∧ song ≤ 11) : Near song := by
  unfold Near
  grind

/-- Whatever the level is, a number or not, the step is one of the player. -/
theorem volumeStep_mem (level : Float) : 0 ≤ volumeStep level ∧ volumeStep level ≤ 16 := by
  unfold volumeStep maxVolume
  grind

end Player

/-! ## Songs that players are told

Only items tell a player which song it plays. What it is ordered to play it is
told by such an item as well. -/

/-- The song that an operation tells a player. -/
def EntityOp.song? : EntityOp → Option Int64
  | .item .mp3 body => body.int64At? "song"
  | _ => none

namespace Device

open Entity (TookOps)

section Told

variable {ops : List EntityOp} {e e' : Entity}

theorem track?_eq_join (e : Entity) : e.track? = (e.status.datum? .track).join := by
  unfold Entity.track? Status.datum?
  cases e.status.player <;> rfl

theorem track?_of_unavailable (hs : e.Sound) (h : e.status.available = false) :
    e.track? = none := by
  unfold Entity.track?
  rw [hs.idle h]
  unfold Status.clear
  cases e.status.player <;> rfl

theorem says?_track (op : EntityOp) :
    EntityOp.says? .mediaPlayer .track op = op.song?.map some := by
  cases op with
  | item ns body =>
    cases ns with
    | mp3 =>
      have hheard : EntityOp.says? .mediaPlayer .track (.item .mp3 body) =
          (Entity.heardIf (!(Player.Report.ofItem body).isEmpty)
            (.ofPlayer (Player.Report.ofItem body))).bind fun ρ => ρ .track := rfl
      rw [hheard]
      cases hempty : (Player.Report.ofItem body).isEmpty with
      | false => rfl
      | true =>
        -- What tells of nothing tells of no song.
        simp only [Player.Report.isEmpty, Bool.and_eq_true, Option.isNone_iff_eq_none] at hempty
        have hsong : body.int64At? "song" = none := hempty.1.2
        rw [EntityOp.song?, hsong]
        rfl
    | _ => rfl
  | _ => rfl

theorem writes_track (ops : List EntityOp) :
    EntityOp.writes .mediaPlayer .track ops = (ops.filterMap EntityOp.song?).map some := by
  rw [EntityOp.writes, List.map_filterMap]
  exact List.filterMap_congr fun op _ => says?_track op

/-- A player plays the last song that it was told, or the one before if it was told none. -/
theorem track?_of_tookOps (hs : e.Sound) (hkind : e.kind = .mediaPlayer) (h : TookOps ops e e') :
    e'.track? = (ops.filterMap EntityOp.song?).getLast?.or e.track? := by
  obtain ⟨a, ha⟩ := hs.exists_datum hkind (p := .track) rfl
  have hdatum := h.datum .track
  rw [ha, hkind, writes_track, Option.map_some] at hdatum
  rw [track?_eq_join, track?_eq_join, hdatum, ha, Part.overwrite_lawful, List.getLast?_map]
  cases (ops.filterMap EntityOp.song?).getLast? <;> rfl

end Told

/-! ## Songs within reach -/

/-- If the entity is a player, the song that it plays is within reach. -/
def PlaysNear (e : Entity) : Prop :=
  e.kind = .mediaPlayer → ∀ song, e.track? = some song → Player.Near song

theorem playsNear_of_unavailable {e : Entity} (hs : e.Sound)
    (h : e.status.available = false) : PlaysNear e := by
  intro _ song hsong
  rw [track?_of_unavailable hs h] at hsong
  cases hsong

theorem playsNear_of_tookOps {ops : List EntityOp} {e e' : Entity} (hs : e.Sound)
    (h : TookOps ops e e')
    (hops : ∀ op ∈ ops, ∀ song, op.song? = some song → Player.Near song) (hnear : PlaysNear e) :
    PlaysNear e' := by
  intro hkind song hsong
  rw [h.kind] at hkind
  rw [track?_of_tookOps hs hkind h] at hsong
  cases hlast : (ops.filterMap EntityOp.song?).getLast? with
  | none =>
    rw [hlast, Option.none_or] at hsong
    exact hnear hkind song hsong
  | some told =>
    rw [hlast, Option.some_or] at hsong
    obtain rfl := Option.some.inj hsong
    obtain ⟨op, hop, htold⟩ := List.mem_filterMap.1 (List.mem_of_getLast? hlast)
    exact hops op hop told htold

/-- A player that has the id plays a song within reach. -/
def InReach (d : Device) (id : EntityId) : Prop := ∀ e, d.entity? id = some e → PlaysNear e

theorem inReach_of_unavailable {d : Device} (hs : d.Sound) {id : EntityId}
    (h : ∀ e, d.entity? id = some e → e.status.available = false) : InReach d id :=
  fun e he => playsNear_of_unavailable (hs id e he) (h e he)

theorem inReach_of_tookOpsAt {d d' : Device} (hs : d.Sound) {id : EntityId} {ops : List EntityOp}
    (h : TookOpsAt d d' id ops) (hops : ∀ op ∈ ops, ∀ song, op.song? = some song → Player.Near song)
    (hreach : InReach d id) : InReach d' id := by
  intro e' he'
  obtain ⟨e, he | hmade, htook⟩ := h.source he'
  · exact playsNear_of_tookOps (hs id e he) htook hops (hreach e he)
  · -- What is new plays nothing yet.
    have hnear : PlaysNear e := playsNear_of_unavailable hmade.sound hmade.unavailable
    exact playsNear_of_tookOps hmade.sound htook hops hnear

/-! ### What deeds tell

An item for the channel of a player may tell it any song. The other deeds that
reach it are orders, and those are for songs within reach of one that was. -/

/-- The deed tells the players on a channel a song that is out of reach. -/
def OperationDeed.Misleads (c : Channel) : OperationDeed → Prop
  | .pass (ns, item) =>
    ns = .mp3 ∧ item.channel = some c ∧
      ∃ song, item.body.int64At? "song" = some song ∧ ¬Player.Near song
  | .read _ | .forget | .carry _ _ | .keep _ => False

section Deeds

variable {d : Device} {id : EntityId} {c : Channel} {op : EntityOp}

theorem song?_of_following (h : op ∈ d.following c id) : op.song? = none := by
  rcases mem_following h with ⟨on, -, rfl⟩ | ⟨k, -, rfl⟩ <;> rfl

theorem song?_of_partOps {part : Reading.Part} (h : op ∈ partOps part d id) :
    op.song? = none := by
  rcases mem_partOps h with ⟨r, rfl⟩ | ⟨x, rfl⟩
  · unfold measureOp
    cases r.attributes <;> rfl
  · rfl

/-- The song that an item tells is told on the channel of the item. -/
theorem near_of_itemOps (hd : d.Fit) {x : Namespace × Item} (hch : id.channel? = some c)
    (hx : ¬(OperationDeed.pass x).Misleads c) (h : op ∈ itemOps x d id) {song : Int64}
    (hsong : op.song? = some song) : Player.Near song := by
  rcases List.mem_append.1 h with hplain | hfollow
  · by_contra hfar
    unfold plainOps at hplain
    split at hplain
    · rename_i hfor
      obtain ⟨c', hc', hmem⟩ := Option.any_eq_true .. |>.1 hfor
      have hchannel := (mem_addressees hd.wired (List.contains_iff_mem.1 hmem)).1
      obtain rfl := Option.some.inj (hch.symm.trans hchannel)
      obtain ⟨ns, item⟩ := x
      obtain rfl := List.mem_singleton.1 hplain
      cases ns with
      | mp3 => exact hx ⟨rfl, hc', song, hsong, hfar⟩
      | _ => cases hsong
    · cases hplain
  · rcases mem_followOps hfollow with ⟨-, on, -, rfl⟩ | ⟨-, k, -, rfl⟩ <;> cases hsong

/-- A player is ordered to play the song after the one that it plays, or the one before. -/
theorem near_of_order {e : Entity} {ch : Channel} {cmd : Command} {o : Order}
    (hserves : o.ServesCommand e ch cmd) (hnear : PlaysNear e) {song : Int64}
    (hsong : o.op.song? = some song) : Player.Near song := by
  have hreport : ∀ {key : String} {value : Int64}, compare key "channel" = .gt →
      (Order.player ch key value).op.song? = if key = "song" then some value else none :=
    fun hkey => congrArg Player.Report.song (ofItem_playerItem hkey ch _)
  cases hserves with
  | power | mode | preset | spray => cases hsong
  | mute | volume =>
    rw [hreport (by decide)] at hsong
    cases hsong
  | next hkind =>
    rw [hreport (by decide), if_pos rfl] at hsong
    obtain rfl := Option.some.inj hsong
    exact Player.near_of_mem (Player.nextSong_mem_iff.2 fun s hs => (hnear hkind s hs).1)
  | previous hkind =>
    rw [hreport (by decide), if_pos rfl] at hsong
    obtain rfl := Option.some.inj hsong
    exact Player.near_of_mem (Player.previousSong_mem_iff.2 fun s hs => (hnear hkind s hs).2)

/-- What a deed that does not mislead finds within reach it leaves within reach. -/
theorem inReach_act (hd : d.Fit) {x : OperationDeed} (hapt : x.Apt d) (hch : id.channel? = some c)
    (hx : ¬x.Misleads c) (h : InReach d id) : InReach (x.act d).device id := by
  cases x with
  | pass x =>
    exact inReach_of_tookOpsAt hd.sound (tookOpsAt_pass hd x id)
      (fun op hop song hsong => near_of_itemOps hd hch hx hop hsong) h
  | read r =>
    refine inReach_of_tookOpsAt hd.sound (tookOpsAt_applyReading hd.sound r id)
      (fun op hop song hsong => ?_) h
    rw [song?_of_partOps hop] at hsong
    cases hsong
  | forget =>
    have hlost := lost_setUnavailable d
    exact inReach_of_unavailable (hd.trace (traced_setUnavailable d)).sound
      fun e he => hlost.unavailable he
  | carry i o =>
    obtain ⟨e, ch, cmd, he, -, hserves⟩ := hapt
    refine inReach_of_tookOpsAt hd.sound (tookOpsAt_carryOut hd.sound he hserves id)
      (fun op hop song hsong => ?_) h
    rcases List.mem_append.1 hop with hordered | hfollow
    · obtain ⟨rfl, rfl⟩ := mem_opAt hordered
      exact near_of_order hserves (h e he) hsong
    · split at hfollow
      · rw [song?_of_following hfollow] at hsong
        cases hsong
      · cases hfollow
  | keep digest => exact h

end Deeds

end Device

/-! ## Runs -/

namespace Operation

/-- The operation takes in an item for the channel with a song that is out of reach. -/
def Misleads (t : Transport) (c : Channel) (op : Operation) : Prop :=
  ∃ header payload items item song, op.Receives t header payload ∧
    header.known? = some .mp3 ∧ Item.ofPayload .mp3 payload = .ok items ∧ item ∈ items ∧
      item.channel = some c ∧ item.body.int64At? "song" = some song ∧ ¬Player.Near song

end Operation

namespace Device

section Run

variable {c : Channel} {id : EntityId}

/-- No digest speaks of songs. -/
theorem not_misleads_of_digest {digest : Json} {x : Namespace × Item}
    (hx : x ∈ digestItems digest) : ¬(OperationDeed.pass x).Misleads c := by
  rintro ⟨hns, -⟩
  obtain ⟨path, -, -, hroute, -⟩ := exists_of_mem_digestItems hx
  have hplain : ∀ route ∈ digestRoutes, route.2 ≠ .mp3 := by decide
  exact hplain (path, x.1) hroute hns

theorem misleads_of_mem {t : Transport} {d : Device} {op : Operation} {x : OperationDeed}
    (hx : x ∈ op.deeds t d) (h : x.Misleads c) : op.Misleads t c := by
  cases Operation.comesTo_of_mem hx with
  | received receives comes =>
    cases comes with
    | digest _ _ hy => exact absurd h (not_misleads_of_digest hy)
    | item known hitems hi =>
      obtain ⟨rfl, hchannel, song, hsong, hfar⟩ := h
      exact ⟨_, _, _, _, song, receives, known, hitems, hi, hchannel, hsong, hfar⟩
    | keep | reading => exact h.elim
  | digest hy => exact absurd h (not_misleads_of_digest hy)
  | loss | order => exact h.elim

/-- Where no item misleads the players on a channel, they play songs within reach. -/
theorem inReach_of_reached {fit : Transport → Operation → Prop} {mask : UInt8}
    {descriptor : Descriptor} {s : Chronicle} (h : Reached fit mask descriptor s)
    (hfit : ∀ t op, fit t op → op.Routine ∧ ¬op.Misleads t c) (hch : id.channel? = some c) :
    InReach s.device id := by
  have hcourse : Course (fun _ x => ¬x.Misleads c) mask descriptor s.device := by
    refine Course.of_reached (fun t op d fits => ?_) h
    obtain ⟨routine, hnot⟩ := hfit t op fits
    exact ⟨routine, along_of_forall (fun x hx _ hmisleads => hnot (misleads_of_mem hx hmisleads)) d⟩
  have hfurnish : InReach (furnish mask descriptor) id :=
    inReach_of_unavailable (sound_furnish mask descriptor) fun _ => unavailable_furnish
  have hdigest : Along (fun _ x => ¬x.Misleads c) (digestDeeds descriptor.digest)
      (furnish mask descriptor) := by
    refine along_of_forall (fun x hx _ => ?_) _
    obtain ⟨y, hy, rfl⟩ := List.mem_map.1 hx
    exact not_misleads_of_digest hy
  exact (hcourse.invariant hfurnish hdigest fun d x hd hapt hx hI =>
    inReach_act hd.fit hapt hch hx hI).2

end Run

/-! ## Commands to players -/

/-- What has the id is a player on a channel. -/
structure Hosts (d : Device) (id : EntityId) (e : Entity) (ch : Channel) : Prop where
  present : d.entity? id = some e
  kind : e.kind = .mediaPlayer
  channel : id.channel? = some ch

/-- The request that sets one field of the player on a channel. -/
def playerRequest (ch : Channel) (key : String) (value : Int64) : Request :=
  ⟨.mp3, .set, .obj [("mp3", .obj [("channel", ch.toJson), (key, .int value.toInt)])]⟩

theorem request_player {key : String} (hkey : compare key "channel" = .gt) (ch : Channel)
    (value : Int64) : (Order.player ch key value).request = playerRequest ch key value := by
  rw [Order.request, Order.ns, Order.payload, Payload.player, playerItem_eq hkey]
  rfl

section Commands

variable {d : Device} {id : EntityId} {e : Entity} {ch : Channel} (t : Transport)

theorem Hosts.order_player (h : d.Hosts id e ch) (key : String) (value : Option Int64 → Int64) :
    d.orderPlayer id key value = .ok (.player ch key (value e.track?)) := by
  have hfind := find_of_entity? h.present
  have hchannel : channelOf id = .ok ch := by
    rw [channelOf, h.channel]
  simp only [orderPlayer, hfind, h.kind, hchannel, if_true, bind, Except.bind, pure, Except.pure]

/-- What a player is asked to play goes out in one request. -/
theorem Hosts.requests_player (h : d.Hosts id e ch) {c : Command} {key : String}
    (value : Option Int64 → Int64) (hkey : compare key "channel" = .gt)
    (horder : d.order id c = d.orderPlayer id key value)
    (hserves : (Order.player ch key (value e.track?)).ServesCommand e ch c) :
    requests (command t id c d).events = [playerRequest ch key (value e.track?)] := by
  rw [← request_player hkey]
  exact requests_of_order (horder.trans (h.order_player key value)) hserves h.present

/-- Only players on channels are asked to play anything. -/
theorem hosts_of_requests {c : Command}
    (hc : c = .next ∨ c = .previous ∨ ∃ level, c = .volume level)
    (h : requests (command t id c d).events ≠ []) : ∃ e ch, d.Hosts id e ch := by
  have hanswers := answers_order d id c
  cases horder : d.order id c with
  | error error =>
    rw [command_of_error horder] at h
    exact absurd rfl h
  | ok o =>
    rw [horder] at hanswers
    obtain ⟨e, ch, he, hch, hserves⟩ := hanswers
    have hkind : e.kind = .mediaPlayer := by
      rcases hc with rfl | rfl | ⟨level, rfl⟩
      all_goals
        cases hserves
        assumption
    exact ⟨e, ch, he, hkind, hch⟩

end Commands

/-- A player that is told a song out of reach plays it, and one step from there
    asks for a song that the player does not have. -/
theorem astray_of_misleads {d : Device} (hd : d.Fit) {id : EntityId} {e : Entity} {ch : Channel}
    (h : d.Hosts id e ch) (haddressed : id ∈ d.addressees .mp3 ch) {item : Item}
    (hmisleads : (OperationDeed.pass (.mp3, item)).Misleads ch) :
    ∃ e', (pass (.mp3, item) d).device.Hosts id e' ch ∧
      ¬((1 ≤ Player.nextSong e'.track? ∧ Player.nextSong e'.track? ≤ 11) ∧
        1 ≤ Player.previousSong e'.track? ∧ Player.previousSong e'.track? ≤ 11) := by
  obtain ⟨-, hchannel, song, hsong, hfar⟩ := hmisleads
  have htookAt := tookOpsAt_pass hd (.mp3, item) id
  have hfor : d.isFor .mp3 id item = true := by
    rw [isFor, hchannel, Option.any_some, List.contains_iff_mem]
    exact haddressed
  have hfollow : d.followOps id (.mp3, item) = [] := by
    unfold followOps
    rw [hchannel]
    refine if_neg ?_
    rintro ⟨⟨⟩, -⟩
  rw [itemOps, plainOps, if_pos hfor, hfollow, List.append_nil] at htookAt
  obtain ⟨e', he', htook⟩ := htookAt.present e h.present
  refine ⟨e', ⟨he', htook.kind.trans h.kind, h.channel⟩, ?_⟩
  have htold : EntityOp.song? (.item .mp3 item.body) = some song := hsong
  rw [track?_of_tookOps (hd.sound id e h.present) h.kind htook, List.filterMap_cons_some htold]
  exact fun hsteps => hfar (Player.near_iff.2 hsteps)

/-- Only players are asked to play anything, each time in one request. Whatever
    the level, the volume step that is asked for is one of the player. The next
    song is one of the player unless it plays one below zero, the previous song
    unless it plays one above twelve. So both are all along as long as no item
    tells the player such a song. -/
theorem command_plays {fit : Transport → Operation → Prop} {mask : UInt8}
    {descriptor : Descriptor} {s : Chronicle} (h : Reached fit mask descriptor s) (t : Transport)
    (id : EntityId) :
    (∀ c : Command, c = .next ∨ c = .previous ∨ (∃ level, c = .volume level) →
        requests (command t id c s.device).events ≠ [] → ∃ e ch, s.device.Hosts id e ch) ∧
      ∀ e ch, s.device.Hosts id e ch →
        (∀ level, ∃ step,
          requests (command t id (.volume level) s.device).events =
              [playerRequest ch "volume" step] ∧
            0 ≤ step ∧ step ≤ 16) ∧
        ∃ next previous,
          requests (command t id .next s.device).events = [playerRequest ch "song" next] ∧
            requests (command t id .previous s.device).events = [playerRequest ch "song" previous] ∧
            (1 ≤ next ∧ next ≤ 11 ↔ ∀ song, e.track? = some song → 0 ≤ song) ∧
            (1 ≤ previous ∧ previous ≤ 11 ↔ ∀ song, e.track? = some song → song ≤ 12) ∧
            ((∀ t op, fit t op → op.Routine ∧ ¬op.Misleads t ch) →
              (1 ≤ next ∧ next ≤ 11) ∧ 1 ≤ previous ∧ previous ≤ 11) := by
  refine ⟨fun c hc => hosts_of_requests t hc, fun e ch hhosts => ⟨fun level => ?volume, ?songs⟩⟩
  case volume =>
    exact ⟨_, hhosts.requests_player t (fun _ => Player.volumeStep level) (by decide) rfl
      (.volume hhosts.kind), Player.volumeStep_mem level⟩
  case songs =>
    refine ⟨_, _, hhosts.requests_player t Player.nextSong (by decide) rfl (.next hhosts.kind),
      hhosts.requests_player t Player.previousSong (by decide) rfl (.previous hhosts.kind),
      Player.nextSong_mem_iff, Player.previousSong_mem_iff, fun hfit => ?_⟩
    have hnear := inReach_of_reached h hfit hhosts.channel e hhosts.present hhosts.kind
    exact ⟨Player.nextSong_mem_iff.2 fun song hsong => (hnear song hsong).1,
      Player.previousSong_mem_iff.2 fun song hsong => (hnear song hsong).2⟩

end Device

/-! ## A speaker -/

/-- A speaker that plays songs. -/
def Descriptor.speaker : Descriptor where
  uuid := "speaker"
  ability := .ofKeys [.mp3]
  digest := .obj []

namespace Device

/-- The id of the player of a speaker. -/
def speakerId : EntityId := .keyed (.int 0) "mp3"

/-- What a speaker tells when it plays a song. -/
def songPayload (song : Int) : Json :=
  .obj [("mp3", .obj [("channel", .int 0), ("song", .int song)])]

/-- The speaker once it has told that it plays a song. -/
def playing (song : Int) : Chronicle :=
  (Chronicle.start 0 .speaker).next obliging (.handle ⟨pushHeader .mp3, songPayload song⟩)

theorem reached_playing (song : Int) :
    Reached (fun _ op => op.Routine) 0 .speaker (playing song) :=
  .step .built trivial trivial

theorem command_plays_speaker :
    Reached (fun t op => op.Routine ∧ ¬op.Misleads t (.int 0)) 0 .speaker (playing 12) ∧
      (∃ step,
        requests (command obliging speakerId (.volume Float.nan) (playing 12).device).events =
            [playerRequest (.int 0) "volume" step] ∧
          0 ≤ step ∧ step ≤ 16) ∧
      ∃ next previous,
        requests (command obliging speakerId .next (playing 12).device).events =
            [playerRequest (.int 0) "song" next] ∧
          requests (command obliging speakerId .previous (playing 12).device).events =
            [playerRequest (.int 0) "song" previous] ∧
          (1 ≤ next ∧ next ≤ 11) ∧ 1 ≤ previous ∧ previous ≤ 11 := by
  have hreached :
      Reached (fun t op => op.Routine ∧ ¬op.Misleads t (.int 0)) 0 .speaker (playing 12) := by
    refine .step .built trivial ⟨trivial, ?_⟩
    rintro ⟨header, payload, items, item, song, receives, -, hitems, hi, -, hsong, hfar⟩
    cases receives
    have hsplit : Item.ofPayload .mp3 (songPayload 12) =
        .ok [⟨some (.int 0), .obj [("channel", .int 0), ("song", .int 12)]⟩] := rfl
    obtain rfl := Except.ok.inj (hsplit.symm.trans hitems)
    obtain rfl := List.mem_singleton.1 hi
    obtain rfl : 12 = song := Option.some.inj hsong
    exact hfar ⟨by decide, by decide⟩
  have hplayer : ((playing 12).device.entity? speakerId).map (·.kind) = some .mediaPlayer := by
    decide
  obtain ⟨e, he, hkind⟩ := Option.map_eq_some_iff.1 hplayer
  obtain ⟨-, hplays⟩ := command_plays hreached obliging speakerId
  obtain ⟨hvolume, next, previous, hnext, hprevious, -, -, hsongs⟩ :=
    hplays e (.int 0) ⟨he, hkind, rfl⟩
  obtain ⟨hfirst, hlast⟩ := hsongs fun _ _ fits => fits
  exact ⟨hreached, hvolume Float.nan, next, previous, hnext, hprevious, hfirst, hlast⟩

/-- A speaker that plays a song from beyond its own is asked for another such song. -/
theorem asks_beyond :
    (Reached (fun _ op => op.Routine) 0 .speaker (playing 13) ∧ ∃ song,
        requests (command obliging speakerId .previous (playing 13).device).events =
            [playerRequest (.int 0) "song" song] ∧ 11 < song) ∧
      Reached (fun _ op => op.Routine) 0 .speaker (playing (-1)) ∧ ∃ song,
        requests (command obliging speakerId .next (playing (-1)).device).events =
            [playerRequest (.int 0) "song" song] ∧ song < 1 :=
  ⟨⟨reached_playing 13, 12, rfl, by decide⟩, reached_playing (-1), 0, rfl, by decide⟩

end Device

end Appliance
