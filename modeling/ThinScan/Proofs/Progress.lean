import ThinScan.Proofs.Upkeep

set_option autoImplicit false

namespace ThinScan

variable {T : Type}

namespace Phase

def flushes : Phase T → Bool
  | flushing _ => true
  | closing _ => true
  | _ => false

end Phase

namespace Scan

-- It has begun, and may still make requests.
def live (scan : Scan T) : Bool := scan.initiated && !scan.exhausted && !scan.dropped

theorem live_iff (scan : Scan T) :
    scan.live = true ↔ scan.initiated = true ∧ scan.exhausted = false ∧ scan.dropped = false := by
  simp [live, and_assoc]

theorem live_of_counts {scan : Scan T} (sound : scan.Sound) (counted : 0 < scan.counts) : scan.live = true := by
  unfold counts at counted
  split at counted
  · rename_i flags
    simp only [Bool.and_eq_true, Bool.not_eq_true'] at flags
    refine (live_iff scan).mpr ⟨flags.1, flags.2, Bool.eq_false_iff.mpr (fun dropped => ?_)⟩
    have said := (sound.gone dropped).2 flags.1
    exact Bool.false_ne_true (flags.2.symm.trans said)
  · exact absurd counted (Nat.lt_irrefl 0)

end Scan

namespace World

variable {world later : World T} {action : Act T}

-- A step that does not depend on what anybody does with a scan: the fetch of a batch ends, a reply is handed out, a task
-- goes on, or a flush under way does.
inductive Stirs (world : World T) : Prop
  | fetch (batch : Nat) (answerable : ∀ fetched, (world.act (.complete batch fetched)).isSome = true)
  | reply (batch : Nat) (ready : (world.act (.reply batch)).isSome = true)
  | wake (task : Nat) (ready : (world.act (.wake task)).isSome = true)
  | send (task : Nat) (ready : (world.act (.send task)).isSome = true)
  | finish (task : Nat) (ready : (world.act (.finish task)).isSome = true)
  | advance (index : Nat) (scan : Scan T) (held : world.scans[index]? = some scan) (flushes : scan.phase.flushes = true)
      (ready : (world.act (.advance index)).isSome = true)
  | flushNext (index : Nat) (scan : Scan T) (adapter : AdapterId) (held : world.scans[index]? = some scan)
      (flushes : scan.phase.flushes = true) (ready : (world.act (.flushNext index adapter)).isSome = true)

theorem stirs_of_fetching {index : Nat} {batch : Batch} (held : world.lookup.batches[index]? = some batch)
    (fetching : batch.progress = .fetching) : world.Stirs := by
  refine .fetch index (fun fetched => ?_)
  have open_ : batch.isFetching = true := by simp [Batch.isFetching, fetching]
  simp [act, BatchLookup.complete, held, open_]

theorem stirs_of_reply {index : Nat} {batch : Batch} {next : RequestId × Reply} {rest : List (RequestId × Reply)}
    (held : world.lookup.batches[index]? = some batch) (replying : batch.progress = .replying (next :: rest)) :
    world.Stirs := by
  refine .reply index ?_
  simp [act, BatchLookup.reply, held, replying]

theorem stirs_of_owes {index : Nat} {scan : Scan T} {adapter : AdapterId} (held : world.scans[index]? = some scan)
    (owes : scan.phase.owes adapter) : world.Stirs := by
  cases phase : scan.phase with
  | idle => rw [phase] at owes; exact owes.elim
  | scanning => rw [phase] at owes; exact owes.elim
  | deferring row adapter request => rw [phase] at owes; exact owes.elim
  | receiving => rw [phase] at owes; exact owes.elim
  | flushing left =>
      have flushes : scan.phase.flushes = true := by rw [phase]; rfl
      cases left with
      | none => exact .advance index scan held flushes (by simp [act, advance, held, phase])
      | some left =>
          rw [phase] at owes
          have listed : adapter ∈ left := owes
          exact .flushNext index scan adapter held flushes (by simp [act, flushNext, held, phase, listed])
  | closing left =>
      have flushes : scan.phase.flushes = true := by rw [phase]; rfl
      cases left with
      | none => exact .advance index scan held flushes (by simp [act, advance, held, phase])
      | some left =>
          rw [phase] at owes
          have listed : adapter ∈ left := owes
          exact .flushNext index scan adapter held flushes (by simp [act, flushNext, held, phase, listed])

theorem live_of_active (sound : world.Sound) (active : 0 < world.lookup.active) :
    ∃ (index : Nat) (scan : Scan T), world.scans[index]? = some scan ∧ scan.live = true := by
  rw [sound.counted] at active
  obtain ⟨scan, member, counted⟩ := Work.exists_of_total_pos Scan.counts world.scans active
  obtain ⟨index, held⟩ := List.mem_iff_getElem?.mp member
  exact ⟨index, scan, held, Scan.live_of_counts (sound.scans scan member) counted⟩

theorem stirs_of_waiting (sound : world.Sound) {adapter : AdapterId} (waits : world.lookup.waiting adapter ≠ []) :
    world.Stirs ∨ ∃ (index : Nat) (scan : Scan T), world.scans[index]? = some scan ∧ scan.live = true := by
  rcases sound.owed adapter waits with active | ⟨index, scan, held, owes⟩
  · exact .inr (live_of_active sound active)
  · exact .inl (stirs_of_owes held owes)

theorem stirs_of_task (sound : world.Sound) {index : Nat} {task : Task T} {scan : Scan T}
    (held : world.tasks[index]? = some task) (owner : world.scans[task.scan]? = some scan) (live : task.isLive = true)
    (empty : scan.queue = []) :
    world.Stirs ∨ ∃ (other : Nat) (another : Scan T), world.scans[other]? = some another ∧ another.live = true := by
  have scan_sound := held_sound sound owner
  cases stage : task.stage with
  | crashed =>
      rw [Task.isLive, stage] at live
      cases live
  | ending => exact .inl (.finish index (by simp [act, finish, held, owner, stage]))
  | leaving => exact .inl (.finish index (by simp [act, finish, held, owner, stage]))
  | sending value =>
      have room : scan.hasRoom = true := by simp [Scan.hasRoom, empty, scan_sound.room]
      refine .inl (.send index ?_)
      cases dropped : scan.dropped <;> simp [act, send, held, owner, stage, dropped, room]
  | waiting =>
      have issued := (sound.owned task (List.mem_of_getElem? held)).2
      rcases BatchLookup.place_of sound.custody issued with
        ⟨adapter, waits⟩ | ⟨batch, fetching, place, progress⟩ | ⟨batch, replying, next, rest, place, progress⟩
        | ⟨reply, known⟩
      · exact stirs_of_waiting sound waits
      · exact .inl (stirs_of_fetching place progress)
      · exact .inl (stirs_of_reply place progress)
      · refine .inl (.wake index ?_)
        have settled : (world.lookup.look task.request).isSome = true := by
          unfold BatchLookup.look
          rw [known]
          cases reply with
          | values found => rfl
          | lost event => dsimp only; split <;> rfl
        obtain ⟨looked, found⟩ := Option.isSome_iff_exists.mp settled
        simp [act, wake, held, stage, found]

theorem stirs_of_receiving (sound : world.Sound) {index : Nat} {scan : Scan T} (held : world.scans[index]? = some scan)
    (receiving : scan.phase = .receiving) :
    scan.queue ≠ [] ∨ world.queueClosed index scan = true ∨ world.Stirs
      ∨ ∃ (other : Nat) (another : Scan T), other ≠ index ∧ world.scans[other]? = some another ∧ another.live = true := by
  have said : scan.exhausted = true := (held_sound sound held).past (by rw [receiving]; rfl)
  by_cases empty : scan.queue = []
  · by_cases closed : world.queueClosed index scan = true
    · exact .inr (.inl closed)
    · simp only [queueClosed, said, Bool.true_and, Bool.not_eq_true, Bool.not_eq_false', List.any_eq_true] at closed
      obtain ⟨task, member, holds⟩ := closed
      obtain ⟨place, at_place⟩ := List.mem_iff_getElem?.mp member
      simp only [Task.holds, Bool.and_eq_true, decide_eq_true_eq] at holds
      rcases stirs_of_task sound at_place (holds.1 ▸ held) holds.2 empty with stirs | ⟨other, another, found, live⟩
      · exact .inr (.inr (.inl stirs))
      · refine .inr (.inr (.inr ⟨other, another, ?_, found, live⟩))
        intro same
        subst same
        cases held.symm.trans found
        rw [Scan.live_iff, said] at live
        exact absurd live.2.1 (by simp)
  · exact .inl empty

theorem flushes_of_owes {phase : Phase T} {adapter : AdapterId} (owes : phase.owes adapter) : phase.flushes = true := by
  cases phase with
  | flushing left => rfl
  | closing left => rfl
  | _ => exact owes.elim

def Begun (world : World T) (index : Nat) : Prop :=
  ∃ scan : Scan T, world.scans[index]? = some scan ∧ scan.initiated = true

def QuietBut (world : World T) (index : Nat) : Prop :=
  ∀ (other : Nat) (another : Scan T), other ≠ index → world.scans[other]? = some another → another.live = false

theorem nothing_waits (sound : world.Sound) {index : Nat} {scan : Scan T} (held : world.scans[index]? = some scan)
    (receiving : scan.phase = .receiving)
    (quiet : world.QuietBut index)
    (settled : ∀ (other : Nat) (another : Scan T), other ≠ index → world.scans[other]? = some another →
      another.phase.flushes = false) (adapter : AdapterId) :
    world.lookup.waiting adapter = [] := by
  apply Classical.byContradiction
  intro waits
  have said : scan.exhausted = true := (held_sound sound held).past (by rw [receiving]; rfl)
  have elsewhere {other : Nat} {another : Scan T} (found : world.scans[other]? = some another)
      (stirring : another.live = true ∨ another.phase.owes adapter) : False := by
    by_cases same : other = index
    · subst same
      cases held.symm.trans found
      rcases stirring with live | owes
      · rw [Scan.live_iff, said] at live
        exact absurd live.2.1 (by simp)
      · rw [receiving] at owes
        exact owes
    · rcases stirring with live | owes
      · exact Bool.false_ne_true ((quiet other another same found).symm.trans live)
      · exact Bool.false_ne_true ((settled other another same found).symm.trans (flushes_of_owes owes))
  rcases sound.owed adapter waits with active | ⟨other, another, found, owes⟩
  · obtain ⟨other, another, found, live⟩ := live_of_active sound active
    exact elsewhere found (.inl live)
  · exact elsewhere found (.inr owes)

end World

namespace Scan

structure Follows (pulled : Prop) (scan fresh : Scan T) : Prop where
  initiated : scan.initiated = true → fresh.initiated = true
  exhausted : scan.exhausted = true → fresh.exhausted = true
  dropped : scan.dropped = true → fresh.dropped = true
  begun : fresh.initiated = true → scan.initiated = true ∨ pulled
  stopped : fresh.finished = true → scan.finished = true ∨ scan.phase = .receiving

theorem follows_of_flags {pulled : Prop} {scan fresh : Scan T} (initiated : fresh.initiated = scan.initiated)
    (exhausted : scan.exhausted = true → fresh.exhausted = true)
    (dropped : scan.dropped = true → fresh.dropped = true) (finished : fresh.finished = scan.finished) :
    scan.Follows pulled fresh :=
  ⟨fun before => initiated.trans before, exhausted, dropped, fun now => .inl (initiated.symm.trans now),
    fun now => .inl (finished.symm.trans now)⟩

theorem follows_turn {label : Nat → Act T} {lookup after : BatchLookup} {scan fresh : Scan T}
    (turn : scan.Turn label lookup after fresh) : scan.Follows (label = .pull) fresh := by
  cases turn with
  | enter free idle uncounted =>
      exact ⟨fun _ => initiated_begin scan, fun said => (exhausted_begin scan).trans said,
        fun dropped => (dropped_begin scan).trans dropped, fun _ => .inr rfl,
        fun finished => .inl ((finished_begin scan).symm.trans finished)⟩
  | resume free idle counted =>
      exact follows_of_flags ((initiated_begin scan).trans counted.symm) (fun said => (exhausted_begin scan).trans said)
        (fun dropped => (dropped_begin scan).trans dropped) (finished_begin scan)
  | exhaust scanning rowless unsaid => exact follows_of_flags rfl (fun _ => rfl) id rfl
  | close through => exact follows_of_flags rfl id (fun _ => rfl) rfl
  | leave free idle settled => exact follows_of_flags rfl id (fun _ => rfl) rfl
  | abandon free idle counted unsaid others => exact follows_of_flags rfl (fun _ => rfl) (fun _ => rfl) rfl
  | abandonLast free idle counted unsaid last => exact follows_of_flags rfl (fun _ => rfl) id rfl
  | _ => exact follows_of_flags rfl id id rfl

theorem counts_of_exhausted {label : Nat → Act T} {lookup after : BatchLookup} {scan fresh : Scan T}
    (sound : scan.Sound) (turn : scan.Turn label lookup after fresh) (unsaid : scan.exhausted = false)
    (said : fresh.exhausted = true) : scan.counts = 1 := by
  cases turn with
  | enter free idle uncounted =>
      rw [exhausted_begin, unsaid] at said
      cases said
  | resume free idle counted =>
      rw [exhausted_begin, unsaid] at said
      cases said
  | exhaust scanning rowless unsaid => exact counts_one (sound.pulled (by rw [scanning]; rfl)).1 unsaid
  | abandon free idle counted unsaid others => exact counts_one counted unsaid
  | abandonLast free idle counted unsaid last => exact counts_one counted unsaid
  | _ => exact absurd (unsaid.symm.trans said) Bool.false_ne_true

theorem live_of_follows {pulled : Prop} {scan fresh : Scan T} (follows : scan.Follows pulled fresh)
    (live : fresh.live = true) : scan.live = true ∨ (pulled ∧ scan.initiated = false) := by
  obtain ⟨begun, unsaid, free⟩ := (live_iff fresh).mp live
  cases initiated : scan.initiated with
  | false =>
      right
      refine ⟨(follows.begun begun).resolve_left ?_, rfl⟩
      rw [initiated]
      exact Bool.false_ne_true
  | true =>
      left
      refine (live_iff scan).mpr ⟨initiated, ?_, ?_⟩
      · exact Bool.eq_false_iff.mpr (fun said => Bool.false_ne_true (unsaid.symm.trans (follows.exhausted said)))
      · exact Bool.eq_false_iff.mpr (fun dropped => Bool.false_ne_true (free.symm.trans (follows.dropped dropped)))

end Scan

namespace World

variable {world later : World T} {action : Act T}

theorem place_move (move : Move action world later) {index : Nat} {scan fresh : Scan T}
    (held : world.scans[index]? = some scan) (now : later.scans[index]? = some fresh) :
    (∃ label, action = label index ∧ scan.Turn label world.lookup later.lookup fresh)
      ∨ (scan.Follows False fresh ∧ fresh.exhausted = scan.exhausted
        ∧ ∀ adapter, scan.phase.owes adapter → fresh.phase.owes adapter) := by
  have untouched (same : fresh = scan) : scan.Follows False fresh ∧ fresh.exhausted = scan.exhausted
      ∧ ∀ adapter, scan.phase.owes adapter → fresh.phase.owes adapter := by
    subst same
    exact ⟨Scan.follows_of_flags rfl id id rfl, rfl, fun _ => id⟩
  have still (stands : world.scans[index]? = some fresh) : fresh = scan := Option.some.inj (stands.symm.trans held)
  have replaced {place : Nat} {old new : Scan T} (at_place : world.scans[place]? = some old)
      (stands : (world.scans.set place new)[index]? = some fresh)
      (kept : old.Follows False new ∧ new.exhausted = old.exhausted
        ∧ ∀ adapter, old.phase.owes adapter → new.phase.owes adapter) :
      scan.Follows False fresh ∧ fresh.exhausted = scan.exhausted
        ∧ ∀ adapter, scan.phase.owes adapter → fresh.phase.owes adapter := by
    rcases set_cases at_place stands with ⟨rfl, rfl⟩ | ⟨_, elsewhere⟩
    · cases held.symm.trans at_place
      exact kept
    · exact untouched (still elsewhere)
  cases move with
  | start store filters source capacity =>
      obtain ⟨bound, _⟩ := List.getElem?_eq_some_iff.mp held
      exact .inr (untouched (still ((List.getElem?_append_left bound).symm.trans now)))
  | turn at_place turn =>
      rcases set_cases at_place now with ⟨rfl, rfl⟩ | ⟨_, elsewhere⟩
      · cases held.symm.trans at_place
        exact .inl ⟨_, rfl, turn⟩
      · exact .inr (untouched (still elsewhere))
  | skip events at_place scanning next phases undeferred worthless =>
      refine .inr (replaced at_place now ⟨Scan.follows_of_flags rfl id id rfl, rfl, fun adapter owes => ?_⟩)
      rw [scanning] at owes
      exact owes.elim
  | own at_place scanning next verdict decoded =>
      refine .inr (replaced at_place now ⟨Scan.follows_of_flags rfl id id rfl, rfl, fun adapter owes => ?_⟩)
      rw [scanning] at owes
      exact owes.elim
  | defer at_place scanning next verdict =>
      refine .inr (replaced at_place now ⟨Scan.follows_of_flags rfl id id rfl, rfl, fun adapter owes => ?_⟩)
      rw [scanning] at owes
      exact owes.elim
  | caught at_place deferring settled decoded =>
      refine .inr (replaced at_place now ⟨Scan.follows_of_flags rfl id id rfl, rfl, fun adapter owes => ?_⟩)
      rw [deferring] at owes
      exact owes.elim
  | missed events at_place deferring settled phases worthless =>
      refine .inr (replaced at_place now ⟨Scan.follows_of_flags rfl id id rfl, rfl, fun adapter owes => ?_⟩)
      rw [deferring] at owes
      exact owes.elim
  | spawn at_place deferring =>
      refine .inr (replaced at_place now ⟨Scan.follows_of_flags rfl id id rfl, rfl, fun adapter owes => ?_⟩)
      rw [deferring] at owes
      exact owes.elim
  | finished events at_place receiving empty closed =>
      refine .inr (replaced at_place now ⟨⟨id, id, id, .inl, fun _ => .inr receiving⟩, rfl, fun adapter owes => ?_⟩)
      rw [receiving] at owes
      exact owes.elim
  | send at_task owner sending free room =>
      exact .inr (replaced owner now ⟨Scan.follows_of_flags rfl id id rfl, rfl, fun _ => id⟩)
  | finish at_task owner ending =>
      exact .inr (replaced owner now ⟨Scan.follows_of_flags rfl id id rfl, rfl, fun _ => id⟩)
  | _ => exact .inr (untouched (still now))

theorem follows_move (move : Move action world later) {index : Nat} {scan fresh : Scan T}
    (held : world.scans[index]? = some scan) (now : later.scans[index]? = some fresh) :
    scan.Follows (action = .pull index) fresh := by
  rcases place_move move held now with ⟨label, same, turn⟩ | ⟨follows, _⟩
  · have follows := Scan.follows_turn turn
    refine ⟨follows.initiated, follows.exhausted, follows.dropped, fun begun => (follows.begun begun).imp_right ?_,
      follows.stopped⟩
    intro pulled
    rw [same, pulled]
  · exact ⟨follows.initiated, follows.exhausted, follows.dropped,
      fun begun => .inl ((follows.begun begun).resolve_right id), follows.stopped⟩

theorem stays_move (move : Move action world later) {index : Nat} {scan : Scan T}
    (held : world.scans[index]? = some scan) : ∃ fresh, later.scans[index]? = some fresh := by
  obtain ⟨bound, _⟩ := List.getElem?_eq_some_iff.mp held
  exact ⟨_, List.getElem?_eq_getElem (Nat.lt_of_lt_of_le bound (length_move move))⟩

theorem unbegun_of_absent (move : Move action world later) {index : Nat} {fresh : Scan T}
    (now : later.scans[index]? = some fresh) (absent : world.scans[index]? = none) : fresh.initiated = false := by
  rcases scans_of_move move with same | ⟨begun, started, unbegun⟩ | ⟨place, scan, new, held, set⟩
  · rw [same] at now
    cases absent.symm.trans now
  · rw [started, List.getElem?_append] at now
    split at now
    · cases absent.symm.trans now
    · rw [List.mem_singleton.mp (List.mem_of_getElem? now)]
      exact unbegun
  · rw [set] at now
    rcases set_cases held now with ⟨rfl, rfl⟩ | ⟨_, elsewhere⟩
    · cases absent.symm.trans held
    · cases absent.symm.trans elsewhere

-- One scan is the last that may make requests, since a certain state. Once its source has ended, the flush is its own.
structure Alone (since world : World T) (index : Nat) : Prop where
  sound : world.Sound
  begun : ∀ other, since.Begun other → world.Begun other
  quiet : world.QuietBut index
  flushes : ∃ scan : Scan T, world.scans[index]? = some scan ∧ (scan.exhausted = true → ∀ adapter,
    world.lookup.waiting adapter ≠ [] → scan.phase.owes adapter)

variable {since : World T} {index : Nat}

theorem only_live (sound : world.Sound) (quiet : world.QuietBut index) {scan : Scan T}
    (held : world.scans[index]? = some scan) (said : scan.exhausted = true) : ¬ 0 < world.lookup.active := by
  intro active
  obtain ⟨other, another, found, live⟩ := live_of_active sound active
  by_cases same : other = index
  · subst same
    cases held.symm.trans found
    rw [Scan.live_iff, said] at live
    exact absurd live.2.1 (by simp)
  · exact Bool.false_ne_true ((quiet other another same found).symm.trans live)

theorem quiet_move (alone : Alone since world index) (move : Move action world later)
    (pulls : ∀ other, action = .pull other → other ≠ index → since.Begun other) : later.QuietBut index := by
  intro other fresh different now
  refine Bool.eq_false_iff.mpr (fun live => ?_)
  cases before : world.scans[other]? with
  | none =>
      have unbegun := unbegun_of_absent move now before
      exact Bool.false_ne_true (unbegun.symm.trans ((Scan.live_iff fresh).mp live).1)
  | some scan =>
      rcases Scan.live_of_follows (follows_move move before now) live with earlier | ⟨pulled, unbegun⟩
      · exact Bool.false_ne_true ((alone.quiet other scan different before).symm.trans earlier)
      · obtain ⟨known, found, initiated⟩ := alone.begun other (pulls other pulled different)
        cases before.symm.trans found
        exact Bool.false_ne_true (unbegun.symm.trans initiated)

theorem waits_before (alone : Alone since world index) (move : Move action world later) {scan : Scan T}
    (held : world.scans[index]? = some scan) (said : scan.exhausted = true) {adapter : AdapterId}
    (waits : later.lookup.waiting adapter ≠ []) : world.lookup.waiting adapter ≠ [] := by
  obtain ⟨cause, step, _, asked, _⟩ := step_of_move move
  obtain ⟨entry, member⟩ := List.exists_mem_of_ne_nil _ waits
  rcases BatchLookup.waiting_step step member with earlier | ⟨fresh, _⟩
  · exact List.ne_nil_of_mem earlier
  · obtain ⟨place, other, row, rest, at_place, scanning, next⟩ := asked _ _ fresh
    have active := (active_of_row alone.sound at_place scanning next).2
    exact absurd active (only_live alone.sound alone.quiet held said)

theorem alone_move (alone : Alone since world index) (move : Move action world later)
    (pulls : ∀ other, action = .pull other → other ≠ index → since.Begun other) : Alone since later index := by
  have sound := sound_move alone.sound move
  have quiet := quiet_move alone move pulls
  refine ⟨sound, ?_, quiet, ?_⟩
  · intro other was
    obtain ⟨scan, held, initiated⟩ := alone.begun other was
    obtain ⟨fresh, now⟩ := stays_move move held
    exact ⟨fresh, now, (follows_move move held now).initiated initiated⟩
  · obtain ⟨scan, held, owing⟩ := alone.flushes
    obtain ⟨fresh, now⟩ := stays_move move held
    refine ⟨fresh, now, fun said adapter waits => ?_⟩
    have nobody := only_live sound quiet now said
    rcases place_move move held now with ⟨label, same, turn⟩ | ⟨_, exhausted, kept⟩
    · have owed : 0 < world.lookup.active ∨ scan.phase.owes adapter := by
        cases before : scan.exhausted with
        | true => exact .inr (owing before adapter (waits_before alone move held before waits))
        | false =>
            have counted := Scan.counts_of_exhausted (held_sound alone.sound held) turn before said
            exact .inl (Nat.lt_of_lt_of_le (counted ▸ Nat.zero_lt_one) (counts_within alone.sound held))
      exact (Scan.owed_turn (held_sound alone.sound held) turn (counts_within alone.sound held) waits owed).resolve_left
        nobody
    · have before : scan.exhausted = true := exhausted.symm.trans said
      exact kept adapter (owing before adapter (waits_before alone move held before waits))

theorem alone_run (alone : Alone since world index) {acts : List (Act T)} (ran : world.run acts = some later)
    (pulls : ∀ other, Act.pull other ∈ acts → other ≠ index → since.Begun other) : Alone since later index := by
  induction acts generalizing world with
  | nil => cases ran; exact alone
  | cons action rest step =>
      obtain ⟨between, taken, ran⟩ := Option.bind_eq_some_iff.mp ((run_cons world action rest).symm.trans ran)
      have next := alone_move alone (move_of_act taken)
        (fun other pulled => pulls other (pulled ▸ List.mem_cons_self))
      exact step next ran (fun other pulled => pulls other (List.mem_cons_of_mem _ pulled))

theorem nothing_waits_alone (alone : Alone since world index) {scan : Scan T} (held : world.scans[index]? = some scan)
    (receiving : scan.phase = .receiving) (adapter : AdapterId) : world.lookup.waiting adapter = [] := by
  apply Classical.byContradiction
  intro waits
  obtain ⟨same, found, owing⟩ := alone.flushes
  cases held.symm.trans found
  have said : scan.exhausted = true := (held_sound alone.sound held).past (by rw [receiving]; rfl)
  have owes := owing said adapter waits
  rw [receiving] at owes
  exact owes

-- If nobody else asks for anything or flushes, nothing is pending when a scan waits for its queue; and the last live
-- scan leaves nothing pending when it comes to wait, as long as no other scan begins.
theorem never_stuck {stores : List (Adapters T)} {size : Nat} {params : Option Params} {acts : List (Act T)}
    (ran : (fresh stores size params).run acts = some world) :
    (∀ (index : Nat) (scan : Scan T), world.scans[index]? = some scan → scan.phase = .receiving →
      scan.queue ≠ [] ∨ world.queueClosed index scan = true ∨ world.Stirs
        ∨ ∃ (other : Nat) (another : Scan T), other ≠ index ∧ world.scans[other]? = some another ∧ another.live = true)
    ∧ (∀ (index : Nat) (scan : Scan T), world.scans[index]? = some scan → scan.phase = .receiving →
      world.QuietBut index →
      (∀ (other : Nat) (another : Scan T), other ≠ index → world.scans[other]? = some another →
        another.phase.flushes = false) →
      ∀ adapter, world.lookup.waiting adapter = [])
    ∧ ∀ (index : Nat) (scan : Scan T), world.scans[index]? = some scan → scan.live = true → world.QuietBut index →
      ∀ (more : List (Act T)) (later : World T), world.run more = some later →
        (∀ other, Act.pull other ∈ more → other ≠ index → world.Begun other) →
        ∀ now : Scan T, later.scans[index]? = some now → now.phase = .receiving →
          ∀ adapter, later.lookup.waiting adapter = [] := by
  have sound : world.Sound := sound_run (sound_fresh stores size params) ran
  refine ⟨fun index scan held receiving => stirs_of_receiving sound held receiving,
    fun index scan held receiving quiet settled => nothing_waits sound held receiving quiet settled, ?_⟩
  intro index scan held live quiet more later ran_on pulls now at_last receiving
  have unsaid : scan.exhausted = false := ((Scan.live_iff scan).mp live).2.1
  have alone : Alone world world index :=
    ⟨sound, fun _ => id, quiet, scan, held, fun said => absurd (unsaid.symm.trans said) Bool.false_ne_true⟩
  exact nothing_waits_alone (alone_run alone ran_on pulls) at_last receiving

-- Decodes a row to the number of its values.
def counting : Adapter Nat := ⟨7, "counting", fun _ => none, fun _ values => .value values.length⟩

theorem never_stuck_alone :
    ∃ (world : World Nat) (scan : Scan Nat), (fresh [Adapters.ofList [counting]] 2 none).run
        [.start 0 [] [some (.thin [] [] [1] 7)] 1, .pull 0, .advance 0, .advance 0, .advance 0, .advance 0,
          .flushNext 0 7, .advance 0] = some world
      ∧ world.scans[0]? = some scan ∧ scan.phase = .receiving
      ∧ (scan.queue ≠ [] ∨ world.queueClosed 0 scan = true ∨ world.Stirs
        ∨ ∃ (other : Nat) (another : Scan Nat), other ≠ 0 ∧ world.scans[other]? = some another ∧ another.live = true)
      ∧ world.lookup.waiting 7 = [] := by
  obtain ⟨served, sent, _⟩ := @never_stuck Nat _ [Adapters.ofList [counting]] 2 none
    [.start 0 [] [some (.thin [] [] [1] 7)] 1, .pull 0, .advance 0, .advance 0, .advance 0, .advance 0, .flushNext 0 7,
      .advance 0] rfl
  have alone {other : Nat} {another : Scan Nat} {scan : Scan Nat} (elsewhere : other ≠ 0)
      (found : [scan][other]? = some another) : False := by
    cases other with
    | zero => exact elsewhere rfl
    | succ other => cases found
  exact ⟨_, _, rfl, rfl, rfl, served 0 _ rfl rfl,
    sent 0 _ rfl rfl (fun _ _ elsewhere found => (alone elsewhere found).elim)
      (fun _ _ elsewhere found => (alone elsewhere found).elim) 7⟩

end World

end ThinScan
