import ThinScan.Proofs.Custody
import ThinScan.Proofs.Moves
import ThinScan.Work

/-!
A scan's flags agree with its phase; the lookup counts just the scans that may still ask for something; and whatever
waits has somebody to flush it.
-/

set_option autoImplicit false

namespace ThinScan

variable {T : Type}

namespace Phase

def pulling : Phase T → Bool
  | scanning => true
  | deferring _ _ _ => true
  | flushing _ => true
  | receiving => true
  | _ => false

def past : Phase T → Bool
  | flushing _ => true
  | receiving => true
  | closing _ => true
  | _ => false

def closes : Phase T → Bool
  | closing _ => true
  | _ => false

def owes (adapter : AdapterId) : Phase T → Prop
  | flushing none => True
  | flushing (some left) => adapter ∈ left
  | closing none => True
  | closing (some left) => adapter ∈ left
  | _ => False

end Phase

namespace Scan

structure Sound (scan : Scan T) : Prop where
  room : 0 < scan.capacity
  pulled : scan.phase.pulling = true →
    scan.initiated = true ∧ scan.dropped = false ∧ scan.lookahead = none ∧ scan.finished = false
  past : scan.phase.past = true → scan.exhausted = true
  counted : scan.exhausted = true → scan.initiated = true
  spent : scan.exhausted = true → scan.dropped = false → scan.phase.closes = false → scan.source = []
  stopped : scan.finished = true →
    scan.exhausted = true ∧ scan.phase = .idle ∧ scan.queue = [] ∧ scan.lookahead = none ∧ scan.source = []
  gone : scan.dropped = true → scan.phase = .idle ∧ (scan.initiated = true → scan.exhausted = true)

theorem sound_start (store : Nat) (filters : List Filter) (source : Source) (capacity : Nat) :
    (start store filters source capacity : Scan T).Sound := by
  refine ⟨Nat.lt_of_lt_of_le Nat.zero_lt_one (Nat.le_max_right _ _), ?_, ?_, ?_, ?_, ?_, ?_⟩ <;>
    (intro impossible; cases impossible)

theorem sound_pulling {scan : Scan T} (room : 0 < scan.capacity) (counted : scan.initiated = true)
    (free : scan.dropped = false) (nothing : scan.lookahead = none) (unfinished : scan.finished = false)
    (past : scan.phase.past = true → scan.exhausted = true)
    (spent : scan.exhausted = true → scan.source = []) : scan.Sound := by
  refine ⟨room, fun _ => ⟨counted, free, nothing, unfinished⟩, past, fun _ => counted, fun said _ _ => spent said, ?_, ?_⟩
  · intro finished
    rw [unfinished] at finished
    cases finished
  · intro dropped
    rw [free] at dropped
    cases dropped

theorem sound_idle {scan : Scan T} (room : 0 < scan.capacity) (idle : scan.phase = .idle)
    (counted : scan.exhausted = true → scan.initiated = true)
    (spent : scan.exhausted = true → scan.dropped = false → scan.source = [])
    (stopped : scan.finished = true → scan.exhausted = true ∧ scan.queue = [] ∧ scan.lookahead = none ∧ scan.source = [])
    (gone : scan.dropped = true → scan.initiated = true → scan.exhausted = true) : scan.Sound := by
  refine ⟨room, ?_, ?_, counted, fun said free _ => spent said free, ?_, fun dropped => ⟨idle, gone dropped⟩⟩
  · intro pull
    rw [idle] at pull
    cases pull
  · intro past
    rw [idle] at past
    cases past
  · intro finished
    obtain ⟨said, empty, nothing, ended⟩ := stopped finished
    exact ⟨said, idle, empty, nothing, ended⟩

theorem sound_closing {scan : Scan T} {left : Flush} (room : 0 < scan.capacity) (closing : scan.phase = .closing left)
    (counted : scan.initiated = true) (said : scan.exhausted = true) (free : scan.dropped = false)
    (unfinished : scan.finished = false) : scan.Sound := by
  refine ⟨room, ?_, fun _ => said, fun _ => counted, ?_, ?_, ?_⟩
  · intro pull
    rw [closing] at pull
    cases pull
  · intro _ _ open_
    rw [closing] at open_
    cases open_
  · intro finished
    rw [unfinished] at finished
    cases finished
  · intro dropped
    rw [free] at dropped
    cases dropped

theorem sound_search {scan : Scan T} {source : Source} {phase : Phase T} (sound : scan.Sound)
    (pull : scan.phase.pulling = true) (spent : scan.exhausted = true → source = []) (outstanding : Nat)
    (searches : phase.past = false) :
    ({ scan with source := source, outstanding := outstanding, phase := phase } : Scan T).Sound := by
  obtain ⟨counted, free, nothing, unfinished⟩ := sound.pulled pull
  exact sound_pulling sound.room counted free nothing unfinished
    (fun past => absurd (searches.symm.trans past) Bool.false_ne_true) spent

theorem sound_found {scan : Scan T} {source : Source} {queue : List T} (sound : scan.Sound)
    (pull : scan.phase.pulling = true) (spent : scan.exhausted = true → source = []) (ready : Option T) :
    ({ scan with source := source, queue := queue, lookahead := ready, phase := .idle } : Scan T).Sound := by
  obtain ⟨counted, free, nothing, unfinished⟩ := sound.pulled pull
  exact sound_idle sound.room rfl sound.counted (fun said _ => spent said)
    (fun finished => absurd (unfinished.symm.trans finished) Bool.false_ne_true)
    (fun dropped => absurd (free.symm.trans dropped) Bool.false_ne_true)

theorem sound_flushing {scan : Scan T} {stage : Flush → Phase T} {left : Flush} (sound : scan.Sound)
    (flush : stage = .flushing ∨ stage = .closing) (under_way : scan.phase = stage left) (next : Flush) :
    ({ scan with phase := stage next } : Scan T).Sound := by
  have past : scan.exhausted = true := sound.past (by rcases flush with rfl | rfl <;> (rw [under_way]; rfl))
  rcases flush with rfl | rfl
  · obtain ⟨counted, free, nothing, unfinished⟩ := sound.pulled (by rw [under_way]; rfl)
    exact sound_pulling sound.room counted free nothing unfinished (fun _ => past)
      (fun said => sound.spent said free (by rw [under_way]; rfl))
  · have busy : scan.phase ≠ .idle := by simp [under_way]
    refine sound_closing sound.room rfl (sound.counted past) past ?_ ?_
    · exact Bool.eq_false_iff.mpr (fun dropped => busy (sound.gone dropped).1)
    · exact Bool.eq_false_iff.mpr (fun finished => busy (sound.stopped finished).2.1)

theorem sound_begin {scan : Scan T} (sound : scan.Sound) (free : scan.dropped = false) (idle : scan.phase = .idle) :
    scan.begin.Sound := by
  have spent (said : scan.exhausted = true) : scan.source = [] := sound.spent said free (by rw [idle]; rfl)
  have stays (dropped : scan.dropped = true) : scan.initiated = true → scan.exhausted = true := (sound.gone dropped).2
  rcases begin_cases scan with ⟨_, same⟩ | ⟨nothing, unfinished, value, rest, queued, next⟩
    | ⟨nothing, unfinished, empty, turned⟩
  · rw [same]
    refine sound_idle sound.room idle (fun _ => rfl) (fun said _ => spent said) ?_ ?_
    · intro finished
      obtain ⟨said, _, empty, nothing, ended⟩ := sound.stopped finished
      exact ⟨said, empty, nothing, ended⟩
    · intro dropped
      rw [free] at dropped
      cases dropped
  · rw [next]
    refine sound_idle sound.room idle (fun _ => rfl) (fun said _ => spent said) ?_ ?_
    · intro finished
      rw [unfinished] at finished
      cases finished
    · intro dropped
      rw [free] at dropped
      cases dropped
  · rw [turned]
    exact sound_pulling sound.room rfl free nothing unfinished (fun past => absurd past Bool.false_ne_true) spent

theorem sound_closed {scan : Scan T} (sound : scan.Sound) (settled : scan.initiated = true → scan.exhausted = true) :
    scan.closed.Sound := by
  refine sound_idle sound.room rfl sound.counted (fun _ free => absurd free.symm Bool.false_ne_true) ?_ (fun _ => settled)
  intro finished
  obtain ⟨said, _, _, _, ended⟩ := sound.stopped finished
  exact ⟨said, rfl, rfl, ended⟩

theorem sound_turn {label : Nat → Act T} {lookup after : BatchLookup} {scan fresh : Scan T} (sound : scan.Sound)
    (turn : scan.Turn label lookup after fresh) : fresh.Sound := by
  cases turn with
  | enter free idle uncounted => exact sound_begin sound free idle
  | resume free idle counted => exact sound_begin sound free idle
  | reach scanning rowless said =>
      obtain ⟨counted, free, nothing, unfinished⟩ := sound.pulled (by rw [scanning]; rfl)
      exact sound_pulling sound.room counted free nothing unfinished (fun _ => said) (fun _ => rfl)
  | exhaust scanning rowless unsaid =>
      obtain ⟨counted, free, nothing, unfinished⟩ := sound.pulled (by rw [scanning]; rfl)
      exact sound_pulling sound.room counted free nothing unfinished (fun _ => rfl) (fun _ => rfl)
  | list flush unlisted => exact sound_flushing sound flush unlisted _
  | flush flush listed member => exact sound_flushing sound flush listed _
  | await through =>
      obtain ⟨counted, free, nothing, unfinished⟩ := sound.pulled (by rw [through]; rfl)
      have said : scan.exhausted = true := sound.past (by rw [through]; rfl)
      exact sound_pulling sound.room counted free nothing unfinished (fun _ => said)
        (fun _ => sound.spent said free (by rw [through]; rfl))
  | close through =>
      have said : scan.exhausted = true := sound.past (by rw [through]; rfl)
      exact sound_closed sound (fun _ => said)
  | receive receiving queued =>
      have pull : scan.phase.pulling = true := by rw [receiving]; rfl
      exact sound_found sound pull (fun said => sound.spent said (sound.pulled pull).2.1 (by rw [receiving]; rfl)) _
  | take free idle ready =>
      refine sound_idle sound.room idle sound.counted ?_ ?_ ?_
      · exact fun said _ => sound.spent said free (by rw [idle]; rfl)
      · intro finished
        obtain ⟨said, _, empty, nothing, ended⟩ := sound.stopped finished
        exact ⟨said, empty, rfl, ended⟩
      · intro dropped
        rw [free] at dropped
        cases dropped
  | leave free idle settled => exact sound_closed sound settled
  | abandon free idle counted unsaid others =>
      refine sound_idle sound.room rfl (fun _ => counted) (fun _ free => absurd free.symm Bool.false_ne_true) ?_ (fun _ _ => rfl)
      intro finished
      obtain ⟨_, _, _, _, ended⟩ := sound.stopped finished
      exact ⟨rfl, rfl, rfl, ended⟩
  | abandonLast free idle counted unsaid last =>
      refine sound_closing sound.room rfl counted rfl free ?_
      refine Bool.eq_false_iff.mpr (fun finished => ?_)
      rw [(sound.stopped finished).1] at unsaid
      cases unsaid

def counts (scan : Scan T) : Nat := if scan.initiated && !scan.exhausted then 1 else 0

theorem counts_of_flags {scan fresh : Scan T} (initiated : fresh.initiated = scan.initiated)
    (exhausted : fresh.exhausted = scan.exhausted) : fresh.counts = scan.counts := by
  rw [counts, counts, initiated, exhausted]

theorem counts_one {scan : Scan T} (initiated : scan.initiated = true) (unsaid : scan.exhausted = false) :
    scan.counts = 1 := by
  rw [counts, initiated, unsaid]
  rfl

theorem counts_zero {scan : Scan T} (said : scan.exhausted = true) : scan.counts = 0 := by
  rw [counts, said, Bool.not_true, Bool.and_false]
  rfl

section Turns

variable {label : Nat → Act T} {lookup after : BatchLookup} {scan fresh : Scan T}

theorem step_of_turn (turn : scan.Turn label lookup after fresh) :
    ∃ cause, BatchLookup.Step cause lookup after ∧ (∀ index fetched, cause ≠ .answered index fetched)
      ∧ (∀ adapter key, cause ≠ .asked adapter key) ∧ ∀ adapter, cause = .flushed adapter → scan.phase.past = true := by
  cases turn with
  | enter => exact ⟨.other, BatchLookup.initiate_step _, nofun, nofun, nofun⟩
  | exhaust => exact ⟨.other, BatchLookup.retire_step _, nofun, nofun, nofun⟩
  | @flush _ _ stage adapter left flush listed =>
      have past : scan.phase.past = true := by rcases flush with rfl | rfl <;> (rw [listed]; rfl)
      exact ⟨.flushed adapter, .flush adapter, nofun, nofun, fun _ _ => past⟩
  | abandon => exact ⟨.other, BatchLookup.retire_step _, nofun, nofun, nofun⟩
  | abandonLast => exact ⟨.other, BatchLookup.retire_step _, nofun, nofun, nofun⟩
  | _ => exact ⟨.other, .refl _, nofun, nofun, nofun⟩

theorem unasked_turn (turn : scan.Turn label lookup after fresh) (row : Row) (adapter : Adapter T) (request : RequestId) :
    fresh.phase ≠ .deferring row adapter request := by
  have begins (idle : scan.phase = .idle) : scan.begin.phase ≠ .deferring row adapter request := by
    rcases begin_cases scan with ⟨_, same⟩ | ⟨_, _, _, _, _, next⟩ | ⟨_, _, _, turned⟩
    · rw [same, idle]
      simp
    · rw [next, idle]
      simp
    · rw [turned]
      simp
  cases turn with
  | enter free idle uncounted => exact begins idle
  | resume free idle counted => exact begins idle
  | exhaust scanning rowless unsaid => cases lookup.retire.1 <;> simp
  | list flush unlisted => rcases flush with rfl | rfl <;> simp
  | flush flush listed member => rcases flush with rfl | rfl <;> simp
  | take free idle ready => rw [idle]; simp
  | _ => simp [closed]

theorem finished_turn (turn : scan.Turn label lookup after fresh) : fresh.finished = scan.finished := by
  cases turn with
  | enter => exact finished_begin scan
  | resume => exact finished_begin scan
  | _ => rfl

theorem counted_turn (sound : scan.Sound) (turn : scan.Turn label lookup after fresh)
    (within : scan.counts ≤ lookup.active) : after.active + scan.counts = lookup.active + fresh.counts := by
  have retired (initiated : scan.initiated = true) (unsaid : scan.exhausted = false) {ended : Scan T}
      (said : ended.exhausted = true) : lookup.retire.2.active + scan.counts = lookup.active + ended.counts := by
    have one := counts_one initiated unsaid
    rw [one, counts_zero said]
    exact (BatchLookup.retire_counted (Nat.le_trans (Nat.le_of_eq one.symm) within)).1
  cases turn with
  | enter free idle uncounted =>
      have unsaid : scan.exhausted = false :=
        Bool.eq_false_iff.mpr (fun said => Bool.false_ne_true (uncounted.symm.trans (sound.counted said)))
      have before : scan.counts = 0 := by
        rw [counts, uncounted]
        rfl
      have now : scan.begin.counts = 1 := counts_one (initiated_begin scan) ((exhausted_begin scan).trans unsaid)
      rw [before, now]
      rfl
  | resume free idle counted =>
      rw [counts_of_flags ((initiated_begin scan).trans counted.symm) (exhausted_begin scan)]
  | exhaust scanning rowless unsaid =>
      exact retired (sound.pulled (by rw [scanning]; rfl)).1 unsaid rfl
  | flush flush listed member => rw [BatchLookup.active_flushAdapter]; rfl
  | abandon free idle counted unsaid others => exact retired counted unsaid rfl
  | abandonLast free idle counted unsaid last => exact retired counted unsaid rfl
  | _ => rfl

theorem owed_turn (sound : scan.Sound) (turn : scan.Turn label lookup after fresh)
    (within : scan.counts ≤ lookup.active) {adapter : AdapterId} (waits : after.waiting adapter ≠ [])
    (owed : 0 < lookup.active ∨ scan.phase.owes adapter) : 0 < after.active ∨ fresh.phase.owes adapter := by
  have counted (initiated : scan.initiated = true) (unsaid : scan.exhausted = false) : 0 < lookup.active :=
    Nat.le_trans (Nat.le_of_eq (counts_one initiated unsaid).symm) within
  have passive {phase : Phase T} (here : scan.phase = phase) (frees : ¬ phase.owes adapter) : 0 < lookup.active :=
    owed.resolve_right (fun owes => frees (here ▸ owes))
  cases turn with
  | enter free idle uncounted => exact .inl (Nat.succ_pos _)
  | resume free idle counted => exact .inl (passive idle (fun owes => owes))
  | reach scanning rowless said => exact .inl (passive scanning (fun owes => owes))
  | exhaust scanning rowless unsaid =>
      have retired := BatchLookup.retire_counted (counted (sound.pulled (by rw [scanning]; rfl)).1 unsaid)
      by_cases last : lookup.retire.1 = true
      · right
        simp only [if_pos last]
        trivial
      · left
        have several := mt retired.2.mpr last
        omega
  | @list _ _ stage flush unlisted =>
      have listed : adapter ∈ lookup.pending.keys := by
        obtain ⟨entries, found⟩ : ∃ entries, lookup.pending.find? adapter = some entries := by
          apply Option.ne_none_iff_exists'.mp
          intro absent
          exact waits (by rw [BatchLookup.waiting, absent]; rfl)
        exact Table.key_of_find found
      rcases flush with rfl | rfl <;> exact .inr listed
  | @flush _ _ stage flushed left flush listed member =>
      rw [BatchLookup.active_flushAdapter]
      rw [BatchLookup.waiting_flushAdapter] at waits
      refine owed.imp_right (fun owes => ?_)
      split at waits
      · exact absurd rfl waits
      · rename_i different
        rcases flush with rfl | rfl <;>
          (rw [listed] at owes; exact (List.mem_erase_of_ne (Ne.symm different)).mpr owes)
  | await through => exact .inl (passive through List.not_mem_nil)
  | close through => exact .inl (passive through List.not_mem_nil)
  | receive receiving queued => exact .inl (passive receiving (fun owes => owes))
  | take free idle ready => exact .inl (passive idle (fun owes => owes))
  | leave free idle settled => exact .inl (passive idle (fun owes => owes))
  | abandon free idle initiated unsaid others =>
      have retired := BatchLookup.retire_counted (counted initiated unsaid)
      have several := mt retired.2.mpr (Bool.eq_false_iff.mp others)
      left
      omega
  | abandonLast free idle initiated unsaid last => exact .inr trivial

end Turns

end Scan

namespace World

variable {world later : World T} {action : Act T}

structure Sound (world : World T) : Prop where
  scans : ∀ scan ∈ world.scans, scan.Sound
  custody : world.lookup.Custody
  counted : world.lookup.active = Work.total Scan.counts world.scans
  asked : ∀ scan ∈ world.scans, ∀ row adapter request, scan.phase = .deferring row adapter request →
    request < world.lookup.requests
  owned : ∀ task ∈ world.tasks, task.scan < world.scans.length ∧ task.request < world.lookup.requests
  ended : ∀ task ∈ world.tasks, ∀ scan, world.scans[task.scan]? = some scan → scan.finished = true → task.isLive = false
  owed : ∀ adapter, world.lookup.waiting adapter ≠ [] →
    0 < world.lookup.active ∨ ∃ (index : Nat) (scan : Scan T), world.scans[index]? = some scan ∧ scan.phase.owes adapter

theorem step_of_move (move : Move action world later) :
    ∃ cause, BatchLookup.Step cause world.lookup later.lookup
      ∧ (∀ index fetched, cause = .answered index fetched → action = .complete index fetched)
      ∧ (∀ adapter key, cause = .asked adapter key → ∃ (index : Nat) (scan : Scan T) (row : Row) (rest : Source),
        world.scans[index]? = some scan ∧ scan.phase = .scanning ∧ scan.source = some row :: rest)
      ∧ ∀ adapter, cause = .flushed adapter → action = .flushAdapter adapter
        ∨ ∃ (index : Nat) (scan : Scan T), world.scans[index]? = some scan ∧ scan.phase.past = true := by
  cases move with
  | @turn _ label index scan fresh lookup held turn =>
      obtain ⟨cause, step, unanswered, unasked, flushes⟩ := Scan.step_of_turn turn
      exact ⟨cause, step, fun index fetched same => absurd same (unanswered index fetched),
        fun adapter key same => absurd same (unasked adapter key),
        fun adapter same => .inr ⟨index, scan, held, flushes adapter same⟩⟩
  | @defer _ index scan row rest adapter held scanning next verdict =>
      refine ⟨_, BatchLookup.request_step world.lookup row.adapter row.dataId, ?_, ?_, ?_⟩
      · intro batch fetched same
        rw [BatchLookup.requestCause] at same
        split at same <;> cases same
      · exact fun _ _ _ => ⟨index, scan, row, rest, held, scanning, next⟩
      · intro flushed same
        rw [BatchLookup.requestCause] at same
        split at same <;> cases same
  | flush adapter =>
      refine ⟨_, .flush adapter, by simp, by simp, ?_⟩
      intro flushed same
      cases same
      exact .inl rfl
  | complete taken =>
      refine ⟨_, BatchLookup.complete_step taken, ?_, by simp, by simp⟩
      intro index fetched same
      cases same
      rfl
  | reply taken => exact ⟨_, BatchLookup.reply_step taken, by simp, by simp, by simp⟩
  | caught held deferring settled decoded => exact ⟨_, BatchLookup.look_step settled, by simp, by simp, by simp⟩
  | missed events held deferring settled phases worthless =>
      exact ⟨_, BatchLookup.look_step settled, by simp, by simp, by simp⟩
  | wake events held waiting settled => exact ⟨_, BatchLookup.look_step settled, by simp, by simp, by simp⟩
  | _ => exact ⟨_, .refl _, by simp, by simp, by simp⟩

theorem custody_move (sound : world.Sound) (move : Move action world later) : later.lookup.Custody := by
  obtain ⟨cause, step, _⟩ := step_of_move move
  exact BatchLookup.custody_step sound.custody step

theorem requests_move (move : Move action world later) : world.lookup.requests ≤ later.lookup.requests := by
  obtain ⟨cause, step, _⟩ := step_of_move move
  rw [BatchLookup.requests_step step]
  exact Nat.le_add_right _ _

theorem held_sound (sound : world.Sound) {index : Nat} {scan : Scan T} (held : world.scans[index]? = some scan) :
    scan.Sound := sound.scans scan (List.mem_of_getElem? held)

theorem counts_within (sound : world.Sound) {index : Nat} {scan : Scan T} (held : world.scans[index]? = some scan) :
    scan.counts ≤ world.lookup.active := by
  have erased := Work.total_eraseIdx Scan.counts world.scans index scan held
  rw [sound.counted]
  omega

theorem active_of_row (sound : world.Sound) {index : Nat} {scan : Scan T} {row : Row} {rest : Source}
    (held : world.scans[index]? = some scan) (scanning : scan.phase = .scanning) (next : scan.source = some row :: rest) :
    scan.exhausted = false ∧ 0 < world.lookup.active := by
  have scan_sound := held_sound sound held
  obtain ⟨counted, free, _, _⟩ := scan_sound.pulled (by rw [scanning]; rfl)
  have unsaid : scan.exhausted = false := by
    refine Bool.eq_false_iff.mpr (fun said => ?_)
    have spent := scan_sound.spent said free (by rw [scanning]; rfl)
    rw [next] at spent
    cases spent
  exact ⟨unsaid, Nat.le_trans (Nat.le_of_eq (Scan.counts_one counted unsaid).symm) (counts_within sound held)⟩

theorem unfinished_of_live (sound : world.Sound) {index : Nat} {task : Task T} {scan : Scan T}
    (held : world.tasks[index]? = some task) (owner : world.scans[task.scan]? = some scan) (live : task.isLive = true) :
    scan.finished = false := by
  refine Bool.eq_false_iff.mpr (fun finished => ?_)
  rw [sound.ended task (List.mem_of_getElem? held) scan owner finished] at live
  cases live

theorem scans_move (sound : world.Sound) (move : Move action world later) : ∀ scan ∈ later.scans, scan.Sound := by
  have searching {scan : Scan T} (scanning : scan.phase = .scanning) : scan.phase.pulling = true := by rw [scanning]; rfl
  have asking {scan : Scan T} {row : Row} {adapter : Adapter T} {request : RequestId}
      (deferring : scan.phase = .deferring row adapter request) : scan.phase.pulling = true := by rw [deferring]; rfl
  have unsaid {index : Nat} {scan : Scan T} {row : Row} {rest : Source} (held : world.scans[index]? = some scan)
      (scanning : scan.phase = .scanning) (next : scan.source = some row :: rest) (said : scan.exhausted = true) :
      rest = [] := absurd ((active_of_row sound held scanning next).1.symm.trans said) Bool.false_ne_true
  have spent {index : Nat} {scan : Scan T} {row : Row} {adapter : Adapter T} {request : RequestId}
      (held : world.scans[index]? = some scan) (deferring : scan.phase = .deferring row adapter request)
      (said : scan.exhausted = true) : scan.source = [] := by
    have scan_sound := held_sound sound held
    exact scan_sound.spent said (scan_sound.pulled (asking deferring)).2.1 (by rw [deferring]; rfl)
  cases move with
  | start store filters source capacity =>
      intro scan member
      rcases List.mem_append.mp member with before | fresh
      · exact sound.scans scan before
      · rw [List.mem_singleton.mp fresh]
        exact Scan.sound_start store filters source capacity
  | turn held turn => exact forall_set sound.scans (Scan.sound_turn (held_sound sound held) turn)
  | @skip _ _ scan _ _ _ events held scanning next phases undeferred worthless =>
      have scan_sound := held_sound sound held
      apply forall_set sound.scans
      rcases phases with rfl | rfl
      · exact Scan.sound_search scan_sound (searching scanning) (unsaid held scanning next) scan.outstanding rfl
      · exact Scan.sound_found scan_sound (searching scanning) (unsaid held scanning next) scan.lookahead
  | own held scanning next verdict decoded =>
      apply forall_set sound.scans
      exact Scan.sound_found (held_sound sound held) (searching scanning) (unsaid held scanning next) _
  | @defer _ _ scan _ _ _ held scanning next verdict =>
      apply forall_set sound.scans
      exact Scan.sound_search (held_sound sound held) (searching scanning) (unsaid held scanning next) scan.outstanding rfl
  | caught held deferring settled decoded =>
      apply forall_set sound.scans
      exact Scan.sound_found (held_sound sound held) (asking deferring) (spent held deferring) _
  | @missed _ _ scan _ _ _ _ _ _ events held deferring settled phases worthless =>
      have scan_sound := held_sound sound held
      apply forall_set sound.scans
      rcases phases with rfl | rfl
      · exact Scan.sound_search scan_sound (asking deferring) (spent held deferring) scan.outstanding rfl
      · exact Scan.sound_found scan_sound (asking deferring) (spent held deferring) scan.lookahead
  | spawn held deferring =>
      apply forall_set sound.scans
      exact Scan.sound_search (held_sound sound held) (asking deferring) (spent held deferring) _ rfl
  | finished events held receiving empty closed =>
      have scan_sound := held_sound sound held
      obtain ⟨counted, free, nothing, unfinished⟩ := scan_sound.pulled (by rw [receiving]; rfl)
      have said : _ = true := scan_sound.past (by rw [receiving]; rfl)
      have spent := scan_sound.spent said free (by rw [receiving]; rfl)
      apply forall_set sound.scans
      exact Scan.sound_idle scan_sound.room rfl scan_sound.counted (fun _ _ => spent)
        (fun _ => ⟨said, empty, nothing, spent⟩) (fun dropped => absurd (free.symm.trans dropped) Bool.false_ne_true)
  | send held owner sending free room =>
      have scan_sound := held_sound sound owner
      have unfinished := unfinished_of_live sound held owner (by rw [Task.isLive, sending])
      apply forall_set sound.scans
      exact ⟨scan_sound.room, scan_sound.pulled, scan_sound.past, scan_sound.counted, scan_sound.spent,
        fun finished => absurd (unfinished.symm.trans finished) Bool.false_ne_true, scan_sound.gone⟩
  | finish held owner ending =>
      have scan_sound := held_sound sound owner
      apply forall_set sound.scans
      exact ⟨scan_sound.room, scan_sound.pulled, scan_sound.past, scan_sound.counted, scan_sound.spent,
        scan_sound.stopped, scan_sound.gone⟩
  | _ => exact sound.scans

theorem counted_set {index : Nat} {scan fresh : Scan T} (sound : world.Sound)
    (held : world.scans[index]? = some scan) (scans : later.scans = world.scans.set index fresh)
    (moved : later.lookup.active + scan.counts = world.lookup.active + fresh.counts) :
    later.lookup.active = Work.total Scan.counts later.scans := by
  have exchanged := Work.total_set Scan.counts world.scans index scan fresh held
  have counted := sound.counted
  rw [scans]
  omega

theorem counted_move (sound : world.Sound) (move : Move action world later) :
    later.lookup.active = Work.total Scan.counts later.scans := by
  cases move with
  | start store filters source capacity =>
      rw [Work.total_append]
      exact sound.counted
  | turn held turn =>
      exact counted_set sound held rfl (Scan.counted_turn (held_sound sound held) turn (counts_within sound held))
  | skip events held scanning next phases undeferred worthless => exact counted_set sound held rfl rfl
  | own held scanning next verdict decoded => exact counted_set sound held rfl rfl
  | defer held scanning next verdict => exact counted_set sound held rfl (congrArg (· + _) (BatchLookup.active_request _ _ _))
  | caught held deferring settled decoded =>
      exact counted_set sound held rfl (congrArg (· + _) (BatchLookup.kept_look settled).1)
  | missed events held deferring settled phases worthless =>
      exact counted_set sound held rfl (congrArg (· + _) (BatchLookup.kept_look settled).1)
  | spawn held deferring => exact counted_set sound held rfl rfl
  | finished events held receiving empty closed => exact counted_set sound held rfl rfl
  | flush adapter => exact (BatchLookup.active_flushAdapter _ adapter).trans sound.counted
  | complete taken => exact (BatchLookup.kept_complete taken).1.trans sound.counted
  | reply taken => exact (BatchLookup.kept_reply taken).1.trans sound.counted
  | wake events held waiting settled => exact (BatchLookup.kept_look settled).1.trans sound.counted
  | send held owner sending free room => exact counted_set sound owner rfl rfl
  | finish held owner ending => exact counted_set sound owner rfl rfl
  | _ => exact sound.counted

theorem mem_moveTask {index : Nat} {successor : List (Task T)} {task : Task T}
    (member : task ∈ (world.moveTask index successor).tasks) : task ∈ world.tasks ∨ task ∈ successor :=
  (List.mem_append.mp member).imp_left List.mem_of_mem_eraseIdx

theorem task_move (sound : world.Sound) (move : Move action world later) : ∀ task ∈ later.tasks,
    (∃ earlier ∈ world.tasks, task.scan = earlier.scan ∧ task.request = earlier.request
      ∧ (earlier.isLive = false → task.isLive = false))
    ∨ (task.request < later.lookup.requests
      ∧ ∃ scan fresh, world.scans[task.scan]? = some scan ∧ scan.finished = false
        ∧ later.scans = world.scans.set task.scan fresh ∧ fresh.finished = false) := by
  intro task member
  have stays (before : task ∈ world.tasks) : ∃ earlier ∈ world.tasks, task.scan = earlier.scan
      ∧ task.request = earlier.request ∧ (earlier.isLive = false → task.isLive = false) :=
    ⟨task, before, rfl, rfl, id⟩
  have goes_on {index : Nat} {old : Task T} {stage : Stage T} (held : world.tasks[index]? = some old)
      (live : old.isLive = true) (there : task ∈ (world.moveTask index [{ old with stage := stage }]).tasks) :
      ∃ earlier ∈ world.tasks, task.scan = earlier.scan ∧ task.request = earlier.request
        ∧ (earlier.isLive = false → task.isLive = false) := by
    rcases mem_moveTask there with before | moved
    · exact stays before
    · rw [List.mem_singleton.mp moved]
      exact ⟨old, List.mem_of_getElem? held, rfl, rfl, fun dead => absurd (dead.symm.trans live) Bool.false_ne_true⟩
  cases move with
  | spawn held deferring =>
      rcases List.mem_append.mp member with before | fresh
      · exact .inl (stays before)
      · rw [List.mem_singleton.mp fresh]
        have unfinished := ((held_sound sound held).pulled (by rw [deferring]; rfl)).2.2.2
        have issued := sound.asked _ (List.mem_of_getElem? held) _ _ _ deferring
        exact .inr ⟨issued, _, _, held, unfinished, rfl, unfinished⟩
  | wake events held waiting settled => exact .inl (goes_on held (by rw [Task.isLive, waiting]) member)
  | send held owner sending free room => exact .inl (goes_on held (by rw [Task.isLive, sending]) member)
  | discard events held owner sending dropped => exact .inl (goes_on held (by rw [Task.isLive, sending]) member)
  | finish held owner ending => exact .inl (goes_on held (by rw [Task.isLive, ending]) member)
  | leave held leaving =>
      rcases mem_moveTask member with before | moved
      · exact .inl (stays before)
      · cases moved
  | _ => exact .inl (stays member)

theorem length_move (move : Move action world later) : world.scans.length ≤ later.scans.length := by
  rcases scans_of_move move with same | ⟨begun, started, _⟩ | ⟨place, scan, fresh, held, set⟩
  · exact Nat.le_of_eq (congrArg List.length same.symm)
  · rw [started, List.length_append]
    exact Nat.le_add_right _ _
  · exact Nat.le_of_eq (by rw [set, List.length_set])

theorem owned_move (sound : world.Sound) (move : Move action world later) :
    ∀ task ∈ later.tasks, task.scan < later.scans.length ∧ task.request < later.lookup.requests := by
  intro task member
  rcases task_move sound move task member with ⟨earlier, before, scan, request, _⟩ | ⟨issued, scan, _, held, _⟩
  · obtain ⟨known, issued⟩ := sound.owned earlier before
    rw [scan, request]
    exact ⟨Nat.lt_of_lt_of_le known (length_move move), Nat.lt_of_lt_of_le issued (requests_move move)⟩
  · obtain ⟨known, _⟩ := List.getElem?_eq_some_iff.mp held
    exact ⟨Nat.lt_of_lt_of_le known (length_move move), issued⟩

theorem finished_move (move : Move action world later) {index : Nat} {fresh : Scan T}
    (held : later.scans[index]? = some fresh) (finished : fresh.finished = true) :
    (∃ scan, world.scans[index]? = some scan ∧ scan.finished = true)
      ∨ (later.tasks = world.tasks ∧ ∀ task ∈ world.tasks, task.scan = index → task.isLive = false) := by
  have stays {place : Nat} {old new : Scan T} (at_place : world.scans[place]? = some old)
      (now : (world.scans.set place new)[index]? = some fresh) (same : new.finished = old.finished) :
      ∃ scan, world.scans[index]? = some scan ∧ scan.finished = true := by
    rw [set_at new at_place] at now
    split at now
    · rename_i here
      subst here
      cases now
      exact ⟨old, at_place, same ▸ finished⟩
    · exact ⟨fresh, now, finished⟩
  cases move with
  | start store filters source capacity =>
      rw [List.getElem?_append] at held
      split at held
      · exact .inl ⟨fresh, held, finished⟩
      · obtain rfl := List.mem_singleton.mp (List.mem_of_getElem? held)
        cases finished
  | turn at_place turn => exact .inl (stays at_place held (Scan.finished_turn turn))
  | skip events at_place scanning next phases undeferred worthless => exact .inl (stays at_place held rfl)
  | own at_place scanning next verdict decoded => exact .inl (stays at_place held rfl)
  | defer at_place scanning next verdict => exact .inl (stays at_place held rfl)
  | caught at_place deferring settled decoded => exact .inl (stays at_place held rfl)
  | missed events at_place deferring settled phases worthless => exact .inl (stays at_place held rfl)
  | spawn at_place deferring => exact .inl (stays at_place held rfl)
  | @finished _ place scan events at_place receiving empty closed =>
      by_cases here : place = index
      · subst here
        refine .inr ⟨rfl, fun task member owner => ?_⟩
        simp only [queueClosed, Bool.and_eq_true, Bool.not_eq_true', List.any_eq_false] at closed
        simpa [Task.holds, owner] using closed.2 task member
      · refine .inl ⟨fresh, ?_, finished⟩
        change (world.scans.set place _)[index]? = _ at held
        rwa [set_at _ at_place, if_neg here] at held
  | send at_task owner sending free room => exact .inl (stays owner held rfl)
  | finish at_task owner ending => exact .inl (stays owner held rfl)
  | _ => exact .inl ⟨fresh, held, finished⟩

theorem ended_move (sound : world.Sound) (move : Move action world later) : ∀ task ∈ later.tasks,
    ∀ scan, later.scans[task.scan]? = some scan → scan.finished = true → task.isLive = false := by
  intro task member fresh owner finished
  rcases finished_move move owner finished with ⟨scan, before, stopped⟩ | ⟨tasks, closed⟩
  · rcases task_move sound move task member with
      ⟨earlier, present, same, _, dead⟩ | ⟨_, other, _, held, unfinished, _⟩
    · exact dead (sound.ended earlier present scan (same ▸ before) stopped)
    · cases before.symm.trans held
      exact absurd (unfinished.symm.trans stopped) Bool.false_ne_true
  · exact closed task (tasks ▸ member) rfl

theorem owed_set {index : Nat} {scan fresh : Scan T} {adapter : AdapterId} (held : world.scans[index]? = some scan)
    (scans : later.scans = world.scans.set index fresh)
    (owed : 0 < world.lookup.active ∨ ∃ (place : Nat) (owing : Scan T), world.scans[place]? = some owing
      ∧ owing.phase.owes adapter)
    (passed : 0 < world.lookup.active ∨ scan.phase.owes adapter → 0 < later.lookup.active ∨ fresh.phase.owes adapter) :
    0 < later.lookup.active ∨ ∃ (place : Nat) (owing : Scan T), later.scans[place]? = some owing
      ∧ owing.phase.owes adapter := by
  have stands : later.scans[index]? = some fresh := by rw [scans, set_at fresh held, if_pos rfl]
  rcases owed with active | ⟨place, owing, at_place, owes⟩
  · exact (passed (.inl active)).imp_right (fun now => ⟨index, fresh, stands, now⟩)
  · by_cases here : index = place
    · subst here
      cases held.symm.trans at_place
      exact (passed (.inr owes)).imp_right (fun now => ⟨index, fresh, stands, now⟩)
    · refine .inr ⟨place, owing, ?_, owes⟩
      rw [scans, set_at fresh held, if_neg here]
      exact at_place

theorem owed_before (sound : world.Sound) (move : Move action world later) {adapter : AdapterId}
    (waits : later.lookup.waiting adapter ≠ []) :
    0 < world.lookup.active ∨ ∃ (place : Nat) (owing : Scan T), world.scans[place]? = some owing
      ∧ owing.phase.owes adapter := by
  obtain ⟨cause, step, _, asked, _⟩ := step_of_move move
  obtain ⟨entry, member⟩ := List.exists_mem_of_ne_nil _ waits
  rcases BatchLookup.waiting_step step member with earlier | ⟨fresh, _⟩
  · exact sound.owed adapter (List.ne_nil_of_mem earlier)
  · obtain ⟨index, scan, row, rest, held, scanning, next⟩ := asked _ _ fresh
    exact .inl (active_of_row sound held scanning next).2

theorem owed_move (sound : world.Sound) (move : Move action world later) (adapter : AdapterId)
    (waits : later.lookup.waiting adapter ≠ []) :
    0 < later.lookup.active ∨ ∃ (place : Nat) (owing : Scan T), later.scans[place]? = some owing
      ∧ owing.phase.owes adapter := by
  have owed := owed_before sound move waits
  have passive {phase : Phase T} {scan : Scan T} (here : scan.phase = phase) (frees : ¬ phase.owes adapter)
      (owing : 0 < world.lookup.active ∨ scan.phase.owes adapter) : 0 < world.lookup.active :=
    owing.resolve_right (fun owes => frees (here ▸ owes))
  cases move with
  | start store filters source capacity =>
      rcases owed with running | ⟨place, owing, at_place, owes⟩
      · exact .inl running
      · obtain ⟨bound, _⟩ := List.getElem?_eq_some_iff.mp at_place
        exact .inr ⟨place, owing, (List.getElem?_append_left bound).trans at_place, owes⟩
  | turn held turn =>
      exact owed_set held rfl owed
        (Scan.owed_turn (held_sound sound held) turn (counts_within sound held) waits)
  | skip events held scanning next phases undeferred worthless =>
      exact owed_set held rfl owed (fun owing => .inl (passive scanning id owing))
  | own held scanning next verdict decoded =>
      exact owed_set held rfl owed (fun owing => .inl (passive scanning id owing))
  | defer held scanning next verdict =>
      exact .inl ((BatchLookup.active_request _ _ _).symm ▸ (active_of_row sound held scanning next).2)
  | caught held deferring settled decoded =>
      have active := (BatchLookup.kept_look settled).1
      exact owed_set held rfl owed (fun owing => .inl (Nat.lt_of_lt_of_eq (passive deferring id owing) active.symm))
  | missed events held deferring settled phases worthless =>
      have active := (BatchLookup.kept_look settled).1
      exact owed_set held rfl owed (fun owing => .inl (Nat.lt_of_lt_of_eq (passive deferring id owing) active.symm))
  | spawn held deferring => exact owed_set held rfl owed (fun owing => .inl (passive deferring id owing))
  | finished events held receiving empty closed =>
      exact owed_set held rfl owed (fun owing => .inl (passive receiving id owing))
  | flush flushed => exact owed.imp_left (fun active => (BatchLookup.active_flushAdapter _ flushed).symm ▸ active)
  | complete taken => exact owed.imp_left (fun active => (BatchLookup.kept_complete taken).1.symm ▸ active)
  | reply taken => exact owed.imp_left (fun active => (BatchLookup.kept_reply taken).1.symm ▸ active)
  | wake events held waiting settled =>
      exact owed.imp_left (fun active => (BatchLookup.kept_look settled).1.symm ▸ active)
  | send held owner sending free room => exact owed_set owner rfl owed id
  | finish held owner ending => exact owed_set owner rfl owed id
  | _ => exact owed

theorem asked_move (sound : world.Sound) (move : Move action world later) : ∀ scan ∈ later.scans,
    ∀ row adapter request, scan.phase = .deferring row adapter request → request < later.lookup.requests := by
  have kept : ∀ scan ∈ world.scans, ∀ row adapter request, scan.phase = .deferring row adapter request →
      request < later.lookup.requests := by
    intro scan member row adapter request deferring
    exact Nat.lt_of_lt_of_le (sound.asked scan member row adapter request deferring) (requests_move move)
  cases move with
  | start store filters source capacity =>
      intro scan member
      rcases List.mem_append.mp member with before | fresh
      · exact kept scan before
      · rw [List.mem_singleton.mp fresh]
        simp [Scan.start]
  | turn held turn =>
      exact forall_set kept (fun row adapter request asks => absurd asks (Scan.unasked_turn turn row adapter request))
  | skip events held scanning next phases undeferred worthless =>
      apply forall_set kept
      rcases phases with rfl | rfl <;> simp
  | own held scanning next verdict decoded => exact forall_set kept (by simp)
  | defer held scanning next verdict =>
      apply forall_set kept
      intro row adapter request asks
      cases asks
      exact BatchLookup.request_issued sound.custody _ _
  | caught held deferring settled decoded => exact forall_set kept (by simp)
  | missed events held deferring settled phases worthless =>
      apply forall_set kept
      rcases phases with rfl | rfl <;> simp
  | spawn held deferring => exact forall_set kept (by simp)
  | finished events held receiving empty closed => exact forall_set kept (by simp)
  | @send _ _ task scan value held owner sending free room =>
      exact forall_set kept (kept scan (List.mem_of_getElem? owner))
  | @finish _ _ task scan held owner ending => exact forall_set kept (kept scan (List.mem_of_getElem? owner))
  | _ => exact kept

theorem sound_move (sound : world.Sound) (move : Move action world later) : later.Sound :=
  ⟨scans_move sound move, custody_move sound move, counted_move sound move, asked_move sound move,
    owned_move sound move, ended_move sound move, owed_move sound move⟩

theorem sound_act (sound : world.Sound) (taken : world.act action = some later) : later.Sound :=
  sound_move sound (move_of_act taken)

theorem run_cons (world : World T) (action : Act T) (rest : List (Act T)) :
    world.run (action :: rest) = (world.act action).bind (fun later => later.run rest) := rfl

theorem sound_run (sound : world.Sound) {acts : List (Act T)} (ran : world.run acts = some later) : later.Sound := by
  induction acts generalizing world with
  | nil => cases ran; exact sound
  | cons action rest step =>
      obtain ⟨between, taken, ran⟩ := Option.bind_eq_some_iff.mp ((run_cons world action rest).symm.trans ran)
      exact step (sound_act sound taken) ran

def fresh (stores : List (Adapters T)) (size : Nat) (params : Option Params) : World T :=
  { stores := stores, lookup := { batchSize := size, params := params } }

theorem sound_fresh (stores : List (Adapters T)) (size : Nat) (params : Option Params) :
    (fresh stores size params).Sound :=
  ⟨List.forall_mem_nil _, BatchLookup.custody_of_empty rfl rfl rfl rfl, rfl, List.forall_mem_nil _, List.forall_mem_nil _,
    List.forall_mem_nil _, fun _ waits => absurd rfl waits⟩

end World

end ThinScan
