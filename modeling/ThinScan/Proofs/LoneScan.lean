import ThinScan.Proofs.Answers
import ThinScan.Proofs.Delivery
import ThinScan.Proofs.InlineValues
import ThinScan.Proofs.Load

set_option autoImplicit false

namespace ThinScan

variable {T : Type}

namespace World

-- The consumer takes the value that is ready, or pulls if none is and the scan goes on; all else is the background.
inductive Beat where
  | pull
  | take
  | advance
  | flushNext (adapter : AdapterId)
  | fetch (batch : Nat)
  | reply (batch : Nat)
  | wake (task : Nat)
  | send (task : Nat)
  | finish (task : Nat)

variable (index : MemoryIndex)

def wantsPull (world : World T) : Bool :=
  match world.scans[0]? with
  | some scan => scan.lookahead.isNone && !scan.finished
  | none => false

def fetch (world : World T) (batch : Nat) : Option (World T) := do
  let sent ← world.lookup.batches[batch]?
  world.act (.complete batch (.results (index.fetchBatch sent.adapter sent.params sent.keys)))

def beat (world : World T) : Beat → Option (World T)
  | .pull => if world.wantsPull then world.act (.pull 0) else none
  | .take => world.act (.take 0)
  | .advance => world.act (.advance 0)
  | .flushNext adapter => world.act (.flushNext 0 adapter)
  | .fetch batch => world.fetch index batch
  | .reply batch => world.act (.reply batch)
  | .wake task => world.act (.wake task)
  | .send task => world.act (.send task)
  | .finish task => world.act (.finish task)

def beats (world : World T) (schedule : List Beat) : Option (World T) := schedule.foldlM (beat index) world

variable {index} {world later : World T} {action : Act T}

inductive Served (index : MemoryIndex) (world : World T) : Act T → Prop
  | pull (scan : Scan T) (held : world.scans[0]? = some scan) (nothing : scan.lookahead = none)
      (unfinished : scan.finished = false) : Served index world (.pull 0)
  | take : Served index world (.take 0)
  | advance : Served index world (.advance 0)
  | flushNext (adapter : AdapterId) : Served index world (.flushNext 0 adapter)
  | fetch (place : Nat) (batch : Batch) (held : world.lookup.batches[place]? = some batch) :
      Served index world (.complete place (.results (index.fetchBatch batch.adapter batch.params batch.keys)))
  | reply (place : Nat) : Served index world (.reply place)
  | wake (place : Nat) : Served index world (.wake place)
  | send (place : Nat) : Served index world (.send place)
  | finish (place : Nat) : Served index world (.finish place)

theorem served_of_beat {next : Beat} (taken : world.beat index next = some later) :
    ∃ action, Served index world action ∧ world.act action = some later := by
  cases next with
  | pull =>
      rw [beat] at taken
      split at taken
      · rename_i wants
        rw [wantsPull] at wants
        split at wants
        · rename_i scan held
          simp only [Bool.and_eq_true, Option.isNone_iff_eq_none, Bool.not_eq_true'] at wants
          exact ⟨_, .pull scan held wants.1 wants.2, taken⟩
        · cases wants
      · cases taken
  | take => exact ⟨_, .take, taken⟩
  | advance => exact ⟨_, .advance, taken⟩
  | flushNext adapter => exact ⟨_, .flushNext adapter, taken⟩
  | fetch place =>
      obtain ⟨batch, held, taken⟩ := Option.bind_eq_some_iff.mp taken
      exact ⟨_, .fetch place batch held, taken⟩
  | reply place => exact ⟨_, .reply place, taken⟩
  | wake place => exact ⟨_, .wake place, taken⟩
  | send place => exact ⟨_, .send place, taken⟩
  | finish place => exact ⟨_, .finish place, taken⟩

end World

namespace Scan

def look (scan : Scan T) : Nat := if scan.exhausted then 2 else 4

theorem look_le (scan : Scan T) : scan.look ≤ 4 := by
  unfold look
  split <;> omega

-- How far a pull is from its end.
def pace (scan : Scan T) : Nat :=
  match scan.phase with
  | .idle => if scan.finished then 0 else if scan.lookahead.isSome then scan.look + 2 else scan.look + 1
  | .scanning => scan.look
  | .deferring _ _ _ => 14
  | .flushing none => 3
  | .flushing (some _) => 2
  | .receiving => 1
  | .closing _ => 0

def toFlush (keys : Nat) (scan : Scan T) : Nat :=
  match scan.phase with
  | .flushing (some left) => left.length
  | .flushing none => keys
  | _ => if scan.exhausted then 0 else keys

theorem toFlush_unlisted {scan : Scan T} {keys : Nat} (unlisted : ∀ left, scan.phase ≠ .flushing left) :
    scan.toFlush keys = if scan.exhausted then 0 else keys := by
  unfold toFlush
  split
  · rename_i left listed
    exact absurd listed (unlisted (some left))
  · rename_i listed
    exact absurd listed (unlisted none)
  · rfl

def weight (lookup : BatchLookup) (scan : Scan T) : Nat :=
  14 * scan.source.length + 4 * scan.queue.length + scan.pace + scan.toFlush lookup.keyCount

theorem weight_of_pending {lookup after : BatchLookup} (pending : after.pending = lookup.pending) (scan : Scan T) :
    scan.weight after = scan.weight lookup := by
  rw [weight, weight, BatchLookup.keyCount, BatchLookup.keyCount, pending]

theorem weight_queue (lookup : BatchLookup) (scan : Scan T) (value : T) :
    ({ scan with queue := scan.queue ++ [value] } : Scan T).weight lookup = scan.weight lookup + 4 := by
  have whole : ({ scan with queue := scan.queue ++ [value] } : Scan T).weight lookup
      = 14 * scan.source.length + 4 * (scan.queue ++ [value]).length + scan.pace + scan.toFlush lookup.keyCount := rfl
  rw [whole, weight, List.length_append, List.length_singleton]
  omega

theorem weight_begin {lookup : BatchLookup} {scan : Scan T} (idle : scan.phase = .idle) (nothing : scan.lookahead = none)
    (unfinished : scan.finished = false) : scan.begin.weight lookup < scan.weight lookup := by
  rcases begin_cases scan with ⟨ready, _⟩ | ⟨_, _, value, rest, queued, next⟩ | ⟨_, _, empty, turned⟩
  · rw [nothing, unfinished] at ready
    simp at ready
  · rw [next]
    simp [weight, pace, look, toFlush, idle, nothing, unfinished, queued]
    omega
  · rw [turned]
    simp [weight, pace, look, toFlush, idle, nothing, unfinished, empty]

theorem weight_turn {label : Nat → Act T} {lookup after : BatchLookup} {scan fresh : Scan T} (sound : scan.Sound)
    (custody : lookup.Custody) (turn : scan.Turn label lookup after fresh) (stays : label ≠ .drop)
    (opened : scan.phase.closes = false)
    (useful : label = .pull → scan.lookahead = none ∧ scan.finished = false) :
    after.load + fresh.weight after < lookup.load + scan.weight lookup := by
  have lighter {new : Scan T} (less : new.weight lookup < scan.weight lookup) :
      lookup.load + new.weight lookup < lookup.load + scan.weight lookup := Nat.add_lt_add_left less _
  cases turn with
  | enter free idle uncounted =>
      obtain ⟨nothing, unfinished⟩ := useful rfl
      exact lighter (weight_begin idle nothing unfinished)
  | resume free idle counted =>
      obtain ⟨nothing, unfinished⟩ := useful rfl
      exact lighter (weight_begin idle nothing unfinished)
  | reach scanning rowless said =>
      apply lighter
      simp only [weight, pace, look, toFlush, scanning, said, if_true, List.length_nil]
      omega
  | exhaust scanning rowless unsaid =>
      have load : lookup.retire.2.load = lookup.load := by unfold BatchLookup.retire; split <;> rfl
      have keys : lookup.retire.2.keyCount = lookup.keyCount := by unfold BatchLookup.retire; split <;> rfl
      rw [load, weight, keys]
      apply Nat.add_lt_add_left
      cases lookup.retire.1 with
      | true =>
          simp only [weight, pace, look, toFlush, scanning, unsaid, if_true, Bool.false_eq_true, if_false, List.length_nil]
          omega
      | false =>
          simp only [weight, pace, look, toFlush, scanning, unsaid, if_true, Bool.false_eq_true, if_false, List.length_nil]
          omega
  | list flush unlisted =>
      apply lighter
      rcases flush with rfl | rfl
      · simp [weight, pace, toFlush, unlisted, BatchLookup.keyCount]
      · rw [unlisted] at opened
        cases opened
  | @flush _ _ _ adapter left flush listed member =>
      rcases flush with rfl | rfl
      · have load := BatchLookup.load_flushAdapter custody adapter
        have shorter := List.length_erase_of_mem member
        have some_left := List.length_pos_of_mem member
        simp [weight, pace, toFlush, listed]
        omega
      · rw [listed] at opened
        cases opened
  | await through =>
      apply lighter
      have said : scan.exhausted = true := sound.past (by rw [through]; rfl)
      simp [weight, pace, toFlush, through, said]
  | close through =>
      rw [through] at opened
      cases opened
  | receive receiving queued =>
      apply lighter
      have said : scan.exhausted = true := sound.past (by rw [receiving]; rfl)
      have unfinished := (sound.pulled (by rw [receiving]; rfl)).2.2.2
      simp [weight, pace, look, toFlush, receiving, queued, said, unfinished]
      omega
  | take free idle ready =>
      apply lighter
      have unfinished : scan.finished = false := by
        refine Bool.eq_false_iff.mpr (fun finished => ?_)
        have nothing := (sound.stopped finished).2.2.2.1
        rw [ready] at nothing
        cases nothing
      simp [weight, pace, look, toFlush, idle, ready, unfinished]
  | leave free idle settled => exact absurd rfl stays
  | abandon free idle counted unsaid others => exact absurd rfl stays
  | abandonLast free idle counted unsaid last => exact absurd rfl stays

end Scan

namespace Task

def weight (task : Task T) : Nat :=
  match task.stage with
  | .waiting => 9
  | .sending _ => 8
  | .ending => 2
  | .leaving => 1
  | .crashed => 0

theorem weight_ofOutcome (task : Task T) (outcome : Outcome T) :
    ({ task with stage := .ofOutcome outcome } : Task T).weight ≤ 8 := by
  cases outcome <;> simp [weight, Stage.ofOutcome]

end Task

namespace World

variable {index : MemoryIndex} {world later : World T} {action : Act T}

def weight (world : World T) (scan : Scan T) : Nat :=
  Work.total Task.weight world.tasks + (world.lookup.load + scan.weight world.lookup)

theorem only_at {scan other : Scan T} (only : world.scans = [scan]) {place : Nat}
    (held : world.scans[place]? = some other) : place = 0 ∧ other = scan := by
  rw [only] at held
  cases place with
  | zero => exact ⟨rfl, (Option.some.inj held).symm⟩
  | succ place => cases held

theorem lighter_lookup {scan : Scan T} {lookup after : BatchLookup} (load : after.load < lookup.load)
    (pending : after.pending = lookup.pending) :
    after.load + scan.weight after < lookup.load + scan.weight lookup := by
  rw [Scan.weight_of_pending pending]
  exact Nat.add_lt_add_right load _

theorem weight_task {scan fresh : Scan T} {place : Nat} {task : Task T} {successor : List (Task T)}
    (held : world.tasks[place]? = some task) (tasks : later.tasks = world.tasks.eraseIdx place ++ successor)
    (load : later.lookup.load = world.lookup.load)
    (lighter : Work.total Task.weight successor + fresh.weight later.lookup < task.weight + scan.weight world.lookup) :
    later.weight fresh < world.weight scan := by
  have erased := Work.total_eraseIdx Task.weight world.tasks place task held
  rw [weight, weight, tasks, Work.total_append, load]
  omega

theorem weight_row (sound : world.Sound) {place : Nat} {scan : Scan T} {row : Row} {rest : Source}
    {after : BatchLookup} (fresh : Scan T) (held : world.scans[place]? = some scan) (scanning : scan.phase = .scanning)
    (next : scan.source = some row :: rest) (left : fresh.source = rest) (queue : fresh.queue = scan.queue)
    (exhausted : fresh.exhausted = scan.exhausted) (unlisted : ∀ left, fresh.phase ≠ .flushing left)
    (keys : after.keyCount ≤ world.lookup.keyCount + 1) :
    fresh.weight after + 17 ≤ scan.weight world.lookup + fresh.pace := by
  have unsaid := (active_of_row sound held scanning next).1
  have pace : scan.pace = 4 := by simp [Scan.pace, Scan.look, scanning, unsaid]
  have before : scan.toFlush world.lookup.keyCount = world.lookup.keyCount := by simp [Scan.toFlush, scanning, unsaid]
  have now : fresh.toFlush after.keyCount = after.keyCount := by
    rw [Scan.toFlush_unlisted unlisted, exhausted, unsaid]
    rfl
  rw [Scan.weight, Scan.weight, before, now, left, queue, next, pace, List.length_cons]
  omega

theorem weight_deferring {lookup after : BatchLookup} {scan : Scan T} {row : Row} {adapter : Adapter T}
    {request : RequestId} (fresh : Scan T) (deferring : scan.phase = .deferring row adapter request)
    (left : fresh.source = scan.source) (queue : fresh.queue = scan.queue) (exhausted : fresh.exhausted = scan.exhausted)
    (unlisted : ∀ left, fresh.phase ≠ .flushing left) (pending : after.pending = lookup.pending) :
    fresh.weight after + 14 = scan.weight lookup + fresh.pace := by
  have pace : scan.pace = 14 := by rw [Scan.pace, deferring]
  have before := @Scan.toFlush_unlisted _ scan lookup.keyCount (by rw [deferring]; simp)
  have now := @Scan.toFlush_unlisted _ fresh lookup.keyCount unlisted
  rw [Scan.weight_of_pending pending, Scan.weight, Scan.weight, before, now, left, queue, exhausted, pace]
  omega

theorem pace_row {scan : Scan T} (phases : scan.phase = .scanning ∨ scan.phase = .idle) : scan.pace ≤ 6 := by
  have near := Scan.look_le scan
  rcases phases with phase | phase
  · simp only [Scan.pace, phase]
    omega
  · simp only [Scan.pace, phase]
    split
    · exact Nat.zero_le _
    · split <;> omega

theorem unlisted_row {scan : Scan T} (phases : scan.phase = .scanning ∨ scan.phase = .idle) :
    ∀ left, scan.phase ≠ .flushing left := by
  rcases phases with phase | phase <;> simp [phase]

theorem weight_settled (sound : world.Sound) {place : Nat} {scan : Scan T} {row : Row} {rest : Source} (fresh : Scan T)
    (held : world.scans[place]? = some scan) (scanning : scan.phase = .scanning) (next : scan.source = some row :: rest)
    (left : fresh.source = rest) (queue : fresh.queue = scan.queue) (exhausted : fresh.exhausted = scan.exhausted)
    (phases : fresh.phase = .scanning ∨ fresh.phase = .idle) : fresh.weight world.lookup < scan.weight world.lookup := by
  have lighter := weight_row sound fresh held scanning next left queue exhausted (unlisted_row phases)
    (Nat.le_succ world.lookup.keyCount)
  have pace := pace_row phases
  omega

theorem weight_looked {scan : Scan T} {row : Row} {adapter : Adapter T} {request : RequestId} {found : Option Values}
    {lookup : BatchLookup} (fresh : Scan T) (deferring : scan.phase = .deferring row adapter request)
    (settled : world.lookup.look request = some (found, lookup)) (left : fresh.source = scan.source)
    (queue : fresh.queue = scan.queue) (exhausted : fresh.exhausted = scan.exhausted)
    (phases : fresh.phase = .scanning ∨ fresh.phase = .idle) :
    lookup.load + fresh.weight lookup < world.lookup.load + scan.weight world.lookup := by
  obtain ⟨_, pending, _, batches⟩ := BatchLookup.kept_look settled
  have load := BatchLookup.load_of_stored batches pending
  have moved := weight_deferring fresh deferring left queue exhausted (unlisted_row phases) pending
  have pace := pace_row phases
  omega

theorem weight_move (sound : world.Sound) {scan fresh : Scan T} (only : world.scans = [scan])
    (opened : scan.phase.closes = false) (served : Served index world action) (move : Move action world later)
    (now : later.scans = [fresh]) : later.weight fresh < world.weight scan := by
  have custody := sound.custody
  have replaced {place : Nat} {other new : Scan T} (held : world.scans[place]? = some other)
      (set : later.scans = world.scans.set place new) : new = fresh ∧ scan = other := by
    obtain ⟨rfl, same⟩ := only_at only held
    rw [now, only] at set
    exact ⟨(List.cons.inj set).1.symm, same.symm⟩
  have untouched (set : later.scans = world.scans) : fresh = scan := by
    rw [now, only] at set
    exact (List.cons.inj set).1
  cases move with
  | register store adapter => cases served
  | unregister store adapter => cases served
  | start store filters source capacity => cases served
  | flush adapter => cases served
  | @turn _ label place other new lookup held turn =>
      obtain ⟨rfl, rfl⟩ := replaced held rfl
      have useful (pulled : label = .pull) : scan.lookahead = none ∧ scan.finished = false := by
        rw [pulled] at served
        cases served with
        | pull found stands nothing unfinished =>
            cases held.symm.trans stands
            exact ⟨nothing, unfinished⟩
      have stays : label ≠ .drop := by
        intro dropped
        rw [dropped] at served
        cases served
      exact Nat.add_lt_add_left
        (Scan.weight_turn (held_sound sound held) custody turn stays opened useful) _
  | @skip _ place other row rest phase events held scanning next phases undeferred worthless =>
      obtain ⟨rfl, rfl⟩ := replaced held rfl
      have less := weight_settled sound { scan with source := rest, phase := phase } held scanning next rfl rfl rfl phases
      exact Nat.add_lt_add_left (Nat.add_lt_add_left less _) _
  | @own _ place other row rest adapter value held scanning next verdict decoded =>
      obtain ⟨rfl, rfl⟩ := replaced held rfl
      have less := weight_settled sound { scan with source := rest, lookahead := some value, phase := .idle } held scanning
        next rfl rfl rfl (.inr rfl)
      exact Nat.add_lt_add_left (Nat.add_lt_add_left less _) _
  | @defer _ place other row rest adapter held scanning next verdict =>
      obtain ⟨rfl, rfl⟩ := replaced held rfl
      have lighter := weight_row sound
        { scan with
          source := rest
          phase := .deferring row adapter (world.lookup.request row.adapter row.dataId).1 }
        held scanning next rfl rfl rfl (by simp) (BatchLookup.keyCount_request custody row.adapter row.dataId)
      have load := BatchLookup.load_request custody row.adapter row.dataId
      change _ ≤ scan.weight world.lookup + 14 at lighter
      refine Nat.add_lt_add_left ?_ _
      change (world.lookup.request row.adapter row.dataId).2.load
        + Scan.weight (world.lookup.request row.adapter row.dataId).2 _ < _
      omega
  | @caught _ place other row adapter request found lookup value held deferring settled decoded =>
      obtain ⟨rfl, rfl⟩ := replaced held rfl
      exact Nat.add_lt_add_left (weight_looked { scan with lookahead := some value, phase := .idle } deferring settled rfl rfl
        rfl (.inr rfl)) _
  | @missed _ place other row adapter request found lookup phase events held deferring settled phases worthless =>
      obtain ⟨rfl, rfl⟩ := replaced held rfl
      exact Nat.add_lt_add_left (weight_looked { scan with phase := phase } deferring settled rfl rfl rfl phases) _
  | @spawn _ place other row adapter request held deferring =>
      obtain ⟨rfl, rfl⟩ := replaced held rfl
      have moved : Scan.weight world.lookup { scan with outstanding := scan.outstanding + 1, phase := .scanning } + 14
          = scan.weight world.lookup + scan.look := weight_deferring _ deferring rfl rfl rfl (by simp) rfl
      have near := Scan.look_le scan
      have added : Work.total Task.weight (world.tasks ++ [⟨place, row, adapter, request, .waiting⟩])
          = Work.total Task.weight world.tasks + 9 := Work.total_append _ _ _
      change Work.total Task.weight (world.tasks ++ [_]) + (world.lookup.load + Scan.weight world.lookup _)
        < Work.total Task.weight world.tasks + (world.lookup.load + Scan.weight world.lookup _)
      omega
  | finished events held receiving empty closed =>
      obtain ⟨rfl, rfl⟩ := replaced held rfl
      have said : scan.exhausted = true := (held_sound sound held).past (by rw [receiving]; rfl)
      have less : Scan.weight world.lookup { scan with finished := true, phase := .idle } < scan.weight world.lookup := by
        simp [Scan.weight, Scan.pace, Scan.toFlush, receiving, said]
      exact Nat.add_lt_add_left (Nat.add_lt_add_left less _) _
  | complete taken =>
      obtain rfl := untouched rfl
      have load := BatchLookup.load_complete taken
      exact Nat.add_lt_add_left (lighter_lookup load (BatchLookup.kept_complete taken).2.1) _
  | reply taken =>
      obtain rfl := untouched rfl
      have load := BatchLookup.load_reply taken
      exact Nat.add_lt_add_left (lighter_lookup load (BatchLookup.kept_reply taken).2.1) _
  | @wake _ _ task found lookup events held waiting settled =>
      obtain rfl := untouched rfl
      obtain ⟨_, pending, _, batches⟩ := BatchLookup.kept_look settled
      have moved := Task.weight_ofOutcome task (Outcome.ofLookup task.adapter task.row found)
      have before : task.weight = 9 := by rw [Task.weight, waiting]
      have same : fresh.weight lookup = fresh.weight world.lookup := Scan.weight_of_pending pending fresh
      refine weight_task held rfl (BatchLookup.load_of_stored batches pending) ?_
      change Work.total Task.weight [_] + fresh.weight lookup < _
      simp only [Work.total]
      omega
  | @send _ _ task other value held owner sending free room =>
      obtain ⟨rfl, rfl⟩ := replaced owner rfl
      have before : task.weight = 8 := by rw [Task.weight, sending]
      have queued := Scan.weight_queue world.lookup scan value
      refine weight_task held rfl rfl ?_
      change 2 + Scan.weight world.lookup _ < _
      omega
  | @discard _ _ task other value events held owner sending dropped =>
      obtain rfl := untouched rfl
      have before : task.weight = 8 := by rw [Task.weight, sending]
      refine weight_task held rfl rfl ?_
      change 2 + fresh.weight world.lookup < _
      omega
  | @finish _ _ task other held owner ending =>
      obtain ⟨rfl, rfl⟩ := replaced owner rfl
      have before : task.weight = 2 := by rw [Task.weight, ending]
      refine weight_task held rfl rfl ?_
      change 1 + scan.weight world.lookup < _
      omega
  | @leave _ _ task held leaving =>
      obtain rfl := untouched rfl
      have before : task.weight = 1 := by rw [Task.weight, leaving]
      refine weight_task held rfl rfl ?_
      change 0 + fresh.weight world.lookup < _
      omega

end World

end ThinScan
