import ThinScan.Proofs.Settling

set_option autoImplicit false

namespace ThinScan

variable {T : Type}

namespace Event

def Early (outstanding : Nat) (event : Event) : Prop :=
  event.level = .error
    ∧ event.headline = "completion queue closed with lookups still outstanding, ending scan early"
    ∧ event.details = [("outstanding", toString outstanding)]

theorem early_of_row {event : Event} (row : event.ofRow = true) : event.isEarly = false := by
  cases event <;> first | rfl | cases row

end Event

theorem Outcome.crashed_of_isCrash {outcome : Outcome T} (crash : outcome.isCrash = true) : outcome = .crashed := by
  cases outcome <;> first | rfl | cases crash

namespace Task

def isRunning (task : Task T) : Bool :=
  match task.stage with
  | .leaving => false
  | .crashed => false
  | _ => true

def isEnding (task : Task T) : Bool :=
  match task.stage with
  | .ending => true
  | _ => false

def isCrashed (task : Task T) : Bool :=
  match task.stage with
  | .crashed => true
  | _ => false

theorem live_of_running {task : Task T} (running : task.isRunning = true) : task.isLive = true := by
  unfold isLive
  split
  · rename_i crashed
    rw [isRunning, crashed] at running
    cases running
  · rfl

def tally (kind : Task T → Bool) (index : Nat) (tasks : List (Task T)) : Nat :=
  tasks.countP (fun task => task.scan = index && kind task)

def number (index : Nat) (tasks : List (Task T)) : Nat := tally (fun _ => true) index tasks

section Tally

variable {kind : Task T → Bool} {index : Nat}

theorem tally_append (tasks more : List (Task T)) :
    tally kind index (tasks ++ more) = tally kind index tasks + tally kind index more := List.countP_append

theorem tally_one (task : Task T) : tally kind index [task] = if task.scan = index then (kind task).toNat else 0 := by
  rw [tally, List.countP_singleton]
  by_cases here : task.scan = index
  · cases kind task <;> simp [here]
  · simp [here]

theorem tally_yes {task : Task T} (meets : kind task = true) :
    tally kind index [task] = if task.scan = index then 1 else 0 := by
  rw [tally_one, meets]
  rfl

theorem tally_no {task : Task T} (fails : kind task = false) : tally kind index [task] = 0 := by
  rw [tally_one, fails]
  exact ite_self 0

theorem number_filter (tasks : List (Task T)) : number index (tasks.filter kind) = tally kind index tasks := by
  simp only [number, tally, List.countP_filter, Bool.and_true]

theorem tally_at {tasks : List (Task T)} {place : Nat} {task : Task T} (held : tasks[place]? = some task) :
    tally kind index tasks = tally kind index [task] + tally kind index (tasks.eraseIdx place) :=
  ((perm_at held).countP_eq _).trans (tally_append [task] _)

theorem tally_moved {tasks : List (Task T)} {place : Nat} {task : Task T} (held : tasks[place]? = some task)
    (successor : List (Task T)) :
    tally kind index (tasks.eraseIdx place ++ successor) + tally kind index [task]
      = tally kind index tasks + tally kind index successor := by
  have before := @tally_at T kind index tasks place task held
  rw [tally_append]
  omega

end Tally

end Task

namespace Scan

def farewell (crashed : Nat) (scan : Scan T) : List Event :=
  if scan.finished ∧ 0 < crashed then [.endedEarly crashed] else []

theorem farewell_unfinished {scan : Scan T} (unfinished : scan.finished = false) (crashed : Nat) :
    scan.farewell crashed = [] :=
  if_neg (fun ended => Bool.false_ne_true (unfinished.symm.trans ended.1))

theorem farewell_finished {scan : Scan T} (finished : scan.finished = true) (crashed : Nat) :
    scan.farewell crashed = if 0 < crashed then [.endedEarly crashed] else [] := by
  rw [farewell, finished]
  simp only [true_and]

end Scan

namespace World

variable {world later : World T} {action : Act T}

def atWork (world : World T) (index : Nat) : Nat := Task.tally Task.isRunning index world.tasks

def crashed (world : World T) (index : Nat) : Nat := Task.tally Task.isCrashed index world.tasks

def counter (world : World T) (index : Nat) : Nat := ((world.scans[index]?).map Scan.outstanding).getD 0

theorem counter_at {index : Nat} {scan : Scan T} (held : world.scans[index]? = some scan) :
    world.counter index = scan.outstanding := by
  rw [counter, held]
  rfl

theorem counter_set {place : Nat} {scan fresh : Scan T} (held : world.scans[place]? = some scan)
    (scans : later.scans = world.scans.set place fresh) (index : Nat) :
    later.counter index = if place = index then fresh.outstanding else world.counter index := by
  rw [counter, scans, set_at fresh held]
  split <;> rfl

theorem counter_kept {place : Nat} {scan fresh : Scan T} (held : world.scans[place]? = some scan)
    (scans : later.scans = world.scans.set place fresh) (same : fresh.outstanding = scan.outstanding) (index : Nat) :
    later.counter index = world.counter index := by
  rw [counter_set held scans]
  split
  · rename_i here
    rw [← here, counter_at held, same]
  · rfl

theorem counter_start {begun : Scan T} (scans : later.scans = world.scans ++ [begun]) (nothing : begun.outstanding = 0)
    (index : Nat) : later.counter index = world.counter index := by
  rw [counter, counter, scans, List.getElem?_append]
  split
  · rfl
  · rename_i beyond
    rw [List.getElem?_eq_none (Nat.not_lt.mp beyond)]
    cases index - world.scans.length with
    | zero => exact nothing
    | succ further => rfl

def begins (world later : World T) : List (Task T) := later.tasks.drop world.tasks.length

def ends (world : World T) : Act T → List (Task T)
  | .finish place => (world.tasks[place]?).toList.filter Task.isEnding
  | _ => []

def crashes (world later : World T) : Act T → List (Task T)
  | .wake place => (world.tasks[place]?).toList.filter (fun task => (task.pulled.outcome later.lookup.answer?).isCrash)
  | _ => []

-- The tasks that a run has begun, those that it has brought to their end, and those whose decoder has crashed in it.
def begun (world : World T) (acts : List (Act T)) : List (Task T) :=
  observed (fun world _ later => world.begins later) world acts

def ended (world : World T) (acts : List (Act T)) : List (Task T) :=
  observed (fun world action _ => world.ends action) world acts

def fallen (world : World T) (acts : List (Act T)) : List (Task T) :=
  observed (fun world action later => world.crashes later action) world acts

structure Turnover (world later : World T) (action : Act T) : Prop where
  tasks : ∀ index, Task.number index (world.begins later) + (world.atWork index + world.crashed index)
    = Task.number index (world.ends action) + (later.atWork index + later.crashed index)
  crashed : ∀ index, later.crashed index = world.crashed index + Task.number index (world.crashes later action)
  counters : ∀ index, later.counter index
    = world.counter index + Task.number index (world.begins later) - Task.number index (world.ends action)

theorem begins_same (tasks : later.tasks = world.tasks) : world.begins later = [] := by
  rw [begins, tasks]
  exact List.drop_length

theorem begins_moved {place : Nat} {task : Task T} {successor : List (Task T)} (held : world.tasks[place]? = some task)
    (tasks : later.tasks = world.tasks.eraseIdx place ++ successor) (one : successor.length ≤ 1) :
    world.begins later = [] := by
  obtain ⟨bound, _⟩ := List.getElem?_eq_some_iff.mp held
  rw [begins, tasks]
  apply List.drop_eq_nil_of_le
  rw [List.length_append, List.length_eraseIdx_of_lt bound]
  omega

theorem turnover_aside (tasks : later.tasks = world.tasks) (ends : world.ends action = [])
    (crashes : world.crashes later action = [])
    (counters : ∀ index, later.counter index = world.counter index) : Turnover world later action := by
  have begins := begins_same tasks
  refine ⟨fun index => ?_, fun index => ?_, fun index => ?_⟩
  · rw [begins, ends, atWork, atWork, World.crashed, World.crashed, tasks]
  · rw [crashes, World.crashed, World.crashed, tasks]
    rfl
  · rw [begins, ends, counters]
    rfl

theorem turnover_task {place : Nat} {task : Task T} {successor : List (Task T)} (held : world.tasks[place]? = some task)
    (tasks : later.tasks = world.tasks.eraseIdx place ++ successor) (one : successor.length ≤ 1)
    (whole : ∀ index, Task.number index (world.ends action)
      + (Task.tally Task.isRunning index successor + Task.tally Task.isCrashed index successor)
      = Task.tally Task.isRunning index [task] + Task.tally Task.isCrashed index [task])
    (fallen : ∀ index, Task.tally Task.isCrashed index successor
      = Task.tally Task.isCrashed index [task] + Task.number index (world.crashes later action))
    (counters : ∀ index, later.counter index = world.counter index - Task.number index (world.ends action)) :
    Turnover world later action := by
  have begins := begins_moved held tasks one
  refine ⟨fun index => ?_, fun index => ?_, fun index => ?_⟩
  · have runs := @Task.tally_moved T Task.isRunning index _ _ _ held successor
    have crashes := @Task.tally_moved T Task.isCrashed index _ _ _ held successor
    have same := whole index
    have none_begun : Task.number index (world.begins later) = 0 := by rw [begins]; rfl
    rw [none_begun, atWork, atWork, World.crashed, World.crashed, tasks]
    omega
  · have crashes := @Task.tally_moved T Task.isCrashed index _ _ _ held successor
    have more := fallen index
    rw [World.crashed, World.crashed, tasks]
    omega
  · rw [begins, counters]
    rfl

theorem tally_ofOutcome (index : Nat) (task : Task T) (outcome : Outcome T) :
    Task.tally Task.isRunning index [{ task with stage := .ofOutcome outcome }]
        = (if task.scan = index then (!outcome.isCrash).toNat else 0)
      ∧ Task.tally Task.isCrashed index [{ task with stage := .ofOutcome outcome }]
        = if task.scan = index then outcome.isCrash.toNat else 0 := by
  rw [Task.tally_one, Task.tally_one]
  cases outcome <;> exact ⟨rfl, rfl⟩

theorem turnover_wake {place : Nat} {task : Task T} {found : Option Values} {lookup : BatchLookup} (events : List Event)
    (held : world.tasks[place]? = some task) (waiting : task.stage = .waiting)
    (settled : world.lookup.look task.request = some (found, lookup)) :
    Turnover world
      (((world.withLookup lookup).moveTask place
        [{ task with stage := .ofOutcome (Outcome.ofLookup task.adapter task.row found) }]).report events)
      (.wake place) := by
  obtain ⟨answer, _⟩ := BatchLookup.look_answer settled
  have outcome : task.pulled.outcome lookup.answer? = Outcome.ofLookup task.adapter task.row found :=
    congrArg (Outcome.ofLookup task.adapter task.row) answer
  have runs (index : Nat) : Task.tally Task.isRunning index [task] = if task.scan = index then 1 else 0 :=
    Task.tally_yes (by rw [Task.isRunning, waiting])
  have stands (index : Nat) : Task.tally Task.isCrashed index [task] = 0 :=
    Task.tally_no (by rw [Task.isCrashed, waiting])
  have crashes {after : World T} (known : after.lookup = lookup) (index : Nat) :
      Task.number index (world.crashes after (.wake place))
        = if task.scan = index then (Outcome.ofLookup task.adapter task.row found).isCrash.toNat else 0 := by
    rw [World.crashes, held, Option.toList_some, Task.number_filter, Task.tally_one, known, outcome]
  refine turnover_task held rfl (Nat.le_refl 1) (fun index => ?_) (fun index => ?_) (fun index => rfl)
  · obtain ⟨on, down⟩ := tally_ofOutcome index task (Outcome.ofLookup task.adapter task.row found)
    rw [on, down, runs, stands]
    refine (Nat.zero_add _).trans ?_
    by_cases here : task.scan = index
    · cases (Outcome.ofLookup task.adapter task.row found).isCrash <;> simp [here]
    · simp [here]
  · rw [(tally_ofOutcome index task _).2, stands, crashes rfl, Nat.zero_add]

theorem ends_finish {place : Nat} {task : Task T} (held : world.tasks[place]? = some task) :
    world.ends (.finish place) = [task].filter Task.isEnding := by
  rw [ends, held]
  rfl

theorem turnover_finish {place : Nat} {task : Task T} {scan : Scan T} (held : world.tasks[place]? = some task)
    (owner : world.scans[task.scan]? = some scan) (ending : task.stage = .ending) :
    Turnover world
      ((world.moveTask place [{ task with stage := .leaving }]).setScan task.scan
        { scan with outstanding := scan.outstanding - 1 })
      (.finish place) := by
  have out (index : Nat) : Task.number index (world.ends (.finish place)) = if task.scan = index then 1 else 0 := by
    rw [ends_finish held, Task.number_filter]
    exact Task.tally_yes (by rw [Task.isEnding, ending])
  have runs (index : Nat) : Task.tally Task.isRunning index [task] = if task.scan = index then 1 else 0 :=
    Task.tally_yes (by rw [Task.isRunning, ending])
  have stands (index : Nat) : Task.tally Task.isCrashed index [task] = 0 :=
    Task.tally_no (by rw [Task.isCrashed, ending])
  refine turnover_task held rfl (Nat.le_refl 1) (fun index => ?_) (fun index => ?_) (fun index => ?_)
  · rw [out, runs, stands, Task.tally_no rfl, Task.tally_no rfl]
  · rw [stands, Task.tally_no rfl]
    rfl
  · rw [out]
    refine (counter_set owner rfl index).trans ?_
    by_cases here : task.scan = index
    · subst here
      rw [if_pos rfl, if_pos rfl, counter_at owner]
    · rw [if_neg here, if_neg here]
      rfl

theorem turnover_leave {place : Nat} {task : Task T} (held : world.tasks[place]? = some task)
    (leaving : task.stage = .leaving) : Turnover world (world.moveTask place []) (.finish place) := by
  have out (index : Nat) : Task.number index (world.ends (.finish place)) = 0 := by
    rw [ends_finish held, Task.number_filter]
    exact Task.tally_no (by rw [Task.isEnding, leaving])
  have done (index : Nat) : Task.tally Task.isRunning index [task] = 0 :=
    Task.tally_no (by rw [Task.isRunning, leaving])
  have stands (index : Nat) : Task.tally Task.isCrashed index [task] = 0 :=
    Task.tally_no (by rw [Task.isCrashed, leaving])
  refine turnover_task held rfl (Nat.zero_le 1) (fun index => ?_) (fun index => ?_) (fun index => ?_)
  · rw [out, done, stands]
    rfl
  · rw [stands]
    rfl
  · rw [out]
    rfl

theorem turnover_sent {place : Nat} {task : Task T} {value : T} (held : world.tasks[place]? = some task)
    (sending : task.stage = .sending value)
    (tasks : later.tasks = world.tasks.eraseIdx place ++ [{ task with stage := .ending }])
    (counters : ∀ index, later.counter index = world.counter index) : Turnover world later (.send place) := by
  have runs (index : Nat) : Task.tally Task.isRunning index [task] = if task.scan = index then 1 else 0 :=
    Task.tally_yes (by rw [Task.isRunning, sending])
  have stands (index : Nat) : Task.tally Task.isCrashed index [task] = 0 :=
    Task.tally_no (by rw [Task.isCrashed, sending])
  refine turnover_task held tasks (Nat.le_refl 1) (fun index => ?_) (fun index => ?_) counters
  · rw [runs, stands, Task.tally_yes rfl, Task.tally_no rfl]
    exact Nat.zero_add _
  · rw [stands, Task.tally_no rfl]
    rfl

theorem turnover_spawn {place : Nat} {scan counted : Scan T} {task : Task T} (held : world.scans[place]? = some scan)
    (scans : later.scans = world.scans.set place counted) (one : counted.outstanding = scan.outstanding + 1)
    (tasks : later.tasks = world.tasks ++ [task]) (mine : task.scan = place) (waiting : task.stage = .waiting) :
    Turnover world later (.advance place) := by
  have begun (index : Nat) : Task.number index (world.begins later) = if place = index then 1 else 0 := by
    rw [begins, tasks, List.drop_left, ← mine]
    exact Task.tally_yes rfl
  have runs (index : Nat) : Task.tally Task.isRunning index [task] = if place = index then 1 else 0 :=
    mine ▸ Task.tally_yes (by rw [Task.isRunning, waiting])
  have stands (index : Nat) : Task.tally Task.isCrashed index [task] = 0 :=
    Task.tally_no (by rw [Task.isCrashed, waiting])
  refine ⟨fun index => ?_, fun index => ?_, fun index => ?_⟩
  · have unended : Task.number index (world.ends (.advance place)) = 0 := rfl
    rw [begun, unended, atWork, atWork, World.crashed, World.crashed, tasks, Task.tally_append, Task.tally_append, runs,
      stands]
    omega
  · rw [World.crashed, World.crashed, tasks, Task.tally_append, stands]
    rfl
  · rw [begun, counter_set held scans]
    by_cases here : place = index
    · subst here
      rw [if_pos rfl, if_pos rfl, counter_at held, one]
      rfl
    · rw [if_neg here, if_neg here]
      rfl

theorem tasks_turn {label : Nat → Act T} {lookup after : BatchLookup} {scan fresh : Scan T}
    (turn : scan.Turn label lookup after fresh) (place : Nat) :
    fresh.outstanding = scan.outstanding ∧ world.ends (label place) = [] ∧ world.crashes later (label place) = [] := by
  have begins : scan.begin.outstanding = scan.outstanding := by
    rcases Scan.begin_cases scan with ⟨_, same⟩ | ⟨_, _, _, _, _, next⟩ | ⟨_, _, _, turned⟩ <;> simp only [*]
  cases turn with
  | enter free idle uncounted => exact ⟨begins, rfl, rfl⟩
  | resume free idle counted => exact ⟨begins, rfl, rfl⟩
  | _ => exact ⟨rfl, rfl, rfl⟩

theorem turnover_move (move : Move action world later) : Turnover world later action := by
  cases move with
  | start store filters source capacity =>
      exact turnover_aside rfl rfl rfl (counter_start rfl rfl)
  | turn held turn =>
      obtain ⟨counter, ends, crashes⟩ := tasks_turn turn _
      exact turnover_aside rfl ends crashes (counter_kept held rfl counter)
  | skip events held => exact turnover_aside rfl rfl rfl (counter_kept held rfl rfl)
  | own held => exact turnover_aside rfl rfl rfl (counter_kept held rfl rfl)
  | defer held => exact turnover_aside rfl rfl rfl (counter_kept held rfl rfl)
  | caught held => exact turnover_aside rfl rfl rfl (counter_kept held rfl rfl)
  | missed events held => exact turnover_aside rfl rfl rfl (counter_kept held rfl rfl)
  | finished events held => exact turnover_aside rfl rfl rfl (counter_kept held rfl rfl)
  | spawn held => exact turnover_spawn held rfl rfl rfl rfl rfl
  | wake events held waiting settled => exact turnover_wake events held waiting settled
  | send held owner sending => exact turnover_sent held sending rfl (counter_kept owner rfl rfl)
  | discard events held owner sending => exact turnover_sent held sending rfl (fun _ => rfl)
  | finish held owner ending => exact turnover_finish held owner ending
  | leave held leaving => exact turnover_leave held leaving
  | _ => exact turnover_aside rfl rfl rfl (fun _ => rfl)

structure Closes (world : World T) (index : Nat) (scan : Scan T) : Prop where
  held : world.scans[index]? = some scan
  receiving : scan.phase = .receiving
  empty : scan.queue = []
  closed : world.queueClosed index scan = true

theorem act_closes {index : Nat} {scan : Scan T} (closes : world.Closes index scan)
    (taken : world.act (.advance index) = some later) :
    later.scans = world.scans.set index { scan with finished := true, phase := .idle } ∧ later.tasks = world.tasks
      ∧ later.events = (if 0 < scan.outstanding then [.endedEarly scan.outstanding] else []) ++ world.events := by
  simp only [act, advance, closes.held, Option.bind_eq_bind, Option.bind_some, closes.receiving] at taken
  unfold receive at taken
  split at taken
  · rename_i queued
    exact absurd (queued.symm.trans closes.empty) (List.cons_ne_nil _ _)
  · rw [if_pos closes.closed] at taken
    cases taken
    exact ⟨rfl, rfl, rfl⟩

theorem farewell_move (move : Move action world later) (index : Nat) :
    (∀ crashed, later.part index (Scan.farewell crashed) = world.part index (Scan.farewell crashed))
      ∨ (action = .advance index ∧ ∃ scan, world.Closes index scan) := by
  have kept {place : Nat} {scan fresh : Scan T} (held : world.scans[place]? = some scan)
      (scans : later.scans = world.scans.set place fresh) (same : fresh.finished = scan.finished) (crashed : Nat) :
      later.part index (Scan.farewell crashed) = world.part index (Scan.farewell crashed) :=
    part_kept held scans (by rw [Scan.farewell, Scan.farewell, same])
  cases move with
  | start store filters source capacity =>
      exact .inl (fun crashed => part_start rfl (Scan.farewell_unfinished rfl crashed) index)
  | turn held turn => exact .inl (kept held rfl (Scan.finished_turn turn))
  | skip events held => exact .inl (kept held rfl rfl)
  | own held => exact .inl (kept held rfl rfl)
  | defer held => exact .inl (kept held rfl rfl)
  | caught held => exact .inl (kept held rfl rfl)
  | missed events held => exact .inl (kept held rfl rfl)
  | spawn held => exact .inl (kept held rfl rfl)
  | @finished _ place scan events held receiving empty closed =>
      by_cases here : place = index
      · subst here
        exact .inr ⟨rfl, scan, held, receiving, empty, closed⟩
      · exact .inl (fun crashed => (part_set held rfl).trans (if_neg here))
  | send held owner => exact .inl (kept owner rfl rfl)
  | finish held owner => exact .inl (kept owner rfl rfl)
  | _ => exact .inl (fun crashed => rfl)

theorem atWork_closed {index : Nat} {scan : Scan T} (closed : world.queueClosed index scan = true) :
    world.atWork index = 0 := by
  simp only [queueClosed, Bool.and_eq_true, Bool.not_eq_true', List.any_eq_false] at closed
  refine List.countP_eq_zero.mpr (fun task member runs => closed.2 task member ?_)
  simp only [Bool.and_eq_true, decide_eq_true_eq] at runs
  simp only [Task.holds, runs.1, Task.live_of_running runs.2, decide_true, Bool.and_self]

theorem unfinished_of_crash (sound : world.Sound) (move : Move action world later) {index : Nat} {scan : Scan T}
    (held : world.scans[index]? = some scan) (crash : Task.number index (world.crashes later action) ≠ 0) :
    scan.finished = false := by
  cases move with
  | @wake _ place task found lookup events there waiting settled =>
      rw [World.crashes, there, Option.toList_some, Task.number_filter, Task.tally_one] at crash
      by_cases here : task.scan = index
      · subst here
        exact unfinished_of_live sound there held (by rw [Task.isLive, waiting])
      · exact absurd (if_neg here) crash
  | @turn _ label place scan fresh lookup there turn =>
      rw [(tasks_turn turn place).2.2] at crash
      exact absurd rfl crash
  | _ => exact absurd rfl crash

theorem early_outcome (answer? : RequestId → Option Values) (pulled : Pulled T) :
    (pulled.outcome answer?).events.filter Event.isEarly = [] := by
  refine List.filter_eq_nil_iff.mpr (fun event member => ?_)
  rw [← Pulled.events_outcome] at member
  simp [Event.early_of_row (List.mem_filter.mp member).2]

variable {start : World T} {acts : List (Act T)}

-- The counter of each scan shows the tasks it has begun that have not run to their end; they run, or their decoder
-- has crashed, and then their row was worth nothing.
structure Tended (start : World T) (acts : List (Act T)) (world : World T) : Prop where
  settlement : Settlement start acts world
  counters : ∀ index, world.counter index = world.atWork index + world.crashed index
  begun : ∀ index, Task.number index (start.begun acts)
    = Task.number index (start.ended acts) + (world.atWork index + world.crashed index)
  fallen : ∀ index, world.crashed index = Task.number index (start.fallen acts)
  lost : ∀ task ∈ start.fallen acts, task.pulled ∈ start.settled acts
    ∧ (task.pulled.outcome world.lookup.answer?).isCrash = true
  told : ∀ index, start.logged Event.isEarly index acts = world.part index (Scan.farewell (world.crashed index))

theorem ends_arrived (logs : world.lookup.Logs) (taken : world.act action = some later) {fresh : List Event}
    (events : later.events = fresh ++ world.events) :
    Event.arrived Event.isEarly world.log later.log = (fresh.filter Event.isEarly).reverse :=
  arrived_act (fun _ lookup => (Event.kinds_of_lookup lookup).2) logs (logs_move logs (move_of_act taken)) events

theorem unended_act (sound : world.Sound) (logs : world.lookup.Logs) (taken : world.act action = some later) {index : Nat}
    (kept : ∀ crashed, later.part index (Scan.farewell crashed) = world.part index (Scan.farewell crashed)) :
    (if world.owner? action = some index then Event.arrived Event.isEarly world.log later.log else []) = [] := by
  have nothing (fresh : List Event) (events : later.events = fresh ++ world.events)
      (none_of : fresh.filter Event.isEarly = []) :
      (if world.owner? action = some index then Event.arrived Event.isEarly world.log later.log else []) = [] := by
    rw [ends_arrived logs taken events, none_of]
    exact ite_self _
  cases tells_act taken with
  | settled settles owner answered events => exact nothing _ events (early_outcome _ _)
  | @ended place scan mine settles held receiving closed scans events =>
      refine if_neg (fun owner => ?_)
      rw [mine] at owner
      cases owner
      have unfinished := ((held_sound sound held).pulled (by rw [receiving]; rfl)).2.2.2
      have ends := kept 1
      rw [part_set held scans, if_pos rfl, part_at held, Scan.farewell_unfinished unfinished] at ends
      cases ends
  | discarded settles events => exact nothing [.valueDiscarded] events rfl
  | quiet settles events => exact nothing [] events rfl

theorem farewell_closes (before : Tended start acts world) {index : Nat} {scan : Scan T} (closes : world.Closes index scan)
    (taken : world.act (.advance index) = some later) :
    Event.arrived Event.isEarly world.log later.log = later.part index (Scan.farewell (later.crashed index)) := by
  obtain ⟨scans, tasks, events⟩ := act_closes closes taken
  have left : scan.outstanding = later.crashed index := by
    rw [← counter_at closes.held, before.counters, atWork_closed closes.closed, Nat.zero_add, World.crashed, World.crashed,
      tasks]
  rw [ends_arrived before.settlement.logs taken events, part_set closes.held scans, if_pos rfl,
    Scan.farewell_finished rfl, left]
  split <;> rfl

theorem farewell_act (before : Tended start acts world) (taken : world.act action = some later) (index : Nat) :
    world.part index (Scan.farewell (world.crashed index))
        ++ (if world.owner? action = some index then Event.arrived Event.isEarly world.log later.log else [])
      = later.part index (Scan.farewell (later.crashed index)) := by
  have sound := before.settlement.sound
  have move := move_of_act taken
  rcases farewell_move move index with kept | ⟨rfl, scan, closes⟩
  · rw [unended_act sound before.settlement.logs taken kept, List.append_nil, kept]
    by_cases crash : Task.number index (world.crashes later action) = 0
    · rw [(turnover_move move).crashed, crash, Nat.add_zero]
    · cases held : world.scans[index]? with
      | none => rw [part, part, held]; rfl
      | some scan =>
          have unfinished := unfinished_of_crash sound move held crash
          rw [part_at held, part_at held, Scan.farewell_unfinished unfinished, Scan.farewell_unfinished unfinished]
  · have mine : world.owner? (.advance index) = some index := rfl
    have unfinished := ((held_sound sound closes.held).pulled (by rw [closes.receiving]; rfl)).2.2.2
    rw [part_at closes.held, Scan.farewell_unfinished unfinished, List.nil_append, if_pos mine,
      farewell_closes before closes taken]

theorem tended_act (ran : start.run acts = some world) (before : Tended start acts world)
    (taken : world.act action = some later) : Tended start (acts ++ [action]) later := by
  have move := move_of_act taken
  have turnover := turnover_move move
  have begins : start.begun (acts ++ [action]) = start.begun acts ++ world.begins later := observed_concat _ ran taken
  have ends : start.ended (acts ++ [action]) = start.ended acts ++ world.ends action := observed_concat _ ran taken
  have crashes : start.fallen (acts ++ [action]) = start.fallen acts ++ world.crashes later action :=
    observed_concat _ ran taken
  have number (index : Nat) (tasks more : List (Task T)) : Task.number index (tasks ++ more)
      = Task.number index tasks + Task.number index more := Task.tally_append tasks more
  refine ⟨settlement_act ran before.settlement taken, fun index => ?_, fun index => ?_, fun index => ?_, ?_, fun index => ?_⟩
  · have counted := before.counters index
    have tasks := turnover.tasks index
    rw [turnover.counters index]
    omega
  · have begun := before.begun index
    have tasks := turnover.tasks index
    rw [begins, ends, number, number]
    omega
  · rw [crashes, number, turnover.crashed, before.fallen]
  · intro task member
    rw [crashes] at member
    rw [settled_concat ran taken]
    rcases List.mem_append.mp member with earlier | fresh
    · obtain ⟨settled, crashed⟩ := before.lost task earlier
      have kept := Pulled.outcome_kept (reply_move before.settlement.sound move) (before.settlement.answered _ settled)
      exact ⟨List.mem_append_left _ settled, kept ▸ crashed⟩
    · unfold World.crashes at fresh
      split at fresh
      · rename_i place
        obtain ⟨there, crashed⟩ := List.mem_filter.mp fresh
        exact ⟨List.mem_append_right _ (List.mem_map_of_mem there), crashed⟩
      · cases fresh
  · rw [logged_concat _ index ran taken, before.told index]
    exact farewell_act before taken index

theorem tended_run {stores : List (Adapters T)} {size : Nat} {params : Option Params}
    (ran : (fresh stores size params).run acts = some world) : Tended (fresh stores size params) acts world := by
  refine run_grows (motive := Tended (fresh stores size params)) ?_ ?_ ran
  · exact ⟨settlement_run rfl, fun _ => rfl, fun _ => rfl, fun _ => rfl, List.forall_mem_nil _, fun _ => rfl⟩
  · exact fun acts action world later ran before taken => tended_act ran before taken

-- The counter shows the tasks that run and those that have crashed. When the queue is closed nothing is left to come,
-- and only the crashed are counted; each crash costs its own row, and no other.
structure Withstands (start : World T) (acts : List (Act T)) (world : World T) (index : Nat) (scan : Scan T) : Prop where
  begun : scan.outstanding + Task.number index (start.ended acts) = Task.number index (start.begun acts)
  left : scan.outstanding = world.atWork index + Task.number index (start.fallen acts)
  closed : world.queueClosed index scan = true → (∀ task ∈ world.tasks, task.scan = index → task.isLive = false)
    ∧ scan.outstanding = Task.number index (start.fallen acts)
    ∧ (scan.dropped = false → scan.phase.closes = false → ∃ source, (sources acts)[index]? = some source
      ∧ (pulledBy index (start.history acts)).map Pulled.row = source.rows)
  lost : ∀ task ∈ start.fallen acts, task.scan = index → task.pulled ∈ pulledBy index (start.history acts)
    ∧ task.pulled.outcome world.lookup.answer? = .crashed
  through : scan.finished = true → ∃ source, Accounted start acts world index scan source
  told : start.logged Event.isEarly index acts
    = if scan.finished ∧ 0 < Task.number index (start.fallen acts)
      then [.endedEarly (Task.number index (start.fallen acts))] else []
  reads : ∀ event ∈ start.logged Event.isEarly index acts, event.Early (Task.number index (start.fallen acts))

theorem rows_of_closed {stores : List (Adapters T)} {size : Nat} {params : Option Params}
    (ran : (fresh stores size params).run acts = some world) {index : Nat} {scan : Scan T}
    (held : world.scans[index]? = some scan) (closed : world.queueClosed index scan = true) (free : scan.dropped = false)
    (goes_on : scan.phase.closes = false) : ∃ source, (sources acts)[index]? = some source
      ∧ (pulledBy index ((fresh stores size params).history acts)).map Pulled.row = source.rows := by
  have sound : world.Sound := sound_run (sound_fresh stores size params) ran
  obtain ⟨_, traced⟩ := accounts_run ran
  obtain ⟨bound, _⟩ := List.getElem?_eq_some_iff.mp held
  have started : (sources acts)[index]? = some _ := List.getElem?_eq_getElem (traced.length.symm ▸ bound)
  have rows := traced.rows index scan _ held started
  have said : scan.exhausted = true := (Bool.and_eq_true_iff.mp closed).1
  rw [(held_sound sound held).spent said free goes_on] at rows
  exact ⟨_, started, (List.append_nil _).symm.trans rows⟩

-- A decoder that crashes in a task costs its own row only, in whatever order the steps in the background are taken.
theorem crashes_cost_own_rows {stores : List (Adapters T)} {size : Nat} {params : Option Params}
    (ran : (fresh stores size params).run acts = some world) {index : Nat} {scan : Scan T}
    (held : world.scans[index]? = some scan) : Withstands (fresh stores size params) acts world index scan := by
  have tended := tended_run ran
  have counter := tended.counters index
  rw [counter_at held] at counter
  have told := tended.told index
  rw [part_at held, Scan.farewell, tended.fallen] at told
  refine ⟨?_, ?_, fun closed => ⟨?_, ?_, rows_of_closed ran held closed⟩, ?_, ?_, told, ?_⟩
  · have begun := tended.begun index
    omega
  · rw [counter, tended.fallen]
  · simp only [queueClosed, Bool.and_eq_true, Bool.not_eq_true', List.any_eq_false] at closed
    intro task member mine
    simpa [Task.holds, mine] using closed.2 task member
  · rw [counter, atWork_closed closed, Nat.zero_add, tended.fallen]
  · intro task member mine
    obtain ⟨settled, crashed⟩ := tended.lost task member
    have here : task.pulled ∈ pulledBy index ((fresh stores size params).settled acts) :=
      List.mem_filter.mpr ⟨settled, decide_eq_true mine⟩
    exact ⟨(tended.settlement.rows index).mem_iff.mpr (List.mem_append_left _ here), Outcome.crashed_of_isCrash crashed⟩
  · exact deferred_accounted ran held
  · intro event member
    rw [told] at member
    split at member
    · rw [List.mem_singleton.mp member]
      exact ⟨rfl, rfl, rfl⟩
    · cases member

def crashing : Adapter Nat := ⟨8, "crashing", fun _ => none, fun _ _ => .crashed⟩

def crashedRow : List (Act Nat) :=
  [.start 0 [] [some (.thin [] [] [1] 8), some (.full [2] 7 [⟨[], [], []⟩])] 1, .pull 0, .advance 0, .advance 0, .advance 0,
    .take 0, .pull 0, .advance 0, .advance 0, .flushNext 0 8, .advance 0, .complete 0 (.results [some []]), .reply 0,
    .wake 0, .advance 0]

theorem crashes_cost_own_rows_of_one :
    ∃ (world : World Nat) (scan : Scan Nat),
      (fresh [Adapters.ofList [counting, crashing]] 2 none).run crashedRow = some world
      ∧ world.scans[0]? = some scan ∧ scan.finished = true ∧ scan.emitted = [1] ∧ scan.outstanding = 1
      ∧ (fresh [Adapters.ofList [counting, crashing]] 2 none).logged Event.isEarly 0 crashedRow = [.endedEarly 1]
      ∧ Withstands (fresh [Adapters.ofList [counting, crashing]] 2 none) crashedRow world 0 scan :=
  ⟨_, _, rfl, rfl, rfl, rfl, rfl, rfl,
    @crashes_cost_own_rows Nat _ crashedRow [Adapters.ofList [counting, crashing]] 2 none rfl 0 _ rfl⟩

end World

end ThinScan
