import Mathlib.Data.List.Induction
import ThinScan.Proofs.Fates
import ThinScan.Proofs.Notices

/-!
A row is settled by the step that refuses it, decodes it, or finds that there is nothing to decode; this step logs the
event of the row, if it has one, and no other step does.
-/

set_option autoImplicit false

namespace ThinScan

variable {T : Type}

namespace Event

def ofLookup : Event → Bool
  | exhaustedUninitiated => true
  | event => event.ofBatch || event.isAside

def isEarly : Event → Bool
  | endedEarly .. => true
  | _ => false

theorem ofLookup_of_batch {event : Event} (batch : event.ofBatch = true) : event.ofLookup = true := by
  cases event <;> first | rfl | cases batch

theorem kinds_of_lookup {event : Event} (lookup : event.ofLookup = true) :
    event.ofRow = false ∧ event.isEarly = false := by
  cases event <;> first | exact ⟨rfl, rfl⟩ | cases lookup

end Event

namespace BatchLookup

variable {lookup later : BatchLookup}

structure Logs (lookup : BatchLookup) : Prop where
  discreet : lookup.Discreet
  events : ∀ event ∈ lookup.events, event.ofLookup = true

theorem logs_aside (logs : lookup.Logs) (discreet : later.Discreet) (aside : lookup.Aside later) : later.Logs := by
  obtain ⟨told, events, kinds⟩ := aside
  refine ⟨discreet, fun event member => ?_⟩
  rw [events] at member
  rcases List.mem_append.mp member with fresh | earlier
  · cases event <;> first | rfl | cases kinds _ fresh
  · exact logs.events event earlier

theorem logs_retire (logs : lookup.Logs) : lookup.retire.2.Logs := by
  refine ⟨discreet_step logs.discreet (retire_step lookup), fun event member => ?_⟩
  unfold retire at member
  split at member
  · rcases List.mem_cons.mp member with rfl | earlier
    · rfl
    · exact logs.events event earlier
  · exact logs.events event member

theorem logs_complete {index : Nat} {fetched : Fetched} (logs : lookup.Logs)
    (taken : lookup.complete index fetched = some later) : later.Logs := by
  refine ⟨discreet_step logs.discreet (complete_step taken), fun event member => ?_⟩
  simp only [complete, Option.bind_eq_bind, Option.bind_eq_some_iff] at taken
  obtain ⟨batch, held, taken⟩ := taken
  split at taken <;> cases taken
  rcases List.mem_append.mp member with fresh | earlier
  · have batch_event := ((Fetched.events_reported batch fetched).warnings event fresh).1
    rw [Event.ofLookup_of_batch batch_event]
  · exact logs.events event earlier

theorem logs_flushAdapter (logs : lookup.Logs) (adapter : AdapterId) : (lookup.flushAdapter adapter).Logs :=
  logs_aside logs (discreet_flushAdapter logs.discreet adapter) (aside_flushAdapter lookup adapter)

theorem logs_request (logs : lookup.Logs) (adapter : AdapterId) (key : Bytes) : (lookup.request adapter key).2.Logs :=
  logs_aside logs (discreet_step logs.discreet (request_step lookup adapter key)) (aside_request lookup adapter key)

theorem logs_reply {index : Nat} (logs : lookup.Logs) (taken : lookup.reply index = some later) : later.Logs :=
  logs_aside logs (discreet_step logs.discreet (reply_step taken)) (aside_reply taken)

theorem logs_look {request : RequestId} {found : Option Values} (logs : lookup.Logs)
    (known : lookup.look request = some (found, later)) : later.Logs :=
  logs_aside logs (discreet_step logs.discreet (look_step known)) (aside_look logs.discreet known)

theorem logs_turn {label : Nat → Act T} {scan fresh : Scan T} (logs : lookup.Logs)
    (turn : scan.Turn label lookup later fresh) : later.Logs := by
  cases turn with
  | enter free idle uncounted => exact ⟨discreet_step logs.discreet (initiate_step lookup), logs.events⟩
  | exhaust scanning rowless unsaid => exact logs_retire logs
  | flush flush listed member => exact logs_flushAdapter logs _
  | abandon free idle counted unsaid others => exact logs_retire logs
  | abandonLast free idle counted unsaid last => exact logs_retire logs
  | _ => exact logs

end BatchLookup

namespace Pulled

variable {answer? : RequestId → Option Values} {pulled : Pulled T}

def outcome (answer? : RequestId → Option Values) (pulled : Pulled T) : Outcome T :=
  match pulled.verdict with
  | .refused => .refused
  | .unknown => .lost (.adapterMissing pulled.row.dataId pulled.row.adapter)
  | .own adapter => .ofValues adapter pulled.row pulled.row.values
  | .deferred adapter request => .ofLookup adapter pulled.row (answer? request)

theorem value_outcome (answer? : RequestId → Option Values) (pulled : Pulled T) :
    (pulled.outcome answer?).value? = pulled.value? answer? := by
  unfold outcome value?
  cases pulled.verdict with
  | refused => rfl
  | unknown => rfl
  | own adapter => exact Outcome.value_ofValues adapter pulled.row pulled.row.values
  | deferred adapter request => exact Outcome.value_ofLookup adapter pulled.row (answer? request)

theorem outcome_kept {lookup later : BatchLookup}
    (kept : ∀ request reply, lookup.reply? request = some reply → later.reply? request = some reply)
    (answered : pulled.Answered lookup) : pulled.outcome later.answer? = pulled.outcome lookup.answer? := by
  unfold outcome
  split
  · rfl
  · rfl
  · rfl
  · rename_i adapter request verdict
    obtain ⟨reply, known⟩ := answered adapter request verdict
    rw [BatchLookup.answer?, BatchLookup.answer?, known, kept request reply known]

theorem events_outcome (answer? : RequestId → Option Values) (pulled : Pulled T) :
    (pulled.outcome answer?).events.filter Event.ofRow = (pulled.outcome answer?).events := by
  have decoded (adapter : Adapter T) (values : Values) : (Outcome.ofValues adapter pulled.row values).events.filter
      Event.ofRow = (Outcome.ofValues adapter pulled.row values).events := by
    rw [Outcome.ofValues]
    cases adapter.decode pulled.row values <;> rfl
  unfold outcome
  cases pulled.verdict with
  | refused => rfl
  | unknown => rfl
  | own adapter => exact decoded adapter _
  | deferred adapter request =>
      dsimp only
      cases answer? request with
      | none => rfl
      | some values => exact decoded adapter values

def isImmediate (pulled : Pulled T) : Bool :=
  match pulled.verdict with
  | .deferred _ _ => false
  | _ => true

def found (answer? : RequestId → Option Values) (pulled : Pulled T) : Option Values :=
  match pulled.verdict with
  | .deferred _ request => answer? request
  | _ => none

end Pulled

namespace Task

def pulled (task : Task T) : Pulled T := ⟨task.scan, task.row, .deferred task.adapter task.request⟩

theorem awaited_waiting {task : Task T} (waiting : task.stage = .waiting) (index : Nat) :
    task.awaited? index = if task.scan = index then some task.pulled else none := by
  unfold awaited?
  rw [waiting]
  by_cases here : task.scan = index
  · subst here
    rfl
  · exact (if_neg here).trans (if_neg here).symm

end Task

namespace World

variable {world later : World T} {action : Act T}

-- The row that a scan settles when it goes on: the next one, if it needs no answer, or the one whose answer is there.
def settling (world : World T) (index : Nat) (scan : Scan T) : List (Pulled T) :=
  match scan.phase, scan.source with
  | .scanning, some row :: _ => [world.pulling index scan row].filter Pulled.isImmediate
  | .deferring row adapter request, _ =>
      if (world.lookup.look request).isSome then [⟨index, row, .deferred adapter request⟩] else []
  | _, _ => []

def settles (world : World T) : Act T → List (Pulled T)
  | .advance index => world.part index (world.settling index)
  | .wake place => (world.tasks[place]?).toList.map Task.pulled
  | _ => []

def owner? (world : World T) : Act T → Option Nat
  | .wake place => (world.tasks[place]?).map Task.scan
  | .send place => (world.tasks[place]?).map Task.scan
  | .finish place => (world.tasks[place]?).map Task.scan
  | action => action.scan?

-- What a step logs: the event of the row that it settles, or that a queue was closed with tasks outstanding, or that a
-- value was discarded, or nothing.
inductive Tells (world later : World T) (action : Act T) : Prop
  | settled {pulled : Pulled T} (settles : world.settles action = [pulled]) (owner : world.owner? action = some pulled.scan)
      (answered : pulled.Answered later.lookup)
      (events : later.events = (pulled.outcome later.lookup.answer?).events ++ world.events)
  | ended {index : Nat} {scan : Scan T} (mine : action = .advance index) (settles : world.settles action = [])
      (held : world.scans[index]? = some scan) (receiving : scan.phase = .receiving)
      (closed : world.queueClosed index scan = true)
      (scans : later.scans = world.scans.set index { scan with finished := true, phase := .idle })
      (events : later.events = (if 0 < scan.outstanding then [.endedEarly scan.outstanding] else []) ++ world.events)
  | discarded (settles : world.settles action = []) (events : later.events = .valueDiscarded :: world.events)
  | quiet (settles : world.settles action = []) (events : later.events = world.events)

theorem settles_at {index : Nat} {scan : Scan T} (held : world.scans[index]? = some scan) :
    world.settles (.advance index) = world.settling index scan := part_at held

theorem settling_row {index : Nat} {scan : Scan T} {row : Row} {rest : Source} (scanning : scan.phase = .scanning)
    (next : scan.source = some row :: rest) :
    world.settling index scan = [world.pulling index scan row].filter Pulled.isImmediate := by
  unfold settling
  rw [scanning, next]

theorem settling_ended {index : Nat} {scan : Scan T} (scanning : scan.phase = .scanning)
    (ended : ∀ row rest, scan.source = some row :: rest → False) : world.settling index scan = [] := by
  unfold settling
  split
  · rename_i row rest _ next
    exact (ended _ _ next).elim
  · rename_i deferring
    rw [scanning] at deferring
    cases deferring
  · rfl

theorem settling_deferring {index : Nat} {scan : Scan T} {row : Row} {adapter : Adapter T} {request : RequestId}
    (deferring : scan.phase = .deferring row adapter request) : world.settling index scan
      = if (world.lookup.look request).isSome then [⟨index, row, .deferred adapter request⟩] else [] := by
  unfold settling
  rw [deferring]

theorem settling_other {index : Nat} {scan : Scan T} (scanning : scan.phase ≠ .scanning)
    (deferring : ∀ row adapter request, scan.phase ≠ .deferring row adapter request) : world.settling index scan = [] := by
  unfold settling
  split
  · rename_i here _
    exact absurd here scanning
  · rename_i here
    exact absurd here (deferring _ _ _)
  · rfl

theorem tells_row {index : Nat} {scan : Scan T} {row : Row} {rest : Source} (held : world.scans[index]? = some scan)
    (scanning : scan.phase = .scanning) (next : scan.source = some row :: rest) :
    Tells world (world.pullRow index scan row rest) (.advance index) := by
  have settles := (settles_at held).trans (settling_row scanning next)
  -- A row that is not deferred is settled with what its verdict says, and needs no answer for it.
  have settled {after : World T} {verdict : Verdict T} (judged : world.verdict scan row = verdict)
      (immediate : (Pulled.mk index row verdict).isImmediate = true)
      (events : after.events = ((Pulled.mk index row verdict).outcome after.lookup.answer?).events ++ world.events) :
      Tells world after (.advance index) := by
    rw [pulling, judged, List.filter_singleton, immediate] at settles
    refine .settled settles rfl (fun adapter request deferred => ?_) events
    rw [Pulled.isImmediate, deferred] at immediate
    cases immediate
  unfold pullRow
  cases admitted : (world.decoder scan).admission row with
  | refused => exact settled (by rw [World.verdict, admitted]) rfl rfl
  | unknown => exact settled (by rw [World.verdict, admitted]) rfl rfl
  | granted adapter =>
      dsimp only
      split
      · rename_i thin
        have deferred : world.verdict scan row = .deferred adapter (world.lookup.request row.adapter row.dataId).1 := by
          rw [World.verdict, admitted]
          exact if_pos thin
        rw [pulling, deferred] at settles
        exact .quiet settles rfl
      · rename_i full
        have own : world.verdict scan row = .own adapter := by
          rw [World.verdict, admitted]
          exact if_neg full
        exact settled own rfl rfl

theorem tells_defer {index : Nat} {scan : Scan T} {row : Row} {adapter : Adapter T} {request : RequestId}
    (held : world.scans[index]? = some scan) (deferring : scan.phase = .deferring row adapter request) :
    Tells world (world.deferRow index scan row adapter request) (.advance index) := by
  have settles := (settles_at held).trans (settling_deferring deferring)
  unfold deferRow
  cases known : world.lookup.look request with
  | none =>
      rw [known] at settles
      exact .quiet settles rfl
  | some looked =>
      obtain ⟨found, after⟩ := looked
      rw [known] at settles
      obtain ⟨answer, told⟩ := BatchLookup.look_answer known
      refine .settled settles rfl ?_ ?_
      · rintro _ _ ⟨⟩
        exact told
      · exact congrArg (fun found => (Outcome.ofLookup adapter row found).events ++ world.events) answer.symm

theorem tells_receive {index : Nat} {scan : Scan T} (held : world.scans[index]? = some scan)
    (receiving : scan.phase = .receiving) (taken : world.receive index scan = some later) :
    Tells world later (.advance index) := by
  have settles : world.settles (.advance index) = [] :=
    (settles_at held).trans (settling_other (by rw [receiving]; simp) (by rw [receiving]; simp))
  unfold receive at taken
  split at taken
  · cases taken
    exact .quiet settles rfl
  · split at taken
    · rename_i closed
      cases taken
      exact .ended rfl settles held receiving closed rfl rfl
    · cases taken

theorem tells_advance {index : Nat} (taken : world.advance index = some later) :
    Tells world later (.advance index) := by
  simp only [advance, Option.bind_eq_bind, Option.bind_eq_some_iff] at taken
  obtain ⟨scan, held, taken⟩ := taken
  have quiet {after : World T} (settling : world.settling index scan = []) (events : after.events = world.events) :
      Tells world after (.advance index) := .quiet ((settles_at held).trans settling) events
  have flushes {left : Flush} (phase : scan.phase = .flushing left ∨ scan.phase = .closing left) :
      world.settling index scan = [] := by
    rcases phase with flushing | closing
    · exact settling_other (by rw [flushing]; simp) (by rw [flushing]; simp)
    · exact settling_other (by rw [closing]; simp) (by rw [closing]; simp)
  split at taken
  · cases taken
  · rename_i scanning
    split at taken
    · rename_i next
      cases taken
      exact tells_row held scanning next
    · rename_i ended
      cases taken
      refine quiet (settling_ended scanning ended) ?_
      unfold exhaust
      split <;> rfl
  · rename_i deferring
    cases taken
    exact tells_defer held deferring
  · rename_i phase
    cases taken
    exact quiet (flushes (.inl phase)) rfl
  · rename_i phase
    cases taken
    exact quiet (flushes (.inl phase)) rfl
  · cases taken
  · rename_i phase
    cases taken
    exact quiet (flushes (.inr phase)) rfl
  · rename_i phase
    cases taken
    exact quiet (flushes (.inr phase)) rfl
  · cases taken
  · rename_i receiving
    exact tells_receive held receiving taken

theorem tells_wake {place : Nat} (taken : world.wake place = some later) : Tells world later (.wake place) := by
  simp only [wake, Option.bind_eq_bind, Option.bind_eq_some_iff] at taken
  obtain ⟨task, held, taken⟩ := taken
  split at taken
  · obtain ⟨⟨found, lookup⟩, known, taken⟩ := Option.bind_eq_some_iff.mp taken
    cases taken
    obtain ⟨answer, told⟩ := BatchLookup.look_answer known
    have settles : world.settles (.wake place) = [task.pulled] := by rw [World.settles, held]; rfl
    refine .settled settles ?_ ?_ ?_
    · rw [owner?, held]
      rfl
    · rintro _ _ ⟨⟩
      exact told
    · exact congrArg (fun found => (Outcome.ofLookup task.adapter task.row found).events ++ world.events) answer.symm
  · cases taken

theorem tells_send {place : Nat} (taken : world.send place = some later) : Tells world later (.send place) := by
  simp only [send, Option.bind_eq_bind, Option.bind_eq_some_iff] at taken
  obtain ⟨task, held, scan, owner, taken⟩ := taken
  split at taken
  · split at taken
    · cases taken
      exact .discarded rfl rfl
    · split at taken
      · cases taken
        exact .quiet rfl rfl
      · cases taken
  · cases taken

theorem silent_move (move : Move action world later) (still : ∀ place, action ≠ .advance place)
    (asleep : ∀ place, action ≠ .wake place) (silent : ∀ place, action ≠ .send place) :
    later.events = world.events := by
  cases move with
  | skip => exact absurd rfl (still _)
  | missed => exact absurd rfl (still _)
  | finished => exact absurd rfl (still _)
  | wake => exact absurd rfl (asleep _)
  | discard => exact absurd rfl (silent _)
  | _ => rfl

theorem tells_act (taken : world.act action = some later) : Tells world later action := by
  have move := move_of_act taken
  cases action with
  | advance index => exact tells_advance taken
  | wake place => exact tells_wake taken
  | send place => exact tells_send taken
  | _ => exact .quiet rfl (silent_move move nofun nofun nofun)

theorem pulledBy_own {place : Nat} {rows : List (Pulled T)} (own : ∀ row ∈ rows, row.scan = place) (index : Nat) :
    pulledBy index rows = if place = index then rows else [] := by
  split
  · rename_i here
    exact List.filter_eq_self.mpr (fun row member => by simp [own row member, here])
  · rename_i elsewhere
    exact List.filter_eq_nil_iff.mpr (fun row member => by simp [own row member, elsewhere])

-- A row that is pulled is settled, or awaited; one that is awaited is settled, or still awaited.
theorem moved_scan {index place : Nat} {scan fresh : Scan T} {more : List (Task T)} (held : world.scans[place]? = some scan)
    (scans : later.scans = world.scans.set place fresh) (tasks : later.tasks = world.tasks ++ more)
    (pulled : ∀ row ∈ world.pulls action, row.scan = place) (settled : ∀ row ∈ world.settles action, row.scan = place)
    (begun : ∀ task ∈ more, task.scan = place)
    (here : (scan.asking place ++ world.pulls action).Perm
      (world.settles action ++ (fresh.asking place ++ more.filterMap (Task.awaited? place)))) :
    (world.awaited index ++ pulledBy index (world.pulls action)).Perm
      (pulledBy index (world.settles action) ++ later.awaited index) := by
  have asking : later.part index (Scan.asking index) = _ := part_set held scans
  rw [pulledBy_own pulled, pulledBy_own settled, awaited, awaited, asking, tasks, List.filterMap_append]
  by_cases same : place = index
  · subst same
    rw [if_pos rfl, if_pos rfl, if_pos rfl, part_at held]
    have ahead := here.append_right (world.tasks.filterMap (Task.awaited? place))
    simp only [List.append_assoc] at ahead ⊢
    refine (List.perm_append_comm.append_left _).trans (ahead.trans ?_)
    exact (List.perm_append_comm.append_left _).append_left _
  · have untaken : more.filterMap (Task.awaited? index) = [] := by
      refine List.filterMap_eq_nil_iff.mpr (fun task member => ?_)
      unfold Task.awaited?
      split
      · exact if_neg (fun mine => same ((begun task member).symm.trans mine))
      · rfl
    rw [if_neg same, if_neg same, if_neg same, untaken, List.append_nil, List.append_nil]
    exact .refl _

theorem moved_task {index place : Nat} {task : Task T} {successor : List (Task T)} (held : world.tasks[place]? = some task)
    (tasks : later.tasks = world.tasks.eraseIdx place ++ successor) (pulls : world.pulls action = [])
    (asking : later.part index (Scan.asking index) = world.part index (Scan.asking index))
    (here : (task.awaited? index).toList
      = pulledBy index (world.settles action) ++ successor.filterMap (Task.awaited? index)) :
    (world.awaited index ++ pulledBy index (world.pulls action)).Perm
      (pulledBy index (world.settles action) ++ later.awaited index) := by
  have waits := filterMap_at (Task.awaited? index) held
  rw [here] at waits
  rw [pulls, awaited, awaited, asking, tasks, List.filterMap_append]
  refine (List.Perm.of_eq (List.append_nil _)).trans ?_
  refine ((waits.trans (List.perm_append_comm_assoc _ _ _)).append_left _).trans ?_
  exact List.perm_append_comm_assoc _ _ _

theorem settles_turn {place : Nat} {label : Nat → Act T} {after : BatchLookup} {scan fresh : Scan T}
    (held : world.scans[place]? = some scan) (turn : scan.Turn label world.lookup after fresh) :
    world.settles (label place) = [] := by
  have other {phase : Phase T} (here : scan.phase = phase) (scanning : phase ≠ .scanning)
      (deferring : ∀ row adapter request, phase ≠ .deferring row adapter request) :
      world.settles (.advance place) = [] :=
    (settles_at held).trans (settling_other (here ▸ scanning) (here ▸ deferring))
  have rowless (scanning : scan.phase = .scanning) (ended : scan.source.rows = []) :
      world.settles (.advance place) = [] := by
    refine (settles_at held).trans (settling_ended scanning (fun row rest next => ?_))
    rw [next] at ended
    cases ended
  cases turn with
  | reach scanning ended said => exact rowless scanning ended
  | exhaust scanning ended unsaid => exact rowless scanning ended
  | list flush unlisted => rcases flush with rfl | rfl <;> exact other unlisted (by simp) (by simp)
  | await through => exact other through (by simp) (by simp)
  | close through => exact other through (by simp) (by simp)
  | receive receiving queued => exact other receiving (by simp) (by simp)
  | _ => rfl

theorem moved_aside {index : Nat} (pulls : world.pulls action = []) (settles : world.settles action = [])
    (tasks : later.tasks = world.tasks)
    (asking : later.part index (Scan.asking index) = world.part index (Scan.asking index)) :
    (world.awaited index ++ pulledBy index (world.pulls action)).Perm
      (pulledBy index (world.settles action) ++ later.awaited index) := by
  rw [pulls, settles, awaited_kept tasks asking]
  exact .of_eq (List.append_nil _)

theorem moved_row {index place : Nat} {scan fresh : Scan T} {row : Row} {rest : Source} (held : world.scans[place]? = some scan)
    (scanning : scan.phase = .scanning) (next : scan.source = some row :: rest)
    (undeferred : ∀ adapter request, world.verdict scan row ≠ .deferred adapter request)
    (scans : later.scans = world.scans.set place fresh) (tasks : later.tasks = world.tasks)
    (through : ∀ row adapter request, fresh.phase ≠ .deferring row adapter request) :
    (world.awaited index ++ pulledBy index (world.pulls (.advance place))).Perm
      (pulledBy index (world.settles (.advance place)) ++ later.awaited index) := by
  have pulls := pulls_row held scanning next
  have immediate : (world.pulling place scan row).isImmediate = true := by
    unfold Pulled.isImmediate
    split
    · rename_i adapter request deferred
      exact absurd deferred (undeferred adapter request)
    · rfl
  have settles : world.settles (.advance place) = [world.pulling place scan row] := by
    rw [settles_at held, settling_row scanning next, List.filter_singleton, immediate]
    rfl
  have unasked : scan.asking place = [] := Scan.asking_of_phase (by rw [scanning]; simp) place
  have unbegun : later.tasks = world.tasks ++ [] := tasks.trans (List.append_nil _).symm
  refine moved_scan held scans unbegun ?_ ?_ (List.forall_mem_nil _) ?_
  · rw [pulls]
    exact List.forall_mem_singleton.mpr rfl
  · rw [settles]
    exact List.forall_mem_singleton.mpr rfl
  · rw [pulls, settles, unasked, Scan.asking_of_phase through]
    exact .refl _

theorem moved_defer {index place : Nat} {scan fresh : Scan T} {row : Row} {rest : Source} {adapter : Adapter T}
    {request : RequestId} (held : world.scans[place]? = some scan) (scanning : scan.phase = .scanning)
    (next : scan.source = some row :: rest) (verdict : world.verdict scan row = .deferred adapter request)
    (scans : later.scans = world.scans.set place fresh) (tasks : later.tasks = world.tasks)
    (deferring : fresh.phase = .deferring row adapter request) :
    (world.awaited index ++ pulledBy index (world.pulls (.advance place))).Perm
      (pulledBy index (world.settles (.advance place)) ++ later.awaited index) := by
  have pulls := pulls_row held scanning next
  have settles : world.settles (.advance place) = [] := by
    rw [settles_at held, settling_row scanning next, List.filter_singleton, pulling, verdict]
    rfl
  have unasked : scan.asking place = [] := Scan.asking_of_phase (by rw [scanning]; simp) place
  have unbegun : later.tasks = world.tasks ++ [] := tasks.trans (List.append_nil _).symm
  refine moved_scan held scans unbegun ?_ ?_ (List.forall_mem_nil _) ?_
  · rw [pulls]
    exact List.forall_mem_singleton.mpr rfl
  · rw [settles]
    exact List.forall_mem_nil _
  · rw [pulls, settles, unasked, Scan.asking, deferring, pulling, verdict]
    exact .refl _

theorem moved_looked {index place : Nat} {scan fresh : Scan T} {row : Row} {adapter : Adapter T} {request : RequestId}
    {found : Option Values} {lookup : BatchLookup} (held : world.scans[place]? = some scan)
    (deferring : scan.phase = .deferring row adapter request)
    (known : world.lookup.look request = some (found, lookup)) (scans : later.scans = world.scans.set place fresh)
    (tasks : later.tasks = world.tasks)
    (through : ∀ row adapter request, fresh.phase ≠ .deferring row adapter request) :
    (world.awaited index ++ pulledBy index (world.pulls (.advance place))).Perm
      (pulledBy index (world.settles (.advance place)) ++ later.awaited index) := by
  have pulls : world.pulls (.advance place) = [] := pulls_busy held (by rw [deferring]; simp)
  have settles : world.settles (.advance place) = [⟨place, row, .deferred adapter request⟩] := by
    rw [settles_at held, settling_deferring deferring, known]
    rfl
  have unbegun : later.tasks = world.tasks ++ [] := tasks.trans (List.append_nil _).symm
  refine moved_scan held scans unbegun ?_ ?_ (List.forall_mem_nil _) ?_
  · rw [pulls]
    exact List.forall_mem_nil _
  · rw [settles]
    exact List.forall_mem_singleton.mpr rfl
  · rw [pulls, settles, Scan.asking_of_phase through, Scan.asking, deferring]
    exact .refl _

theorem moved_spawn {index place : Nat} {scan fresh : Scan T} {row : Row} {adapter : Adapter T} {request : RequestId}
    (held : world.scans[place]? = some scan) (deferring : scan.phase = .deferring row adapter request)
    (settles : world.settles (.advance place) = []) (scans : later.scans = world.scans.set place fresh)
    (tasks : later.tasks = world.tasks ++ [⟨place, row, adapter, request, .waiting⟩])
    (through : ∀ row adapter request, fresh.phase ≠ .deferring row adapter request) :
    (world.awaited index ++ pulledBy index (world.pulls (.advance place))).Perm
      (pulledBy index (world.settles (.advance place)) ++ later.awaited index) := by
  have pulls : world.pulls (.advance place) = [] := pulls_busy held (by rw [deferring]; simp)
  refine moved_scan held scans tasks ?_ ?_ (List.forall_mem_singleton.mpr rfl) ?_
  · rw [pulls]
    exact List.forall_mem_nil _
  · rw [settles]
    exact List.forall_mem_nil _
  · have taken : [(⟨place, row, adapter, request, .waiting⟩ : Task T)].filterMap (Task.awaited? place)
        = [⟨place, row, .deferred adapter request⟩] := by simp [Task.awaited?]
    rw [pulls, settles, Scan.asking_of_phase through, Scan.asking, deferring, taken]
    exact .refl _

theorem settles_spawn {place : Nat} {scan : Scan T} {row : Row} {adapter : Adapter T} {request : RequestId}
    {task : Task T} (held : world.scans[place]? = some scan) (deferring : scan.phase = .deferring row adapter request)
    (taken : world.act (.advance place) = some later) (tasks : later.tasks = world.tasks ++ [task]) :
    world.settles (.advance place) = [] := by
  rw [settles_at held, settling_deferring deferring]
  cases known : world.lookup.look request with
  | none => rfl
  | some looked =>
      simp only [act, advance, held, deferring, Option.bind_eq_bind, Option.bind_some, Option.some.injEq] at taken
      subst taken
      have same := congrArg List.length tasks
      simp [deferRow, known, report, setScan, withLookup] at same

theorem moved_act (taken : world.act action = some later) (index : Nat) :
    (world.awaited index ++ pulledBy index (world.pulls action)).Perm
      (pulledBy index (world.settles action) ++ later.awaited index) := by
  cases move_of_act taken with
  | turn held turn =>
      exact moved_aside (pulls_turn held turn) (settles_turn held turn) rfl
        (part_kept held rfl (Scan.asking_turn turn index))
  | skip events held scanning next phases undeferred worthless =>
      refine moved_row held scanning next undeferred rfl rfl ?_
      rcases phases with rfl | rfl <;> simp
  | own held scanning next verdict decoded =>
      exact moved_row held scanning next (by simp [verdict]) rfl rfl (by simp)
  | defer held scanning next verdict => exact moved_defer held scanning next verdict rfl rfl rfl
  | caught held deferring known decoded => exact moved_looked held deferring known rfl rfl (by simp)
  | missed events held deferring known phases worthless =>
      refine moved_looked held deferring known rfl rfl ?_
      rcases phases with rfl | rfl <;> simp
  | spawn held deferring =>
      exact moved_spawn held deferring (settles_spawn held deferring taken rfl) rfl rfl (by simp)
  | @finished _ place scan events held receiving empty closed =>
      have unasked : ∀ row adapter request, scan.phase ≠ .deferring row adapter request := by rw [receiving]; simp
      exact moved_aside (pulls_busy held (by rw [receiving]; simp))
        ((settles_at held).trans (settling_other (by rw [receiving]; simp) unasked)) rfl
        (part_kept held rfl (Scan.asking_of_phase unasked index).symm)
  | @wake _ place task found lookup events held waiting known =>
      refine moved_task held rfl rfl rfl ?_
      have settles : world.settles (.wake place) = [task.pulled] := by rw [World.settles, held]; rfl
      rw [awaited_ofOutcome, settles, pulledBy_one, List.append_nil, Task.awaited_waiting waiting]
      by_cases here : task.scan = index
      · exact (congrArg _ (if_pos here)).trans (if_pos here).symm
      · exact (congrArg _ (if_neg here)).trans (if_neg here).symm
  | send held owner sending free room =>
      refine moved_task held rfl rfl (part_kept owner rfl rfl) ?_
      rw [Task.awaited?, sending]
      rfl
  | discard events held owner sending dropped =>
      refine moved_task held rfl rfl rfl ?_
      rw [Task.awaited?, sending]
      rfl
  | finish held owner ending =>
      refine moved_task held rfl rfl (part_kept owner rfl rfl) ?_
      rw [Task.awaited?, ending]
      rfl
  | leave held leaving =>
      refine moved_task held rfl rfl rfl ?_
      rw [Task.awaited?, leaving]
      rfl
  | start store filters source capacity => exact moved_aside rfl rfl rfl (part_start rfl rfl index)
  | _ => exact moved_aside rfl rfl rfl rfl

theorem run_grows {start : World T} {motive : List (Act T) → World T → Prop} (nothing : motive [] start)
    (step : ∀ acts action world later, start.run acts = some world → motive acts world →
      world.act action = some later → motive (acts ++ [action]) later)
    {acts : List (Act T)} (ran : start.run acts = some world) : motive acts world := by
  induction acts using List.reverseRecOn generalizing world with
  | nil =>
      cases ran
      exact nothing
  | append_singleton acts action grows =>
      rw [run, List.foldlM_append] at ran
      obtain ⟨between, before, taken⟩ := Option.bind_eq_some_iff.mp ran
      have taken : between.act action = some world := by simpa using taken
      exact step acts action between world before (grows before) taken

theorem observed_concat {α : Type} (seen : World T → Act T → World T → List α) {start : World T} {acts : List (Act T)}
    (ran : start.run acts = some world) (taken : world.act action = some later) :
    observed seen start (acts ++ [action]) = observed seen start acts ++ seen world action later := by
  induction acts generalizing start with
  | nil =>
      cases ran
      simp only [List.nil_append, observed, taken, List.append_nil]
  | cons first rest step =>
      obtain ⟨between, began, ran⟩ := Option.bind_eq_some_iff.mp ((run_cons start first rest).symm.trans ran)
      simp only [List.cons_append, observed, began, step ran, List.append_assoc]

theorem history_concat {start : World T} {acts : List (Act T)} (ran : start.run acts = some world)
    (taken : world.act action = some later) : start.history (acts ++ [action]) = start.history acts ++ world.pulls action := by
  induction acts generalizing start with
  | nil =>
      cases ran
      simp only [List.nil_append, history, taken, List.append_nil]
  | cons first rest step =>
      obtain ⟨between, began, ran⟩ := Option.bind_eq_some_iff.mp ((run_cons start first rest).symm.trans ran)
      simp only [List.cons_append, history, began, step ran, List.append_assoc]

def log (world : World T) : List Event := world.events ++ world.lookup.events

-- The events of a kind that the steps of one scan have logged along a run, oldest first.
def logged (kind : Event → Bool) (index : Nat) (world : World T) (acts : List (Act T)) : List Event :=
  observed (fun world action later =>
    if world.owner? action = some index then Event.arrived kind world.log later.log else []) world acts

def settled (world : World T) (acts : List (Act T)) : List (Pulled T) :=
  observed (fun world action _ => world.settles action) world acts

theorem logs_move (logs : world.lookup.Logs) (move : Move action world later) : later.lookup.Logs := by
  cases move with
  | turn held turn => exact BatchLookup.logs_turn logs turn
  | defer held => exact BatchLookup.logs_request logs _ _
  | caught held deferring known => exact BatchLookup.logs_look logs known
  | missed events held deferring known => exact BatchLookup.logs_look logs known
  | flush adapter => exact BatchLookup.logs_flushAdapter logs adapter
  | complete taken => exact BatchLookup.logs_complete logs taken
  | reply taken => exact BatchLookup.logs_reply logs taken
  | wake events held waiting known => exact BatchLookup.logs_look logs known
  | _ => exact logs

theorem arrived_act {kind : Event → Bool} (foreign : ∀ event : Event, event.ofLookup = true → kind event = false)
    (before : world.lookup.Logs) (after : later.lookup.Logs) {fresh : List Event}
    (events : later.events = fresh ++ world.events) :
    Event.arrived kind world.log later.log = (fresh.filter kind).reverse := by
  have none_of {lookup : BatchLookup} (logs : lookup.Logs) : lookup.events.filter kind = [] :=
    List.filter_eq_nil_iff.mpr (fun event member => by simp [foreign event (logs.events event member)])
  refine Event.arrived_of ?_
  rw [log, log, List.filter_append, List.filter_append, none_of before, none_of after, events, List.filter_append,
    List.append_nil, List.append_nil]

def filters? : Act T → Option (List Filter)
  | .start _ filters _ _ => some filters
  | _ => none

def filterings (acts : List (Act T)) : List (List Filter) := acts.filterMap filters?

theorem filters_turn {label : Nat → Act T} {lookup after : BatchLookup} {scan fresh : Scan T}
    (turn : scan.Turn label lookup after fresh) (place : Nat) :
    fresh.filters = scan.filters ∧ filters? (label place) = none := by
  have begins : scan.begin.filters = scan.filters := by
    rcases Scan.begin_cases scan with ⟨_, same⟩ | ⟨_, _, _, _, _, next⟩ | ⟨_, _, _, turned⟩ <;> simp only [*]
  cases turn with
  | enter free idle uncounted => exact ⟨begins, rfl⟩
  | resume free idle counted => exact ⟨begins, rfl⟩
  | _ => exact ⟨rfl, rfl⟩

theorem filters_move (move : Move action world later) :
    later.scans.map Scan.filters = world.scans.map Scan.filters ++ (filters? action).toList := by
  have kept {place : Nat} {scan fresh : Scan T} (held : world.scans[place]? = some scan)
      (same : fresh.filters = scan.filters) :
      (world.scans.set place fresh).map Scan.filters = world.scans.map Scan.filters ++ ([] : List (List Filter)) := by
    rw [map_set_same Scan.filters fresh held same, List.append_nil]
  cases move with
  | start store filters source capacity => exact List.map_append
  | @turn _ label place scan fresh lookup held turn =>
      obtain ⟨same, unstarted⟩ := filters_turn turn place
      rw [unstarted]
      exact kept held same
  | skip events held => exact kept held rfl
  | own held => exact kept held rfl
  | defer held => exact kept held rfl
  | caught held => exact kept held rfl
  | missed events held => exact kept held rfl
  | spawn held => exact kept held rfl
  | finished events held => exact kept held rfl
  | send held owner => exact kept owner rfl
  | finish held owner => exact kept owner rfl
  | _ => exact (List.append_nil _).symm

theorem fate_pulling (world : World T) (index : Nat) (scan : Scan T) (row : Row) (answer? : RequestId → Option Values) :
    row.Fate (world.decoder scan) (some ((world.pulling index scan row).found answer?))
      ((world.pulling index scan row).outcome answer?) := by
  unfold pulling verdict
  cases admitted : (world.decoder scan).admission row with
  | refused => exact .refused (Decoder.refused_of_admission admitted)
  | unknown =>
      exact .unregistered (Decoder.accepted_of_admission admitted nofun) (Decoder.absent_of_admission admitted)
  | granted adapter =>
      have accepted := Decoder.accepted_of_admission admitted nofun
      have registered := Decoder.registered_of_admission admitted
      dsimp only
      split
      · rename_i thin
        exact Row.fate_thin accepted registered thin
      · rename_i full
        exact Row.fate_own accepted registered (.inl (Bool.eq_false_iff.mpr full))

theorem pulls_cases (world : World T) (action : Act T) :
    world.pulls action = [] ∨ ∃ index scan row, world.scans[index]? = some scan ∧ scan.phase = .scanning
      ∧ world.pulls action = [world.pulling index scan row] := by
  unfold pulls
  split
  · split
    · exact .inl rfl
    · rename_i scan held
      split
      · rename_i scanning _
        exact .inr ⟨_, scan, _, held, scanning, rfl⟩
      · exact .inl rfl
  · exact .inl rfl

theorem pulling_pulls {pulled : Pulled T} (member : pulled ∈ world.pulls action) :
    ∃ scan, world.scans[pulled.scan]? = some scan ∧ pulled = world.pulling pulled.scan scan pulled.row := by
  rcases pulls_cases world action with nothing | ⟨index, scan, row, held, _, one⟩
  · rw [nothing] at member
    cases member
  · rw [one] at member
    rw [List.mem_singleton.mp member]
    exact ⟨scan, held, rfl⟩

-- Along a run a row is pulled, by a scan that has this decoder then.
inductive PulledWith (start : World T) (pulled : Pulled T) : List (Act T) → Decoder T → Prop
  | amid {past : List (Act T)} {action : Act T} {world : World T} {scan : Scan T} (ran : start.run past = some world)
      (held : world.scans[pulled.scan]? = some scan) (pulls : pulled ∈ world.pulls action) (rest : List (Act T)) :
      PulledWith start pulled (past ++ action :: rest) (world.decoder scan)

theorem pulled_with {start : World T} {acts : List (Act T)} {pulled : Pulled T} (member : pulled ∈ start.history acts) :
    ∃ decoder, PulledWith start pulled acts decoder := by
  induction acts generalizing start with
  | nil => cases member
  | cons first rest step =>
      rw [history] at member
      split at member
      · cases member
      · rename_i later taken
        rcases List.mem_append.mp member with here | afterwards
        · obtain ⟨scan, held, _⟩ := pulling_pulls here
          have ran : start.run [] = some start := rfl
          exact ⟨_, .amid ran held here rest⟩
        · obtain ⟨decoder, met⟩ := step afterwards
          cases met with
          | @amid past action world scan ran held pulls rest =>
              have longer : start.run (first :: past) = some world := by rw [run_cons, taken]; exact ran
              exact ⟨_, .amid longer held pulls rest⟩

-- A run so far: each row that was pulled is settled or awaited, with the filters of its scan; what is settled has its
-- answer; and of events about rows the steps of each scan have logged just those of its settled rows, in this order.
structure Settlement (start : World T) (acts : List (Act T)) (world : World T) : Prop where
  sound : world.Sound
  logs : world.lookup.Logs
  filters : world.scans.map Scan.filters = filterings acts
  rows : ∀ index, (pulledBy index (start.history acts)).Perm (pulledBy index (start.settled acts) ++ world.awaited index)
  answered : ∀ pulled ∈ start.settled acts, pulled.Answered world.lookup
  told : ∀ index, start.logged Event.ofRow index acts
    = (pulledBy index (start.settled acts)).flatMap (fun pulled => (pulled.outcome world.lookup.answer?).events)

variable {start : World T} {acts : List (Act T)}

theorem logged_concat (kind : Event → Bool) (index : Nat) (ran : start.run acts = some world)
    (taken : world.act action = some later) :
    start.logged kind index (acts ++ [action]) = start.logged kind index acts
      ++ if world.owner? action = some index then Event.arrived kind world.log later.log else [] :=
  observed_concat _ ran taken

theorem settled_concat (ran : start.run acts = some world) (taken : world.act action = some later) :
    start.settled (acts ++ [action]) = start.settled acts ++ world.settles action := observed_concat _ ran taken

theorem logged_act (logs : world.lookup.Logs) (taken : world.act action = some later) (index : Nat) :
    (if world.owner? action = some index then Event.arrived Event.ofRow world.log later.log else [])
      = (pulledBy index (world.settles action)).flatMap (fun pulled => (pulled.outcome later.lookup.answer?).events) := by
  have foreign (event : Event) (lookup : event.ofLookup = true) : event.ofRow = false := (Event.kinds_of_lookup lookup).1
  have arrives {fresh : List Event} (events : later.events = fresh ++ world.events) :
      Event.arrived Event.ofRow world.log later.log = (fresh.filter Event.ofRow).reverse :=
    arrived_act foreign logs (logs_move logs (move_of_act taken)) events
  have nothing (fresh : List Event) (settles : world.settles action = []) (events : later.events = fresh ++ world.events)
      (none_of : fresh.filter Event.ofRow = []) :
      (if world.owner? action = some index then Event.arrived Event.ofRow world.log later.log else [])
        = (pulledBy index (world.settles action)).flatMap (fun pulled => (pulled.outcome later.lookup.answer?).events) := by
    rw [settles, arrives events, none_of]
    exact ite_self _
  cases tells_act taken with
  | @settled pulled settles owner answered events =>
      rw [settles, owner, pulledBy_one, arrives events, Pulled.events_outcome, Outcome.reverse_events]
      by_cases here : pulled.scan = index
      · rw [if_pos here, if_pos (congrArg some here), List.flatMap_singleton]
      · rw [if_neg here, if_neg (fun same => here (Option.some.inj same)), List.flatMap_nil]
  | @ended place scan mine settles held receiving closed scans events =>
      exact nothing _ settles events (by split <;> rfl)
  | discarded settles events => exact nothing [.valueDiscarded] settles events rfl
  | quiet settles events => exact nothing [] settles events rfl

theorem answered_act (taken : world.act action = some later) :
    ∀ pulled ∈ world.settles action, pulled.Answered later.lookup := by
  intro pulled member
  cases tells_act taken with
  | settled settles owner answered events =>
      rw [settles] at member
      rw [List.mem_singleton.mp member]
      exact answered
  | ended mine settles => rw [settles] at member; cases member
  | discarded settles => rw [settles] at member; cases member
  | quiet settles => rw [settles] at member; cases member

theorem filterings_concat (acts : List (Act T)) (action : Act T) :
    filterings (acts ++ [action]) = filterings acts ++ (filters? action).toList := by
  rw [filterings, List.filterMap_append]
  rfl

theorem settlement_act (ran : start.run acts = some world) (before : Settlement start acts world)
    (taken : world.act action = some later) : Settlement start (acts ++ [action]) later := by
  have move := move_of_act taken
  have known := reply_move before.sound move
  refine ⟨sound_move before.sound move, logs_move before.logs move, ?_, ?_, ?_, ?_⟩
  · rw [filters_move move, before.filters, filterings_concat]
  · intro index
    rw [history_concat ran taken, settled_concat ran taken, pulledBy, List.filter_append, pulledBy, List.filter_append,
      List.append_assoc]
    refine ((before.rows index).append_right _).trans ?_
    rw [List.append_assoc]
    exact (moved_act taken index).append_left _
  · intro pulled member
    rw [settled_concat ran taken] at member
    rcases List.mem_append.mp member with earlier | fresh
    · intro adapter request verdict
      obtain ⟨reply, was⟩ := before.answered pulled earlier adapter request verdict
      exact ⟨reply, known request reply was⟩
    · exact answered_act taken pulled fresh
  · intro index
    have same : (pulledBy index (start.settled acts)).flatMap (fun pulled => (pulled.outcome world.lookup.answer?).events)
        = (pulledBy index (start.settled acts)).flatMap (fun pulled => (pulled.outcome later.lookup.answer?).events) :=
      List.flatMap_congr (fun pulled member =>
        congrArg Outcome.events (Pulled.outcome_kept known (before.answered pulled (List.mem_of_mem_filter member))).symm)
    rw [logged_concat Event.ofRow index ran taken, logged_act before.logs taken, settled_concat ran taken, before.told, same,
      ← List.flatMap_append, pulledBy, pulledBy, pulledBy, List.filter_append]

theorem settlement_run {stores : List (Adapters T)} {size : Nat} {params : Option Params}
    (ran : (fresh stores size params).run acts = some world) : Settlement (fresh stores size params) acts world := by
  refine run_grows (motive := Settlement (fresh stores size params)) ?_ ?_ ran
  · have unsaid : BatchLookup.Logs (fresh stores size params).lookup :=
      ⟨⟨List.forall_mem_nil _, List.forall_mem_nil _⟩, List.forall_mem_nil _⟩
    exact ⟨sound_fresh stores size params, unsaid, rfl, fun _ => .refl _, List.forall_mem_nil _, fun _ => rfl⟩
  · exact fun acts action world later ran before taken => settlement_act ran before taken

theorem filters_pulledWith {stores : List (Adapters T)} {size : Nat} {params : Option Params} {pulled : Pulled T}
    {decoder : Decoder T} (met : PulledWith (fresh stores size params) pulled acts decoder) :
    (filterings acts)[pulled.scan]? = some decoder.filters := by
  cases met with
  | @amid past action world scan ran held pulls rest =>
      have known : (filterings past)[pulled.scan]? = some scan.filters := by
        rw [← (settlement_run ran).filters, List.getElem?_map, held]
        rfl
      have longer : filterings (past ++ action :: rest) = filterings past ++ filterings (action :: rest) :=
        List.filterMap_append
      rw [longer, List.getElem?_append_left (List.getElem?_eq_some_iff.mp known).1]
      exact known

theorem fate_pulledWith {start : World T} {pulled : Pulled T} {decoder : Decoder T}
    (met : PulledWith start pulled acts decoder) (answer? : RequestId → Option Values) :
    pulled.row.Fate decoder (some (pulled.found answer?)) (pulled.outcome answer?) := by
  cases met with
  | @amid past action world scan ran held pulls rest =>
      obtain ⟨other, there, same⟩ := pulling_pulls pulls
      rw [held] at there
      cases there
      rw [same]
      exact fate_pulling world _ _ _ answer?

-- A deferred scan at its end, against the rows that it has pulled: they are those of its source, each has met the one
-- fate that the decoder of its pull and the answer to its request hold for it, and what the scan has handed out and what
-- it has logged about rows is what became of them.
structure Accounted (start : World T) (acts : List (Act T)) (world : World T) (index : Nat) (scan : Scan T)
    (source : Source) : Prop where
  begun : (sources acts)[index]? = some source ∧ (filterings acts)[index]? = some scan.filters
  rows : (pulledBy index (start.history acts)).map Pulled.row = source.rows
  answered : ∀ pulled ∈ pulledBy index (start.history acts), pulled.Answered world.lookup
  fates : ∀ pulled ∈ pulledBy index (start.history acts),
    ∃ decoder, PulledWith start pulled acts decoder ∧ decoder.filters = scan.filters
      ∧ (∀ outcome, pulled.row.Fate decoder (some (pulled.found world.lookup.answer?)) outcome
        ↔ outcome = pulled.outcome world.lookup.answer?)
      ∧ ∀ event ∈ (pulled.outcome world.lookup.answer?).events, event.Names pulled.row.dataId
  values : scan.emitted.Perm ((pulledBy index (start.history acts)).filterMap
    (fun pulled => (pulled.outcome world.lookup.answer?).value?))
  told : (start.logged Event.ofRow index acts).Perm ((pulledBy index (start.history acts)).flatMap
    (fun pulled => (pulled.outcome world.lookup.answer?).events))

theorem deferred_accounted {stores : List (Adapters T)} {size : Nat} {params : Option Params}
    (ran : (fresh stores size params).run acts = some world) {index : Nat} {scan : Scan T}
    (at_place : world.scans[index]? = some scan) (finished : scan.finished = true) :
    ∃ source, Accounted (fresh stores size params) acts world index scan source := by
  have settlement := settlement_run ran
  obtain ⟨all_accounts, traced⟩ := accounts_run ran
  obtain ⟨settled, lost, accounts⟩ := all_accounts index
  obtain ⟨bound, _⟩ := List.getElem?_eq_some_iff.mp at_place
  have started : (sources acts)[index]? = some _ := List.getElem?_eq_getElem (traced.length.symm ▸ bound)
  have rows := traced.rows index scan _ at_place started
  obtain ⟨_, _, _, _, stopped⟩ := (held_sound settlement.sound at_place).stopped finished
  rw [stopped] at rows
  have filtered : (filterings acts)[index]? = some scan.filters := by
    rw [← settlement.filters, List.getElem?_map, at_place]
    rfl
  have all := settlement.rows index
  rw [awaited_of_finished settlement.sound at_place finished, List.append_nil] at all
  refine ⟨_, ⟨started, filtered⟩, (List.append_nil _).symm.trans rows, fun pulled member => ?_, fun pulled member => ?_,
    ?_, ?_⟩
  · exact settlement.answered pulled (List.mem_of_mem_filter (all.mem_iff.mp member))
  · obtain ⟨past, mine⟩ := List.mem_filter.mp member
    obtain ⟨decoder, met⟩ := pulled_with past
    have known := filters_pulledWith met
    rw [of_decide_eq_true mine, filtered] at known
    have fate := fate_pulledWith met world.lookup.answer?
    exact ⟨decoder, met, (Option.some.inj known).symm, fun _ => Row.fate_iff fate,
      fun event told => (Row.fate_told fate event told).2⟩
  · have emitted := (emitted_of_finished settlement.sound accounts at_place finished).2
    simpa only [Pulled.value_outcome] using emitted
  · rw [settlement.told]
    exact all.symm.flatMap_right _

-- No row is lost without a word. A scan that was pulled to its end, be it inline or deferred, has met one fate for
-- each row of its source: it has handed out the values of those that have one, and by then it has logged the events
-- of those that were lost.
theorem every_row_accounted :
    (∀ (filters : List Filter) (source : Source) (pulls : List (InlineScan.Pull T)),
      (∃ exchange ∈ InlineScan.exchanges filters ⟨source, none⟩ pulls, exchange.said.ends = true) →
      ∃ pasts, InlineScan.Accounted filters source (InlineScan.exchanges filters ⟨source, none⟩ pulls) pasts)
    ∧ ∀ (stores : List (Adapters T)) (size : Nat) (params : Option Params) (acts : List (Act T)) (world : World T),
      (fresh stores size params).run acts = some world →
      ∀ (index : Nat) (scan : Scan T), world.scans[index]? = some scan → scan.finished = true →
      ∃ source, Accounted (fresh stores size params) acts world index scan source :=
  ⟨fun _ _ _ through => InlineScan.accounted_pulls through,
    fun _ _ _ _ _ ran _ _ at_place finished => deferred_accounted ran at_place finished⟩

def lostRows : List (Act Nat) :=
  [.start 0 [] [some (.thin [] [] [1] 7), some (.full [2] 8 [⟨[], [], []⟩])] 1, .pull 0, .advance 0, .advance 0, .advance 0,
    .advance 0, .advance 0, .flushNext 0 7, .advance 0, .complete 0 (.results [none]), .reply 0, .wake 0, .finish 0,
    .finish 0, .advance 0]

-- A row that gives its value, one that is refused, and one whose record is missing.
def lostSource : Source :=
  [some (.full [1] 7 [⟨[], [], []⟩]), some (.thin [] [] [9] 7), some (.thin [] [] [2] 7)]

def lostPulls : List (InlineScan.Pull Nat) :=
  List.replicate 2 ⟨false, Adapters.ofList [counting], fun _ _ _ => .ok none, ⟨some {}, [], []⟩⟩

theorem every_row_accounted_of_lost :
    ((InlineScan.exchanges [Filter.dataIdIsNot [9]] ⟨lostSource, none⟩ lostPulls).map
        (fun exchange => (exchange.said, exchange.events)) = [(.next (some 1), []), (.next none, [.recordMissing 7 [2]])]
      ∧ ∃ pasts, InlineScan.Accounted [Filter.dataIdIsNot [9]] lostSource
        (InlineScan.exchanges [Filter.dataIdIsNot [9]] ⟨lostSource, none⟩ lostPulls) pasts)
    ∧ ∃ (world : World Nat) (scan : Scan Nat) (source : Source),
      (fresh [Adapters.ofList [counting]] 2 none).run lostRows = some world
      ∧ world.scans[0]? = some scan ∧ scan.finished = true ∧ scan.emitted = []
      ∧ (fresh [Adapters.ofList [counting]] 2 none).logged Event.ofRow 0 lostRows
        = [.adapterMissing [2] 8, .recordMissing 7 [1]]
      ∧ Accounted (fresh [Adapters.ofList [counting]] 2 none) lostRows world 0 scan source := by
  obtain ⟨inline, deferred⟩ := every_row_accounted (T := Nat)
  obtain ⟨source, accounted⟩ := deferred [Adapters.ofList [counting]] 2 none lostRows _ rfl 0 _ rfl rfl
  refine ⟨⟨rfl, ?_⟩, _, _, source, rfl, rfl, rfl, rfl, rfl, accounted⟩
  exact inline [Filter.dataIdIsNot [9]] lostSource lostPulls ⟨_, List.mem_cons_of_mem _ List.mem_cons_self, rfl⟩

end World

end ThinScan
