import Mathlib.Data.List.Perm.Subperm
import ThinScan.Proofs.Settling

/-!
A value that was decoded from a row's own values never stands in the queue: it is the next one at once, and so these
values keep the order of their rows.
-/

set_option autoImplicit false

namespace ThinScan

open scoped List

variable {T : Type}

namespace Pulled

variable {pulled : Pulled T}

def gives (pulled : Pulled T) : Bool := (pulled.value? (fun _ => none)).isSome

theorem gives_of_worthless (worthless : ∀ answer?, pulled.value? answer? = none) : pulled.gives = false := by
  rw [gives, worthless]
  rfl

theorem gives_of_deferred {adapter : Adapter T} {request : RequestId}
    (deferred : pulled.verdict = .deferred adapter request) : pulled.gives = false := by
  unfold gives value?
  rw [deferred]
  rfl

theorem answered_of_own {adapter : Adapter T} (own : pulled.verdict = .own adapter) (lookup : BatchLookup) :
    pulled.Answered lookup := by
  intro other request deferred
  cases own.symm.trans deferred

end Pulled

namespace Task

def due? (index : Nat) (task : Task T) : Option (Pulled T) :=
  match task.stage with
  | .waiting => if task.scan = index then some task.pulled else none
  | .sending _ => if task.scan = index then some task.pulled else none
  | _ => none

theorem undue_of_scan {index : Nat} {task : Task T} (elsewhere : task.scan ≠ index) : task.due? index = none := by
  unfold due?
  split
  · exact if_neg elsewhere
  · exact if_neg elsewhere
  · rfl

end Task

namespace Scan

-- The values that a scan has handed out, and the one that is next.
def reached (scan : Scan T) : List T := scan.emitted ++ scan.lookahead.toList

theorem reached_found (scan : Scan T) (nothing : scan.lookahead = none) : scan.reached = scan.emitted := by
  rw [reached, nothing]
  exact List.append_nil _

inductive Passes (scan fresh : Scan T) : Prop
  | still (reached : fresh.reached = scan.reached) (queue : fresh.queue = scan.queue)
  | received {value : T} {rest : List T} (queued : scan.queue = value :: rest)
      (reached : fresh.reached = scan.reached ++ [value]) (queue : fresh.queue = rest)
  | closed (free : scan.dropped = false) (reached : fresh.reached = scan.emitted) (queue : fresh.queue = [])
      (dropped : fresh.dropped = true) (finished : fresh.finished = scan.finished)

theorem passes_begin (scan : Scan T) : scan.Passes scan.begin := by
  rcases begin_cases scan with ⟨_, same⟩ | ⟨nothing, _, value, rest, queued, next⟩ | ⟨_, _, _, turned⟩
  · rw [same]
    exact .still rfl rfl
  · rw [next]
    refine .received queued ?_ rfl
    rw [reached_found scan nothing]
    rfl
  · rw [turned]
    exact .still rfl rfl

theorem passes_turn {label : Nat → Act T} {lookup after : BatchLookup} {scan fresh : Scan T} (sound : scan.Sound)
    (turn : scan.Turn label lookup after fresh) : scan.Passes fresh := by
  cases turn with
  | enter free idle uncounted => exact passes_begin scan
  | resume free idle counted => exact passes_begin scan
  | receive receiving queued =>
      refine .received queued ?_ rfl
      rw [reached_found scan (sound.pulled (by rw [receiving]; rfl)).2.2.1]
      rfl
  | take free idle ready =>
      refine .still ?_ rfl
      rw [reached, reached, ready]
      exact List.append_nil _
  | close through =>
      have free : scan.dropped = false := by
        refine Bool.eq_false_iff.mpr (fun dropped => ?_)
        have idle := (sound.gone dropped).1
        rw [through] at idle
        cases idle
      exact .closed free (List.append_nil _) rfl rfl rfl
  | leave free idle settled => exact .closed free (List.append_nil _) rfl rfl rfl
  | abandon free idle counted unsaid others => exact .closed free (List.append_nil _) rfl rfl rfl
  | _ => exact .still rfl rfl

end Scan

namespace World

variable {world later : World T} {action : Act T} {past front back lost front' back' lost' : List (Pulled T)} {index : Nat}

def due (world : World T) (index : Nat) : List (Pulled T) :=
  world.part index (Scan.asking index) ++ world.tasks.filterMap (Task.due? index)

-- The values of a scan and the rows they belong to: those that have been handed out or are next come from `front`, those in
-- the queue from `back`, and tasks carry those of their own rows. No row is there twice. The queue holds values of deferred
-- rows only. Of the rows with a value of their own all are in front, in their order, but for those that were thrown away
-- with the scan.
structure Trail (world : World T) (past : List (Pulled T)) (index : Nat) (front back lost : List (Pulled T)) : Prop where
  answered : ∀ pulled ∈ front ++ back, pulled.Answered world.lookup
  reached : front.map (Pulled.value? world.lookup.answer?) = (world.part index Scan.reached).map some
  queued : back.map (Pulled.value? world.lookup.answer?) = (world.part index Scan.queue).map some
  carried : ∀ task ∈ world.tasks, task.scan = index → ∀ value, task.stage = .sending value →
    task.pulled.Answered world.lookup ∧ task.pulled.value? world.lookup.answer? = some value
  once : (front ++ back ++ world.due index) <+~ pulledBy index past
  behind : ∀ pulled ∈ back, pulled.gives = false
  order : front.filter Pulled.gives ++ lost = (pulledBy index past).filter Pulled.gives
  kept : lost ≠ [] → ∃ scan, world.scans[index]? = some scan ∧ scan.dropped = true ∧ scan.finished = false

theorem pulledBy_append (index : Nat) (past more : List (Pulled T)) :
    pulledBy index (past ++ more) = pulledBy index past ++ pulledBy index more := List.filter_append _ _

theorem worth_kept (sound : world.Sound) (move : Move action world later) {rows : List (Pulled T)}
    (answered : ∀ pulled ∈ rows, pulled.Answered world.lookup) :
    rows.map (Pulled.value? later.lookup.answer?) = rows.map (Pulled.value? world.lookup.answer?) :=
  List.map_congr_left (fun pulled member => Pulled.value_kept (reply_move sound move) (answered pulled member))

theorem answered_kept (sound : world.Sound) (move : Move action world later) {pulled : Pulled T}
    (answered : pulled.Answered world.lookup) : pulled.Answered later.lookup := by
  intro adapter request deferred
  obtain ⟨reply, known⟩ := answered adapter request deferred
  exact ⟨reply, reply_move sound move request reply known⟩

theorem carries_kept (sound : world.Sound) (trail : Trail world past index front back lost) (move : Move action world later)
    {task : Task T} (member : task ∈ world.tasks) (mine : task.scan = index) {value : T}
    (sending : task.stage = .sending value) :
    task.pulled.Answered later.lookup ∧ task.pulled.value? later.lookup.answer? = some value := by
  obtain ⟨answered, worth⟩ := trail.carried task member mine value sending
  exact ⟨answered_kept sound move answered, (Pulled.value_kept (reply_move sound move) answered).trans worth⟩

theorem lost_nothing (trail : Trail world past index front back lost) {scan : Scan T}
    (held : world.scans[index]? = some scan) (free : scan.dropped = false) : lost = [] := by
  apply Classical.byContradiction
  intro some_lost
  obtain ⟨same, found, dropped, _⟩ := trail.kept some_lost
  cases held.symm.trans found
  exact Bool.false_ne_true (free.symm.trans dropped)

theorem kept_lost (sound : world.Sound) (trail : Trail world past index front back lost) (move : Move action world later)
    (some_lost : lost ≠ []) : ∃ scan, later.scans[index]? = some scan ∧ scan.dropped = true ∧ scan.finished = false := by
  obtain ⟨scan, held, dropped, unfinished⟩ := trail.kept some_lost
  exact abandoned_move sound move held dropped unfinished

theorem once_after (trail : Trail world past index front back lost)
    (shift : (front' ++ back' ++ later.due index)
      <+~ (front ++ back ++ world.due index ++ pulledBy index (world.pulls action))) :
    (front' ++ back' ++ later.due index) <+~ pulledBy index (past ++ world.pulls action) := by
  rw [pulledBy_append]
  exact shift.trans (trail.once.append (List.Subperm.refl _))

theorem trail_still (sound : world.Sound) (trail : Trail world past index front back lost) (move : Move action world later)
    (reached : later.part index Scan.reached = world.part index Scan.reached)
    (queue : later.part index Scan.queue = world.part index Scan.queue)
    (carried : ∀ task ∈ later.tasks, task.scan = index → ∀ value, task.stage = .sending value →
      task.pulled.Answered later.lookup ∧ task.pulled.value? later.lookup.answer? = some value)
    (due : later.due index <+~ (world.due index ++ pulledBy index (world.pulls action)))
    (worthless : (pulledBy index (world.pulls action)).filter Pulled.gives = []) :
    Trail later (past ++ world.pulls action) index front back lost := by
  obtain ⟨told_front, told_back⟩ := List.forall_mem_append.mp trail.answered
  refine ⟨fun pulled member => answered_kept sound move (trail.answered pulled member), ?_, ?_, carried, ?_, trail.behind, ?_,
    kept_lost sound trail move⟩
  · rw [worth_kept sound move told_front, reached, trail.reached]
  · rw [worth_kept sound move told_back, queue, trail.queued]
  · refine once_after trail ?_
    rw [List.append_assoc (front ++ back)]
    exact (List.Subperm.refl _).append due
  · rw [trail.order, pulledBy_append, List.filter_append, worthless, List.append_nil]

theorem trail_found (sound : world.Sound) (trail : Trail world past index front back lost) (move : Move action world later)
    {scan : Scan T} (held : world.scans[index]? = some scan) (free : scan.dropped = false) {pulled : Pulled T} {value : T}
    (answered : pulled.Answered later.lookup) (worth : pulled.value? later.lookup.answer? = some value)
    (reached : later.part index Scan.reached = world.part index Scan.reached ++ [value])
    (queue : later.part index Scan.queue = world.part index Scan.queue) (tasks : later.tasks = world.tasks)
    (due : ([pulled] ++ later.due index) <+~ (world.due index ++ pulledBy index (world.pulls action)))
    (gives : (pulledBy index (world.pulls action)).filter Pulled.gives = [pulled].filter Pulled.gives) :
    Trail later (past ++ world.pulls action) index (front ++ [pulled]) back [] := by
  obtain ⟨told_front, told_back⟩ := List.forall_mem_append.mp trail.answered
  obtain rfl := lost_nothing trail held free
  have still (rows : List (Pulled T)) (told : ∀ pulled ∈ rows, pulled.Answered world.lookup) :
      ∀ pulled ∈ rows, pulled.Answered later.lookup :=
    fun pulled member => answered_kept sound move (told pulled member)
  refine ⟨?_, ?_, ?_, ?_, ?_, trail.behind, ?_, fun some_lost => absurd rfl some_lost⟩
  · exact List.forall_mem_append.mpr ⟨List.forall_mem_append.mpr ⟨still front told_front, List.forall_mem_singleton.mpr answered⟩,
      still back told_back⟩
  · rw [List.map_append, worth_kept sound move told_front, reached, List.map_append, trail.reached, List.map_singleton, worth]
    rfl
  · rw [worth_kept sound move told_back, queue, trail.queued]
  · rw [tasks]
    exact fun task member mine value sending => carries_kept sound trail move member mine sending
  · refine once_after trail ?_
    have shifted : (front ++ [pulled] ++ back ++ later.due index) ~ (front ++ back ++ ([pulled] ++ later.due index)) := by
      rw [List.append_assoc, List.append_assoc, List.append_assoc]
      exact (List.perm_append_comm_assoc [pulled] back _).append_left front
    refine shifted.subperm.trans ?_
    rw [List.append_assoc (front ++ back)]
    exact (List.Subperm.refl _).append due
  · have before := trail.order
    rw [List.append_nil] at before ⊢
    rw [List.filter_append, before, ← gives, pulledBy_append, List.filter_append]

theorem trail_sent (sound : world.Sound) (trail : Trail world past index front back lost) (move : Move action world later)
    {pulled : Pulled T} {value : T} (answered : pulled.Answered later.lookup)
    (worth : pulled.value? later.lookup.answer? = some value) (ungiven : pulled.gives = false)
    (reached : later.part index Scan.reached = world.part index Scan.reached)
    (queue : later.part index Scan.queue = world.part index Scan.queue ++ [value])
    (carried : ∀ task ∈ later.tasks, task.scan = index → ∀ value, task.stage = .sending value →
      task.pulled.Answered later.lookup ∧ task.pulled.value? later.lookup.answer? = some value)
    (due : ([pulled] ++ later.due index) <+~ world.due index) (pulls : world.pulls action = []) :
    Trail later (past ++ world.pulls action) index front (back ++ [pulled]) lost := by
  obtain ⟨told_front, told_back⟩ := List.forall_mem_append.mp trail.answered
  have still (rows : List (Pulled T)) (told : ∀ pulled ∈ rows, pulled.Answered world.lookup) :
      ∀ pulled ∈ rows, pulled.Answered later.lookup :=
    fun pulled member => answered_kept sound move (told pulled member)
  refine ⟨?_, ?_, ?_, carried, ?_, ?_, ?_, kept_lost sound trail move⟩
  · exact List.forall_mem_append.mpr ⟨still front told_front,
      List.forall_mem_append.mpr ⟨still back told_back, List.forall_mem_singleton.mpr answered⟩⟩
  · rw [worth_kept sound move told_front, reached, trail.reached]
  · rw [List.map_append, worth_kept sound move told_back, queue, List.map_append, trail.queued, List.map_singleton, worth]
    rfl
  · refine once_after trail ?_
    rw [pulls, pulledBy, List.filter_nil, List.append_nil, ← List.append_assoc front, List.append_assoc (front ++ back)]
    exact (List.Subperm.refl _).append due
  · exact List.forall_mem_append.mpr ⟨trail.behind, List.forall_mem_singleton.mpr ungiven⟩
  · rw [pulls, List.append_nil]
    exact trail.order

theorem trail_received (sound : world.Sound) (trail : Trail world past index front back lost)
    (move : Move action world later) {value : T} {rest : List T} (queued : world.part index Scan.queue = value :: rest)
    (reached : later.part index Scan.reached = world.part index Scan.reached ++ [value])
    (queue : later.part index Scan.queue = rest) (tasks : later.tasks = world.tasks)
    (due : later.due index = world.due index) (pulls : world.pulls action = []) :
    ∃ front back, Trail later (past ++ world.pulls action) index front back lost := by
  have first := trail.queued
  rw [queued, List.map_cons] at first
  obtain ⟨pulled, others, rfl, worth, still_queued⟩ := List.map_eq_cons_iff.mp first
  have regrouped : front ++ [pulled] ++ others = front ++ pulled :: others := by
    rw [List.append_assoc, List.singleton_append]
  have told := trail.answered
  rw [← regrouped] at told
  obtain ⟨told_front, told_back⟩ := List.forall_mem_append.mp told
  obtain ⟨ungiven, behind⟩ := List.forall_mem_cons.mp trail.behind
  refine ⟨front ++ [pulled], others, fun pulled member => answered_kept sound move (told pulled member), ?_, ?_, ?_, ?_,
    behind, ?_, kept_lost sound trail move⟩
  · rw [worth_kept sound move told_front, reached, List.map_append, List.map_append, trail.reached, List.map_singleton, worth]
    rfl
  · rw [worth_kept sound move told_back, queue, still_queued]
  · rw [tasks]
    exact fun task member mine value sending => carries_kept sound trail move member mine sending
  · refine once_after trail ?_
    rw [pulls, pulledBy, List.filter_nil, List.append_nil, due, regrouped]
  · rw [pulls, List.append_nil, ← trail.order, List.filter_append, List.filter_singleton, ungiven]
    exact congrArg (· ++ lost) (List.append_nil _)

theorem trail_closed (sound : world.Sound) (trail : Trail world past index front back lost) (move : Move action world later)
    {scan fresh : Scan T} (held : world.scans[index]? = some scan) (now : later.scans[index]? = some fresh)
    (free : scan.dropped = false) (reached : fresh.reached = scan.emitted) (queue : fresh.queue = [])
    (dropped : fresh.dropped = true) (finished : fresh.finished = scan.finished) (tasks : later.tasks = world.tasks)
    (due : later.due index = world.due index) (pulls : world.pulls action = []) :
    ∃ front lost, Trail later (past ++ world.pulls action) index front [] lost := by
  obtain ⟨told_front, _⟩ := List.forall_mem_append.mp trail.answered
  obtain rfl := lost_nothing trail held free
  have handed := trail.reached
  rw [part_at held, Scan.reached, List.map_append] at handed
  obtain ⟨given, ready, rfl, given_worth, ready_worth⟩ := List.map_eq_append_iff.mp handed
  have told_given : ∀ pulled ∈ given, pulled.Answered world.lookup :=
    fun pulled member => told_front pulled (List.mem_append_left _ member)
  have regrouped : given ++ ready ++ back ++ world.due index = given ++ (ready ++ back ++ world.due index) := by
    simp only [List.append_assoc]
  refine ⟨given, ready.filter Pulled.gives, ?_, ?_, ?_, ?_, ?_, List.forall_mem_nil _, ?_, ?_⟩
  · rw [List.append_nil]
    exact fun pulled member => answered_kept sound move (told_given pulled member)
  · rw [worth_kept sound move told_given, given_worth, part_at now, reached]
  · rw [part_at now, queue]
    rfl
  · rw [tasks]
    exact fun task member mine value sending => carries_kept sound trail move member mine sending
  · refine once_after trail ?_
    rw [pulls, pulledBy, List.filter_nil, List.append_nil, List.append_nil, due, regrouped]
    exact (List.Subperm.refl given).append (List.sublist_append_right _ _).subperm
  · rw [pulls, List.append_nil, ← trail.order, List.filter_append, List.append_nil]
  · intro some_lost
    refine ⟨fresh, now, dropped, finished.trans (Bool.eq_false_iff.mpr (fun stopped => some_lost ?_))⟩
    rw [((held_sound sound held).stopped stopped).2.2.2.1] at ready_worth
    rw [List.map_eq_nil_iff.mp ready_worth]
    rfl

theorem due_scan (index : Nat) (out : List (Pulled T)) {place : Nat} {scan fresh : Scan T} {more : List (Task T)}
    (held : world.scans[place]? = some scan) (scans : later.scans = world.scans.set place fresh)
    (tasks : later.tasks = world.tasks ++ more) (own : ∀ row ∈ world.pulls action, row.scan = place)
    (begun : ∀ task ∈ more, task.scan = place)
    (here : (out ++ (fresh.asking place ++ more.filterMap (Task.due? place))) <+~ (scan.asking place ++ world.pulls action)) :
    ((if place = index then out else []) ++ later.due index)
      <+~ (world.due index ++ pulledBy index (world.pulls action)) := by
  have asking : later.part index (Scan.asking index) = _ := part_set held scans
  rw [due, due, asking, tasks, List.filterMap_append, pulledBy_own own]
  by_cases same : place = index
  · subst same
    rw [if_pos rfl, if_pos rfl, if_pos rfl, part_at held]
    have waiting := here.append (List.Subperm.refl (world.tasks.filterMap (Task.due? place)))
    refine List.Subperm.trans (List.Perm.subperm ?_) (waiting.trans (List.Perm.subperm ?_))
    · simp only [List.append_assoc]
      exact ((List.perm_append_comm.append_left _).append_left _)
    · simp only [List.append_assoc]
      exact List.perm_append_comm.append_left _
  · have untaken : more.filterMap (Task.due? index) = [] :=
      List.filterMap_eq_nil_iff.mpr
        (fun task member => Task.undue_of_scan (fun mine => same ((begun task member).symm.trans mine)))
    rw [if_neg same, if_neg same, if_neg same, untaken, List.append_nil, List.append_nil]
    exact List.Subperm.refl _

theorem due_task (out : List (Pulled T)) {place : Nat} {task : Task T} {successor : List (Task T)}
    (held : world.tasks[place]? = some task) (tasks : later.tasks = world.tasks.eraseIdx place ++ successor)
    (asking : later.part index (Scan.asking index) = world.part index (Scan.asking index))
    (here : (out ++ successor.filterMap (Task.due? index)) <+~ (task.due? index).toList) :
    (out ++ later.due index) <+~ world.due index := by
  have before := filterMap_at (Task.due? index) held
  rw [due, due, asking, tasks, List.filterMap_append]
  refine List.Subperm.trans (List.Perm.subperm ?_)
    (((List.Subperm.refl (world.part index (Scan.asking index))).append
      ((List.Subperm.refl ((world.tasks.eraseIdx place).filterMap (Task.due? index))).append here)).trans
        (before.symm.append_left _).subperm)
  refine (List.perm_append_comm_assoc _ _ _).trans (List.Perm.append_left _ ?_)
  exact List.perm_append_comm_assoc _ _ _

theorem due_kept (tasks : later.tasks = world.tasks)
    (asking : later.part index (Scan.asking index) = world.part index (Scan.asking index)) :
    later.due index = world.due index := by rw [due, due, tasks, asking]

theorem trail_aside (sound : world.Sound) (trail : Trail world past index front back lost) (move : Move action world later)
    (reached : later.part index Scan.reached = world.part index Scan.reached)
    (queue : later.part index Scan.queue = world.part index Scan.queue) (tasks : later.tasks = world.tasks)
    (asking : later.part index (Scan.asking index) = world.part index (Scan.asking index))
    (pulls : world.pulls action = []) : Trail later (past ++ world.pulls action) index front back lost := by
  refine trail_still sound trail move reached queue ?_ ?_ ?_
  · rw [tasks]
    exact fun task member mine value sending => carries_kept sound trail move member mine sending
  · rw [due_kept tasks asking, pulls]
    exact (List.Perm.of_eq (List.append_nil _).symm).subperm
  · rw [pulls]
    rfl

theorem trail_turn (sound : world.Sound) (trail : Trail world past index front back lost) {place : Nat}
    {label : Nat → Act T} {after : BatchLookup} {scan fresh : Scan T} (held : world.scans[place]? = some scan)
    (turn : scan.Turn label world.lookup after fresh) :
    ∃ front back lost, Trail ((world.withLookup after).setScan place fresh) (past ++ world.pulls (label place)) index front
      back lost := by
  have move := Move.turn held turn
  have pulls := pulls_turn held turn
  have asking : ((world.withLookup after).setScan place fresh).part index (Scan.asking index) = _ :=
    part_kept held rfl (Scan.asking_turn turn index)
  have reached : ((world.withLookup after).setScan place fresh).part index Scan.reached = _ := part_set held rfl
  have queue : ((world.withLookup after).setScan place fresh).part index Scan.queue = _ := part_set held rfl
  by_cases here : place = index
  · subst here
    rw [if_pos rfl] at reached queue
    cases Scan.passes_turn (held_sound sound held) turn with
    | still same_reached same_queue =>
        exact ⟨front, back, lost, trail_aside sound trail move (reached.trans (same_reached.trans (part_at held).symm))
          (queue.trans (same_queue.trans (part_at held).symm)) rfl asking pulls⟩
    | received queued one_more rest =>
        obtain ⟨front, back, trail⟩ := trail_received sound trail move ((part_at held).trans queued)
          (reached.trans (one_more.trans (congrArg (· ++ _) (part_at held).symm))) (queue.trans rest) rfl
          (due_kept rfl asking) pulls
        exact ⟨front, back, lost, trail⟩
    | closed free given nothing dropped finished =>
        have now : ((world.withLookup after).setScan place fresh).scans[place]? = some fresh :=
          (set_at fresh held place).trans (if_pos rfl)
        obtain ⟨front, lost, trail⟩ := trail_closed sound trail move held now free given nothing dropped finished rfl
          (due_kept rfl asking) pulls
        exact ⟨front, [], lost, trail⟩
  · rw [if_neg here] at reached queue
    exact ⟨front, back, lost, trail_aside sound trail move reached queue rfl asking pulls⟩

theorem trail_on (sound : world.Sound) (trail : Trail world past index front back lost) {place : Nat} {scan fresh : Scan T}
    {more : List (Task T)} (move : Move action world later) (held : world.scans[place]? = some scan)
    (scans : later.scans = world.scans.set place fresh) (tasks : later.tasks = world.tasks ++ more)
    (own : ∀ row ∈ world.pulls action, row.scan = place)
    (begun : ∀ task ∈ more, task.scan = place ∧ task.stage = .waiting)
    (due : (fresh.asking place ++ more.filterMap (Task.due? place)) <+~ (scan.asking place ++ world.pulls action))
    (reached : fresh.reached = scan.reached) (queue : fresh.queue = scan.queue)
    (ungiven : ∀ row ∈ world.pulls action, row.gives = false) :
    Trail later (past ++ world.pulls action) index front back lost := by
  refine trail_still sound trail move (part_kept held scans reached) (part_kept held scans queue) ?_ ?_ ?_
  · intro task member mine value sending
    rw [tasks] at member
    rcases List.mem_append.mp member with before | fresh
    · exact carries_kept sound trail move before mine sending
    · cases sending.symm.trans (begun task fresh).2
  · have shared := due_scan index [] held scans tasks own (fun task member => (begun task member).1) due
    rwa [ite_self, List.nil_append] at shared
  · refine List.filter_eq_nil_iff.mpr (fun row member => ?_)
    rw [ungiven row (List.mem_of_mem_filter member)]
    exact Bool.false_ne_true

theorem trail_own (sound : world.Sound) (trail : Trail world past index front back lost) (pulled : Pulled T) {place : Nat}
    {scan : Scan T} {source : Source} {value : T} (move : Move action world later)
    (held : world.scans[place]? = some scan) (pulling : scan.phase.pulling = true)
    (scans : later.scans = world.scans.set place { scan with source := source, lookahead := some value, phase := .idle })
    (tasks : later.tasks = world.tasks) (own : ∀ row ∈ world.pulls action, row.scan = place)
    (answered : pulled.Answered later.lookup) (worth : pulled.value? later.lookup.answer? = some value)
    (due : [pulled] <+~ (scan.asking place ++ world.pulls action))
    (gives : (world.pulls action).filter Pulled.gives = [pulled].filter Pulled.gives) :
    ∃ front back lost, Trail later (past ++ world.pulls action) index front back lost := by
  obtain ⟨_, free, nothing, _⟩ := (held_sound sound held).pulled pulling
  have unbegun : later.tasks = world.tasks ++ [] := tasks.trans (List.append_nil _).symm
  have shared := due_scan index [pulled] held scans unbegun own (List.forall_mem_nil _) due
  by_cases here : place = index
  · subst here
    rw [if_pos rfl] at shared
    refine ⟨front ++ [pulled], back, [], trail_found sound trail move held free answered worth ?_ (part_kept held scans rfl)
      tasks shared ?_⟩
    · rw [part_set held scans, if_pos rfl, part_at held, Scan.reached_found scan nothing]
      rfl
    · rw [pulledBy_own own, if_pos rfl, gives]
  · have elsewhere : pulledBy index (world.pulls action) = [] := by rw [pulledBy_own own, if_neg here]
    rw [if_neg here, List.nil_append] at shared
    refine ⟨front, back, lost, trail_still sound trail move ?_ (part_kept held scans rfl) ?_ shared ?_⟩
    · rw [part_set held scans, if_neg here]
    · rw [tasks]
      exact fun task member mine value sending => carries_kept sound trail move member mine sending
    · rw [elsewhere]
      rfl

theorem trail_task (sound : world.Sound) (trail : Trail world past index front back lost) {place : Nat} {task : Task T}
    {successor : List (Task T)} (move : Move action world later) (held : world.tasks[place]? = some task)
    (tasks : later.tasks = world.tasks.eraseIdx place ++ successor) (pulls : world.pulls action = [])
    (reached : later.part index Scan.reached = world.part index Scan.reached)
    (queue : later.part index Scan.queue = world.part index Scan.queue)
    (asking : later.part index (Scan.asking index) = world.part index (Scan.asking index))
    (carried : ∀ task ∈ successor, task.scan = index → ∀ value, task.stage = .sending value →
      task.pulled.Answered later.lookup ∧ task.pulled.value? later.lookup.answer? = some value)
    (due : successor.filterMap (Task.due? index) <+~ (task.due? index).toList) :
    Trail later (past ++ world.pulls action) index front back lost := by
  refine trail_still sound trail move reached queue ?_ ?_ ?_
  · intro other member mine value sending
    rw [tasks] at member
    rcases List.mem_append.mp member with before | fresh
    · exact carries_kept sound trail move (List.mem_of_mem_eraseIdx before) mine sending
    · exact carried other fresh mine value sending
  · rw [pulls]
    have shared := due_task [] held tasks asking due
    exact shared.trans (List.Perm.of_eq (List.append_nil _).symm).subperm
  · rw [pulls]
    rfl

theorem trail_wake (sound : world.Sound) (trail : Trail world past index front back lost) {place : Nat} {task : Task T}
    {found : Option Values} {lookup : BatchLookup} (events : List Event) (held : world.tasks[place]? = some task)
    (waiting : task.stage = .waiting) (known : world.lookup.look task.request = some (found, lookup)) :
    Trail
      (((world.withLookup lookup).moveTask place
        [{ task with stage := .ofOutcome (Outcome.ofLookup task.adapter task.row found) }]).report events)
      (past ++ world.pulls (.wake place)) index front back lost := by
  obtain ⟨answer, told⟩ := BatchLookup.look_answer known
  refine trail_task sound trail (.wake events held waiting known) held rfl rfl rfl rfl rfl ?_ ?_
  · intro woken member mine value sending
    obtain rfl := List.mem_singleton.mp member
    have decoded : (Outcome.ofLookup task.adapter task.row found).value? = some value := by
      cases outcome : Outcome.ofLookup task.adapter task.row found <;> rw [outcome] at sending <;> cases sending
      rfl
    refine ⟨?_, ?_⟩
    · rintro _ _ ⟨⟩
      exact told
    · rw [Outcome.value_ofLookup] at decoded
      exact (congrArg (fun found => Option.bind found (task.adapter.decoded? task.row)) answer).trans decoded
  · have before : task.due? index = if task.scan = index then some task.pulled else none := by rw [Task.due?, waiting]
    rw [before]
    cases Outcome.ofLookup task.adapter task.row found with
    | value value =>
        have after : [{ task with stage := Stage.ofOutcome (.value value) }].filterMap (Task.due? index)
            = (if task.scan = index then some task.pulled else none).toList := by
          by_cases here : task.scan = index
          · simp [Stage.ofOutcome, Task.due?, here, Task.pulled]
          · simp [Stage.ofOutcome, Task.due?, here]
        rw [after]
    | _ => exact List.nil_subperm

theorem trail_send (sound : world.Sound) (trail : Trail world past index front back lost) {place : Nat} {task : Task T}
    {scan : Scan T} {value : T} (held : world.tasks[place]? = some task) (owner : world.scans[task.scan]? = some scan)
    (sending : task.stage = .sending value) (free : scan.dropped = false) (room : scan.hasRoom = true) :
    ∃ front back lost, Trail
      ((world.moveTask place [{ task with stage := .ending }]).setScan task.scan { scan with queue := scan.queue ++ [value] })
      (past ++ world.pulls (.send place)) index front back lost := by
  have move := Move.send held owner sending free room
  have before : task.due? index = if task.scan = index then some task.pulled else none := by rw [Task.due?, sending]
  by_cases here : task.scan = index
  · have at_owner : world.scans[index]? = some scan := here ▸ owner
    obtain ⟨answered, worth⟩ := carries_kept sound trail move (List.mem_of_getElem? held) here sending
    refine ⟨front, back ++ [task.pulled], lost, trail_sent sound trail move answered worth (Pulled.gives_of_deferred rfl)
      (part_kept owner rfl rfl) ?_ ?_ ?_ rfl⟩
    · rw [part_set owner rfl, if_pos here, part_at at_owner]
    · intro other member mine value sends
      rcases List.mem_append.mp member with stays | ends
      · exact carries_kept sound trail move (List.mem_of_mem_eraseIdx stays) mine sends
      · rw [List.mem_singleton.mp ends] at sends
        cases sends
    · refine due_task [task.pulled] held rfl (part_kept owner rfl rfl) ?_
      rw [before, if_pos here]
      exact List.Subperm.refl _
  · refine ⟨front, back, lost, trail_task sound trail move held rfl rfl (part_kept owner rfl rfl) ?_ (part_kept owner rfl rfl)
      ?_ List.nil_subperm⟩
    · rw [part_set owner rfl, if_neg here]
    · intro other member mine value sends
      rw [List.mem_singleton.mp member] at sends
      cases sends

theorem trail_act (sound : world.Sound) (trail : Trail world past index front back lost) (move : Move action world later) :
    ∃ front back lost, Trail later (past ++ world.pulls action) index front back lost := by
  have one_row {place : Nat} {scan : Scan T} {row : Row} {rest : Source} (held : world.scans[place]? = some scan)
      (scanning : scan.phase = .scanning) (next : scan.source = some row :: rest) :
      ∀ pulled ∈ world.pulls (.advance place), pulled.scan = place := by
    rw [pulls_row held scanning next]
    exact List.forall_mem_singleton.mpr rfl
  have no_row {place : Nat} {scan : Scan T} {row : Row} {adapter : Adapter T} {request : RequestId}
      (held : world.scans[place]? = some scan) (deferring : scan.phase = .deferring row adapter request) :
      world.pulls (.advance place) = [] := pulls_busy held (by rw [deferring]; simp)
  cases move with
  | turn held turn => exact trail_turn sound trail held turn
  | @skip _ place scan row rest phase events held scanning next phases undeferred worthless =>
      refine ⟨front, back, lost, trail_on sound trail (.skip events held scanning next phases undeferred worthless) held rfl
        (List.append_nil _).symm (one_row held scanning next) (List.forall_mem_nil _) ?_ rfl rfl ?_⟩
      · rw [Scan.asking_of_phase (by rcases phases with rfl | rfl <;> simp)]
        exact List.nil_subperm
      · rw [pulls_row held scanning next]
        exact List.forall_mem_singleton.mpr (Pulled.gives_of_worthless worthless)
  | @own _ place scan row rest adapter value held scanning next verdict decoded =>
      have pulls := pulls_row held scanning next
      refine trail_own sound trail (world.pulling place scan row) (.own held scanning next verdict decoded) held
        (by rw [scanning]; rfl) rfl rfl (one_row held scanning next) (Pulled.answered_of_own verdict world.lookup) ?_ ?_ (congrArg (List.filter _) pulls)
      · exact (congrArg (fun verdict => (Pulled.mk place row verdict).value? world.lookup.answer?) verdict).trans decoded
      · rw [pulls]
        exact (List.sublist_append_right _ _).subperm
  | @defer _ place scan row rest adapter held scanning next verdict =>
      refine ⟨front, back, lost, trail_on sound trail (.defer held scanning next verdict) held rfl
        (List.append_nil _).symm (one_row held scanning next) (List.forall_mem_nil _) ?_ rfl rfl ?_⟩
      · rw [pulls_row held scanning next, pulling, verdict]
        exact (List.sublist_append_right _ _).subperm
      · rw [pulls_row held scanning next]
        exact List.forall_mem_singleton.mpr (Pulled.gives_of_deferred verdict)
  | @caught _ place scan row adapter request found lookup value held deferring known decoded =>
      have pulls := no_row held deferring
      obtain ⟨answer, told⟩ := BatchLookup.look_answer known
      refine trail_own sound trail ⟨place, row, .deferred adapter request⟩ (.caught held deferring known decoded) held
        (by rw [deferring]; rfl) rfl rfl ?_ ?_ ?_ ?_ ?_
      · rw [pulls]
        exact List.forall_mem_nil _
      · rintro _ _ ⟨⟩
        exact told
      · exact (congrArg (fun found => Option.bind found (adapter.decoded? row)) answer).trans decoded
      · rw [pulls, Scan.asking, deferring]
        exact List.Subperm.refl _
      · rw [pulls]
        rfl
  | @missed _ place scan row adapter request found lookup phase events held deferring known phases worthless =>
      refine ⟨front, back, lost, trail_on sound trail (.missed events held deferring known phases worthless) held rfl
        (List.append_nil _).symm ?_ (List.forall_mem_nil _) ?_ rfl rfl ?_⟩
      · rw [no_row held deferring]
        exact List.forall_mem_nil _
      · rw [Scan.asking_of_phase (by rcases phases with rfl | rfl <;> simp)]
        exact List.nil_subperm
      · rw [no_row held deferring]
        exact List.forall_mem_nil _
  | @spawn _ place scan row adapter request held deferring =>
      refine ⟨front, back, lost, trail_on sound trail (.spawn held deferring) held rfl rfl ?_
        (List.forall_mem_singleton.mpr ⟨rfl, rfl⟩) ?_ rfl rfl ?_⟩
      · rw [no_row held deferring]
        exact List.forall_mem_nil _
      · have taken : [(⟨place, row, adapter, request, .waiting⟩ : Task T)].filterMap (Task.due? place)
            = [⟨place, row, .deferred adapter request⟩] := by simp [Task.due?, Task.pulled]
        have asked : scan.asking place = [⟨place, row, .deferred adapter request⟩] := by rw [Scan.asking, deferring]
        rw [no_row held deferring, taken, asked]
        exact List.Subperm.refl _
      · rw [no_row held deferring]
        exact List.forall_mem_nil _
  | @finished _ place scan events held receiving empty closed =>
      have unasked : ∀ row adapter request, scan.phase ≠ .deferring row adapter request := by rw [receiving]; simp
      exact ⟨front, back, lost, trail_aside sound trail (.finished events held receiving empty closed)
        (part_kept held rfl rfl) (part_kept held rfl rfl) rfl
        (part_kept held rfl (Scan.asking_of_phase unasked index).symm) (pulls_busy held (by rw [receiving]; simp))⟩
  | wake events held waiting known => exact ⟨front, back, lost, trail_wake sound trail events held waiting known⟩
  | send held owner sending free room => exact trail_send sound trail held owner sending free room
  | discard events held owner sending dropped =>
      exact ⟨front, back, lost, trail_task sound trail (.discard events held owner sending dropped) held rfl rfl rfl rfl rfl
        (fun task member _ _ sends => by rw [List.mem_singleton.mp member] at sends; cases sends) List.nil_subperm⟩
  | finish held owner ending =>
      exact ⟨front, back, lost, trail_task sound trail (.finish held owner ending) held rfl rfl (part_kept owner rfl rfl)
        (part_kept owner rfl rfl) (part_kept owner rfl rfl)
        (fun task member _ _ sends => by rw [List.mem_singleton.mp member] at sends; cases sends) List.nil_subperm⟩
  | leave held leaving =>
      exact ⟨front, back, lost, trail_task sound trail (.leave held leaving) held rfl rfl rfl rfl rfl (List.forall_mem_nil _)
        List.nil_subperm⟩
  | start store filters source capacity =>
      exact ⟨front, back, lost, trail_aside sound trail (.start store filters source capacity) (part_start rfl rfl index)
        (part_start rfl rfl index) rfl (part_start rfl rfl index) rfl⟩
  | register store adapter =>
      exact ⟨front, back, lost, trail_aside sound trail (.register store adapter) rfl rfl rfl rfl rfl⟩
  | unregister store adapter =>
      exact ⟨front, back, lost, trail_aside sound trail (.unregister store adapter) rfl rfl rfl rfl rfl⟩
  | flush adapter => exact ⟨front, back, lost, trail_aside sound trail (.flush adapter) rfl rfl rfl rfl rfl⟩
  | complete taken => exact ⟨front, back, lost, trail_aside sound trail (.complete taken) rfl rfl rfl rfl rfl⟩
  | reply taken => exact ⟨front, back, lost, trail_aside sound trail (.reply taken) rfl rfl rfl rfl rfl⟩

theorem trail_run {stores : List (Adapters T)} {size : Nat} {params : Option Params} {acts : List (Act T)}
    (ran : (fresh stores size params).run acts = some world) (index : Nat) :
    ∃ front back lost, Trail world ((fresh stores size params).history acts) index front back lost := by
  refine run_grows (motive := fun acts world => ∃ front back lost,
    Trail world ((fresh stores size params).history acts) index front back lost) ?_ ?_ ran
  · exact ⟨[], [], [], List.forall_mem_nil _, rfl, rfl, List.forall_mem_nil _, List.Subperm.refl _, List.forall_mem_nil _,
      rfl, absurd rfl⟩
  · intro acts action world later ran before taken
    obtain ⟨front, back, lost, trail⟩ := before
    rw [history_concat ran taken]
    exact trail_act (sound_run (sound_fresh stores size params) ran) trail (move_of_act taken)

-- The rows whose values a scan has handed out so far, one by one: they are rows it has pulled, each of another, and those
-- among them that gave their own values are the first such rows of the scan, in the order of the scan; at its end, all.
structure Origins (start : World T) (acts : List (Act T)) (world : World T) (index : Nat) (scan : Scan T)
    (origins : List (Pulled T)) : Prop where
  values : origins.map (Pulled.value? world.lookup.answer?) = scan.emitted.map some
  pulled : origins <+~ pulledBy index (start.history acts)
  order : origins.filter Pulled.gives <+: (pulledBy index (start.history acts)).filter Pulled.gives
  all : scan.finished = true → origins.filter Pulled.gives = (pulledBy index (start.history acts)).filter Pulled.gives

theorem origins_run {stores : List (Adapters T)} {size : Nat} {params : Option Params} {acts : List (Act T)}
    (ran : (fresh stores size params).run acts = some world) {scan : Scan T} (held : world.scans[index]? = some scan) :
    ∃ origins, Origins (fresh stores size params) acts world index scan origins := by
  obtain ⟨front, back, lost, trail⟩ := trail_run ran index
  have reached := trail.reached
  rw [part_at held, Scan.reached, List.map_append] at reached
  obtain ⟨given, ready, rfl, given_worth, ready_worth⟩ := List.map_eq_append_iff.mp reached
  have order := trail.order
  rw [List.filter_append, List.append_assoc] at order
  refine ⟨given, given_worth, ?_, ⟨_, order⟩, fun finished => ?_⟩
  · have once := trail.once
    rw [List.append_assoc, List.append_assoc] at once
    exact (List.sublist_append_left given _).subperm.trans once
  · have nothing : lost = [] := by
      apply Classical.byContradiction
      intro some_lost
      obtain ⟨same, found, _, unfinished⟩ := trail.kept some_lost
      cases held.symm.trans found
      exact Bool.false_ne_true (unfinished.symm.trans finished)
    rw [((held_sound (sound_run (sound_fresh stores size params) ran) held).stopped finished).2.2.2.1] at ready_worth
    rw [List.map_eq_nil_iff.mp ready_worth, nothing] at order
    rw [← order]
    exact (List.append_nil _).symm

end World

end ThinScan
