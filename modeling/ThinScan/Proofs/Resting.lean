import ThinScan.Cursor
import ThinScan.Proofs.Settling

set_option autoImplicit false

namespace ThinScan

variable {T : Type}

namespace Scan

variable {scan fresh last : Scan T}

-- Values may have come to stand in the queue, and tasks may have ended.
def Rests (scan fresh : Scan T) : Prop :=
  ∃ (more : List T) (outstanding : Nat), fresh = { scan with queue := scan.queue ++ more, outstanding := outstanding }

theorem rests_same (scan : Scan T) : scan.Rests scan := ⟨[], scan.outstanding, by rw [List.append_nil]⟩

theorem rests_trans (first : scan.Rests fresh) (second : fresh.Rests last) : scan.Rests last := by
  obtain ⟨some_more, _, rfl⟩ := first
  obtain ⟨more, outstanding, rfl⟩ := second
  exact ⟨some_more ++ more, outstanding, by rw [List.append_assoc]⟩

theorem phase_rests (rests : scan.Rests fresh) : fresh.phase = scan.phase := by
  obtain ⟨more, outstanding, rfl⟩ := rests
  rfl

theorem busy_turn {label : Nat → Act T} {lookup after : BatchLookup} (turn : scan.Turn label lookup after fresh)
    {index : Nat} (uncalled : (label index).isCall index = false) : scan.phase ≠ .idle := by
  have called (call : (label index).isCall index = true) : scan.phase ≠ .idle :=
    absurd (uncalled.symm.trans call) Bool.false_ne_true
  cases turn with
  | enter => exact called (decide_eq_true rfl)
  | resume => exact called (decide_eq_true rfl)
  | take => exact called (decide_eq_true rfl)
  | leave => exact called (decide_eq_true rfl)
  | abandon => exact called (decide_eq_true rfl)
  | abandonLast => exact called (decide_eq_true rfl)
  | reach scanning rowless said => rw [scanning]; simp
  | exhaust scanning rowless unsaid => rw [scanning]; simp
  | list flush unlisted => rcases flush with rfl | rfl <;> (rw [unlisted]; simp)
  | flush flush listed member => rcases flush with rfl | rfl <;> (rw [listed]; simp)
  | await through => rw [through]; simp
  | close through => rw [through]; simp
  | receive receiving queued => rw [receiving]; simp

end Scan

namespace World

variable {world later : World T} {action : Act T} {index : Nat}

theorem rests_move (move : Move action world later) (uncalled : action.isCall index = false) {scan : Scan T}
    (held : world.scans[index]? = some scan) (idle : scan.phase = .idle) :
    ∃ fresh, later.scans[index]? = some fresh ∧ scan.Rests fresh := by
  have untouched (same : later.scans[index]? = world.scans[index]?) :
      ∃ fresh, later.scans[index]? = some fresh ∧ scan.Rests fresh := ⟨scan, same.trans held, scan.rests_same⟩
  -- What a busy scan does, it does somewhere else.
  have elsewhere {place : Nat} {old fresh : Scan T} (at_place : world.scans[place]? = some old) (busy : old.phase ≠ .idle)
      (scans : later.scans = world.scans.set place fresh) :
      ∃ fresh, later.scans[index]? = some fresh ∧ scan.Rests fresh := by
    refine untouched ?_
    rw [scans, set_at fresh at_place]
    refine if_neg (fun here => busy ?_)
    subst here
    cases held.symm.trans at_place
    exact idle
  have by_task {place : Nat} {old fresh : Scan T} (at_place : world.scans[place]? = some old) (rests : old.Rests fresh)
      (scans : later.scans = world.scans.set place fresh) :
      ∃ fresh, later.scans[index]? = some fresh ∧ scan.Rests fresh := by
    by_cases here : place = index
    · subst here
      cases held.symm.trans at_place
      exact ⟨fresh, by rw [scans, set_at fresh at_place, if_pos rfl], rests⟩
    · exact untouched (by rw [scans, set_at fresh at_place, if_neg here])
  cases move with
  | start store filters source capacity =>
      exact untouched (List.getElem?_append_left (List.getElem?_eq_some_iff.mp held).1)
  | @turn _ label place old fresh lookup at_place turn =>
      by_cases here : place = index
      · subst here
        exact elsewhere at_place (Scan.busy_turn turn uncalled) rfl
      · exact untouched ((set_at fresh at_place index).trans (if_neg here))
  | skip events at_place scanning => exact elsewhere at_place (by rw [scanning]; simp) rfl
  | own at_place scanning => exact elsewhere at_place (by rw [scanning]; simp) rfl
  | defer at_place scanning => exact elsewhere at_place (by rw [scanning]; simp) rfl
  | caught at_place deferring => exact elsewhere at_place (by rw [deferring]; simp) rfl
  | missed events at_place deferring => exact elsewhere at_place (by rw [deferring]; simp) rfl
  | spawn at_place deferring => exact elsewhere at_place (by rw [deferring]; simp) rfl
  | finished events at_place receiving => exact elsewhere at_place (by rw [receiving]; simp) rfl
  | @send _ place task old value at_task owner sending free room =>
      exact by_task owner ⟨[value], old.outstanding, rfl⟩ rfl
  | @finish _ place task old at_task owner ending =>
      exact by_task owner ⟨[], old.outstanding - 1, by rw [List.append_nil]⟩ rfl
  | _ => exact untouched rfl

theorem pulls_resting {scan : Scan T} (held : world.scans[index]? = some scan) (idle : scan.phase = .idle)
    (action : Act T) : pulledBy index (world.pulls action) = [] := by
  unfold pulls
  split
  · rename_i place
    split
    · rfl
    · rename_i other at_place
      split
      · rename_i scanning _
        rw [pulledBy_one]
        refine if_neg (fun here => ?_)
        have same : place = index := here
        subst same
        cases held.symm.trans at_place
        cases idle.symm.trans scanning
      · rfl
  · rfl

theorem rests_run {acts : List (Act T)} (ran : world.run acts = some later)
    (uncalled : ∀ action ∈ acts, action.isCall index = false) {scan : Scan T} (held : world.scans[index]? = some scan)
    (idle : scan.phase = .idle) :
    (∃ fresh, later.scans[index]? = some fresh ∧ scan.Rests fresh) ∧ pulledBy index (world.history acts) = [] := by
  induction acts generalizing world scan with
  | nil =>
      cases ran
      exact ⟨⟨scan, held, scan.rests_same⟩, rfl⟩
  | cons action rest step =>
      obtain ⟨between, taken, ran⟩ := Option.bind_eq_some_iff.mp ((run_cons world action rest).symm.trans ran)
      obtain ⟨here, others⟩ := List.forall_mem_cons.mp uncalled
      obtain ⟨fresh, now, rests⟩ := rests_move (move_of_act taken) here held idle
      obtain ⟨⟨last, at_last, more⟩, nothing⟩ := step ran others now ((Scan.phase_rests rests).trans idle)
      refine ⟨⟨last, at_last, Scan.rests_trans rests more⟩, ?_⟩
      rw [history, taken, pulledBy, List.filter_append]
      exact (congrArg₂ (· ++ ·) (pulls_resting held idle action) nothing)

theorem owner_of_scan (reporter : action.scan? = some index) : world.owner? action = some index := by
  cases action with
  | wake place => cases reporter
  | send place => cases reporter
  | finish place => cases reporter
  | _ => exact reporter

theorem owner_finished (sound : world.Sound) (taken : world.act action = some later)
    (uncalled : action.isCall index = false) {scan : Scan T} (held : world.scans[index]? = some scan)
    (idle : scan.phase = .idle) (finished : scan.finished = true) : world.owner? action ≠ some index := by
  intro mine
  have call {place : Nat} (here : some place = some index) (other : decide (place = index) = false) : False :=
    of_decide_eq_false other (Option.some.inj here)
  have stuck {place : Nat} (at_task : (world.tasks[place]?).map Task.scan = some index) :
      ∃ task, world.tasks[place]? = some task ∧ task.stage = .crashed := by
    obtain ⟨task, at_place, owner⟩ := Option.map_eq_some_iff.mp at_task
    refine ⟨task, at_place, ?_⟩
    have dead := sound.ended task (List.mem_of_getElem? at_place) scan (by rw [owner, held]) finished
    unfold Task.isLive at dead
    split at dead
    · assumption
    · cases dead
  cases action with
  | pull place => exact call mine uncalled
  | take place => exact call mine uncalled
  | drop place => exact call mine uncalled
  | advance place =>
      cases mine
      simp [act, advance, held, idle] at taken
  | flushNext place adapter =>
      cases mine
      simp [act, flushNext, held, idle] at taken
  | wake place =>
      obtain ⟨task, at_place, crashed⟩ := stuck mine
      simp [act, wake, at_place, crashed] at taken
  | send place =>
      obtain ⟨task, at_place, crashed⟩ := stuck mine
      simp [act, send, at_place, crashed] at taken
  | finish place =>
      obtain ⟨task, at_place, crashed⟩ := stuck mine
      simp [act, finish, at_place, crashed] at taken
  | _ => cases mine

theorem silent_run (sound : world.Sound) {acts : List (Act T)} (ran : world.run acts = some later)
    (uncalled : ∀ action ∈ acts, action.isCall index = false) {scan : Scan T} (held : world.scans[index]? = some scan)
    (idle : scan.phase = .idle) (finished : scan.finished = true) :
    pulledBy index (world.history acts) = [] ∧ noticesOf index (world.notices acts) = []
      ∧ ∀ kind, world.logged kind index acts = [] := by
  refine ⟨(rests_run ran uncalled held idle).2, ?_⟩
  induction acts generalizing world scan with
  | nil => exact ⟨rfl, fun _ => rfl⟩
  | cons action rest step =>
      obtain ⟨between, taken, ran⟩ := Option.bind_eq_some_iff.mp ((run_cons world action rest).symm.trans ran)
      obtain ⟨here, others⟩ := List.forall_mem_cons.mp uncalled
      have foreign := owner_finished sound taken here held idle finished
      obtain ⟨fresh, now, more, outstanding, rfl⟩ := rests_move (move_of_act taken) here held idle
      obtain ⟨unreported, unlogged⟩ := step (sound_act sound taken) ran others now idle finished
      refine ⟨?_, fun kind => ?_⟩
      · have unsaid := (noticesOf_report index [] action.scan? (world.lookup.noticed between.lookup)).trans
          (if_neg (fun reporter => foreign (owner_of_scan reporter)))
        rw [notices, observed, taken, noticesOf, List.filter_append, List.map_append]
        exact congrArg₂ (· ++ ·) unsaid unreported
      · rw [logged, observed, taken]
        exact congrArg₂ (· ++ ·) (if_neg foreign) (unlogged kind)

end World

end ThinScan
