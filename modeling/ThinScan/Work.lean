import ThinScan.World

/-!
Every background step that can be taken leaves less: fewer rows to pull, else fewer phases to begin, else less to hand
on.
-/

set_option autoImplicit false

namespace ThinScan

variable {T : Type}

namespace Work

variable {α : Type}

def total (weight : α → Nat) : List α → Nat
  | [] => 0
  | item :: rest => weight item + total weight rest

theorem total_append (weight : α → Nat) (left right : List α) :
    total weight (left ++ right) = total weight left + total weight right := by
  induction left with
  | nil => simp [total]
  | cons item rest step => simp only [List.cons_append, total, step, Nat.add_assoc]

theorem total_set (weight : α → Nat) (items : List α) (index : Nat) (old new : α)
    (held : items[index]? = some old) :
    total weight (items.set index new) + weight old = total weight items + weight new := by
  induction items generalizing index with
  | nil => simp at held
  | cons item rest step =>
      cases index with
      | zero =>
          simp only [List.getElem?_cons_zero, Option.some.injEq] at held
          subst held
          simp only [List.set_cons_zero, total]
          omega
      | succ index =>
          have rest_total := step index (by simpa using held)
          simp only [List.set_cons_succ, total]
          omega

theorem total_eraseIdx (weight : α → Nat) (items : List α) (index : Nat) (old : α)
    (held : items[index]? = some old) :
    total weight (items.eraseIdx index) + weight old = total weight items := by
  induction items generalizing index with
  | nil => simp at held
  | cons item rest step =>
      cases index with
      | zero =>
          simp only [List.getElem?_cons_zero, Option.some.injEq] at held
          subst held
          simp only [List.eraseIdx_cons_zero, total]
          omega
      | succ index =>
          have rest_total := step index (by simpa using held)
          simp only [List.eraseIdx_cons_succ, total]
          omega

theorem exists_of_total_pos (weight : α → Nat) (items : List α) (positive : 0 < total weight items) :
    ∃ item ∈ items, 0 < weight item := by
  induction items with
  | nil => exact absurd positive (Nat.lt_irrefl 0)
  | cons item rest step =>
      by_cases here : 0 < weight item
      · exact ⟨item, List.mem_cons_self, here⟩
      · rw [total] at positive
        obtain ⟨other, member, heavy⟩ := step (by omega)
        exact ⟨other, List.mem_cons_of_mem _ member, heavy⟩

end Work

namespace Scan

def rowsLeft (scan : Scan T) : Nat := scan.source.length

def phasesLeft (scan : Scan T) : Nat :=
  match scan.phase with
  | .deferring _ _ _ => 3
  | .scanning => 2
  | .flushing none => 1
  | .closing none => 1
  | _ => 0

theorem phasesLeft_decoded (scan : Scan T) (outcome : Outcome T) : (scan.decoded outcome).phasesLeft ≤ 2 := by
  cases outcome with
  | value value => exact Nat.zero_le 2
  | crashed => exact Nat.zero_le 2
  | refused => exact Nat.le_refl 2
  | lost event => exact Nat.le_refl 2

def stepsLeft (scan : Scan T) : Nat :=
  match scan.phase with
  | .flushing (some left) => left.length + 2
  | .closing (some left) => left.length + 2
  | .receiving => 1
  | _ => 0

end Scan

namespace Task

def stepsLeft (task : Task T) : Nat :=
  match task.stage with
  | .waiting => 4
  | .sending _ => 3
  | .ending => 2
  | .leaving => 1
  | .crashed => 0

end Task

namespace BatchLookup

def unsent (lookup : BatchLookup) : Nat :=
  Work.total (fun batch => batch.unsent.length) lookup.batches

theorem unsent_flushAdapter (lookup : BatchLookup) (adapter : AdapterId) :
    (lookup.flushAdapter adapter).unsent = lookup.unsent := by
  unfold flushAdapter
  split <;> simp [unsent, dispatch, Batch.unsent, Work.total_append, Work.total]

theorem unsent_look {lookup looked : BatchLookup} {request : RequestId} {found : Option Values}
    (settled : lookup.look request = some (found, looked)) : looked.unsent = lookup.unsent := by
  unfold look at settled
  split at settled
  · cases settled
  · cases settled; rfl
  · split at settled <;> (cases settled; rfl)

theorem unsent_reply {lookup replied : BatchLookup} {index : Nat}
    (taken : lookup.reply index = some replied) : replied.unsent < lookup.unsent := by
  simp only [reply, Option.bind_eq_bind, Option.bind_eq_some_iff] at taken
  obtain ⟨batch, held, taken⟩ := taken
  split at taken
  · rename_i next rest progress
    cases taken
    have whole := Work.total_set (fun batch : Batch => batch.unsent.length) lookup.batches index batch
      { batch with progress := .replying rest } held
    simp only [Batch.unsent, progress, List.length_cons] at whole
    simp only [unsent]
    simp only [Batch.unsent]
    omega
  · cases taken

end BatchLookup

namespace World

def rowsLeft (world : World T) : Nat := Work.total Scan.rowsLeft world.scans

def phasesLeft (world : World T) : Nat := Work.total Scan.phasesLeft world.scans

def stepsLeft (world : World T) : Nat :=
  Work.total Scan.stepsLeft world.scans + Work.total Task.stepsLeft world.tasks + world.lookup.unsent

-- Rows first, then phases, then single steps.
def Less (later earlier : World T) : Prop :=
  Prod.Lex (· < ·) (Prod.Lex (· < ·) (· < ·))
    (later.rowsLeft, later.phasesLeft, later.stepsLeft)
    (earlier.rowsLeft, earlier.phasesLeft, earlier.stepsLeft)

theorem less_of_rows {later earlier : World T} (fewer : later.rowsLeft < earlier.rowsLeft) :
    Less later earlier := Prod.Lex.left _ _ fewer

theorem less_of_phases {later earlier : World T} (rows : later.rowsLeft ≤ earlier.rowsLeft)
    (fewer : later.phasesLeft < earlier.phasesLeft) : Less later earlier := by
  rcases Nat.lt_or_eq_of_le rows with less | same
  · exact less_of_rows less
  · simp only [Less, same]
    exact Prod.Lex.right _ (Prod.Lex.left _ _ fewer)

theorem less_of_steps {later earlier : World T} (rows : later.rowsLeft = earlier.rowsLeft)
    (phases : later.phasesLeft = earlier.phasesLeft) (fewer : later.stepsLeft < earlier.stepsLeft) :
    Less later earlier := by
  simp only [Less, rows, phases]
  exact Prod.Lex.right _ (Prod.Lex.right _ fewer)

theorem less_wellFounded : WellFounded (@Less T) :=
  InvImage.wf _ (Prod.lex ⟨_, Nat.lt_wfRel.wf⟩ (Prod.lex ⟨_, Nat.lt_wfRel.wf⟩ ⟨_, Nat.lt_wfRel.wf⟩)).wf

section Moved

variable {earlier later : World T} {index : Nat} {old new : Scan T}

theorem rowsLeft_of_set (held : earlier.scans[index]? = some old)
    (moved : later.scans = earlier.scans.set index new) :
    later.rowsLeft + old.rowsLeft = earlier.rowsLeft + new.rowsLeft := by
  simp only [rowsLeft, moved]
  exact Work.total_set Scan.rowsLeft earlier.scans index old new held

theorem phasesLeft_of_set (held : earlier.scans[index]? = some old)
    (moved : later.scans = earlier.scans.set index new) :
    later.phasesLeft + old.phasesLeft = earlier.phasesLeft + new.phasesLeft := by
  simp only [phasesLeft, moved]
  exact Work.total_set Scan.phasesLeft earlier.scans index old new held

theorem stepsLeft_of_set (held : earlier.scans[index]? = some old)
    (moved : later.scans = earlier.scans.set index new) :
    Work.total Scan.stepsLeft later.scans + old.stepsLeft
      = Work.total Scan.stepsLeft earlier.scans + new.stepsLeft := by
  rw [moved]
  exact Work.total_set Scan.stepsLeft earlier.scans index old new held

theorem rowsLeft_kept (held : earlier.scans[index]? = some old)
    (moved : later.scans = earlier.scans.set index new) (same : new.source = old.source) :
    later.rowsLeft = earlier.rowsLeft := by
  have rows := rowsLeft_of_set held moved
  simp only [Scan.rowsLeft, same] at rows
  omega

theorem phasesLeft_kept (held : earlier.scans[index]? = some old)
    (moved : later.scans = earlier.scans.set index new) (same : new.phase = old.phase) :
    later.phasesLeft = earlier.phasesLeft := by
  have phases := phasesLeft_of_set held moved
  simp only [Scan.phasesLeft, same] at phases
  omega

theorem stepsLeft_kept (held : earlier.scans[index]? = some old)
    (moved : later.scans = earlier.scans.set index new) (same : new.phase = old.phase) :
    Work.total Scan.stepsLeft later.scans = Work.total Scan.stepsLeft earlier.scans := by
  have steps := stepsLeft_of_set held moved
  simp only [Scan.stepsLeft, same] at steps
  omega

theorem less_of_row (held : earlier.scans[index]? = some old)
    (moved : later.scans = earlier.scans.set index new)
    (fewer : new.source.length < old.source.length) : Less later earlier := by
  have rows := rowsLeft_of_set held moved
  apply less_of_rows
  simp only [Scan.rowsLeft] at rows
  omega

theorem less_of_phase (held : earlier.scans[index]? = some old)
    (moved : later.scans = earlier.scans.set index new)
    (source : new.source.length ≤ old.source.length)
    (fewer : new.phasesLeft < old.phasesLeft) : Less later earlier := by
  have rows := rowsLeft_of_set held moved
  have phases := phasesLeft_of_set held moved
  simp only [Scan.rowsLeft] at rows
  apply less_of_phases <;> omega

theorem less_of_step (held : earlier.scans[index]? = some old)
    (moved : later.scans = earlier.scans.set index new)
    (tasks : later.tasks = earlier.tasks) (lookup : later.lookup.unsent = earlier.lookup.unsent)
    (source : new.source = old.source) (phase : new.phasesLeft = old.phasesLeft)
    (fewer : new.stepsLeft < old.stepsLeft) : Less later earlier := by
  have rows := rowsLeft_of_set held moved
  have phases := phasesLeft_of_set held moved
  have steps := stepsLeft_of_set held moved
  simp only [Scan.rowsLeft, source] at rows
  apply less_of_steps
  · omega
  · omega
  · simp only [stepsLeft, tasks, lookup]
    omega

end Moved

section TaskMoved

variable {earlier later : World T} {index : Nat} {old : Task T} {successor : List (Task T)}

theorem less_of_task (held : earlier.tasks[index]? = some old)
    (moved : later.tasks = earlier.tasks.eraseIdx index ++ successor)
    (rows : later.rowsLeft = earlier.rowsLeft) (phases : later.phasesLeft = earlier.phasesLeft)
    (scans : Work.total Scan.stepsLeft later.scans = Work.total Scan.stepsLeft earlier.scans)
    (lookup : later.lookup.unsent = earlier.lookup.unsent)
    (fewer : Work.total Task.stepsLeft successor < old.stepsLeft) : Less later earlier := by
  have erased := Work.total_eraseIdx Task.stepsLeft earlier.tasks index old held
  apply less_of_steps rows phases
  simp only [stepsLeft, scans, lookup, moved, Work.total_append]
  omega

end TaskMoved

theorem less_pullRow {world : World T} {index : Nat} {scan : Scan T} {row : Row} {rest : Source}
    (held : world.scans[index]? = some scan) (source : scan.source = some row :: rest) :
    Less (world.pullRow index scan row rest) world := by
  have shorter : rest.length < scan.source.length := by simp [source]
  unfold pullRow
  dsimp only
  split
  · exact less_of_row held rfl shorter
  · exact less_of_row held rfl shorter
  · split
    · exact less_of_row held rfl shorter
    · refine less_of_row held rfl ?_
      rw [Scan.source_decoded]
      exact shorter

theorem less_deferRow {world : World T} {index : Nat} {scan : Scan T} {row : Row} {adapter : Adapter T}
    {request : RequestId} (held : world.scans[index]? = some scan) (phase : scan.phase = .deferring row adapter request) :
    Less (world.deferRow index scan row adapter request) world := by
  have before : scan.phasesLeft = 3 := by rw [Scan.phasesLeft, phase]
  unfold deferRow
  split
  · refine less_of_phase held rfl (Nat.le_of_eq (congrArg List.length (Scan.source_decoded scan _))) ?_
    rw [before]
    exact Nat.lt_succ_of_le (Scan.phasesLeft_decoded scan _)
  · refine less_of_phase held rfl (Nat.le_refl _) ?_
    rw [before]
    exact Nat.lt_succ_self 2

theorem less_exhaust {world : World T} {index : Nat} {scan : Scan T}
    (held : world.scans[index]? = some scan) (phase : scan.phase = .scanning) :
    Less (world.exhaust index scan) world := by
  unfold exhaust
  split
  · exact less_of_phase held rfl (by simp) (by simp [Scan.phasesLeft, phase])
  · refine less_of_phase held rfl (Nat.zero_le _) ?_
    cases world.lookup.retire.1 <;> simp [Scan.phasesLeft, phase]

theorem less_receive {world later : World T} {index : Nat} {scan : Scan T}
    (held : world.scans[index]? = some scan) (phase : scan.phase = .receiving)
    (taken : world.receive index scan = some later) : Less later world := by
  unfold receive at taken
  split at taken
  · cases taken
    exact less_of_step held rfl rfl rfl rfl (by simp [Scan.phasesLeft, phase])
      (by simp [Scan.stepsLeft, phase])
  · split at taken
    · cases taken
      exact less_of_step held rfl rfl rfl rfl (by simp [Scan.phasesLeft, phase])
        (by simp [Scan.stepsLeft, phase])
    · cases taken

theorem less_advance {world later : World T} {index : Nat} (taken : world.advance index = some later) :
    Less later world := by
  simp only [advance, Option.bind_eq_bind, Option.bind_eq_some_iff] at taken
  obtain ⟨scan, held, taken⟩ := taken
  split at taken
  · cases taken
  · rename_i phase
    split at taken
    · rename_i source
      cases taken
      exact less_pullRow held source
    · cases taken
      exact less_exhaust held phase
  · rename_i phase
    cases taken
    exact less_deferRow held phase
  · rename_i phase
    cases taken
    exact less_of_phase held rfl (Nat.le_refl _) (by simp [Scan.phasesLeft, phase])
  · rename_i phase
    cases taken
    exact less_of_step held rfl rfl rfl rfl (by simp [Scan.phasesLeft, phase])
      (by simp [Scan.stepsLeft, phase])
  · cases taken
  · rename_i phase
    cases taken
    exact less_of_phase held rfl (Nat.le_refl _) (by simp [Scan.phasesLeft, phase])
  · rename_i phase
    cases taken
    exact less_of_step held rfl rfl rfl rfl (by simp [Scan.phasesLeft, Scan.closed, phase])
      (by simp [Scan.stepsLeft, Scan.closed, phase])
  · cases taken
  · rename_i phase
    exact less_receive held phase taken

theorem less_flushNext {world later : World T} {index : Nat} {adapter : AdapterId}
    (taken : world.flushNext index adapter = some later) : Less later world := by
  simp only [flushNext, Option.bind_eq_bind, Option.bind_eq_some_iff] at taken
  obtain ⟨scan, held, taken⟩ := taken
  split at taken
  · rename_i left phase
    split at taken
    · rename_i listed
      cases taken
      have shorter := List.length_erase_of_mem listed
      have some_left := List.length_pos_of_mem listed
      exact less_of_step held rfl rfl (BatchLookup.unsent_flushAdapter _ _) rfl
        (by simp [Scan.phasesLeft, phase]) (by simp only [Scan.stepsLeft, phase]; omega)
    · cases taken
  · rename_i left phase
    split at taken
    · rename_i listed
      cases taken
      have shorter := List.length_erase_of_mem listed
      have some_left := List.length_pos_of_mem listed
      exact less_of_step held rfl rfl (BatchLookup.unsent_flushAdapter _ _) rfl
        (by simp [Scan.phasesLeft, phase]) (by simp only [Scan.stepsLeft, phase]; omega)
    · cases taken
  · cases taken

theorem less_wake {world later : World T} {index : Nat} (taken : world.wake index = some later) :
    Less later world := by
  simp only [wake, Option.bind_eq_bind, Option.bind_eq_some_iff] at taken
  obtain ⟨task, held, taken⟩ := taken
  split at taken
  · rename_i stage
    obtain ⟨⟨found, looked⟩, settled, taken⟩ := Option.bind_eq_some_iff.mp taken
    cases taken
    refine less_of_task held rfl rfl rfl rfl (BatchLookup.unsent_look settled) ?_
    cases Outcome.ofLookup task.adapter task.row found <;> simp [Work.total, Task.stepsLeft, Stage.ofOutcome, stage]
  · cases taken

theorem less_send {world later : World T} {index : Nat} (taken : world.send index = some later) :
    Less later world := by
  simp only [send, Option.bind_eq_bind, Option.bind_eq_some_iff] at taken
  obtain ⟨task, held, scan, owner, taken⟩ := taken
  split at taken
  · rename_i value stage
    have fewer : Work.total Task.stepsLeft [{ task with stage := Stage.ending }] < task.stepsLeft := by
      simp [Work.total, Task.stepsLeft, stage]
    split at taken
    · cases taken
      exact less_of_task held rfl rfl rfl rfl rfl fewer
    · split at taken
      · cases taken
        exact less_of_task held rfl (rowsLeft_kept owner rfl rfl) (phasesLeft_kept owner rfl rfl)
          (stepsLeft_kept owner rfl rfl) rfl fewer
      · cases taken
  · cases taken

theorem less_finish {world later : World T} {index : Nat} (taken : world.finish index = some later) :
    Less later world := by
  simp only [finish, Option.bind_eq_bind, Option.bind_eq_some_iff] at taken
  obtain ⟨task, held, scan, owner, taken⟩ := taken
  split at taken
  · rename_i stage
    cases taken
    exact less_of_task held rfl (rowsLeft_kept owner rfl rfl) (phasesLeft_kept owner rfl rfl)
      (stepsLeft_kept owner rfl rfl) rfl (by simp [Work.total, Task.stepsLeft, stage])
  · rename_i stage
    cases taken
    exact less_of_task held rfl rfl rfl rfl rfl (by simp [Work.total, Task.stepsLeft, stage])
  · cases taken

theorem less_reply {world : World T} {replied : BatchLookup} {index : Nat}
    (taken : world.lookup.reply index = some replied) : Less (world.withLookup replied) world := by
  have fewer := BatchLookup.unsent_reply taken
  have steps : (world.withLookup replied).stepsLeft < world.stepsLeft := by
    simp only [stepsLeft, withLookup]
    omega
  exact less_of_steps rfl rfl steps

end World

end ThinScan
