import ThinScan.Proofs.Progress

/-!
A row that was pulled is settled at once, or has a task that waits for its request. What the settled rows are worth
has been handed out, stands in the scan, is carried by a task, or was thrown away with the scan.
-/

set_option autoImplicit false

namespace ThinScan

variable {T : Type}

namespace Pulled

def Answered (lookup : BatchLookup) (pulled : Pulled T) : Prop :=
  ∀ adapter request, pulled.verdict = .deferred adapter request → ∃ reply, lookup.reply? request = some reply

theorem value_kept {lookup later : BatchLookup} {pulled : Pulled T}
    (kept : ∀ request reply, lookup.reply? request = some reply → later.reply? request = some reply)
    (answered : pulled.Answered lookup) : pulled.value? later.answer? = pulled.value? lookup.answer? := by
  unfold value?
  split
  · rfl
  · rename_i adapter request verdict
    obtain ⟨reply, known⟩ := answered adapter request verdict
    rw [BatchLookup.answer?, BatchLookup.answer?, known, kept request reply known]
  · rfl

end Pulled

namespace Task

def awaited? (index : Nat) (task : Task T) : Option (Pulled T) :=
  match task.stage with
  | .waiting => if task.scan = index then some ⟨index, task.row, .deferred task.adapter task.request⟩ else none
  | _ => none

def carried? (index : Nat) (task : Task T) : Option T :=
  match task.stage with
  | .sending value => if task.scan = index then some value else none
  | _ => none

end Task

namespace Scan

def held (scan : Scan T) : List T := scan.emitted ++ scan.lookahead.toList ++ scan.queue

def asking (index : Nat) (scan : Scan T) : List (Pulled T) :=
  match scan.phase with
  | .deferring row adapter request => [⟨index, row, .deferred adapter request⟩]
  | _ => []

theorem asking_of_phase {scan : Scan T} (unasked : ∀ row adapter request, scan.phase ≠ .deferring row adapter request)
    (index : Nat) : scan.asking index = [] := by
  unfold asking
  split
  · rename_i row adapter request deferring
    exact absurd deferring (unasked row adapter request)
  · rfl

theorem asking_turn {label : Nat → Act T} {lookup after : BatchLookup} {scan fresh : Scan T}
    (turn : scan.Turn label lookup after fresh) (index : Nat) : fresh.asking index = scan.asking index := by
  have unasked {phase : Phase T} (here : scan.phase = phase)
      (other : ∀ row adapter request, phase ≠ .deferring row adapter request) : scan.asking index = [] :=
    asking_of_phase (fun row adapter request deferring => other row adapter request (here.symm.trans deferring)) index
  rw [asking_of_phase (unasked_turn turn) index]
  symm
  cases turn with
  | enter free idle uncounted => exact unasked idle (by simp)
  | resume free idle counted => exact unasked idle (by simp)
  | reach scanning rowless said => exact unasked scanning (by simp)
  | exhaust scanning rowless unsaid => exact unasked scanning (by simp)
  | list flush unlisted => rcases flush with rfl | rfl <;> exact unasked unlisted (by simp)
  | flush flush listed member => rcases flush with rfl | rfl <;> exact unasked listed (by simp)
  | await through => exact unasked through (by simp)
  | close through => exact unasked through (by simp)
  | receive receiving queued => exact unasked receiving (by simp)
  | take free idle ready => exact unasked idle (by simp)
  | leave free idle settled => exact unasked idle (by simp)
  | abandon free idle counted unsaid others => exact unasked idle (by simp)
  | abandonLast free idle counted unsaid last => exact unasked idle (by simp)

theorem held_begin (scan : Scan T) : scan.begin.held = scan.held := by
  rcases begin_cases scan with ⟨_, same⟩ | ⟨nothing, _, value, rest, queued, next⟩ | ⟨_, _, _, turned⟩
  · rw [same]; rfl
  · rw [next, held, held, nothing, queued]
    simp
  · rw [turned]; rfl

theorem held_found {scan : Scan T} {source : Source} (nothing : scan.lookahead = none) (value : T) :
    ((some value).toList ++ scan.held).Perm
      ({ scan with source := source, lookahead := some value, phase := .idle } : Scan T).held := by
  simp only [held, nothing, Option.toList_some, Option.toList_none, List.append_nil, ← List.append_assoc]
  exact List.perm_append_comm.append_right _

theorem held_closed (scan : Scan T) : scan.held = scan.closed.held ++ (scan.lookahead.toList ++ scan.queue) := by
  simp [held, closed]

theorem held_turn {label : Nat → Act T} {lookup after : BatchLookup} {scan fresh : Scan T} (sound : scan.Sound)
    (turn : scan.Turn label lookup after fresh) :
    ∃ gone, scan.held = fresh.held ++ gone ∧ (fresh.dropped = false ∨ fresh.finished = true → gone = []) := by
  have all {new : Scan T} (same : new.held = scan.held) :
      ∃ gone, scan.held = new.held ++ gone ∧ (new.dropped = false ∨ new.finished = true → gone = []) :=
    ⟨[], by rw [same, List.append_nil], fun _ => rfl⟩
  have discards {ended : Scan T} (values : ended.held = scan.held) (finished : ended.finished = scan.finished)
      (rest : ended.lookahead.toList ++ ended.queue = scan.lookahead.toList ++ scan.queue) :
      ∃ gone, scan.held = ended.closed.held ++ gone
        ∧ (ended.closed.dropped = false ∨ ended.closed.finished = true → gone = []) := by
    refine ⟨_, values ▸ held_closed ended, ?_⟩
    rintro (free | stopped)
    · cases free
    · obtain ⟨_, _, empty, nothing, _⟩ := sound.stopped (finished.symm.trans stopped)
      rw [rest, nothing, empty]
      rfl
  cases turn with
  | enter free idle uncounted => exact all (held_begin scan)
  | resume free idle counted => exact all (held_begin scan)
  | close through => exact discards rfl rfl rfl
  | receive receiving queued =>
      have nothing := (sound.pulled (by rw [receiving]; rfl)).2.2.1
      exact all (by simp [held, nothing, queued])
  | take free idle ready => exact all (by simp [held, ready])
  | leave free idle settled => exact discards rfl rfl rfl
  | abandon free idle counted unsaid others =>
      exact @discards { scan with exhausted := true } rfl rfl rfl
  | _ => exact all rfl

end Scan

namespace World

variable {world later : World T} {action : Act T}

-- The row that a step takes from a source, with what is decided on it.
def pulls (world : World T) : Act T → List (Pulled T)
  | .advance index =>
      match world.scans[index]? with
      | none => []
      | some scan =>
          match scan.phase, scan.source with
          | .scanning, some row :: _ => [world.pulling index scan row]
          | _, _ => []
  | _ => []

def history : World T → List (Act T) → List (Pulled T)
  | _, [] => []
  | world, action :: rest =>
      match world.act action with
      | none => []
      | some later => world.pulls action ++ history later rest

def pulledBy (index : Nat) (past : List (Pulled T)) : List (Pulled T) := past.filter (fun pulled => pulled.scan = index)

def part {α : Type} (world : World T) (index : Nat) (things : Scan T → List α) : List α :=
  ((world.scans[index]?).map things).getD []

def awaited (world : World T) (index : Nat) : List (Pulled T) :=
  world.part index (Scan.asking index) ++ world.tasks.filterMap (Task.awaited? index)

def carried (world : World T) (index : Nat) : List T := world.tasks.filterMap (Task.carried? index)

section Parts

variable {α : Type} {things : Scan T → List α}

theorem part_at {index : Nat} {scan : Scan T} (at_place : world.scans[index]? = some scan) :
    world.part index things = things scan := by
  rw [part, at_place]
  rfl

theorem part_set {place index : Nat} {scan fresh : Scan T} (at_place : world.scans[place]? = some scan)
    (scans : later.scans = world.scans.set place fresh) :
    later.part index things = if place = index then things fresh else world.part index things := by
  rw [part, scans, set_at fresh at_place]
  split <;> rfl

theorem part_kept {place index : Nat} {scan fresh : Scan T} (at_place : world.scans[place]? = some scan)
    (scans : later.scans = world.scans.set place fresh) (same : things fresh = things scan) :
    later.part index things = world.part index things := by
  rw [part_set at_place scans]
  split
  · rename_i here
    rw [← here, part_at at_place, same]
  · rfl

theorem part_start {begun : Scan T} (scans : later.scans = world.scans ++ [begun]) (nothing : things begun = [])
    (index : Nat) : later.part index things = world.part index things := by
  rw [part, part, scans, List.getElem?_append]
  split
  · rfl
  · rename_i beyond
    rw [List.getElem?_eq_none (Nat.not_lt.mp beyond)]
    cases index - world.scans.length with
    | zero => exact nothing
    | succ further => rfl

end Parts

theorem reply_move (sound : world.Sound) (move : Move action world later) (request : RequestId) (reply : Reply)
    (known : world.lookup.reply? request = some reply) : later.lookup.reply? request = some reply := by
  obtain ⟨cause, step, _⟩ := step_of_move move
  exact BatchLookup.reply_kept sound.custody step known

-- The rows of one scan: those that are settled, with what they are worth, and those still awaited. Values are lost only
-- with a scan that is dropped before its end.
structure Accounts (world : World T) (past : List (Pulled T)) (index : Nat) (settled : List (Pulled T)) (lost : List T) :
    Prop where
  rows : (pulledBy index past).Perm (settled ++ world.awaited index)
  told : ∀ pulled ∈ settled, pulled.Answered world.lookup
  values : (settled.filterMap (Pulled.value? world.lookup.answer?)).Perm
    (world.part index Scan.held ++ world.carried index ++ lost)
  kept : lost ≠ [] → ∃ scan, world.scans[index]? = some scan ∧ scan.dropped = true ∧ scan.finished = false

variable {past settled next : List (Pulled T)} {lost gone : List T} {index : Nat}

theorem abandoned_move (sound : world.Sound) (move : Move action world later) {scan : Scan T}
    (at_place : world.scans[index]? = some scan) (dropped : scan.dropped = true) (unfinished : scan.finished = false) :
    ∃ fresh, later.scans[index]? = some fresh ∧ fresh.dropped = true ∧ fresh.finished = false := by
  obtain ⟨fresh, now⟩ := stays_move move at_place
  have follows := follows_move move at_place now
  refine ⟨fresh, now, follows.dropped dropped, Bool.eq_false_iff.mpr (fun finished => ?_)⟩
  rcases follows.stopped finished with stopped | receiving
  · exact Bool.false_ne_true (unfinished.symm.trans stopped)
  · have idle := ((held_sound sound at_place).gone dropped).1
    rw [receiving] at idle
    cases idle

theorem accounts_of (sound : world.Sound) (accounts : Accounts world past index settled lost)
    (move : Move action world later)
    (moved : (world.awaited index ++ pulledBy index (world.pulls action)).Perm (next ++ later.awaited index))
    (told : ∀ pulled ∈ next, pulled.Answered later.lookup)
    (values : (next.filterMap (Pulled.value? later.lookup.answer?) ++ (world.part index Scan.held ++ world.carried index)).Perm
      (later.part index Scan.held ++ later.carried index ++ gone))
    (kept : gone ≠ [] → ∃ scan, later.scans[index]? = some scan ∧ scan.dropped = true ∧ scan.finished = false) :
    ∃ settled lost, Accounts later (past ++ world.pulls action) index settled lost := by
  have known := reply_move sound move
  refine ⟨settled ++ next, gone ++ lost, ?_, ?_, ?_, ?_⟩
  · rw [pulledBy, List.filter_append, List.append_assoc]
    refine (accounts.rows.append_right _).trans ?_
    rw [List.append_assoc]
    exact moved.append_left settled
  · intro pulled member
    rcases List.mem_append.mp member with before | fresh
    · intro adapter request verdict
      obtain ⟨reply, was⟩ := accounts.told pulled before adapter request verdict
      exact ⟨reply, known request reply was⟩
    · exact told pulled fresh
  · have same : settled.filterMap (Pulled.value? later.lookup.answer?)
        = settled.filterMap (Pulled.value? world.lookup.answer?) :=
      List.filterMap_congr (fun pulled member => Pulled.value_kept known (accounts.told pulled member))
    rw [List.filterMap_append, same]
    refine (accounts.values.append_right _).trans ?_
    refine List.perm_append_comm.trans ?_
    have extended := values.append_right lost
    simpa only [List.append_assoc] using extended
  · intro some_lost
    by_cases before : lost = []
    · rw [before, List.append_nil] at some_lost
      exact kept some_lost
    · obtain ⟨scan, at_place, dropped, unfinished⟩ := accounts.kept before
      exact abandoned_move sound move at_place dropped unfinished

theorem awaited_kept (tasks : later.tasks = world.tasks)
    (asking : later.part index (Scan.asking index) = world.part index (Scan.asking index)) :
    later.awaited index = world.awaited index := by rw [awaited, awaited, tasks, asking]

theorem accounts_same (sound : world.Sound) (accounts : Accounts world past index settled lost)
    (move : Move action world later) (pulls : pulledBy index (world.pulls action) = [])
    (tasks : later.tasks = world.tasks)
    (asking : later.part index (Scan.asking index) = world.part index (Scan.asking index))
    (held : world.part index Scan.held = later.part index Scan.held ++ gone)
    (kept : gone ≠ [] → ∃ scan, later.scans[index]? = some scan ∧ scan.dropped = true ∧ scan.finished = false) :
    ∃ settled lost, Accounts later (past ++ world.pulls action) index settled lost := by
  have awaited := awaited_kept tasks asking
  have carried : later.carried index = world.carried index := congrArg (List.filterMap _) tasks
  refine @accounts_of _ _ _ _ _ _ [] _ gone index sound accounts move ?_ (by simp) ?_ kept
  · rw [pulls, awaited, List.append_nil]
    exact .refl _
  · rw [carried, held, List.filterMap_nil, List.nil_append, List.append_assoc, List.append_assoc]
    exact List.perm_append_comm.append_left _

theorem pulls_busy {place : Nat} {scan : Scan T} (at_place : world.scans[place]? = some scan)
    (busy : scan.phase ≠ .scanning) : world.pulls (.advance place) = [] := by
  simp only [pulls, at_place]
  split
  · rename_i scanning _
    exact absurd scanning busy
  · rfl

theorem pulls_turn {place : Nat} {label : Nat → Act T} {after : BatchLookup} {scan fresh : Scan T}
    (at_place : world.scans[place]? = some scan) (turn : scan.Turn label world.lookup after fresh) :
    world.pulls (label place) = [] := by
  have rowless (ended : scan.source.rows = []) : world.pulls (.advance place) = [] := by
    simp only [pulls, at_place]
    split
    · rename_i next
      rw [next] at ended
      cases ended
    · rfl
  cases turn with
  | reach scanning ended said => exact rowless ended
  | exhaust scanning ended unsaid => exact rowless ended
  | list flush unlisted => exact pulls_busy at_place (by rcases flush with rfl | rfl <;> (rw [unlisted]; simp))
  | await through => exact pulls_busy at_place (by rw [through]; simp)
  | close through => exact pulls_busy at_place (by rw [through]; simp)
  | receive receiving queued => exact pulls_busy at_place (by rw [receiving]; simp)
  | _ => rfl

theorem pulls_row {place : Nat} {scan : Scan T} {row : Row} {rest : Source}
    (at_place : world.scans[place]? = some scan) (scanning : scan.phase = .scanning)
    (next : scan.source = some row :: rest) : world.pulls (.advance place) = [world.pulling place scan row] := by
  simp only [pulls, at_place, scanning, next]

theorem pulledBy_one (index : Nat) (pulled : Pulled T) :
    pulledBy index [pulled] = if pulled.scan = index then [pulled] else [] := by
  rw [pulledBy, List.filter_cons, List.filter_nil]
  simp only [decide_eq_true_eq]

theorem accounts_turn (sound : world.Sound) (accounts : Accounts world past index settled lost) {place : Nat}
    {label : Nat → Act T} {after : BatchLookup} {scan fresh : Scan T} (at_place : world.scans[place]? = some scan)
    (turn : scan.Turn label world.lookup after fresh) :
    ∃ settled lost, Accounts ((world.withLookup after).setScan place fresh) (past ++ world.pulls (label place)) index
      settled lost := by
  have move := Move.turn at_place turn
  have nothing : pulledBy index (world.pulls (label place)) = [] := by
    rw [pulls_turn at_place turn]
    rfl
  have asking : ((world.withLookup after).setScan place fresh).part index (Scan.asking index) = _ :=
    part_kept at_place rfl (Scan.asking_turn turn index)
  have now : ((world.withLookup after).setScan place fresh).part index Scan.held = _ := part_set at_place rfl
  by_cases here : place = index
  · subst here
    obtain ⟨gone, all, lossless⟩ := Scan.held_turn (held_sound sound at_place) turn
    have values : world.part place Scan.held
        = ((world.withLookup after).setScan place fresh).part place Scan.held ++ gone := by
      rw [now, if_pos rfl, part_at at_place, all]
    refine accounts_same sound accounts move nothing rfl asking values ?_
    intro some_gone
    have stands : ((world.withLookup after).setScan place fresh).scans[place]? = some fresh :=
      (set_at fresh at_place place).trans (if_pos rfl)
    refine ⟨fresh, stands, ?_, ?_⟩
    · exact Bool.not_eq_false _ ▸ fun free => some_gone (lossless (.inl free))
    · exact Bool.eq_false_iff.mpr (fun finished => some_gone (lossless (.inr finished)))
  · refine @accounts_same _ _ _ _ _ _ _ [] index sound accounts move nothing rfl asking ?_ (absurd rfl)
    rw [now, if_neg here, List.append_nil]

theorem value_toList {pulled : Pulled T} {answer? : RequestId → Option Values} :
    [pulled].filterMap (Pulled.value? answer?) = (pulled.value? answer?).toList := by
  cases shown : pulled.value? answer? with
  | none => exact List.filterMap_cons_none shown
  | some value => exact List.filterMap_cons_some shown

theorem accounts_settled (sound : world.Sound) (accounts : Accounts world past index settled lost) {place : Nat}
    {scan fresh : Scan T} {row : Pulled T} (at_place : world.scans[place]? = some scan) (move : Move action world later)
    (scans : later.scans = world.scans.set place fresh) (tasks : later.tasks = world.tasks)
    (elsewhere : place ≠ index → pulledBy index (world.pulls action) = [])
    (here : place = index → scan.asking index ++ pulledBy index (world.pulls action) = [row])
    (settles : ∀ row adapter request, fresh.phase ≠ .deferring row adapter request)
    (told : row.Answered later.lookup)
    (values : ((row.value? later.lookup.answer?).toList ++ scan.held).Perm fresh.held) :
    ∃ settled lost, Accounts later (past ++ world.pulls action) index settled lost := by
  have held_now : later.part index Scan.held = _ := part_set at_place scans
  have asking_now : later.part index (Scan.asking index) = _ := part_set at_place scans
  have carried : later.carried index = world.carried index := congrArg (List.filterMap _) tasks
  by_cases same : place = index
  · subst same
    rw [if_pos rfl] at held_now asking_now
    refine @accounts_of _ _ _ _ _ _ [row] _ [] place sound accounts move ?_ ?_ ?_ (absurd rfl)
    · rw [awaited, awaited, part_at at_place, asking_now, Scan.asking_of_phase settles, tasks, List.nil_append,
        ← here rfl, List.append_assoc, List.append_assoc]
      exact List.perm_append_comm.append_left _
    · intro pulled member
      rw [List.mem_singleton.mp member]
      exact told
    · rw [value_toList, held_now, carried, part_at at_place, List.append_nil, ← List.append_assoc]
      exact values.append_right _
  · rw [if_neg same] at held_now asking_now
    refine @accounts_same _ _ _ _ _ _ _ [] index sound accounts move (elsewhere same) tasks asking_now ?_ (absurd rfl)
    rw [held_now, List.append_nil]

theorem accounts_row (sound : world.Sound) (accounts : Accounts world past index settled lost) {place : Nat}
    {scan fresh : Scan T} {row : Row} {rest : Source} (at_place : world.scans[place]? = some scan)
    (scanning : scan.phase = .scanning) (next : scan.source = some row :: rest)
    (move : Move (.advance place) world later) (scans : later.scans = world.scans.set place fresh)
    (tasks : later.tasks = world.tasks)
    (undeferred : ∀ adapter request, world.verdict scan row ≠ .deferred adapter request)
    (settles : ∀ row adapter request, fresh.phase ≠ .deferring row adapter request)
    (values : (((world.pulling place scan row).value? later.lookup.answer?).toList ++ scan.held).Perm fresh.held) :
    ∃ settled lost, Accounts later (past ++ world.pulls (.advance place)) index settled lost := by
  have pulled : pulledBy index (world.pulls (.advance place))
      = if place = index then [world.pulling place scan row] else [] := by
    rw [pulls_row at_place scanning next, pulledBy_one]
    rfl
  have unasked : scan.asking index = [] := Scan.asking_of_phase (by rw [scanning]; simp) index
  refine accounts_settled sound accounts at_place move scans tasks ?_ ?_ settles ?_ values
  · intro elsewhere
    rw [pulled, if_neg elsewhere]
  · intro here
    rw [unasked, pulled, if_pos here]
    rfl
  · exact fun adapter request verdict => absurd verdict (undeferred adapter request)

theorem accounts_looked (sound : world.Sound) (accounts : Accounts world past index settled lost) {place : Nat}
    {scan fresh : Scan T} {row : Row} {adapter : Adapter T} {request : RequestId} {found : Option Values}
    (at_place : world.scans[place]? = some scan) (deferring : scan.phase = .deferring row adapter request)
    (known : world.lookup.look request = some (found, later.lookup)) (move : Move (.advance place) world later)
    (scans : later.scans = world.scans.set place fresh) (tasks : later.tasks = world.tasks)
    (settles : ∀ row adapter request, fresh.phase ≠ .deferring row adapter request)
    (values : ((found.bind (adapter.decoded? row)).toList ++ scan.held).Perm fresh.held) :
    ∃ settled lost, Accounts later (past ++ world.pulls (.advance place)) index settled lost := by
  have nothing : world.pulls (.advance place) = [] := pulls_busy at_place (by rw [deferring]; simp)
  obtain ⟨answer, told⟩ := BatchLookup.look_answer known
  refine @accounts_settled _ _ _ _ _ _ _ index sound accounts place scan fresh ⟨index, row, .deferred adapter request⟩
    at_place move scans tasks ?_ ?_ settles ?_ ?_
  · intro _
    rw [nothing]
    rfl
  · intro _
    rw [nothing, Scan.asking, deferring]
    rfl
  · intro adapter request verdict
    cases verdict
    exact told
  · have worth : (Pulled.mk index row (.deferred adapter request)).value? later.lookup.answer?
        = found.bind (adapter.decoded? row) :=
      congrArg (fun found => Option.bind found (adapter.decoded? row)) answer
    rw [worth]
    exact values

theorem accounts_defer (sound : world.Sound) (accounts : Accounts world past index settled lost) {place : Nat}
    {scan fresh : Scan T} {row : Row} {rest : Source} {adapter : Adapter T} {request : RequestId}
    (at_place : world.scans[place]? = some scan) (scanning : scan.phase = .scanning)
    (next : scan.source = some row :: rest) (verdict : world.verdict scan row = .deferred adapter request)
    (move : Move (.advance place) world later) (scans : later.scans = world.scans.set place fresh)
    (tasks : later.tasks = world.tasks) (deferring : fresh.phase = .deferring row adapter request)
    (held : fresh.held = scan.held) :
    ∃ settled lost, Accounts later (past ++ world.pulls (.advance place)) index settled lost := by
  have held : later.part index Scan.held = world.part index Scan.held := part_kept at_place scans held
  have carried : later.carried index = world.carried index := congrArg (List.filterMap _) tasks
  have asking_now : later.part index (Scan.asking index) = _ := part_set at_place scans
  have unasked : scan.asking index = [] := Scan.asking_of_phase (by rw [scanning]; simp) index
  have pulled : pulledBy index (world.pulls (.advance place))
      = if place = index then [⟨place, row, .deferred adapter request⟩] else [] := by
    rw [pulls_row at_place scanning next, pulledBy_one, pulling, verdict]
  refine @accounts_of _ _ _ _ _ _ [] _ [] index sound accounts move ?_ (by simp) ?_ (absurd rfl)
  · rw [awaited, awaited, tasks, pulled, asking_now]
    by_cases here : place = index
    · subst here
      rw [if_pos rfl, if_pos rfl, part_at at_place, unasked, Scan.asking, deferring]
      exact List.perm_append_comm
    · rw [if_neg here, if_neg here, List.append_nil]
      exact .refl _
  · rw [held, carried, List.append_nil]
    exact .refl _

theorem accounts_spawn (sound : world.Sound) (accounts : Accounts world past index settled lost) {place : Nat}
    {scan fresh : Scan T} {row : Row} {adapter : Adapter T} {request : RequestId}
    (at_place : world.scans[place]? = some scan) (deferring : scan.phase = .deferring row adapter request)
    (move : Move (.advance place) world later) (scans : later.scans = world.scans.set place fresh)
    (tasks : later.tasks = world.tasks ++ [⟨place, row, adapter, request, .waiting⟩])
    (settles : ∀ row adapter request, fresh.phase ≠ .deferring row adapter request) (held : fresh.held = scan.held) :
    ∃ settled lost, Accounts later (past ++ world.pulls (.advance place)) index settled lost := by
  have nothing : world.pulls (.advance place) = [] := pulls_busy at_place (by rw [deferring]; simp)
  have held : later.part index Scan.held = world.part index Scan.held := part_kept at_place scans held
  have asking_now : later.part index (Scan.asking index) = _ := part_set at_place scans
  have carried : later.carried index = world.carried index := by
    rw [World.carried, tasks, List.filterMap_append]
    exact List.append_nil _
  refine @accounts_of _ _ _ _ _ _ [] _ [] index sound accounts move ?_ (by simp) ?_ (absurd rfl)
  · rw [nothing, awaited, awaited, tasks, List.filterMap_append, asking_now]
    by_cases here : place = index
    · subst here
      rw [if_pos rfl, Scan.asking_of_phase settles, part_at at_place, Scan.asking, deferring]
      have taken : [(⟨place, row, adapter, request, .waiting⟩ : Task T)].filterMap (Task.awaited? place)
          = [⟨place, row, .deferred adapter request⟩] := by simp [Task.awaited?]
      rw [taken]
      exact (List.Perm.of_eq (List.append_nil _)).trans List.perm_append_comm
    · have untaken : [(⟨place, row, adapter, request, .waiting⟩ : Task T)].filterMap (Task.awaited? index) = [] := by
        simp [Task.awaited?, here]
      rw [if_neg here, untaken, List.append_nil]
      exact .of_eq (List.append_nil _)
  · rw [held, carried, List.append_nil]
    exact .refl _

theorem accounts_task (sound : world.Sound) (accounts : Accounts world past index settled lost) {place : Nat}
    {task : Task T} {successor : List (Task T)} (move : Move action world later) (pulls : world.pulls action = [])
    (at_place : world.tasks[place]? = some task) (tasks : later.tasks = world.tasks.eraseIdx place ++ successor)
    (asking : later.part index (Scan.asking index) = world.part index (Scan.asking index))
    (moved : (task.awaited? index).toList = next ++ successor.filterMap (Task.awaited? index))
    (told : ∀ pulled ∈ next, pulled.Answered later.lookup)
    (values : (next.filterMap (Pulled.value? later.lookup.answer?) ++ (task.carried? index).toList ++ world.part index Scan.held).Perm
      (successor.filterMap (Task.carried? index) ++ later.part index Scan.held ++ gone))
    (kept : gone ≠ [] → ∃ scan, later.scans[index]? = some scan ∧ scan.dropped = true ∧ scan.finished = false) :
    ∃ settled lost, Accounts later (past ++ world.pulls action) index settled lost := by
  have waits := filterMap_at (Task.awaited? index) at_place
  have carried := filterMap_at (Task.carried? index) at_place
  have carried_after : later.carried index = (world.tasks.eraseIdx place).filterMap (Task.carried? index)
      ++ successor.filterMap (Task.carried? index) := by rw [World.carried, tasks, List.filterMap_append]
  refine @accounts_of _ _ _ _ _ _ next _ gone index sound accounts move ?_ told ?_ kept
  · rw [moved] at waits
    rw [pulls, awaited, awaited, asking, tasks, List.filterMap_append]
    refine (List.Perm.of_eq (List.append_nil _)).trans ?_
    refine ((waits.trans (List.perm_append_comm_assoc _ next _)).append_left _).trans ?_
    exact List.perm_append_comm_assoc _ next _
  · rw [carried_after]
    exact exchange_perm carried values

theorem awaited_ofOutcome (index : Nat) (task : Task T) (outcome : Outcome T) :
    [{ task with stage := .ofOutcome outcome }].filterMap (Task.awaited? index) = [] := by
  cases outcome <;> rfl

theorem carried_ofOutcome (index : Nat) (task : Task T) (found : Option Values) :
    [{ task with stage := .ofOutcome (Outcome.ofLookup task.adapter task.row found) }].filterMap (Task.carried? index)
      = if task.scan = index then (found.bind (task.adapter.decoded? task.row)).toList else [] := by
  cases found with
  | none => exact (ite_self ([] : List T)).symm
  | some values =>
      rw [Outcome.ofLookup, Outcome.ofValues, Option.bind_some, Adapter.decoded?]
      cases task.adapter.decode task.row values with
      | value value =>
          by_cases here : task.scan = index
          · simp [Stage.ofOutcome, Task.carried?, here]
          · simp [Stage.ofOutcome, Task.carried?, here]
      | failed cause => exact (ite_self ([] : List T)).symm
      | crashed => exact (ite_self ([] : List T)).symm

theorem accounts_wake (sound : world.Sound) (accounts : Accounts world past index settled lost) {place : Nat}
    {task : Task T} {found : Option Values} {lookup : BatchLookup} (events : List Event)
    (at_place : world.tasks[place]? = some task) (waiting : task.stage = .waiting)
    (known : world.lookup.look task.request = some (found, lookup)) :
    ∃ settled lost, Accounts
      (((world.withLookup lookup).moveTask place
        [{ task with stage := .ofOutcome (Outcome.ofLookup task.adapter task.row found) }]).report events)
      (past ++ world.pulls (.wake place)) index settled lost := by
  have move := Move.wake events at_place waiting known
  obtain ⟨answer, told⟩ := BatchLookup.look_answer known
  have carries : task.carried? index = none := by rw [Task.carried?, waiting]
  have awaits : task.awaited? index
      = if task.scan = index then some ⟨index, task.row, .deferred task.adapter task.request⟩ else none := by
    rw [Task.awaited?, waiting]
  by_cases here : task.scan = index
  · rw [if_pos here] at awaits
    refine @accounts_task _ _ _ _ _ _ [⟨index, task.row, .deferred task.adapter task.request⟩] _ [] index sound accounts
      place task _ move rfl at_place rfl rfl ?_ ?_ ?_ (absurd rfl)
    · rw [awaits, awaited_ofOutcome]
      rfl
    · intro pulled member adapter request verdict
      rw [List.mem_singleton.mp member] at verdict
      cases verdict
      exact told
    · rw [value_toList, carries, carried_ofOutcome, if_pos here, List.append_nil, Option.toList_none, List.append_nil]
      have worth : (Pulled.mk index task.row (.deferred task.adapter task.request)).value? lookup.answer?
          = found.bind (task.adapter.decoded? task.row) :=
        congrArg (fun found => Option.bind found (task.adapter.decoded? task.row)) answer
      exact .of_eq (congrArg (fun value => Option.toList value ++ world.part index Scan.held) worth)
  · rw [if_neg here] at awaits
    refine @accounts_task _ _ _ _ _ _ [] _ [] index sound accounts place task _ move rfl at_place rfl rfl ?_ (by simp) ?_
      (absurd rfl)
    · rw [awaits, awaited_ofOutcome]
      rfl
    · rw [carries, carried_ofOutcome, if_neg here, List.append_nil]
      exact .refl _

theorem accounts_send (sound : world.Sound) (accounts : Accounts world past index settled lost) {place : Nat}
    {task : Task T} {scan : Scan T} {value : T} (at_place : world.tasks[place]? = some task)
    (owner : world.scans[task.scan]? = some scan) (sending : task.stage = .sending value) (free : scan.dropped = false)
    (room : scan.hasRoom = true) :
    ∃ settled lost, Accounts
      ((world.moveTask place [{ task with stage := .ending }]).setScan task.scan
        { scan with queue := scan.queue ++ [value] })
      (past ++ world.pulls (.send place)) index settled lost := by
  have move := Move.send at_place owner sending free room
  have awaits : task.awaited? index = none := by rw [Task.awaited?, sending]
  have carries : task.carried? index = if task.scan = index then some value else none := by rw [Task.carried?, sending]
  have now : ((world.moveTask place [{ task with stage := .ending }]).setScan task.scan
      { scan with queue := scan.queue ++ [value] }).part index Scan.held = _ := part_set owner rfl
  refine @accounts_task _ _ _ _ _ _ [] _ [] index sound accounts place task _ move rfl at_place rfl
    (part_kept owner rfl rfl) ?_ (by simp) ?_ (absurd rfl)
  · rw [awaits]
    rfl
  · rw [now, carries, List.append_nil]
    by_cases here : task.scan = index
    · subst here
      rw [if_pos rfl, if_pos rfl, part_at owner, Scan.held, Scan.held, ← List.append_assoc _ scan.queue]
      exact List.perm_append_comm
    · rw [if_neg here, if_neg here]
      exact .refl _

theorem accounts_discard (sound : world.Sound) (accounts : Accounts world past index settled lost) {place : Nat}
    {task : Task T} {scan : Scan T} {value : T} (events : List Event) (at_place : world.tasks[place]? = some task)
    (owner : world.scans[task.scan]? = some scan) (sending : task.stage = .sending value) (dropped : scan.dropped = true) :
    ∃ settled lost, Accounts ((world.moveTask place [{ task with stage := .ending }]).report events)
      (past ++ world.pulls (.send place)) index settled lost := by
  have move := Move.discard events at_place owner sending dropped
  have awaits : task.awaited? index = none := by rw [Task.awaited?, sending]
  have carries : task.carried? index = if task.scan = index then some value else none := by rw [Task.carried?, sending]
  refine @accounts_task _ _ _ _ _ _ [] _ (if task.scan = index then [value] else []) index sound accounts place task _
    move rfl at_place rfl rfl ?_ (by simp) ?_ ?_
  · rw [awaits]
    rfl
  · rw [carries]
    by_cases here : task.scan = index
    · rw [if_pos here, if_pos here]
      exact List.perm_append_comm
    · rw [if_neg here, if_neg here, List.append_nil]
      exact .refl _
  · intro some_gone
    by_cases here : task.scan = index
    · subst here
      exact ⟨scan, owner, dropped, unfinished_of_live sound at_place owner (by rw [Task.isLive, sending])⟩
    · exact absurd (if_neg here) some_gone

theorem accounts_spent (sound : world.Sound) (accounts : Accounts world past index settled lost) {place : Nat}
    {task : Task T} {successor : List (Task T)} (move : Move action world later) (pulls : world.pulls action = [])
    (at_place : world.tasks[place]? = some task) (tasks : later.tasks = world.tasks.eraseIdx place ++ successor)
    (asking : later.part index (Scan.asking index) = world.part index (Scan.asking index))
    (held : later.part index Scan.held = world.part index Scan.held)
    (awaits : task.awaited? index = none ∧ successor.filterMap (Task.awaited? index) = [])
    (carries : task.carried? index = none ∧ successor.filterMap (Task.carried? index) = []) :
    ∃ settled lost, Accounts later (past ++ world.pulls action) index settled lost := by
  refine @accounts_task _ _ _ _ _ _ [] _ [] index sound accounts place task _ move pulls at_place tasks asking ?_ (by simp) ?_
    (absurd rfl)
  · rw [awaits.1, awaits.2]
    rfl
  · rw [held, carries.1, carries.2, List.append_nil]
    exact .refl _

theorem accounts_aside (sound : world.Sound) (accounts : Accounts world past index settled lost)
    (move : Move action world later) (pulls : world.pulls action = []) (tasks : later.tasks = world.tasks)
    (asking : later.part index (Scan.asking index) = world.part index (Scan.asking index))
    (held : later.part index Scan.held = world.part index Scan.held) :
    ∃ settled lost, Accounts later (past ++ world.pulls action) index settled lost := by
  refine @accounts_same _ _ _ _ _ _ _ [] index sound accounts move (congrArg _ pulls) tasks asking ?_ (absurd rfl)
  rw [held, List.append_nil]

theorem accounts_move (sound : world.Sound) (accounts : Accounts world past index settled lost)
    (move : Move action world later) : ∃ settled lost, Accounts later (past ++ world.pulls action) index settled lost := by
  cases move with
  | turn at_place turn => exact accounts_turn sound accounts at_place turn
  | skip events at_place scanning next phases undeferred worthless =>
      refine accounts_row sound accounts at_place scanning next
        (.skip events at_place scanning next phases undeferred worthless) rfl rfl undeferred ?_ ?_
      · rcases phases with rfl | rfl <;> simp
      · rw [worthless]
        exact .refl _
  | @own _ place scan row rest adapter value at_place scanning next verdict decoded =>
      have nothing : scan.lookahead = none := ((held_sound sound at_place).pulled (by rw [scanning]; rfl)).2.2.1
      have undeferred : ∀ other request, world.verdict scan row ≠ .deferred other request := by simp [verdict]
      have worth (answer? : RequestId → Option Values) : (world.pulling place scan row).value? answer? = some value := by
        rw [Pulled.value?, pulling, verdict]
        exact decoded
      refine accounts_row sound accounts at_place scanning next (.own at_place scanning next verdict decoded) rfl rfl
        undeferred (by simp) ?_
      rw [worth]
      exact Scan.held_found nothing value
  | defer at_place scanning next verdict =>
      exact accounts_defer sound accounts at_place scanning next verdict (.defer at_place scanning next verdict) rfl rfl
        rfl rfl
  | caught at_place deferring known decoded =>
      have nothing := ((held_sound sound at_place).pulled (by rw [deferring]; rfl)).2.2.1
      refine accounts_looked sound accounts at_place deferring known (.caught at_place deferring known decoded) rfl rfl
        (by simp) ?_
      rw [decoded]
      exact Scan.held_found nothing _
  | missed events at_place deferring known phases worthless =>
      refine accounts_looked sound accounts at_place deferring known
        (.missed events at_place deferring known phases worthless) rfl rfl ?_ ?_
      · rcases phases with rfl | rfl <;> simp
      · rw [worthless]
        exact .refl _
  | spawn at_place deferring =>
      exact accounts_spawn sound accounts at_place deferring (.spawn at_place deferring) rfl rfl (by simp) rfl
  | @finished _ place scan events at_place receiving empty closed =>
      have unasked : ∀ row adapter request, scan.phase ≠ .deferring row adapter request := by rw [receiving]; simp
      exact accounts_aside sound accounts (.finished events at_place receiving empty closed)
        (pulls_busy at_place (by rw [receiving]; simp)) rfl
        (part_kept at_place rfl (Scan.asking_of_phase unasked index).symm) (part_kept at_place rfl rfl)
  | wake events at_place waiting known => exact accounts_wake sound accounts events at_place waiting known
  | send at_place owner sending free room => exact accounts_send sound accounts at_place owner sending free room
  | discard events at_place owner sending dropped =>
      exact accounts_discard sound accounts events at_place owner sending dropped
  | finish at_place owner ending =>
      exact accounts_spent sound accounts (.finish at_place owner ending) rfl at_place rfl (part_kept owner rfl rfl)
        (part_kept owner rfl rfl) ⟨by rw [Task.awaited?, ending], rfl⟩ ⟨by rw [Task.carried?, ending], rfl⟩
  | leave at_place leaving =>
      exact accounts_spent sound accounts (.leave at_place leaving) rfl at_place rfl rfl rfl
        ⟨by rw [Task.awaited?, leaving], rfl⟩ ⟨by rw [Task.carried?, leaving], rfl⟩
  | start store filters source capacity =>
      exact accounts_aside sound accounts (.start store filters source capacity) rfl rfl (part_start rfl rfl index)
        (part_start rfl rfl index)
  | register store adapter => exact accounts_aside sound accounts (.register store adapter) rfl rfl rfl rfl
  | unregister store adapter => exact accounts_aside sound accounts (.unregister store adapter) rfl rfl rfl rfl
  | flush adapter => exact accounts_aside sound accounts (.flush adapter) rfl rfl rfl rfl
  | complete taken => exact accounts_aside sound accounts (.complete taken) rfl rfl rfl rfl
  | reply taken => exact accounts_aside sound accounts (.reply taken) rfl rfl rfl rfl

def source? : Act T → Option Source
  | .start _ _ source _ => some source
  | _ => none

def sources (acts : List (Act T)) : List Source := acts.filterMap source?

structure Traced (world : World T) (past : List (Pulled T)) (begun : List Source) : Prop where
  length : begun.length = world.scans.length
  known : ∀ pulled ∈ past, pulled.scan < world.scans.length
  rows : ∀ (index : Nat) (scan : Scan T) (source : Source), world.scans[index]? = some scan → begun[index]? = some source →
    (pulledBy index past).map Pulled.row ++ scan.source.rows = source.rows

variable {begun : List Source}

theorem traced_set {place : Nat} {scan fresh : Scan T} (traced : Traced world past begun)
    (at_place : world.scans[place]? = some scan) (scans : later.scans = world.scans.set place fresh)
    (unstarted : source? action = none) (own : ∀ pulled ∈ world.pulls action, pulled.scan = place)
    (rows : (world.pulls action).map Pulled.row ++ fresh.source.rows = scan.source.rows) :
    Traced later (past ++ world.pulls action) (begun ++ (source? action).toList) := by
  have length : later.scans.length = world.scans.length := by rw [scans, List.length_set]
  rw [unstarted, Option.toList_none, List.append_nil]
  refine ⟨length ▸ traced.length, ?_, ?_⟩
  · intro pulled member
    rw [length]
    rcases List.mem_append.mp member with before | fresh
    · exact traced.known pulled before
    · rw [own pulled fresh]
      exact (List.getElem?_eq_some_iff.mp at_place).1
  · intro index now source stands started
    rw [scans] at stands
    rw [pulledBy, List.filter_append, List.map_append, List.append_assoc]
    rcases set_cases at_place stands with ⟨rfl, rfl⟩ | ⟨elsewhere, before⟩
    · have all : (world.pulls action).filter (fun pulled => pulled.scan = place) = world.pulls action :=
        List.filter_eq_self.mpr (fun pulled member => by simp [own pulled member])
      rw [all, rows]
      exact traced.rows place scan source at_place started
    · have nothing : (world.pulls action).filter (fun pulled => pulled.scan = index) = [] :=
        List.filter_eq_nil_iff.mpr (fun pulled member => by simp [own pulled member, elsewhere])
      rw [nothing]
      exact traced.rows index now source before started

theorem traced_aside (traced : Traced world past begun) (scans : later.scans = world.scans)
    (unstarted : source? action = none) (pulls : world.pulls action = []) :
    Traced later (past ++ world.pulls action) (begun ++ (source? action).toList) := by
  rw [unstarted, pulls, Option.toList_none, List.append_nil, List.append_nil]
  exact ⟨scans ▸ traced.length, scans ▸ traced.known, scans ▸ traced.rows⟩

theorem traced_start (traced : Traced world past begun) (fresh : Scan T)
    (scans : later.scans = world.scans ++ [fresh]) : Traced later past (begun ++ [fresh.source]) := by
  have length : later.scans.length = world.scans.length + 1 := by rw [scans, List.length_append, List.length_singleton]
  refine ⟨?_, ?_, ?_⟩
  · rw [length, List.length_append, List.length_singleton, traced.length]
  · intro pulled member
    rw [length]
    exact Nat.lt_succ_of_lt (traced.known pulled member)
  · intro index now source stands started
    rw [scans, List.getElem?_append] at stands
    rw [List.getElem?_append, traced.length] at started
    split at stands
    · rename_i before
      rw [if_pos before] at started
      exact traced.rows index now source stands started
    · rename_i beyond
      rw [if_neg beyond] at started
      obtain rfl := List.mem_singleton.mp (List.mem_of_getElem? stands)
      obtain rfl := List.mem_singleton.mp (List.mem_of_getElem? started)
      have nothing : pulledBy index past = [] := by
        refine List.filter_eq_nil_iff.mpr (fun pulled member => ?_)
        have known := traced.known pulled member
        simp only [decide_eq_true_eq]
        omega
      rw [nothing]
      rfl

theorem rows_turn {label : Nat → Act T} {lookup after : BatchLookup} {scan fresh : Scan T}
    (turn : scan.Turn label lookup after fresh) (place : Nat) :
    fresh.source.rows = scan.source.rows ∧ source? (label place) = none := by
  cases turn with
  | enter free idle uncounted => exact ⟨congrArg Source.rows (Scan.source_begin scan), rfl⟩
  | resume free idle counted => exact ⟨congrArg Source.rows (Scan.source_begin scan), rfl⟩
  | reach scanning rowless said => exact ⟨rowless.symm, rfl⟩
  | exhaust scanning rowless unsaid => exact ⟨rowless.symm, rfl⟩
  | _ => exact ⟨rfl, rfl⟩

theorem traced_row {place : Nat} {scan fresh : Scan T} {row : Row} {rest : Source} (traced : Traced world past begun)
    (at_place : world.scans[place]? = some scan) (scanning : scan.phase = .scanning)
    (next : scan.source = some row :: rest) (scans : later.scans = world.scans.set place fresh)
    (left : fresh.source = rest) :
    Traced later (past ++ world.pulls (.advance place)) (begun ++ (source? (.advance place : Act T)).toList) := by
  have pulls := pulls_row at_place scanning next
  refine traced_set traced at_place scans rfl ?_ ?_
  · intro pulled member
    rw [pulls] at member
    rw [List.mem_singleton.mp member]
    rfl
  · rw [pulls, left, next]
    rfl

theorem traced_busy {place : Nat} {scan fresh : Scan T} (traced : Traced world past begun)
    (at_place : world.scans[place]? = some scan) (busy : scan.phase ≠ .scanning)
    (scans : later.scans = world.scans.set place fresh) (left : fresh.source = scan.source) :
    Traced later (past ++ world.pulls (.advance place)) (begun ++ (source? (.advance place : Act T)).toList) := by
  have nothing := pulls_busy at_place busy
  refine traced_set traced at_place scans rfl ?_ ?_
  · rw [nothing]
    simp
  · rw [nothing, left]
    rfl

theorem traced_move (traced : Traced world past begun) (move : Move action world later) :
    Traced later (past ++ world.pulls action) (begun ++ (source? action).toList) := by
  cases move with
  | turn at_place turn =>
      have nothing := pulls_turn at_place turn
      obtain ⟨rows, unstarted⟩ := rows_turn turn _
      refine traced_set traced at_place rfl unstarted ?_ ?_
      · rw [nothing]
        simp
      · rw [nothing]
        exact rows
  | skip events at_place scanning next phases undeferred worthless =>
      exact traced_row traced at_place scanning next rfl rfl
  | own at_place scanning next verdict decoded => exact traced_row traced at_place scanning next rfl rfl
  | defer at_place scanning next verdict => exact traced_row traced at_place scanning next rfl rfl
  | caught at_place deferring known decoded =>
      exact traced_busy traced at_place (by rw [deferring]; simp) rfl rfl
  | missed events at_place deferring known phases worthless =>
      exact traced_busy traced at_place (by rw [deferring]; simp) rfl rfl
  | spawn at_place deferring => exact traced_busy traced at_place (by rw [deferring]; simp) rfl rfl
  | finished events at_place receiving empty closed =>
      exact traced_busy traced at_place (by rw [receiving]; simp) rfl rfl
  | start store filters source capacity =>
      have nothing : past ++ world.pulls (.start store filters source capacity) = past := List.append_nil past
      rw [nothing]
      exact traced_start traced (Scan.start store filters source capacity) rfl
  | send at_task owner sending free room => exact traced_set traced owner rfl rfl (List.forall_mem_nil _) rfl
  | finish at_task owner ending => exact traced_set traced owner rfl rfl (List.forall_mem_nil _) rfl
  | _ => exact traced_aside traced rfl rfl rfl

theorem recorded_run {motive : World T → List (Pulled T) → List Source → Prop}
    (kept : ∀ world later action past begun, world.Sound → motive world past begun → Move action world later →
      motive later (past ++ world.pulls action) (begun ++ (source? action).toList))
    {acts : List (Act T)} {last : World T} (sound : world.Sound) (start : motive world past begun)
    (ran : world.run acts = some last) : motive last (past ++ world.history acts) (begun ++ sources acts) := by
  induction acts generalizing world past begun with
  | nil =>
      cases ran
      simpa only [history, sources, List.filterMap_nil, List.append_nil] using start
  | cons action rest step =>
      obtain ⟨between, taken, ran⟩ := Option.bind_eq_some_iff.mp ((run_cons world action rest).symm.trans ran)
      have next := step (sound_act sound taken) (kept world between action past begun sound start (move_of_act taken)) ran
      have begins : sources (action :: rest) = (source? action).toList ++ sources rest := by
        cases here : source? action with
        | none => exact List.filterMap_cons_none here
        | some source => exact List.filterMap_cons_some here
      rw [begins]
      simpa only [history, taken, List.append_assoc] using next

theorem accounts_run {stores : List (Adapters T)} {size : Nat} {params : Option Params} {acts : List (Act T)}
    (ran : (fresh stores size params).run acts = some world) :
    (∀ index, ∃ settled lost, Accounts world ((fresh stores size params).history acts) index settled lost)
      ∧ Traced world ((fresh stores size params).history acts) (sources acts) := by
  have start : (∀ index, ∃ settled lost, Accounts (fresh stores size params) [] index settled lost)
      ∧ Traced (fresh stores size params) [] [] :=
    ⟨fun index => ⟨[], [], ⟨.refl _, (by simp), .refl _, absurd rfl⟩⟩, ⟨rfl, (by simp), by simp⟩⟩
  refine recorded_run (motive := fun world past begun =>
    (∀ index, ∃ settled lost, Accounts world past index settled lost) ∧ Traced world past begun) ?_
    (sound_fresh stores size params) start ran
  intro world later action past begun sound ⟨accounts, traced⟩ move
  refine ⟨fun index => ?_, traced_move traced move⟩
  obtain ⟨settled, lost, accounts⟩ := accounts index
  exact accounts_move sound accounts move

theorem emitted_of_accounts (accounts : Accounts world past index settled lost) {scan : Scan T}
    (at_place : world.scans[index]? = some scan) :
    ∃ rest, (scan.emitted ++ rest).Perm ((pulledBy index past).filterMap (Pulled.value? world.lookup.answer?)) := by
  have due := accounts.rows.filterMap (Pulled.value? world.lookup.answer?)
  rw [List.filterMap_append] at due
  have shared := (accounts.values.append_right _).symm.trans due.symm
  rw [part_at at_place, Scan.held] at shared
  simp only [List.append_assoc] at shared
  exact ⟨_, shared⟩

theorem awaited_of_finished (sound : world.Sound) {scan : Scan T} (at_place : world.scans[index]? = some scan)
    (finished : scan.finished = true) : world.awaited index = [] := by
  obtain ⟨_, idle, _⟩ := (held_sound sound at_place).stopped finished
  have unasked : scan.asking index = [] := Scan.asking_of_phase (by rw [idle]; simp) index
  rw [World.awaited, part_at at_place, unasked, List.nil_append]
  refine List.filterMap_eq_nil_iff.mpr (fun task member => ?_)
  unfold Task.awaited?
  split
  · rename_i waiting
    refine if_neg (fun owner => ?_)
    have ended := sound.ended task member scan (owner ▸ at_place) finished
    rw [Task.isLive, waiting] at ended
    cases ended
  · rfl

theorem emitted_of_finished (sound : world.Sound) (accounts : Accounts world past index settled lost) {scan : Scan T}
    (at_place : world.scans[index]? = some scan) (finished : scan.finished = true) :
    (∀ pulled ∈ pulledBy index past, pulled.Answered world.lookup)
      ∧ scan.emitted.Perm ((pulledBy index past).filterMap (Pulled.value? world.lookup.answer?)) := by
  have dead (task : Task T) (member : task ∈ world.tasks) (owner : task.scan = index) : task.isLive = false :=
    sound.ended task member scan (owner ▸ at_place) finished
  obtain ⟨_, _, empty, nothing, _⟩ := (held_sound sound at_place).stopped finished
  have awaited := awaited_of_finished sound at_place finished
  have carried : world.carried index = [] := by
    refine List.filterMap_eq_nil_iff.mpr (fun task member => ?_)
    unfold Task.carried?
    split
    · rename_i value sending
      refine if_neg (fun owner => ?_)
      have ended := dead task member owner
      rw [Task.isLive, sending] at ended
      cases ended
    · rfl
  have nothing_lost : lost = [] := by
    apply Classical.byContradiction
    intro some_lost
    obtain ⟨same, found, _, unfinished⟩ := accounts.kept some_lost
    cases at_place.symm.trans found
    exact Bool.false_ne_true (unfinished.symm.trans finished)
  have rows := accounts.rows
  have values := accounts.values
  rw [awaited, List.append_nil] at rows
  rw [carried, nothing_lost, part_at at_place, Scan.held, nothing, empty] at values
  simp only [Option.toList_none, List.append_nil] at values
  refine ⟨?_, values.symm.trans (rows.symm.filterMap _)⟩
  intro pulled member
  exact accounts.told pulled (rows.mem_iff.mp member)

-- At any time a scan has pulled a first part of the rows of its source, and what it has handed out belongs to these
-- rows, each value to a row of its own. At its end it has pulled all of them, and what it has handed out is just what
-- the rows are worth.
theorem exactly_once {stores : List (Adapters T)} {size : Nat} {params : Option Params} {acts : List (Act T)}
    (ran : (fresh stores size params).run acts = some world) {scan : Scan T}
    (at_place : world.scans[index]? = some scan) :
    ∃ source, (sources acts)[index]? = some source
      ∧ (∃ left, (pulledBy index ((fresh stores size params).history acts)).map Pulled.row ++ left = source.rows)
      ∧ (∃ rest, (scan.emitted ++ rest).Perm
        ((pulledBy index ((fresh stores size params).history acts)).filterMap (Pulled.value? world.lookup.answer?)))
      ∧ (scan.finished = true →
        (pulledBy index ((fresh stores size params).history acts)).map Pulled.row = source.rows
        ∧ (∀ pulled ∈ pulledBy index ((fresh stores size params).history acts), pulled.Answered world.lookup)
        ∧ scan.emitted.Perm
          ((pulledBy index ((fresh stores size params).history acts)).filterMap
            (Pulled.value? world.lookup.answer?))) := by
  have sound : world.Sound := sound_run (sound_fresh stores size params) ran
  obtain ⟨all_accounts, traced⟩ := accounts_run ran
  obtain ⟨settled, lost, accounts⟩ := all_accounts index
  obtain ⟨bound, _⟩ := List.getElem?_eq_some_iff.mp at_place
  have started : (sources acts)[index]? = some _ := List.getElem?_eq_getElem (traced.length.symm ▸ bound)
  have rows := traced.rows index scan _ at_place started
  refine ⟨_, started, ⟨_, rows⟩, emitted_of_accounts accounts at_place, fun finished => ?_⟩
  obtain ⟨answered, emitted⟩ := emitted_of_finished sound accounts at_place finished
  obtain ⟨_, _, _, _, stopped⟩ := (held_sound sound at_place).stopped finished
  rw [stopped] at rows
  exact ⟨(List.append_nil _).symm.trans rows, answered, emitted⟩

def twoRows : List (Act Nat) :=
  [.start 0 [] [some (.thin [] [] [1] 7), some (.full [2] 7 [⟨[], [], []⟩])] 1, .pull 0, .advance 0, .advance 0, .advance 0,
    .take 0, .pull 0, .advance 0, .advance 0, .flushNext 0 7, .advance 0, .complete 0 (.results [some [⟨[], [], []⟩, ⟨[], [], []⟩]]),
    .reply 0, .wake 0, .send 0, .advance 0, .take 0, .finish 0, .finish 0, .pull 0, .advance 0, .advance 0]

theorem exactly_once_of_two :
    ∃ (world : World Nat) (scan : Scan Nat), (fresh [Adapters.ofList [counting]] 2 none).run twoRows = some world
      ∧ world.scans[0]? = some scan ∧ scan.finished = true ∧ scan.emitted = [1, 2]
      ∧ (pulledBy 0 ((fresh [Adapters.ofList [counting]] 2 none).history twoRows)).map Pulled.row
        = [.thin [] [] [1] 7, .full [2] 7 [⟨[], [], []⟩]]
      ∧ scan.emitted.Perm ((pulledBy 0 ((fresh [Adapters.ofList [counting]] 2 none).history twoRows)).filterMap
        (Pulled.value? world.lookup.answer?)) := by
  obtain ⟨source, started, _, _, ended⟩ :=
    @exactly_once Nat _ 0 [Adapters.ofList [counting]] 2 none twoRows rfl _ rfl
  cases started
  obtain ⟨rows, _, emitted⟩ := ended rfl
  exact ⟨_, _, rfl, rfl, rfl, rfl, rows, emitted⟩

end World

end ThinScan
