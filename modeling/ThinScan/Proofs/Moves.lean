import ThinScan.World

set_option autoImplicit false

namespace ThinScan

variable {T : Type}

namespace Source

def rows : Source → List Row
  | some row :: rest => row :: rows rest
  | _ => []

theorem rows_of_none {source : Source} (ended : ∀ row rest, source = some row :: rest → False) : source.rows = [] := by
  unfold rows
  split
  · rename_i row rest
    exact (ended row rest rfl).elim
  · rfl

theorem rows_of_list (rows : List Row) : Source.rows (rows.map some) = rows := by
  induction rows with
  | nil => rfl
  | cons row rest step => rw [List.map_cons, Source.rows, step]

end Source

namespace Adapter

def decoded? (adapter : Adapter T) (row : Row) (values : Values) : Option T :=
  match adapter.decode row values with
  | .value value => some value
  | _ => none

end Adapter

namespace Outcome

def value? : Outcome T → Option T
  | value decoded => some decoded
  | _ => none

theorem value_ofValues (adapter : Adapter T) (row : Row) (values : Values) :
    (ofValues adapter row values).value? = adapter.decoded? row values := by
  rw [ofValues, Adapter.decoded?]
  cases adapter.decode row values <;> rfl

theorem value_ofLookup (adapter : Adapter T) (row : Row) (found : Option Values) :
    (ofLookup adapter row found).value? = found.bind (adapter.decoded? row) := by
  cases found with
  | none => rfl
  | some values => exact value_ofValues adapter row values

end Outcome

namespace Pulled

def value? (answer? : RequestId → Option Values) (pulled : Pulled T) : Option T :=
  match pulled.verdict with
  | .own adapter => adapter.decoded? pulled.row pulled.row.values
  | .deferred adapter request => (answer? request).bind (adapter.decoded? pulled.row)
  | _ => none

end Pulled

namespace Scan

theorem begin_cases (scan : Scan T) :
    ((scan.lookahead.isSome = true ∨ scan.finished = true) ∧ scan.begin = { scan with initiated := true })
      ∨ (scan.lookahead = none ∧ scan.finished = false ∧ ∃ value rest, scan.queue = value :: rest
        ∧ scan.begin = { scan with initiated := true, lookahead := some value, queue := rest })
      ∨ (scan.lookahead = none ∧ scan.finished = false ∧ scan.queue = []
        ∧ scan.begin = { scan with initiated := true, phase := .scanning }) := by
  unfold begin
  dsimp only
  split
  · rename_i ready
    exact .inl ⟨by simpa using ready, rfl⟩
  · rename_i unready
    simp only [Bool.or_eq_true, not_or, Bool.not_eq_true, Option.isSome_eq_false_iff, Option.isNone_iff_eq_none]
      at unready
    split
    · rename_i value rest queued
      exact .inr (.inl ⟨unready.1, unready.2, value, rest, queued, rfl⟩)
    · rename_i empty
      exact .inr (.inr ⟨unready.1, unready.2, empty, rfl⟩)

@[simp] theorem initiated_begin (scan : Scan T) : scan.begin.initiated = true := by
  rcases begin_cases scan with ⟨_, same⟩ | ⟨_, _, _, _, _, next⟩ | ⟨_, _, _, turned⟩ <;> simp only [*]

@[simp] theorem exhausted_begin (scan : Scan T) : scan.begin.exhausted = scan.exhausted := by
  rcases begin_cases scan with ⟨_, same⟩ | ⟨_, _, _, _, _, next⟩ | ⟨_, _, _, turned⟩ <;> simp only [*]

@[simp] theorem finished_begin (scan : Scan T) : scan.begin.finished = scan.finished := by
  rcases begin_cases scan with ⟨_, same⟩ | ⟨_, _, _, _, _, next⟩ | ⟨_, _, _, turned⟩ <;> simp only [*]

@[simp] theorem dropped_begin (scan : Scan T) : scan.begin.dropped = scan.dropped := by
  rcases begin_cases scan with ⟨_, same⟩ | ⟨_, _, _, _, _, next⟩ | ⟨_, _, _, turned⟩ <;> simp only [*]

@[simp] theorem source_begin (scan : Scan T) : scan.begin.source = scan.source := by
  rcases begin_cases scan with ⟨_, same⟩ | ⟨_, _, _, _, _, next⟩ | ⟨_, _, _, turned⟩ <;> simp only [*]

theorem free_of_isFree {scan : Scan T} (free : (!scan.isFree) = false) : scan.dropped = false ∧ scan.phase = .idle := by
  simp only [isFree, Bool.not_eq_false', Bool.and_eq_true, Bool.not_eq_true'] at free
  refine ⟨free.1, ?_⟩
  cases phase : scan.phase with
  | idle => rfl
  | _ =>
      rw [phase] at free
      cases free.2

theorem decoded_cases (scan : Scan T) (outcome : Outcome T) :
    (∃ value, outcome = .value value ∧ scan.decoded outcome = { scan with lookahead := some value, phase := .idle })
      ∨ (outcome.value? = none ∧ ∃ phase : Phase T, (phase = .scanning ∨ phase = .idle)
        ∧ scan.decoded outcome = { scan with phase := phase }) := by
  cases outcome with
  | value value => exact .inl ⟨value, rfl, rfl⟩
  | crashed => exact .inr ⟨rfl, .idle, .inr rfl, rfl⟩
  | refused => exact .inr ⟨rfl, .scanning, .inl rfl, rfl⟩
  | lost event => exact .inr ⟨rfl, .scanning, .inl rfl, rfl⟩

inductive Turn : (Nat → Act T) → BatchLookup → Scan T → BatchLookup → Scan T → Prop
  | enter {lookup : BatchLookup} {scan : Scan T} (free : scan.dropped = false) (idle : scan.phase = .idle)
      (uncounted : scan.initiated = false) : Turn .pull lookup scan lookup.initiate scan.begin
  | resume {lookup : BatchLookup} {scan : Scan T} (free : scan.dropped = false) (idle : scan.phase = .idle)
      (counted : scan.initiated = true) : Turn .pull lookup scan lookup scan.begin
  | reach {lookup : BatchLookup} {scan : Scan T} (scanning : scan.phase = .scanning) (rowless : scan.source.rows = [])
      (said : scan.exhausted = true) :
      Turn .advance lookup scan lookup { scan with source := [], phase := .receiving }
  | exhaust {lookup : BatchLookup} {scan : Scan T} (scanning : scan.phase = .scanning) (rowless : scan.source.rows = [])
      (unsaid : scan.exhausted = false) :
      Turn .advance lookup scan lookup.retire.2
        { scan with source := [], exhausted := true, phase := if lookup.retire.1 then .flushing none else .receiving }
  | list {lookup : BatchLookup} {scan : Scan T} {stage : Flush → Phase T} (flush : stage = .flushing ∨ stage = .closing)
      (unlisted : scan.phase = stage none) :
      Turn .advance lookup scan lookup { scan with phase := stage (some lookup.pending.keys) }
  | flush {lookup : BatchLookup} {scan : Scan T} {stage : Flush → Phase T} {adapter : AdapterId} {left : List AdapterId}
      (flush : stage = .flushing ∨ stage = .closing) (listed : scan.phase = stage (some left)) (member : adapter ∈ left) :
      Turn (.flushNext · adapter) lookup scan (lookup.flushAdapter adapter)
        { scan with phase := stage (some (left.erase adapter)) }
  | await {lookup : BatchLookup} {scan : Scan T} (through : scan.phase = .flushing (some [])) :
      Turn .advance lookup scan lookup { scan with phase := .receiving }
  | close {lookup : BatchLookup} {scan : Scan T} (through : scan.phase = .closing (some [])) :
      Turn .advance lookup scan lookup scan.closed
  | receive {lookup : BatchLookup} {scan : Scan T} {value : T} {rest : List T} (receiving : scan.phase = .receiving)
      (queued : scan.queue = value :: rest) :
      Turn .advance lookup scan lookup { scan with lookahead := some value, queue := rest, phase := .idle }
  | take {lookup : BatchLookup} {scan : Scan T} {value : T} (free : scan.dropped = false) (idle : scan.phase = .idle)
      (ready : scan.lookahead = some value) :
      Turn .take lookup scan lookup { scan with lookahead := none, emitted := scan.emitted ++ [value] }
  | leave {lookup : BatchLookup} {scan : Scan T} (free : scan.dropped = false) (idle : scan.phase = .idle)
      (settled : scan.initiated = true → scan.exhausted = true) : Turn .drop lookup scan lookup scan.closed
  | abandon {lookup : BatchLookup} {scan : Scan T} (free : scan.dropped = false) (idle : scan.phase = .idle)
      (counted : scan.initiated = true) (unsaid : scan.exhausted = false) (others : lookup.retire.1 = false) :
      Turn .drop lookup scan lookup.retire.2 { scan with exhausted := true }.closed
  | abandonLast {lookup : BatchLookup} {scan : Scan T} (free : scan.dropped = false) (idle : scan.phase = .idle)
      (counted : scan.initiated = true) (unsaid : scan.exhausted = false) (last : lookup.retire.1 = true) :
      Turn .drop lookup scan lookup.retire.2 { scan with exhausted := true, phase := .closing none }

end Scan

namespace World

variable {world later : World T}

def verdict (world : World T) (scan : Scan T) (row : Row) : Verdict T :=
  match (world.decoder scan).admission row with
  | .refused => .refused
  | .unknown => .unknown
  | .granted adapter =>
      if row.needsLookup then .deferred adapter (world.lookup.request row.adapter row.dataId).1 else .own adapter

def pulling (world : World T) (index : Nat) (scan : Scan T) (row : Row) : Pulled T :=
  ⟨index, row, world.verdict scan row⟩

def note (world : World T) (pulled : Pulled T) : World T := { world with pulled := pulled :: world.pulled }

inductive Move : Act T → World T → World T → Prop
  | register {world : World T} (store : Nat) (adapter : Adapter T) :
      Move (.register store adapter) world (world.setStore store ((world.store store).register adapter))
  | unregister {world : World T} (store : Nat) (adapter : AdapterId) :
      Move (.unregister store adapter) world (world.setStore store ((world.store store).erase adapter))
  | start {world : World T} (store : Nat) (filters : List Filter) (source : Source) (capacity : Nat) :
      Move (.start store filters source capacity) world
        { world with scans := world.scans ++ [Scan.start store filters source capacity] }
  | turn {world : World T} {label : Nat → Act T} {index : Nat} {scan fresh : Scan T} {lookup : BatchLookup}
      (held : world.scans[index]? = some scan) (turn : scan.Turn label world.lookup lookup fresh) :
      Move (label index) world ((world.withLookup lookup).setScan index fresh)
  -- A row that is worth nothing. If its decoder crashed, the pull is over.
  | skip {world : World T} {index : Nat} {scan : Scan T} {row : Row} {rest : Source} {phase : Phase T}
      (events : List Event) (held : world.scans[index]? = some scan) (scanning : scan.phase = .scanning)
      (next : scan.source = some row :: rest) (phases : phase = .scanning ∨ phase = .idle)
      (undeferred : ∀ adapter request, world.verdict scan row ≠ .deferred adapter request)
      (worthless : ∀ answer?, (world.pulling index scan row).value? answer? = none) :
      Move (.advance index) world
        (((world.note (world.pulling index scan row)).setScan index { scan with source := rest, phase := phase }).report
          events)
  | own {world : World T} {index : Nat} {scan : Scan T} {row : Row} {rest : Source} {adapter : Adapter T} {value : T}
      (held : world.scans[index]? = some scan) (scanning : scan.phase = .scanning)
      (next : scan.source = some row :: rest) (verdict : world.verdict scan row = .own adapter)
      (decoded : adapter.decoded? row row.values = some value) :
      Move (.advance index) world
        ((world.note (world.pulling index scan row)).setScan index
          { scan with source := rest, lookahead := some value, phase := .idle })
  | defer {world : World T} {index : Nat} {scan : Scan T} {row : Row} {rest : Source} {adapter : Adapter T}
      (held : world.scans[index]? = some scan) (scanning : scan.phase = .scanning)
      (next : scan.source = some row :: rest)
      (verdict : world.verdict scan row = .deferred adapter (world.lookup.request row.adapter row.dataId).1) :
      Move (.advance index) world
        (((world.note (world.pulling index scan row)).withLookup (world.lookup.request row.adapter row.dataId).2).setScan
          index
          { scan with
            source := rest
            phase := .deferring row adapter (world.lookup.request row.adapter row.dataId).1 })
  | caught {world : World T} {index : Nat} {scan : Scan T} {row : Row} {adapter : Adapter T} {request : RequestId}
      {found : Option Values} {lookup : BatchLookup} {value : T} (held : world.scans[index]? = some scan)
      (deferring : scan.phase = .deferring row adapter request)
      (settled : world.lookup.look request = some (found, lookup))
      (decoded : found.bind (adapter.decoded? row) = some value) :
      Move (.advance index) world
        ((world.withLookup lookup).setScan index { scan with lookahead := some value, phase := .idle })
  -- A row whose values were there at once, and that is worth nothing.
  | missed {world : World T} {index : Nat} {scan : Scan T} {row : Row} {adapter : Adapter T} {request : RequestId}
      {found : Option Values} {lookup : BatchLookup} {phase : Phase T} (events : List Event)
      (held : world.scans[index]? = some scan) (deferring : scan.phase = .deferring row adapter request)
      (settled : world.lookup.look request = some (found, lookup)) (phases : phase = .scanning ∨ phase = .idle)
      (worthless : found.bind (adapter.decoded? row) = none) :
      Move (.advance index) world
        (((world.withLookup lookup).setScan index { scan with phase := phase }).report events)
  | spawn {world : World T} {index : Nat} {scan : Scan T} {row : Row} {adapter : Adapter T} {request : RequestId}
      (held : world.scans[index]? = some scan) (deferring : scan.phase = .deferring row adapter request) :
      Move (.advance index) world
        { world.setScan index { scan with outstanding := scan.outstanding + 1, phase := .scanning } with
          tasks := world.tasks ++ [⟨index, row, adapter, request, .waiting⟩] }
  | finished {world : World T} {index : Nat} {scan : Scan T} (events : List Event)
      (held : world.scans[index]? = some scan) (receiving : scan.phase = .receiving) (empty : scan.queue = [])
      (closed : world.queueClosed index scan = true) :
      Move (.advance index) world ((world.setScan index { scan with finished := true, phase := .idle }).report events)
  | flush {world : World T} (adapter : AdapterId) :
      Move (.flushAdapter adapter) world (world.withLookup (world.lookup.flushAdapter adapter))
  | complete {world : World T} {index : Nat} {fetched : Fetched} {lookup : BatchLookup}
      (taken : world.lookup.complete index fetched = some lookup) :
      Move (.complete index fetched) world (world.withLookup lookup)
  | reply {world : World T} {index : Nat} {lookup : BatchLookup} (taken : world.lookup.reply index = some lookup) :
      Move (.reply index) world (world.withLookup lookup)
  | wake {world : World T} {index : Nat} {task : Task T} {found : Option Values} {lookup : BatchLookup}
      (events : List Event) (held : world.tasks[index]? = some task) (waiting : task.stage = .waiting)
      (settled : world.lookup.look task.request = some (found, lookup)) :
      Move (.wake index) world
        (((world.withLookup lookup).moveTask index
          [{ task with stage := .ofOutcome (Outcome.ofLookup task.adapter task.row found) }]).report events)
  | send {world : World T} {index : Nat} {task : Task T} {scan : Scan T} {value : T}
      (held : world.tasks[index]? = some task) (owner : world.scans[task.scan]? = some scan)
      (sending : task.stage = .sending value) (free : scan.dropped = false) (room : scan.hasRoom = true) :
      Move (.send index) world
        ((world.moveTask index [{ task with stage := .ending }]).setScan task.scan
          { scan with queue := scan.queue ++ [value] })
  | discard {world : World T} {index : Nat} {task : Task T} {scan : Scan T} {value : T} (events : List Event)
      (held : world.tasks[index]? = some task) (owner : world.scans[task.scan]? = some scan)
      (sending : task.stage = .sending value) (dropped : scan.dropped = true) :
      Move (.send index) world ((world.moveTask index [{ task with stage := .ending }]).report events)
  | finish {world : World T} {index : Nat} {task : Task T} {scan : Scan T} (held : world.tasks[index]? = some task)
      (owner : world.scans[task.scan]? = some scan) (ending : task.stage = .ending) :
      Move (.finish index) world
        ((world.moveTask index [{ task with stage := .leaving }]).setScan task.scan
          { scan with outstanding := scan.outstanding - 1 })
  | leave {world : World T} {index : Nat} {task : Task T} (held : world.tasks[index]? = some task)
      (leaving : task.stage = .leaving) : Move (.finish index) world (world.moveTask index [])

theorem move_of_pull {index : Nat} (taken : world.pull index = some later) : Move (.pull index) world later := by
  simp only [pull, Option.bind_eq_bind, Option.bind_eq_some_iff] at taken
  obtain ⟨scan, held, taken⟩ := taken
  split at taken
  · cases taken
  · rename_i ready
    obtain ⟨free, idle⟩ := Scan.free_of_isFree (Bool.eq_false_iff.mpr ready)
    cases taken
    by_cases counted : scan.initiated = true
    · rw [if_pos counted]
      exact .turn held (.resume free idle counted)
    · rw [if_neg counted]
      exact .turn held (.enter free idle (by simpa using counted))

theorem move_of_row {index : Nat} {scan : Scan T} {row : Row} {rest : Source}
    (held : world.scans[index]? = some scan) (scanning : scan.phase = .scanning) (next : scan.source = some row :: rest) :
    Move (.advance index) world (world.pullRow index scan row rest) := by
  have stays : { scan with source := rest } = { scan with source := rest, phase := .scanning } := by rw [← scanning]
  unfold pullRow
  dsimp only
  split
  · rename_i refused
    have verdict : world.verdict scan row = .refused := by rw [World.verdict, refused]
    have skipped := Move.skip [] held scanning next (.inl rfl) (by simp [verdict]) (by simp [pulling, Pulled.value?, verdict])
    rw [pulling, verdict, ← stays] at skipped
    exact skipped
  · rename_i unknown
    have verdict : world.verdict scan row = .unknown := by rw [World.verdict, unknown]
    have skipped := Move.skip [.adapterMissing row.dataId row.adapter] held scanning next (.inl rfl) (by simp [verdict])
      (by simp [pulling, Pulled.value?, verdict])
    rw [pulling, verdict, ← stays] at skipped
    exact skipped
  · rename_i adapter granted
    split
    · rename_i thin
      have verdict : world.verdict scan row
          = .deferred adapter (world.lookup.request row.adapter row.dataId).1 := by
        rw [World.verdict, granted]
        exact if_pos thin
      have deferred := Move.defer held scanning next verdict
      rw [pulling, verdict] at deferred
      exact deferred
    · rename_i full
      have verdict : world.verdict scan row = .own adapter := by
        rw [World.verdict, granted]
        exact if_neg full
      have undeferred : ∀ other request, world.verdict scan row ≠ .deferred other request := by simp [verdict]
      have worth := Outcome.value_ofValues adapter row row.values
      rcases Scan.decoded_cases { scan with source := rest } (Outcome.ofValues adapter row row.values) with
        ⟨value, outcome, ready⟩ | ⟨nothing, phase, phases, turned⟩
      · have own := Move.own held scanning next verdict (worth.symm.trans (congrArg Outcome.value? outcome))
        rw [pulling, verdict] at own
        rw [ready, outcome]
        exact own
      · have worthless (answer? : RequestId → Option Values) : (world.pulling index scan row).value? answer? = none := by
          rw [pulling, verdict]
          exact worth.symm.trans nothing
        have skipped := Move.skip (Outcome.ofValues adapter row row.values).events held scanning next phases undeferred
          worthless
        rw [pulling, verdict] at skipped
        rw [turned]
        exact skipped

theorem move_of_defer {index : Nat} {scan : Scan T} {row : Row} {adapter : Adapter T} {request : RequestId}
    (held : world.scans[index]? = some scan) (deferring : scan.phase = .deferring row adapter request) :
    Move (.advance index) world (world.deferRow index scan row adapter request) := by
  unfold deferRow
  split
  · rename_i found looked settled
    dsimp only
    have worth := Outcome.value_ofLookup adapter row found
    rcases Scan.decoded_cases scan (Outcome.ofLookup adapter row found) with
      ⟨value, outcome, ready⟩ | ⟨nothing, phase, phases, turned⟩
    · have caught := Move.caught held deferring settled (worth.symm.trans (congrArg Outcome.value? outcome))
      rw [ready, outcome]
      exact caught
    · have missed := Move.missed (Outcome.ofLookup adapter row found).events held deferring settled phases
        (worth.symm.trans nothing)
      rw [turned]
      exact missed
  · exact .spawn held deferring

theorem move_of_advance {index : Nat} (taken : world.advance index = some later) :
    Move (.advance index) world later := by
  simp only [advance, Option.bind_eq_bind, Option.bind_eq_some_iff] at taken
  obtain ⟨scan, held, taken⟩ := taken
  split at taken
  · cases taken
  · rename_i scanning
    split at taken
    · rename_i next
      cases taken
      exact move_of_row held scanning next
    · rename_i ended
      cases taken
      have rowless : scan.source.rows = [] := Source.rows_of_none (fun row rest next => ended row rest next)
      unfold exhaust
      split
      · rename_i said
        exact .turn held (.reach scanning rowless said)
      · rename_i unsaid
        exact .turn held (.exhaust scanning rowless (by simpa using unsaid))
  · rename_i deferring
    cases taken
    exact move_of_defer held deferring
  · rename_i phase
    cases taken
    exact .turn held (.list (.inl rfl) phase)
  · rename_i phase
    cases taken
    exact .turn held (.await phase)
  · cases taken
  · rename_i phase
    cases taken
    exact .turn held (.list (.inr rfl) phase)
  · rename_i phase
    cases taken
    exact .turn held (.close phase)
  · cases taken
  · rename_i receiving
    unfold receive at taken
    split at taken
    · rename_i queued
      cases taken
      exact .turn held (.receive receiving queued)
    · rename_i empty
      split at taken
      · rename_i closed
        cases taken
        exact .finished _ held receiving empty closed
      · cases taken

theorem move_of_flushNext {index : Nat} {adapter : AdapterId} (taken : world.flushNext index adapter = some later) :
    Move (.flushNext index adapter) world later := by
  simp only [flushNext, Option.bind_eq_bind, Option.bind_eq_some_iff] at taken
  obtain ⟨scan, held, taken⟩ := taken
  split at taken
  · rename_i phase
    split at taken
    · rename_i member
      cases taken
      exact .turn held (.flush (.inl rfl) phase member)
    · cases taken
  · rename_i phase
    split at taken
    · rename_i member
      cases taken
      exact .turn held (.flush (.inr rfl) phase member)
    · cases taken
  · cases taken

theorem move_of_take {index : Nat} (taken : world.take index = some later) : Move (.take index) world later := by
  simp only [take, Option.bind_eq_bind, Option.bind_eq_some_iff] at taken
  obtain ⟨scan, held, taken⟩ := taken
  split at taken
  · cases taken
  · rename_i ready
    obtain ⟨free, idle⟩ := Scan.free_of_isFree (Bool.eq_false_iff.mpr ready)
    obtain ⟨value, standing, taken⟩ := Option.bind_eq_some_iff.mp taken
    cases taken
    exact .turn held (.take free idle standing)

theorem move_of_drop {index : Nat} (taken : world.drop index = some later) : Move (.drop index) world later := by
  simp only [drop, Option.bind_eq_bind, Option.bind_eq_some_iff] at taken
  obtain ⟨scan, held, taken⟩ := taken
  split at taken
  · cases taken
  · rename_i ready
    obtain ⟨free, idle⟩ := Scan.free_of_isFree (Bool.eq_false_iff.mpr ready)
    split at taken
    · rename_i owing
      simp only [Bool.and_eq_true, Bool.not_eq_true'] at owing
      cases taken
      by_cases last : world.lookup.retire.1 = true
      · rw [if_pos last]
        exact .turn held (.abandonLast free idle owing.1 owing.2 last)
      · rw [if_neg last]
        exact .turn held (.abandon free idle owing.1 owing.2 (by simpa using last))
    · rename_i settled
      cases taken
      exact .turn held (.leave free idle (by simpa using settled))

theorem move_of_wake {index : Nat} (taken : world.wake index = some later) : Move (.wake index) world later := by
  simp only [wake, Option.bind_eq_bind, Option.bind_eq_some_iff] at taken
  obtain ⟨task, held, taken⟩ := taken
  split at taken
  · rename_i waiting
    obtain ⟨⟨found, lookup⟩, settled, taken⟩ := Option.bind_eq_some_iff.mp taken
    cases taken
    exact .wake _ held waiting settled
  · cases taken

theorem move_of_send {index : Nat} (taken : world.send index = some later) : Move (.send index) world later := by
  simp only [send, Option.bind_eq_bind, Option.bind_eq_some_iff] at taken
  obtain ⟨task, held, scan, owner, taken⟩ := taken
  split at taken
  · rename_i sending
    split at taken
    · rename_i dropped
      cases taken
      exact .discard _ held owner sending dropped
    · rename_i free
      split at taken
      · rename_i room
        cases taken
        exact .send held owner sending (by simpa using free) room
      · cases taken
  · cases taken

theorem move_of_finish {index : Nat} (taken : world.finish index = some later) : Move (.finish index) world later := by
  simp only [finish, Option.bind_eq_bind, Option.bind_eq_some_iff] at taken
  obtain ⟨task, held, scan, owner, taken⟩ := taken
  split at taken
  · rename_i ending
    cases taken
    exact .finish held owner ending
  · rename_i leaving
    cases taken
    exact .leave held leaving
  · cases taken

theorem move_of_act {action : Act T} (taken : world.act action = some later) : Move action world later := by
  cases action with
  | register store adapter => cases taken; exact .register store adapter
  | unregister store adapter => cases taken; exact .unregister store adapter
  | start store filters source capacity => cases taken; exact .start store filters source capacity
  | pull index => exact move_of_pull taken
  | advance index => exact move_of_advance taken
  | flushNext index adapter => exact move_of_flushNext taken
  | flushAdapter adapter => cases taken; exact .flush adapter
  | take index => exact move_of_take taken
  | drop index => exact move_of_drop taken
  | complete index fetched =>
      obtain ⟨lookup, completed, rfl⟩ := Option.map_eq_some_iff.mp taken
      exact .complete completed
  | reply index =>
      obtain ⟨lookup, replied, rfl⟩ := Option.map_eq_some_iff.mp taken
      exact .reply replied
  | wake index => exact move_of_wake taken
  | send index => exact move_of_send taken
  | finish index => exact move_of_finish taken

theorem scans_of_move {action : Act T} (move : Move action world later) :
    later.scans = world.scans
      ∨ (∃ begun : Scan T, later.scans = world.scans ++ [begun] ∧ begun.initiated = false)
      ∨ ∃ (place : Nat) (scan fresh : Scan T), world.scans[place]? = some scan
        ∧ later.scans = world.scans.set place fresh := by
  cases move with
  | start store filters source capacity => exact .inr (.inl ⟨_, rfl, rfl⟩)
  | turn held turn => exact .inr (.inr ⟨_, _, _, held, rfl⟩)
  | skip events held scanning next phases undeferred worthless => exact .inr (.inr ⟨_, _, _, held, rfl⟩)
  | own held scanning next verdict decoded => exact .inr (.inr ⟨_, _, _, held, rfl⟩)
  | defer held scanning next verdict => exact .inr (.inr ⟨_, _, _, held, rfl⟩)
  | caught held deferring settled decoded => exact .inr (.inr ⟨_, _, _, held, rfl⟩)
  | missed events held deferring settled phases worthless => exact .inr (.inr ⟨_, _, _, held, rfl⟩)
  | spawn held deferring => exact .inr (.inr ⟨_, _, _, held, rfl⟩)
  | finished events held receiving empty closed => exact .inr (.inr ⟨_, _, _, held, rfl⟩)
  | send held owner sending free room => exact .inr (.inr ⟨_, _, _, owner, rfl⟩)
  | finish held owner ending => exact .inr (.inr ⟨_, _, _, owner, rfl⟩)
  | _ => exact .inl rfl

end World

end ThinScan
