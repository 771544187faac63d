import ThinScan.Work

/-!
One schedule among all: pulls and flushes go first, then tasks end, send and wake, then the next reply is handed out;
the fetches of batches end only when they are released.
-/

set_option autoImplicit false

namespace ThinScan

variable {T : Type}

namespace World

def scanAct (index : Nat) (scan : Scan T) : Act T :=
  match scan.phase with
  | .flushing (some (adapter :: _)) => .flushNext index adapter
  | .closing (some (adapter :: _)) => .flushNext index adapter
  | _ => .advance index

def agenda (world : World T) : List (Act T) :=
  world.scans.mapIdx scanAct
    ++ (List.range world.tasks.length).map .finish
    ++ (List.range world.tasks.length).map .send
    ++ (List.range world.tasks.length).map .wake
    ++ (List.range world.lookup.batches.length).map .reply

def Act.isBackground : Act T → Bool
  | .advance _ => true
  | .flushNext .. => true
  | .wake _ => true
  | .send _ => true
  | .finish _ => true
  | .reply _ => true
  | _ => false

theorem scanAct_isBackground (index : Nat) (scan : Scan T) :
    Act.isBackground (scanAct index scan) = true := by
  unfold scanAct
  split <;> rfl

theorem agenda_isBackground {world : World T} {step : Act T} (listed : step ∈ world.agenda) :
    Act.isBackground step = true := by
  simp only [agenda, List.mem_append, List.mem_mapIdx, List.mem_map] at listed
  rcases listed with (((⟨index, bound, rfl⟩ | ⟨_, _, rfl⟩) | ⟨_, _, rfl⟩) | ⟨_, _, rfl⟩) | ⟨_, _, rfl⟩
  · exact scanAct_isBackground index _
  all_goals rfl

theorem less_of_background {world later : World T} {step : Act T}
    (background : Act.isBackground step = true) (taken : world.act step = some later) :
    Less later world := by
  cases step with
  | advance => exact less_advance taken
  | flushNext => exact less_flushNext taken
  | wake => exact less_wake taken
  | send => exact less_send taken
  | finish => exact less_finish taken
  | reply =>
      simp only [act, Option.map_eq_some_iff] at taken
      obtain ⟨replied, given, rfl⟩ := taken
      exact less_reply given
  | _ => cases background

def next? (world : World T) : Option (World T) := world.agenda.findSome? world.act

theorem less_next {world later : World T} (taken : world.next? = some later) : Less later world := by
  obtain ⟨step, listed, acted⟩ := List.exists_of_findSome?_eq_some taken
  exact less_of_background (agenda_isBackground listed) acted

def settle (world : World T) : World T :=
  match _taken : world.next? with
  | none => world
  | some later => later.settle
termination_by less_wellFounded.wrap world
decreasing_by exact less_next _taken

theorem next_settle (world : World T) : world.settle.next? = none := by
  induction world using settle.induct with
  | case1 world rest => rw [settle]; split <;> simp_all
  | case2 world later taken step => rw [settle]; split <;> simp_all

abbrev Backend := Nat → Batch → Fetched

def callNumber (batches : List Batch) (index : Nat) (adapter : AdapterId) : Nat :=
  ((batches.take index).filter (fun batch => batch.adapter = adapter)).length

structure Gated where
  index : Nat
  call : Nat
  batch : Batch

def gated (lookup : BatchLookup) : List Gated :=
  let fetching := (lookup.batches.mapIdx (fun index batch =>
    Gated.mk index (callNumber lookup.batches index batch.adapter) batch)).filter
      (fun entry => entry.batch.isFetching)
  fetching.mergeSort (fun left right => left.batch.adapter ≤ right.batch.adapter)

def release (backend : Backend) (world : World T) (entry : Gated) : World T :=
  match world.act (.complete entry.index (backend entry.call entry.batch)) with
  | some completed => completed.settle
  | none => world

-- Coming to rest starts no fetch, so the batches gated now are all there is to release.
def releaseAll (backend : Backend) (world : World T) : World T :=
  (gated world.lookup).foldl (release backend) world

def rest (backend : Option Backend) (world : World T) : World T :=
  match backend with
  | none => world.settle
  | some answer => releaseAll answer world.settle

def step (backend : Option Backend) (world : World T) (action : Act T) : World T :=
  match world.act action with
  | some acted => acted.rest backend
  | none => world

inductive Standing where
  | absent
  | blocked
  | done
deriving DecidableEq, Repr

def standing (world : World T) (index : Nat) : Standing :=
  match world.scans[index]? with
  | none => .absent
  | some scan =>
      if scan.dropped then .absent
      else if scan.phase.isIdle then .done
      else .blocked

def lookahead (world : World T) (index : Nat) : Option T :=
  (world.scans[index]?).bind Scan.lookahead

def stock (world : World T) (index : Nat) : Nat :=
  match world.scans[index]? with
  | none => 0
  | some scan =>
      scan.source.length + scan.queue.length + scan.lookahead.toList.length
        + (world.tasks.filter (fun task => task.holds index)).length

def collectWithin (backend : Option Backend) (index : Nat) : Nat → World T → List T × Standing × World T
  | 0, world => ([], .done, world)
  | pulls + 1, world =>
      let pulled := world.step backend (.pull index)
      match pulled.standing index with
      | .done =>
          match pulled.lookahead index with
          | some value =>
              let (values, last, after) :=
                collectWithin backend index pulls (pulled.step backend (.take index))
              (value :: values, last, after)
          | none => ([], .done, pulled)
      | other => ([], other, pulled)

def collect (backend : Option Backend) (index : Nat) (world : World T) : List T × Standing × World T :=
  collectWithin backend index (world.stock index + 1) world

end World

end ThinScan
