import ThinScan.Proofs.Delivery
import ThinScan.Proofs.Outcomes

set_option autoImplicit false

namespace ThinScan

variable {T : Type}

inductive Notice where
  | initiated
  | exhausted
deriving DecidableEq, Repr

namespace BatchLookup

variable {lookup later : BatchLookup}

def unbalanced (lookup : BatchLookup) : Nat := lookup.events.count .exhaustedUninitiated

-- The report that stands between two states of a lookup, by what it leaves behind.
def noticed (lookup later : BatchLookup) : List Notice :=
  if lookup.active < later.active then [.initiated]
  else if later.active < lookup.active ∨ lookup.unbalanced < later.unbalanced then [.exhausted]
  else []

theorem noticed_initiate (lookup : BatchLookup) : lookup.noticed lookup.initiate = [.initiated] :=
  if_pos (Nat.lt_succ_self _)

theorem noticed_retire (lookup : BatchLookup) : lookup.noticed lookup.retire.2 = [.exhausted] := by
  have counted : ¬ lookup.active < lookup.retire.2.active
      ∧ (lookup.retire.2.active < lookup.active ∨ lookup.unbalanced < lookup.retire.2.unbalanced) := by
    unfold retire
    split
    · rename_i nobody
      refine ⟨by dsimp only; omega, .inr ?_⟩
      rw [unbalanced, unbalanced, List.count_cons_self]
      exact Nat.lt_succ_self _
    · rename_i left counts
      exact ⟨by dsimp only; omega, .inl (by dsimp only; omega)⟩
  rw [noticed, if_neg counted.1, if_pos counted.2]

theorem noticed_quiet (active : later.active = lookup.active) (unbalanced : later.unbalanced = lookup.unbalanced) :
    lookup.noticed later = [] := by
  rw [noticed, if_neg (by omega), if_neg (by omega)]

theorem noticed_aside (active : later.active = lookup.active) (aside : lookup.Aside later) :
    lookup.noticed later = [] := by
  obtain ⟨told, events, kinds⟩ := aside
  refine noticed_quiet active ?_
  have absent : Event.exhaustedUninitiated ∉ told := fun member => (Event.kinds_of_aside (kinds _ member)).2 rfl
  rw [unbalanced, events, List.count_append, List.count_eq_zero.mpr absent, Nat.zero_add, unbalanced]

theorem noticed_flushAdapter (lookup : BatchLookup) (adapter : AdapterId) :
    lookup.noticed (lookup.flushAdapter adapter) = [] :=
  noticed_aside (active_flushAdapter lookup adapter) (aside_flushAdapter lookup adapter)

theorem noticed_look {request : RequestId} {found : Option Values} (discreet : lookup.Discreet)
    (settled : lookup.look request = some (found, later)) : lookup.noticed later = [] :=
  noticed_aside (kept_look settled).1 (aside_look discreet settled)

theorem noticed_complete {index : Nat} {fetched : Fetched} (taken : lookup.complete index fetched = some later) :
    lookup.noticed later = [] := by
  refine noticed_quiet (kept_complete taken).1 ?_
  simp only [complete, Option.bind_eq_bind, Option.bind_eq_some_iff] at taken
  obtain ⟨batch, held, taken⟩ := taken
  split at taken <;> cases taken
  have absent : Event.exhaustedUninitiated ∉ fetched.events batch := fun member =>
    Bool.false_ne_true ((Fetched.events_reported batch fetched).warnings _ member).1
  rw [unbalanced, List.count_append, List.count_eq_zero.mpr absent, Nat.zero_add]
  rfl

end BatchLookup

def Act.scan? : Act T → Option Nat
  | .pull scan => some scan
  | .advance scan => some scan
  | .flushNext scan _ => some scan
  | .take scan => some scan
  | .drop scan => some scan
  | _ => none

namespace World

variable {world later : World T} {action : Act T}

def observed {α : Type} (seen : World T → Act T → World T → List α) : World T → List (Act T) → List α
  | _, [] => []
  | world, action :: rest =>
      match world.act action with
      | none => []
      | some later => seen world action later ++ observed seen later rest

def notices (world : World T) (acts : List (Act T)) : List (Option Nat × Notice) :=
  observed (fun world action later => (world.lookup.noticed later.lookup).map (action.scan?, ·)) world acts

theorem observed_run {α : Type} {seen : World T → Act T → World T → List α} {motive : World T → List α → Prop}
    (steps : ∀ world told action later, motive world told → world.act action = some later →
      motive later (told ++ seen world action later))
    {acts : List (Act T)} {told : List α} (start : motive world told) (ran : world.run acts = some later) :
    motive later (told ++ observed seen world acts) := by
  induction acts generalizing world told with
  | nil =>
      cases ran
      rw [observed, List.append_nil]
      exact start
  | cons action rest step =>
      obtain ⟨between, taken, ran⟩ := Option.bind_eq_some_iff.mp ((run_cons world action rest).symm.trans ran)
      have next := step (steps world told action between start taken) ran
      simpa only [observed, taken, List.append_assoc] using next

end World

namespace Scan

variable {label : Nat → Act T} {lookup after : BatchLookup} {scan fresh : Scan T}

def notices (scan : Scan T) : List Notice :=
  (if scan.initiated then [.initiated] else []) ++ (if scan.exhausted then [.exhausted] else [])

theorem notices_prefix (sound : scan.Sound) : scan.notices <+: [Notice.initiated, .exhausted] := by
  rw [notices]
  by_cases said : scan.exhausted = true
  · rw [sound.counted said, said]
    exact List.prefix_rfl
  · rw [if_neg said, List.append_nil]
    by_cases begun : scan.initiated = true
    · rw [if_pos begun]
      exact List.prefix_append _ [Notice.exhausted]
    · rw [if_neg begun]
      exact List.nil_prefix

theorem notices_of_flags (initiated : fresh.initiated = scan.initiated) (exhausted : fresh.exhausted = scan.exhausted) :
    fresh.notices = scan.notices := by
  rw [notices, notices, initiated, exhausted]

theorem noticed_turn (sound : scan.Sound) (turn : scan.Turn label lookup after fresh) :
    fresh.notices = scan.notices ++ lookup.noticed after := by
  have quiet (same : fresh.notices = scan.notices) (nothing : lookup.noticed after = []) :
      fresh.notices = scan.notices ++ lookup.noticed after := by
    rw [same, nothing, List.append_nil]
  have ends (counted : scan.initiated = true) (unsaid : scan.exhausted = false) (still : fresh.initiated = true)
      (said : fresh.exhausted = true) : fresh.notices = scan.notices ++ lookup.noticed lookup.retire.2 := by
    rw [notices, notices, counted, unsaid, still, said, BatchLookup.noticed_retire]
    rfl
  have unmoved : lookup.noticed lookup = [] := BatchLookup.noticed_quiet rfl rfl
  cases turn with
  | enter free idle uncounted =>
      have unsaid : scan.exhausted = false :=
        Bool.eq_false_iff.mpr (fun said => Bool.false_ne_true (uncounted.symm.trans (sound.counted said)))
      rw [notices, notices, initiated_begin, exhausted_begin, uncounted, unsaid, BatchLookup.noticed_initiate]
      rfl
  | resume free idle counted =>
      exact quiet (notices_of_flags ((initiated_begin scan).trans counted.symm) (exhausted_begin scan)) unmoved
  | exhaust scanning rowless unsaid =>
      have counted := (sound.pulled (by rw [scanning]; rfl)).1
      exact ends counted unsaid counted rfl
  | flush flush listed member => exact quiet rfl (BatchLookup.noticed_flushAdapter _ _)
  | abandon free idle counted unsaid others => exact ends counted unsaid counted rfl
  | abandonLast free idle counted unsaid last => exact ends counted unsaid counted rfl
  | _ => exact quiet rfl unmoved

theorem scan_of_turn (turn : scan.Turn label lookup after fresh) (index : Nat) : (label index).scan? = some index := by
  cases turn <;> rfl

end Scan

namespace World

variable {world later : World T} {action : Act T}

theorem notices_move (sound : world.Sound) (discreet : world.lookup.Discreet) (move : Move action world later) :
    (∀ index, later.part index Scan.notices = world.part index Scan.notices
      ++ if action.scan? = some index then world.lookup.noticed later.lookup else [])
    ∧ (action.scan? = none → world.lookup.noticed later.lookup = []) := by
  have still (nothing : world.lookup.noticed later.lookup = [])
      (same : ∀ index, later.part index Scan.notices = world.part index Scan.notices) :
      (∀ index, later.part index Scan.notices = world.part index Scan.notices
        ++ if action.scan? = some index then world.lookup.noticed later.lookup else [])
      ∧ (action.scan? = none → world.lookup.noticed later.lookup = []) := by
    refine ⟨fun index => ?_, fun _ => nothing⟩
    rw [nothing, ite_self, List.append_nil, same]
  have unmoved : world.lookup.noticed world.lookup = [] := BatchLookup.noticed_quiet rfl rfl
  cases move with
  | start store filters source capacity => exact still unmoved (part_start rfl rfl)
  | @turn _ label index scan fresh lookup held turn =>
      have noticed := Scan.noticed_turn (held_sound sound held) turn
      have mine := Scan.scan_of_turn turn index
      refine ⟨fun place => ?_, fun nobody => nomatch mine.symm.trans nobody⟩
      rw [part_set held rfl, mine]
      by_cases here : index = place
      · subst here
        rw [if_pos rfl, if_pos rfl, noticed, part_at held]
        rfl
      · rw [if_neg here, if_neg (fun same => here (Option.some.inj same)), List.append_nil]
  | skip events held => exact still unmoved (fun _ => part_kept held rfl rfl)
  | own held => exact still unmoved (fun _ => part_kept held rfl rfl)
  | defer held =>
      exact still (BatchLookup.noticed_aside (BatchLookup.active_request _ _ _) (BatchLookup.aside_request _ _ _))
        (fun _ => part_kept held rfl rfl)
  | caught held deferring settled =>
      exact still (BatchLookup.noticed_look discreet settled) (fun _ => part_kept held rfl rfl)
  | missed events held deferring settled =>
      exact still (BatchLookup.noticed_look discreet settled) (fun _ => part_kept held rfl rfl)
  | spawn held => exact still unmoved (fun _ => part_kept held rfl rfl)
  | finished events held => exact still unmoved (fun _ => part_kept held rfl rfl)
  | flush adapter => exact still (BatchLookup.noticed_flushAdapter _ _) (fun _ => rfl)
  | complete taken => exact still (BatchLookup.noticed_complete taken) (fun _ => rfl)
  | reply taken =>
      exact still (BatchLookup.noticed_aside (BatchLookup.kept_reply taken).1 (BatchLookup.aside_reply taken)) (fun _ => rfl)
  | wake events held waiting settled => exact still (BatchLookup.noticed_look discreet settled) (fun _ => rfl)
  | send held owner => exact still unmoved (fun _ => part_kept owner rfl rfl)
  | finish held owner => exact still unmoved (fun _ => part_kept owner rfl rfl)
  | _ => exact still unmoved (fun _ => rfl)

def noticesOf (index : Nat) (notices : List (Option Nat × Notice)) : List Notice :=
  (notices.filter (fun notice => notice.1 = some index)).map Prod.snd

theorem noticesOf_report (index : Nat) (told : List (Option Nat × Notice)) (reporter : Option Nat) (fresh : List Notice) :
    noticesOf index (told ++ fresh.map (reporter, ·))
      = noticesOf index told ++ if reporter = some index then fresh else [] := by
  rw [noticesOf, List.filter_append, List.map_append, noticesOf, List.filter_map, List.map_map]
  by_cases mine : reporter = some index <;> simp [mine, Function.comp_def]

structure Reported (world : World T) (told : List (Option Nat × Notice)) : Prop where
  sound : world.Sound
  discreet : world.lookup.Discreet
  scans : ∀ index, noticesOf index told = world.part index Scan.notices
  owned : ∀ notice ∈ told, ∃ index, notice.1 = some index

theorem reported_act {told : List (Option Nat × Notice)} (reported : world.Reported told)
    (taken : world.act action = some later) :
    later.Reported (told ++ (world.lookup.noticed later.lookup).map (action.scan?, ·)) := by
  have move := move_of_act taken
  obtain ⟨added, nobody⟩ := notices_move reported.sound reported.discreet move
  obtain ⟨cause, step, _⟩ := step_of_move move
  refine ⟨sound_move reported.sound move, BatchLookup.discreet_step reported.discreet step, ?_, ?_⟩
  · intro index
    rw [noticesOf_report, added, reported.scans]
  · intro notice member
    rcases List.mem_append.mp member with earlier | fresh
    · exact reported.owned notice earlier
    · obtain ⟨said, listed, rfl⟩ := List.mem_map.mp fresh
      cases reporter : action.scan? with
      | none => rw [nobody reporter] at listed; cases listed
      | some index => exact ⟨index, rfl⟩

theorem noticed_run {stores : List (Adapters T)} {size : Nat} {params : Option Params} {acts : List (Act T)}
    (ran : (fresh stores size params).run acts = some world) :
    (∀ index, noticesOf index ((fresh stores size params).notices acts) <+: [.initiated, .exhausted])
      ∧ ∀ notice ∈ (fresh stores size params).notices acts, ∃ index, notice.1 = some index := by
  have start : (fresh stores size params).Reported [] :=
    ⟨sound_fresh stores size params, ⟨fun _ member => absurd member List.not_mem_nil,
      fun _ member => absurd member List.not_mem_nil⟩, fun _ => rfl, fun _ member => absurd member List.not_mem_nil⟩
  have reported : world.Reported ([] ++ (fresh stores size params).notices acts) :=
    observed_run (motive := World.Reported) (fun _ _ _ _ reported taken => reported_act reported taken) start ran
  rw [List.nil_append] at reported
  refine ⟨fun index => ?_, reported.owned⟩
  rw [reported.scans]
  cases held : world.scans[index]? with
  | none => rw [part, held]; exact List.nil_prefix
  | some scan => rw [part_at held]; exact Scan.notices_prefix (held_sound reported.sound held)

end World

end ThinScan
