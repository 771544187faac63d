import ThinScan.Proofs.Ledger
import ThinScan.Proofs.Positions

set_option autoImplicit false

namespace ThinScan

namespace Clients

variable {clients later : Clients}

def tally (active : Nat) : Act → Nat
  | .initiate => active + 1
  | .exhaust => active - 1
  | _ => active

def begins (active : Nat) : Act → Bool
  | .exhaust => active ≤ 1
  | .flush => true
  | _ => false

theorem retire_counts (lookup : BatchLookup) :
    lookup.retire.1 = decide (lookup.active ≤ 1) ∧ lookup.retire.2.active = lookup.active - 1 := by
  unfold BatchLookup.retire
  split
  · rename_i nobody
    rw [nobody]
    exact ⟨rfl, rfl⟩
  · rename_i left counted
    rw [counted]
    exact ⟨decide_eq_decide.mpr (by omega), rfl⟩

theorem active_act {action : Act} (taken : clients.act action = some later) :
    later.lookup.active = tally clients.lookup.active action := by
  cases move_of_act taken with
  | request adapter key => exact BatchLookup.active_request _ _ _
  | flushAdapter adapter => exact BatchLookup.active_flushAdapter _ _
  | next listed member => exact BatchLookup.active_flushAdapter _ _
  | exhaust others => exact (retire_counts clients.lookup).2
  | exhaustLast last => exact (retire_counts clients.lookup).2
  | setParams set => exact BatchLookup.active_setParams set
  | complete given => exact (BatchLookup.kept_complete given).1
  | reply given => exact (BatchLookup.kept_reply given).1
  | look settled => exact (BatchLookup.kept_look settled).1
  | _ => rfl

theorem begun_of_act {action : Act} (taken : clients.act action = some later) :
    (begins clients.lookup.active action = true → later.flushes = clients.flushes ++ [none])
      ∧ (begins clients.lookup.active action = false → later.flushes.length = clients.flushes.length) := by
  have due : begins clients.lookup.active .exhaust = clients.lookup.retire.1 := (retire_counts clients.lookup).1.symm
  cases move_of_act taken with
  | flush => exact ⟨fun _ => rfl, nofun⟩
  | exhaust others => rw [due, others]; exact ⟨nofun, fun _ => rfl⟩
  | exhaustLast last => rw [due, last]; exact ⟨fun _ => rfl, nofun⟩
  | list unlisted => exact ⟨nofun, fun _ => List.length_set⟩
  | next listed member => exact ⟨nofun, fun _ => List.length_set⟩
  | _ => exact ⟨nofun, fun _ => rfl⟩

theorem run_preserves {motive : Clients → Prop} {acts : List Act}
    (steps : ∀ clients action later, motive clients → clients.act action = some later → motive later)
    (start : motive clients) (ran : clients.run acts = some later) : motive later :=
  run_keeps (motive := fun clients _ => motive clients)
    (fun clients _ action later kept taken => steps clients action later kept taken) acts clients later [] start ran

theorem active_run {acts : List Act} (ran : clients.run acts = some later) :
    later.lookup.active = acts.foldl tally clients.lookup.active := by
  induction acts generalizing clients with
  | nil => cases ran; rfl
  | cons action rest step =>
      obtain ⟨next, taken, ran⟩ := Option.bind_eq_some_iff.mp ((run_cons clients action rest).symm.trans ran)
      rw [List.foldl_cons, ← active_act taken]
      exact step ran

theorem custody_run {acts : List Act} (custody : clients.lookup.Custody) (ran : clients.run acts = some later) :
    later.lookup.Custody :=
  run_preserves (motive := fun clients => clients.lookup.Custody)
    (fun _ _ _ custody taken => BatchLookup.custody_step custody (step_of_act taken)) custody ran

-- A flush under way since some state. Of what waited then, only adapters it still has to come to have anything waiting.
structure Sweeps (since : Clients) (flush : Nat) (clients : Clients) : Prop where
  custody : clients.lookup.Custody
  stands : flush < clients.flushes.length
  asked : ∀ adapter, ∀ entry ∈ since.lookup.waiting adapter, entry.request < clients.lookup.requests
    ∧ entry.slot adapter ∈ clients.lookup.slots
  left : ∀ left, clients.flushes[flush]? = some (some left) → ∀ adapter, ∀ entry ∈ since.lookup.waiting adapter,
    entry ∈ clients.lookup.waiting adapter → adapter ∈ left

variable {since : Clients} {flush : Nat}

theorem sweeps_begin (custody : since.lookup.Custody) (begun : since.flushes[flush]? = some none) :
    Sweeps since flush since := by
  refine ⟨custody, (List.getElem?_eq_some_iff.mp begun).1, ?_, fun left listed => ?_⟩
  · exact fun adapter entry waits =>
      ⟨BatchLookup.waiting_issued custody waits, BatchLookup.slot_of_waiting custody.ascending waits⟩
  · rw [begun] at listed
    cases listed

theorem waits_sweeping (sweeps : Sweeps since flush clients) {action : Act} (taken : clients.act action = some later)
    {adapter : AdapterId} {entry : Entry} (old : entry ∈ since.lookup.waiting adapter)
    (waits : entry ∈ later.lookup.waiting adapter) : entry ∈ clients.lookup.waiting adapter :=
  (BatchLookup.waiting_step (step_of_act taken) waits).resolve_right
    (fun fresh => Nat.ne_of_lt (sweeps.asked adapter entry old).1 fresh.2)

theorem listed_of_waiting {lookup : BatchLookup} {adapter : AdapterId} {entry : Entry}
    (waits : entry ∈ lookup.waiting adapter) : adapter ∈ lookup.pending.keys := by
  cases found : lookup.pending.find? adapter with
  | none =>
      rw [BatchLookup.waiting, found] at waits
      cases waits
  | some entries => exact Table.key_of_find found

theorem sweeps_act (sweeps : Sweeps since flush clients) {action : Act} (taken : clients.act action = some later) :
    Sweeps since flush later := by
  have step := step_of_act taken
  have asked : ∀ adapter, ∀ entry ∈ since.lookup.waiting adapter, entry.request < later.lookup.requests
      ∧ entry.slot adapter ∈ later.lookup.slots := by
    intro adapter entry old
    obtain ⟨issued, slot⟩ := sweeps.asked adapter entry old
    refine ⟨?_, (BatchLookup.slots_step sweeps.custody.ascending step).mem_iff.mpr (List.mem_append_right _ slot)⟩
    rw [BatchLookup.requests_step step]
    exact Nat.lt_of_lt_of_le issued (Nat.le_add_right _ _)
  have custody := BatchLookup.custody_step sweeps.custody step
  have begun (flushes : later.flushes = clients.flushes ++ [none]) : Sweeps since flush later := by
    have stands : flush < later.flushes.length := by
      rw [flushes, List.length_append]
      exact Nat.lt_of_lt_of_le sweeps.stands (Nat.le_add_right _ _)
    refine ⟨custody, stands, asked, fun left now adapter entry old waits => ?_⟩
    rw [flushes, List.getElem?_append_left sweeps.stands] at now
    exact sweeps.left left now adapter entry old (waits_sweeping sweeps taken old waits)
  have still (flushes : later.flushes = clients.flushes) : Sweeps since flush later := by
    refine ⟨custody, flushes ▸ sweeps.stands, asked, fun left now adapter entry old waits => ?_⟩
    exact sweeps.left left (flushes ▸ now) adapter entry old (waits_sweeping sweeps taken old waits)
  cases move_of_act taken with
  | flush => exact begun rfl
  | exhaustLast last => exact begun rfl
  | list unlisted =>
      refine ⟨custody, Nat.lt_of_lt_of_eq sweeps.stands List.length_set.symm, asked, fun left now adapter entry old waits => ?_⟩
      rcases set_cases unlisted now with ⟨rfl, same⟩ | ⟨_, before⟩
      · cases same
        exact listed_of_waiting waits
      · exact sweeps.left left before adapter entry old waits
  | @next _ _ swept listing listed member =>
      refine ⟨custody, Nat.lt_of_lt_of_eq sweeps.stands List.length_set.symm, asked, fun left now adapter entry old waits => ?_⟩
      have waited := waits_sweeping sweeps taken old waits
      rcases set_cases listed now with ⟨rfl, same⟩ | ⟨_, before⟩
      · cases same
        have elsewhere : adapter ≠ swept := by
          rintro rfl
          rw [BatchLookup.waiting_flushAdapter, if_pos rfl] at waits
          cases waits
        exact (List.mem_erase_of_ne elsewhere).mpr (sweeps.left listing listed adapter entry old waited)
      · exact sweeps.left left before adapter entry old waited
  | _ => exact still rfl

theorem sent_of_flush (custody : since.lookup.Custody) (begun : since.flushes[flush]? = some none) {acts : List Act}
    (ran : since.run acts = some later) (through : later.flushes[flush]? = some (some [])) (adapter : AdapterId)
    (entry : Entry) (old : entry ∈ since.lookup.waiting adapter) :
    entry ∉ later.lookup.waiting adapter
      ∧ ∃ batch ∈ later.lookup.batches, batch.adapter = adapter ∧ entry ∈ batch.entries := by
  have sweeps : Sweeps since flush later :=
    run_preserves (motive := Sweeps since flush) (fun _ _ _ sweeps taken => sweeps_act sweeps taken)
      (sweeps_begin custody begun) ran
  have gone : entry ∉ later.lookup.waiting adapter := fun waits =>
    List.not_mem_nil (sweeps.left [] through adapter entry old waits)
  refine ⟨gone, ?_⟩
  rcases BatchLookup.mem_slots sweeps.custody.ascending (sweeps.asked adapter entry old).2 with waits | sent
  · exact absurd waits gone
  · obtain ⟨index, batch, position, held, same, placed⟩ := sent
    exact ⟨batch, List.mem_of_getElem? held, same, List.mem_of_getElem? placed⟩

theorem run_sweep (left : List AdapterId) (listed : clients.flushes[flush]? = some (some left)) :
    ∃ last, clients.run (left.map (.flushNext flush)) = some last ∧ last.flushes[flush]? = some (some []) := by
  induction left generalizing clients with
  | nil => exact ⟨clients, rfl, listed⟩
  | cons adapter rest step =>
      have taken : clients.act (.flushNext flush adapter) = some
          { lookup := clients.lookup.flushAdapter adapter, flushes := clients.flushes.set flush (some rest) } := by
        rw [act, flushNext, listed, Option.bind_eq_bind, Option.bind_some]
        dsimp only
        rw [if_pos List.mem_cons_self, List.erase_cons_head]
      obtain ⟨last, ran, through⟩ := @step ⟨clients.lookup.flushAdapter adapter, clients.flushes.set flush (some rest)⟩
        ((set_at _ listed flush).trans (if_pos rfl))
      refine ⟨last, ?_, through⟩
      rw [List.map_cons, run_cons, taken]
      exact ran

theorem waits_unasked {acts : List Act} (unasked : ∀ adapter key, Act.request adapter key ∉ acts)
    (ran : clients.run acts = some later) {adapter : AdapterId} {entry : Entry}
    (waits : entry ∈ later.lookup.waiting adapter) : entry ∈ clients.lookup.waiting adapter := by
  induction acts generalizing clients with
  | nil => cases ran; exact waits
  | cons action rest step =>
      obtain ⟨next, taken, ran⟩ := Option.bind_eq_some_iff.mp ((run_cons clients action rest).symm.trans ran)
      have waited := step (fun other key member => unasked other key (List.mem_cons_of_mem _ member)) ran
      rcases BatchLookup.waiting_step (step_of_act taken) waited with earlier | ⟨asked, _⟩
      · exact earlier
      · cases action with
        | request other key => exact absurd List.mem_cons_self (unasked other key)
        | _ => cases asked

theorem run_flush (custody : clients.lookup.Custody) (begun : clients.flushes[flush]? = some none) :
    ∃ last, clients.run (.list flush :: clients.lookup.pending.keys.map (.flushNext flush)) = some last
      ∧ last.flushes[flush]? = some (some []) ∧ ∀ adapter, last.lookup.waiting adapter = [] := by
  have taken : clients.act (.list flush) = some
      { clients with flushes := clients.flushes.set flush (some clients.lookup.pending.keys) } := by
    rw [act, list, begun]
    rfl
  obtain ⟨last, swept, through⟩ := @run_sweep
    { clients with flushes := clients.flushes.set flush (some clients.lookup.pending.keys) } flush
    clients.lookup.pending.keys ((set_at _ begun flush).trans (if_pos rfl))
  have ran : clients.run (.list flush :: clients.lookup.pending.keys.map (.flushNext flush)) = some last := by
    rw [run_cons, taken]
    exact swept
  refine ⟨last, ran, through, fun adapter => List.eq_nil_iff_forall_not_mem.mpr (fun entry waits => ?_)⟩
  have waited : entry ∈ clients.lookup.waiting adapter := waits_unasked (by simp) ran waits
  exact (sent_of_flush custody begun ran through adapter entry waited).1 waits

end Clients

end ThinScan
