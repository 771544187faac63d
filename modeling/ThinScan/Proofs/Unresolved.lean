import ThinScan.Proofs.Flushing

set_option autoImplicit false

namespace ThinScan

namespace BatchLookup

variable {lookup later : BatchLookup} {adapter : AdapterId} {key : Bytes}

def isUnresolved (lookup : BatchLookup) (adapter : AdapterId) (key : Bytes) (slot : Slot) : Bool :=
  slot.adapter = adapter && slot.key = key && (lookup.reply? slot.request).isNone

def unresolved (lookup : BatchLookup) (adapter : AdapterId) (key : Bytes) : List RequestId :=
  (lookup.slots.filter (lookup.isUnresolved adapter key)).map Slot.request

def inFlight (lookup : BatchLookup) (adapter : AdapterId) (key : Bytes) : List Batch :=
  lookup.batches.filter (fun batch => batch.slots.any (lookup.isUnresolved adapter key))

theorem isUnresolved_iff (slot : Slot) :
    lookup.isUnresolved adapter key slot = true
      ↔ slot.adapter = adapter ∧ slot.key = key ∧ lookup.reply? slot.request = none := by
  simp only [isUnresolved, Bool.and_eq_true, decide_eq_true_eq, Option.isNone_iff_eq_none, and_assoc]

theorem nodup_unresolved (numbered : lookup.Numbered) (adapter : AdapterId) (key : Bytes) :
    (lookup.unresolved adapter key).Nodup :=
  (numbered.nodup_iff.mpr List.nodup_range).sublist (List.filter_sublist.map Slot.request)

theorem mem_unresolved (request : RequestId) :
    request ∈ lookup.unresolved adapter key
      ↔ ⟨adapter, key, request⟩ ∈ lookup.slots ∧ lookup.reply? request = none := by
  rw [unresolved, List.mem_map]
  constructor
  · rintro ⟨⟨_, _, _⟩, member, rfl⟩
    obtain ⟨held, unanswered⟩ := List.mem_filter.mp member
    obtain ⟨rfl, rfl, unreplied⟩ := (isUnresolved_iff _).mp unanswered
    exact ⟨held, unreplied⟩
  · rintro ⟨held, unreplied⟩
    exact ⟨_, List.mem_filter.mpr ⟨held, (isUnresolved_iff _).mpr ⟨rfl, rfl, unreplied⟩⟩, rfl⟩

theorem length_unresolved {slots : List Slot} (distinct : (slots.map Slot.key).Nodup) :
    (slots.filter (lookup.isUnresolved adapter key)).length
      = if slots.any (lookup.isUnresolved adapter key) then 1 else 0 := by
  have keys := distinct.sublist ((List.filter_sublist (p := lookup.isUnresolved adapter key)).map Slot.key)
  have same (slot : Slot) (member : slot ∈ slots.filter (lookup.isUnresolved adapter key)) : slot.key = key :=
    ((isUnresolved_iff slot).mp (List.mem_filter.mp member).2).2.1
  by_cases found : slots.any (lookup.isUnresolved adapter key) = true
  · rw [if_pos found]
    obtain ⟨slot, held, open_slot⟩ := List.any_eq_true.mp found
    have member := List.mem_filter.mpr ⟨held, open_slot⟩
    cases chosen : slots.filter (lookup.isUnresolved adapter key) with
    | nil =>
        rw [chosen] at member
        cases member
    | cons first others =>
        rw [chosen] at keys same
        cases others with
        | nil => rfl
        | cons second rest =>
            have twice : first.key = second.key :=
              (same first List.mem_cons_self).trans (same second (List.mem_cons_of_mem _ List.mem_cons_self)).symm
            exact absurd (twice ▸ List.mem_cons_self) (List.nodup_cons.mp keys).1
  · rw [if_neg found, List.length_eq_zero_iff, List.filter_eq_nil_iff]
    exact fun slot held open_slot => found (List.any_eq_true.mpr ⟨slot, held, open_slot⟩)

theorem unresolved_waiting (sound : lookup.Sound) (custody : lookup.Custody) (adapter : AdapterId) (key : Bytes) :
    ((viewed Entry.slot lookup.pending).filter (lookup.isUnresolved adapter key)).length
      = if key ∈ lookup.waitingKeys adapter then 1 else 0 := by
  have elsewhere : (viewed Entry.slot (lookup.pending.erase adapter)).filter (lookup.isUnresolved adapter key) = [] := by
    rw [List.filter_eq_nil_iff]
    intro slot member found
    obtain ⟨held, kept, inside⟩ := List.mem_flatMap.mp member
    obtain ⟨entry, _, rfl⟩ := List.mem_map.mp inside
    have other : held.1 ≠ adapter := by simpa using (List.mem_filter.mp kept).2
    exact other ((isUnresolved_iff _).mp found).1
  have distinct : (((lookup.waiting adapter).map (Entry.slot adapter)).map Slot.key).Nodup := by
    rw [List.map_map]
    exact sound.distinct adapter
  have waits : ((lookup.waiting adapter).map (Entry.slot adapter)).any (lookup.isUnresolved adapter key) = true
      ↔ key ∈ lookup.waitingKeys adapter := by
    rw [List.any_eq_true, waitingKeys, List.mem_map]
    constructor
    · rintro ⟨slot, member, found⟩
      obtain ⟨entry, held, rfl⟩ := List.mem_map.mp member
      exact ⟨entry, held, ((isUnresolved_iff _).mp found).2.1⟩
    · rintro ⟨entry, held, same⟩
      exact ⟨_, List.mem_map_of_mem held, (isUnresolved_iff _).mpr ⟨rfl, same, unreplied_of_waiting custody held⟩⟩
  rw [((viewed_split Entry.slot custody.ascending adapter).filter _).length_eq, List.filter_append, elsewhere,
    List.append_nil, length_unresolved distinct]
  simp only [waits]

theorem keys_distinct (sound : lookup.Sound) {batch : Batch} (held : batch ∈ lookup.batches) : batch.keys.Nodup :=
  (sound.proper (batch.adapter, batch.keys) (List.mem_map_of_mem held)).2.1

theorem unresolved_sent {batches : List Batch} (distinct : ∀ batch ∈ batches, batch.keys.Nodup) :
    ((batches.flatMap Batch.slots).filter (lookup.isUnresolved adapter key)).length
      = (batches.filter (fun batch => batch.slots.any (lookup.isUnresolved adapter key))).length := by
  induction batches with
  | nil => rfl
  | cons batch rest step =>
      obtain ⟨first, others⟩ := List.forall_mem_cons.mp distinct
      have keys : (batch.slots.map Slot.key).Nodup := by
        rw [Batch.slots, List.map_map]
        exact first
      rw [List.flatMap_cons, List.filter_append, List.length_append, step others, length_unresolved keys, List.filter_cons]
      by_cases found : batch.slots.any (lookup.isUnresolved adapter key) = true
      · rw [if_pos found, if_pos found, List.length_cons, Nat.add_comm]
      · rw [if_neg found, if_neg found, Nat.zero_add]

theorem unresolved_count (sound : lookup.Sound) (custody : lookup.Custody) (adapter : AdapterId) (key : Bytes) :
    (lookup.unresolved adapter key).length
      = (if key ∈ lookup.waitingKeys adapter then 1 else 0) + (lookup.inFlight adapter key).length := by
  rw [unresolved, List.length_map, slots, List.filter_append, List.length_append, unresolved_waiting sound custody,
    unresolved_sent (fun _ held => keys_distinct sound held), inFlight]

theorem unreplied_before {cause : Cause} {request : RequestId} (custody : lookup.Custody) (step : Step cause lookup later)
    (unreplied : later.reply? request = none) : lookup.reply? request = none := by
  cases known : lookup.reply? request with
  | none => rfl
  | some reply =>
      rw [reply_kept custody step known] at unreplied
      cases unreplied

theorem unresolved_step {cause : Cause} (custody : lookup.Custody) (step : Step cause lookup later)
    (adapter : AdapterId) (key : Bytes) :
    (later.unresolved adapter key).length ≤ (cause.keys adapter).count key + (lookup.unresolved adapter key).length := by
  have moved : (later.unresolved adapter key).length
      = ((cause.slots lookup.requests).filter (later.isUnresolved adapter key)).length
        + (lookup.slots.filter (later.isUnresolved adapter key)).length := by
    rw [unresolved, List.length_map, ((slots_step custody.ascending step).filter _).length_eq, List.filter_append,
      List.length_append]
  have fresh : ((cause.slots lookup.requests).filter (later.isUnresolved adapter key)).length
      ≤ (cause.keys adapter).count key := by
    cases cause with
    | asked wanted other =>
        by_cases found : later.isUnresolved adapter key ⟨wanted, other, lookup.requests⟩ = true
        · obtain ⟨rfl, rfl, _⟩ := (isUnresolved_iff _).mp found
          simp [Cause.slots, Cause.keys, found]
        · simp [Cause.slots, found]
    | _ => exact Nat.zero_le _
  have kept : (lookup.slots.filter (later.isUnresolved adapter key)).length ≤ (lookup.unresolved adapter key).length := by
    rw [unresolved, List.length_map, ← List.countP_eq_length_filter, ← List.countP_eq_length_filter]
    refine List.countP_mono_left (fun slot _ found => ?_)
    obtain ⟨here, same, unreplied⟩ := (isUnresolved_iff slot).mp found
    exact (isUnresolved_iff slot).mpr ⟨here, same, unreplied_before custody step unreplied⟩
  omega

theorem unreplied_of_unissued (custody : lookup.Custody) {request : RequestId} (unissued : lookup.requests ≤ request) :
    lookup.reply? request = none := by
  refine List.lookup_eq_none_iff.mpr (fun told given => ?_)
  have placed : told.1 ∈ lookup.places := List.mem_append_right _ (List.mem_map_of_mem given)
  have issued := List.mem_range.mp (custody.whole.mem_iff.mp placed)
  exact bne_iff_ne.mpr (Nat.ne_of_gt (Nat.lt_of_lt_of_le issued unissued))

theorem replies_asked {adapter : AdapterId} {key : Bytes} (step : Step (.asked adapter key) lookup later) :
    later.replies = lookup.replies := by
  cases step with
  | queue => rfl
  | fill => exact replies_flushAdapter _ _

theorem unresolved_asked (custody : lookup.Custody) (absent : key ∉ lookup.waitingKeys adapter) :
    ((lookup.request adapter key).2.unresolved adapter key).Perm
      ((lookup.request adapter key).1 :: lookup.unresolved adapter key) := by
  have step := request_step lookup adapter key
  rw [requestCause, if_neg absent] at step
  have alike : (lookup.request adapter key).2.isUnresolved adapter key = lookup.isUnresolved adapter key := by
    funext slot
    rw [isUnresolved, isUnresolved, reply?, reply?, replies_asked step]
  have found : lookup.isUnresolved adapter key ⟨adapter, key, lookup.requests⟩ = true :=
    (isUnresolved_iff _).mpr ⟨rfl, rfl, unreplied_of_unissued custody (Nat.le_refl _)⟩
  have moved := (((slots_step custody.ascending step).filter (lookup.isUnresolved adapter key)).map Slot.request)
  rw [unresolved, alike, request_fresh absent]
  rw [request_fresh absent] at moved
  rw [Cause.slots, List.cons_append, List.nil_append, List.filter_cons_of_pos found] at moved
  exact moved

theorem joins_unresolved (custody : lookup.Custody) (waits : key ∈ lookup.waitingKeys adapter) :
    ∃ request ∈ lookup.unresolved adapter key, lookup.request adapter key = (request, lookup) := by
  obtain ⟨entry, held, rfl, joined⟩ := request_joined waits
  exact ⟨entry.request, (mem_unresolved _).mpr
    ⟨slot_of_waiting custody.ascending held, unreplied_of_waiting custody held⟩, joined⟩

end BatchLookup

namespace Clients

variable {clients later : Clients} {asked : List Asked}

structure Regular (clients : Clients) (asked : List Asked) : Prop where
  sound : clients.lookup.Sound
  custody : clients.lookup.Custody
  numbered : clients.lookup.Numbered
  slots : ∀ adapter key request, ⟨adapter, key, request⟩ ∈ clients.lookup.slots ↔ ⟨adapter, key, request⟩ ∈ asked

theorem slots_act {action : Act} (regular : clients.Regular asked) (taken : clients.act action = some later)
    (adapter : AdapterId) (key : Bytes) (request : RequestId) :
    ⟨adapter, key, request⟩ ∈ later.lookup.slots ↔ ⟨adapter, key, request⟩ ∈ asked ++ clients.asked action := by
  have step := BatchLookup.slots_step regular.custody.ascending (step_of_act taken)
  cases action with
  | request wanted other =>
      cases taken
      rw [withLookup, BatchLookup.slots_request regular.custody.ascending, regular.slots, Clients.asked,
        List.mem_append, List.mem_singleton, Slot.mk.injEq, Asked.mk.injEq]
  | _ =>
      exact (List.append_nil asked).symm ▸ step.mem_iff.trans (regular.slots adapter key request)

theorem regular_act {action : Act} (regular : clients.Regular asked) (taken : clients.act action = some later) :
    later.Regular (asked ++ clients.asked action) :=
  ⟨BatchLookup.sound_step regular.sound (step_of_act taken), BatchLookup.custody_step regular.custody (step_of_act taken),
    BatchLookup.numbered_step regular.numbered regular.custody.ascending (step_of_act taken), slots_act regular taken⟩

theorem regular_fresh {size : Nat} (sized : 0 < size) : (Clients.mk { batchSize := size } []).Regular [] :=
  ⟨BatchLookup.sound_of_empty sized rfl rfl, BatchLookup.custody_of_empty rfl rfl rfl rfl, .refl _,
    fun _ _ _ => ⟨fun member => absurd member List.not_mem_nil, fun member => absurd member List.not_mem_nil⟩⟩

theorem unresolved_iff (regular : clients.Regular asked) (adapter : AdapterId) (key : Bytes) (request : RequestId) :
    request ∈ clients.lookup.unresolved adapter key
      ↔ ⟨adapter, key, request⟩ ∈ asked ∧ clients.lookup.look request = none := by
  rw [BatchLookup.mem_unresolved, regular.slots]
  refine and_congr_right (fun _ => ⟨BatchLookup.look_unreplied, fun unseen => ?_⟩)
  cases known : clients.lookup.reply? request with
  | none => rfl
  | some reply =>
      have seen := BatchLookup.look_replied known
      rw [unseen] at seen
      cases seen

-- Nobody asks for the key while a batch that holds it has yet to answer.
def Patient (start : Clients) (acts : List Act) (adapter : AdapterId) (key : Bytes) : Prop :=
  ∀ before after clients, acts = before ++ .request adapter key :: after → start.run before = some clients →
    clients.lookup.inFlight adapter key = []

theorem patient_tail {action : Act} {rest : List Act} {adapter : AdapterId} {key : Bytes}
    (patient : clients.Patient (action :: rest) adapter key) (taken : clients.act action = some later) :
    later.Patient rest adapter key := by
  intro before after middle split ran
  refine patient (action :: before) after middle (by rw [split, List.cons_append]) ?_
  rw [run_cons, taken]
  exact ran

theorem adds_one (cause : BatchLookup.Cause) (adapter : AdapterId) (key : Bytes) : (cause.keys adapter).count key ≤ 1 := by
  refine Nat.le_trans List.count_le_length ?_
  cases cause with
  | asked wanted other =>
      rw [BatchLookup.Cause.keys]
      split
      · exact Nat.le_refl _
      · exact Nat.zero_le _
  | _ => exact Nat.zero_le _

theorem adds_asked {action : Act} {adapter : AdapterId} {key : Bytes}
    (adds : ((clients.cause action).keys adapter).count key ≠ 0) :
    action = .request adapter key ∧ key ∉ clients.lookup.waitingKeys adapter := by
  cases action with
  | request wanted other =>
      rw [cause, BatchLookup.requestCause] at adds
      by_cases waits : other ∈ clients.lookup.waitingKeys wanted
      · rw [if_pos waits] at adds
        exact absurd rfl adds
      · rw [if_neg waits, BatchLookup.Cause.keys] at adds
        by_cases here : wanted = adapter
        · subst here
          rw [if_pos rfl] at adds
          have same : key = other := List.mem_singleton.mp (List.count_pos_iff.mp (Nat.pos_of_ne_zero adds))
          rw [same]
          exact ⟨rfl, waits⟩
        · rw [if_neg here] at adds
          exact absurd rfl adds
  | _ => exact absurd rfl adds

theorem single_act {action : Act} {adapter : AdapterId} {key : Bytes} (regular : clients.Regular asked)
    (single : (clients.lookup.unresolved adapter key).length ≤ 1)
    (free : action = .request adapter key → clients.lookup.inFlight adapter key = [])
    (taken : clients.act action = some later) : (later.lookup.unresolved adapter key).length ≤ 1 := by
  have grown := BatchLookup.unresolved_step regular.custody (step_of_act taken) adapter key
  by_cases adds : ((clients.cause action).keys adapter).count key = 0
  · omega
  · obtain ⟨asked, absent⟩ := adds_asked adds
    have nothing : (clients.lookup.unresolved adapter key).length = 0 := by
      rw [BatchLookup.unresolved_count regular.sound regular.custody, if_neg absent, free asked]
      rfl
    have one := adds_one (clients.cause action) adapter key
    omega

theorem single_run {acts : List Act} {adapter : AdapterId} {key : Bytes} (regular : clients.Regular asked)
    (single : (clients.lookup.unresolved adapter key).length ≤ 1) (patient : clients.Patient acts adapter key)
    (ran : clients.run acts = some later) : (later.lookup.unresolved adapter key).length ≤ 1 := by
  induction acts generalizing clients asked with
  | nil =>
      cases ran
      exact single
  | cons action rest step =>
      obtain ⟨next, taken, ran⟩ := Option.bind_eq_some_iff.mp ((run_cons clients action rest).symm.trans ran)
      have free : action = .request adapter key → clients.lookup.inFlight adapter key = [] := fun asked =>
        patient [] rest clients (by rw [asked, List.nil_append]) rfl
      exact step (regular_act regular taken) (single_act regular single free taken) (patient_tail patient taken) ran

-- Two requests for one key, each in a batch of its own, and neither batch has been answered.
theorem asked_again_in_flight :
    ¬ ∀ (size : Nat) (acts : List Act) (clients : Clients), 0 < size →
      (Clients.mk { batchSize := size } []).run acts = some clients →
      ∀ adapter key, (clients.lookup.unresolved adapter key).length ≤ 1 := by
  intro claimed
  have one := claimed 1 [.request 7 [1], .request 7 [1]] _ (by decide) rfl 7 [1]
  exact absurd one (by decide)

-- The unresolved lookups of a key are one at most in the batch that is being collected, and one at most in each batch
-- on its way.
theorem one_unresolved_per_batch {size : Nat} (sized : 0 < size) :
    ∃ lookup, BatchLookup.create size = .ok lookup
      ∧ ∀ (acts : List Act) (clients : Clients), (Clients.mk lookup []).run acts = some clients →
        ∀ (adapter : AdapterId) (key : Bytes),
        (clients.lookup.unresolved adapter key).Nodup
        ∧ (∀ request, request ∈ clients.lookup.unresolved adapter key
          ↔ ⟨adapter, key, request⟩ ∈ (Clients.mk lookup []).history acts ∧ clients.lookup.look request = none)
        ∧ (clients.lookup.unresolved adapter key).length
          = (if key ∈ clients.lookup.waitingKeys adapter then 1 else 0) + (clients.lookup.inFlight adapter key).length
        ∧ (∀ batch ∈ clients.lookup.batches, batch.keys.Nodup)
        ∧ (key ∈ clients.lookup.waitingKeys adapter →
          ∃ request ∈ clients.lookup.unresolved adapter key, clients.lookup.request adapter key = (request, clients.lookup))
        ∧ (key ∉ clients.lookup.waitingKeys adapter →
          ((clients.lookup.request adapter key).2.unresolved adapter key).Perm
            ((clients.lookup.request adapter key).1 :: clients.lookup.unresolved adapter key))
        ∧ ((Clients.mk lookup []).Patient acts adapter key → (clients.lookup.unresolved adapter key).length ≤ 1) := by
  refine ⟨_, BatchLookup.create_sized sized, ?_⟩
  intro acts clients ran adapter key
  have regular : clients.Regular ([] ++ (Clients.mk { batchSize := size } []).history acts) :=
    run_keeps (fun _ _ _ _ regular taken => regular_act regular taken) acts _ clients [] (regular_fresh sized) ran
  rw [List.nil_append] at regular
  exact ⟨BatchLookup.nodup_unresolved regular.numbered adapter key, unresolved_iff regular adapter key,
    BatchLookup.unresolved_count regular.sound regular.custody adapter key,
    fun _ held => BatchLookup.keys_distinct regular.sound held, BatchLookup.joins_unresolved regular.custody,
    BatchLookup.unresolved_asked regular.custody,
    fun patient => single_run (regular_fresh sized) (Nat.zero_le _) patient ran⟩

theorem one_unresolved_per_batch_of_repeats :
    ∃ clients, (Clients.mk { batchSize := 2 } []).run
        [.request 7 [1], .flushAdapter 7, .request 7 [1], .request 7 [1]] = some clients
      ∧ clients.lookup.unresolved 7 [1] = [1, 0]
      ∧ (clients.lookup.unresolved 7 [1]).length = 1 + (clients.lookup.inFlight 7 [1]).length
      ∧ ∃ request ∈ clients.lookup.unresolved 7 [1], clients.lookup.request 7 [1] = (request, clients.lookup) := by
  obtain ⟨lookup, created, holds⟩ := @one_unresolved_per_batch 2 (by decide)
  cases created
  obtain ⟨_, _, counted, _, joins, _⟩ := holds
    [.request 7 [1], .flushAdapter 7, .request 7 [1], .request 7 [1]] _ rfl 7 [1]
  exact ⟨_, rfl, by decide, counted, joins (by decide)⟩

end Clients

end ThinScan
