import ThinScan.Proofs.LookupStep
import ThinScan.Proofs.Places

/-!
Every request ever made is in one place: it waits, or its batch has yet to answer it, or it has its reply.
-/

set_option autoImplicit false

namespace ThinScan

namespace Fetched

theorem assign_requests (entries : List Entry) (found : List (Option Values)) :
    (assign entries found).map Prod.fst = entries.map Entry.request := by
  induction entries generalizing found with
  | nil => rfl
  | cons entry rest step =>
      cases found with
      | nil => rw [assign, List.map_cons, List.map_cons, step]
      | cons value others => rw [assign, List.map_cons, List.map_cons, step]

theorem replies_requests (batch : Batch) (fetched : Fetched) :
    (fetched.replies batch).map Prod.fst = batch.entries.map Entry.request := by
  cases fetched with
  | results found => exact assign_requests batch.entries found
  | failed cause => simp only [replies, List.map_map, Function.comp_def]
  | crashed => simp only [replies, List.map_map, Function.comp_def]

end Fetched

namespace Batch

def unanswered (batch : Batch) : List RequestId :=
  match batch.progress with
  | .fetching => batch.entries.map Entry.request
  | .replying rest => rest.map Prod.fst

end Batch

namespace BatchLookup

variable {lookup later : BatchLookup}

def requestsOf (pending : Table AdapterId (List Entry)) : List RequestId :=
  pending.entries.flatMap (fun held => held.2.map Entry.request)

def unanswered (lookup : BatchLookup) : List RequestId := lookup.batches.flatMap Batch.unanswered

def answered (lookup : BatchLookup) : List RequestId := lookup.replies.map Prod.fst

def places (lookup : BatchLookup) : List RequestId :=
  requestsOf lookup.pending ++ lookup.unanswered ++ lookup.answered

structure Custody (lookup : BatchLookup) : Prop where
  ascending : lookup.pending.Ascending
  whole : lookup.places.Perm (List.range lookup.requests)

section Views

variable {α : Type} (view : AdapterId → Entry → α)

def viewed (pending : Table AdapterId (List Entry)) : List α :=
  pending.entries.flatMap (fun held => held.2.map (view held.1))

theorem viewed_split (ascending : lookup.pending.Ascending) (adapter : AdapterId) :
    (viewed view lookup.pending).Perm
      ((lookup.waiting adapter).map (view adapter) ++ viewed view (lookup.pending.erase adapter)) := by
  have split := (Table.find_perm ascending adapter).flatMap_right (fun held => held.2.map (view held.1))
  rw [List.flatMap_append] at split
  refine split.trans (.append_right _ ?_)
  rw [waiting]
  cases lookup.pending.find? adapter with
  | none => exact .refl _
  | some entries => simp only [Option.map_some, Option.toList_some, List.flatMap_singleton, Option.getD_some,
      List.Perm.refl]

theorem viewed_enqueue (ascending : lookup.pending.Ascending) (adapter : AdapterId) (key : Bytes) :
    (viewed view (lookup.enqueue adapter key).pending).Perm
      (view adapter ⟨key, lookup.requests⟩ :: viewed view lookup.pending) := by
  have inserted := (Table.insert_perm ascending adapter (lookup.waiting adapter ++ [⟨key, lookup.requests⟩])).flatMap_right
    (fun held => held.2.map (view held.1))
  rw [List.flatMap_cons, List.map_append, List.append_assoc] at inserted
  exact inserted.trans (List.perm_middle.trans ((viewed_split view ascending adapter).symm.cons _))

end Views

theorem requestsOf_split (ascending : lookup.pending.Ascending) (adapter : AdapterId) :
    (requestsOf lookup.pending).Perm
      ((lookup.waiting adapter).map Entry.request ++ requestsOf (lookup.pending.erase adapter)) :=
  viewed_split (fun _ => Entry.request) ascending adapter

theorem requestsOf_enqueue (ascending : lookup.pending.Ascending) (adapter : AdapterId) (key : Bytes) :
    (requestsOf (lookup.enqueue adapter key).pending).Perm (lookup.requests :: requestsOf lookup.pending) :=
  viewed_enqueue (fun _ => Entry.request) ascending adapter key

theorem custody_enqueue (custody : lookup.Custody) (adapter : AdapterId) (key : Bytes) :
    (lookup.enqueue adapter key).Custody := by
  refine ⟨Table.ascending_insert custody.ascending _ _, ?_⟩
  have added := requestsOf_enqueue custody.ascending adapter key
  have moved : (lookup.enqueue adapter key).places.Perm (lookup.requests :: lookup.places) :=
    (added.append_right _).append_right _
  have counted : List.range (lookup.enqueue adapter key).requests = List.range lookup.requests ++ [lookup.requests] :=
    List.range_succ
  rw [counted]
  exact moved.trans ((custody.whole.cons _).trans (List.perm_append_singleton _ _).symm)

theorem custody_flushAdapter (custody : lookup.Custody) (adapter : AdapterId) :
    (lookup.flushAdapter adapter).Custody := by
  unfold flushAdapter
  split
  · exact custody
  · rename_i entry rest something
    refine ⟨Table.ascending_erase custody.ascending adapter, .trans ?_ custody.whole⟩
    have split := requestsOf_split custody.ascending adapter
    rw [something] at split
    refine .append_right _ (.trans ?_ (split.append_right _).symm)
    simp only [dispatch, unanswered, List.flatMap_append, List.flatMap_singleton, Batch.unanswered]
    rw [← List.append_assoc, List.append_assoc (List.map _ _)]
    exact List.perm_append_comm

theorem unanswered_set {index : Nat} {batch fresh : Batch} {told : List RequestId}
    (held : lookup.batches[index]? = some batch) (batches : later.batches = lookup.batches.set index fresh)
    (exchanged : batch.unanswered = told ++ fresh.unanswered) :
    (later.unanswered ++ told).Perm lookup.unanswered := by
  have set := flatMap_set_perm Batch.unanswered fresh held
  rw [← batches, exchanged, ← List.append_assoc] at set
  exact (List.perm_append_right_iff _).mp set

theorem custody_of_batch {told : List RequestId} (custody : lookup.Custody)
    (pending : later.pending = lookup.pending) (requests : later.requests = lookup.requests)
    (replies : later.answered = told ++ lookup.answered) (moved : (later.unanswered ++ told).Perm lookup.unanswered) :
    later.Custody := by
  refine ⟨pending ▸ custody.ascending, ?_⟩
  have regrouped : later.places = requestsOf lookup.pending ++ (later.unanswered ++ told) ++ lookup.answered := by
    rw [places, pending, replies]
    simp only [List.append_assoc]
  rw [regrouped, requests]
  exact ((moved.append_left _).append_right _).trans custody.whole

theorem custody_step {cause : Cause} (custody : lookup.Custody) (step : Step cause lookup later) :
    later.Custody := by
  cases step with
  | queue => exact custody_enqueue custody _ _
  | fill => exact custody_flushAdapter (custody_enqueue custody _ _) _
  | flush => exact custody_flushAdapter custody _
  | @complete _ _ index batch fetched held fetching batches size pending replies requests =>
      have exchanged : batch.unanswered = [] ++ (fetched.replies batch).map Prod.fst := by
        rw [Fetched.replies_requests, List.nil_append, Batch.unanswered, fetching]
      have answered : later.answered = [] ++ lookup.answered := congrArg (List.map Prod.fst) replies
      exact custody_of_batch custody pending requests answered (unanswered_set held batches exchanged)
  | @reply _ _ index batch next rest held replying batches size pending replies requests =>
      have exchanged : batch.unanswered = [next.1] ++ rest.map Prod.fst := by
        rw [Batch.unanswered, replying]
        rfl
      have answered : later.answered = [next.1] ++ lookup.answered := congrArg (List.map Prod.fst) replies
      exact custody_of_batch custody pending requests answered (unanswered_set held batches exchanged)
  | quiet batches size pending replies requests =>
      have answered : later.answered = [] ++ lookup.answered := congrArg (List.map Prod.fst) replies
      have unanswered : later.unanswered = lookup.unanswered := congrArg (List.flatMap _) batches
      exact custody_of_batch custody pending requests answered (by rw [unanswered, List.append_nil])

theorem custody_of_empty (pending : lookup.pending = Table.empty) (batches : lookup.batches = [])
    (replies : lookup.replies = []) (requests : lookup.requests = 0) : lookup.Custody := by
  refine ⟨pending ▸ Table.ascending_empty, ?_⟩
  rw [places, unanswered, answered, pending, batches, replies, requests]
  exact .refl _

theorem requests_distinct (custody : lookup.Custody) : lookup.places.Nodup :=
  custody.whole.nodup_iff.mpr List.nodup_range

theorem reply_kept {cause : Cause} {request : RequestId} {reply : Reply} (custody : lookup.Custody)
    (step : Step cause lookup later) (known : lookup.reply? request = some reply) :
    later.reply? request = some reply := by
  have stored (replies : later.replies = lookup.replies) : later.reply? request = some reply := by
    rw [reply?, replies]
    exact known
  cases step with
  | queue => exact known
  | fill => exact stored (replies_flushAdapter _ _)
  | flush => exact stored (replies_flushAdapter _ _)
  | complete held fetching batches size pending replies => exact stored replies
  | @reply _ _ index batch next rest held replying batches size pending replies =>
      have first : next.1 ∈ lookup.unanswered := by
        refine List.mem_flatMap.mpr ⟨batch, List.mem_of_getElem? held, ?_⟩
        rw [Batch.unanswered, replying]
        exact List.mem_cons_self
      have given : request ∈ lookup.answered := by
        obtain ⟨before, after, whole, _⟩ := List.lookup_eq_some_iff.mp known
        rw [answered, whole]
        simp
      have different : request ≠ next.1 := fun same =>
        (List.nodup_append.mp (requests_distinct custody)).2.2 next.1 (List.mem_append_right _ first) request given
          same.symm
      rw [reply?, replies, List.lookup_cons, beq_false_of_ne different]
      exact known
  | quiet batches size pending replies => exact stored replies

theorem place_of {request : RequestId} (custody : lookup.Custody) (issued : request < lookup.requests) :
    (∃ adapter, lookup.waiting adapter ≠ [])
      ∨ (∃ (index : Nat) (batch : Batch), lookup.batches[index]? = some batch ∧ batch.progress = .fetching)
      ∨ (∃ (index : Nat) (batch : Batch) (next : RequestId × Reply) (rest : List (RequestId × Reply)),
        lookup.batches[index]? = some batch ∧ batch.progress = .replying (next :: rest))
      ∨ ∃ reply, lookup.reply? request = some reply := by
  have member : request ∈ lookup.places := custody.whole.mem_iff.mpr (List.mem_range.mpr issued)
  rcases List.mem_append.mp member with early | replied
  · rcases List.mem_append.mp early with waits | sent
    · obtain ⟨⟨adapter, entries⟩, held, inside⟩ := List.mem_flatMap.mp waits
      refine .inl ⟨adapter, ?_⟩
      rw [waiting, Table.find_of_mem custody.ascending held]
      intro nothing
      rw [Option.getD_some] at nothing
      rw [nothing] at inside
      cases inside
    · obtain ⟨batch, held, inside⟩ := List.mem_flatMap.mp sent
      obtain ⟨index, found⟩ := List.mem_iff_getElem?.mp held
      cases progress : batch.progress with
      | fetching => exact .inr (.inl ⟨index, batch, found, progress⟩)
      | replying rest =>
          rw [Batch.unanswered, progress] at inside
          cases rest with
          | nil => cases inside
          | cons next rest => exact .inr (.inr (.inl ⟨index, batch, next, rest, found, progress⟩))
  · obtain ⟨given, held, same⟩ := List.mem_map.mp replied
    have known : (lookup.reply? request).isSome := List.lookup_isSome_iff.mpr ⟨given, held, by simp [same]⟩
    exact .inr (.inr (.inr (Option.isSome_iff_exists.mp known)))

theorem waiting_issued (custody : lookup.Custody) {adapter : AdapterId} {entry : Entry}
    (waits : entry ∈ lookup.waiting adapter) : entry.request < lookup.requests := by
  have placed : entry.request ∈ requestsOf lookup.pending :=
    (requestsOf_split custody.ascending adapter).mem_iff.mpr
      (List.mem_append_left _ (List.mem_map_of_mem waits))
  exact List.mem_range.mp
    (custody.whole.mem_iff.mp (List.mem_append_left _ (List.mem_append_left _ placed)))

theorem request_issued (custody : lookup.Custody) (adapter : AdapterId) (key : Bytes) :
    (lookup.request adapter key).1 < (lookup.request adapter key).2.requests := by
  by_cases waits : key ∈ lookup.waitingKeys adapter
  · obtain ⟨entry, member, _, joined⟩ := request_joined waits
    rw [joined]
    exact waiting_issued custody member
  · have step := request_step lookup adapter key
    rw [requestCause, if_neg waits] at step
    rw [requests_step step, request_fresh waits]
    exact Nat.lt_succ_self _

def answer? (lookup : BatchLookup) (request : RequestId) : Option Values :=
  match lookup.reply? request with
  | some (.values found) => found
  | _ => none

theorem look_answer {request : RequestId} {found : Option Values} (settled : lookup.look request = some (found, later)) :
    later.answer? request = found ∧ ∃ reply, later.reply? request = some reply := by
  have given {reply : Reply} (known : later.reply? request = some reply)
      (worth : found = match reply with | .values found => found | .lost _ => none) :
      later.answer? request = found ∧ ∃ reply, later.reply? request = some reply := by
    refine ⟨?_, reply, known⟩
    rw [answer?, known, worth]
    cases reply <;> rfl
  unfold look at settled
  cases known : lookup.reply? request with
  | none =>
      rw [known] at settled
      cases settled
  | some reply =>
      rw [known] at settled
      cases reply with
      | values found => cases settled; exact given known rfl
      | lost event =>
          dsimp only at settled
          split at settled <;> (cases settled; exact given known rfl)

end BatchLookup

end ThinScan
