import Mathlib.Data.List.Induction
import ThinScan.Lookup
import ThinScan.Proofs.Ledger

set_option autoImplicit false

namespace ThinScan

namespace Params

variable {given sent : List Params} {read : Prop} {held : Option Params} {Service Other : Type}

structure Grants (setParams : Params → Except Error Service) (holding : Params → Service) (free : Prop) : Prop where
  granted : free → ∀ params, setParams params = .ok (holding params)
  refused : ¬free → ∀ params, setParams params = .error .paramsAlreadyBound

theorem Grants.map {setParams : Params → Except Error Service} {holding : Params → Service} {free : Prop}
    (grants : Grants setParams holding free) (wrap : Service → Other) :
    Grants (fun params => (setParams params).map wrap) (fun params => wrap (holding params)) free := by
  refine ⟨fun free params => ?_, fun taken params => ?_⟩
  · rw [grants.granted free params]
    rfl
  · rw [grants.refused taken params]
    rfl

def accepted (answer : Except Error Service) (params : Params) : List Params :=
  match answer with
  | .ok _ => [params]
  | .error _ => []

-- What a service holds, against the params it was given so far, whether they have been read, and those that its
-- fetches were made with.
structure Settled (given : List Params) (read : Prop) (sent : List Params) (held : Option Params) : Prop where
  unsettled : held = none ↔ given = [] ∧ ¬read ∧ sent = []
  chosen : held.getD {} = given.head?.getD {}
  uniform : ∀ params ∈ sent, params = given.head?.getD {}

theorem settled_fresh {read : Prop} (unread : ¬read) : Settled [] read [] none :=
  ⟨⟨fun _ => ⟨rfl, unread, rfl⟩, fun _ => rfl⟩, rfl, nofun⟩

theorem settled_used (settled : Settled given read sent held) {readLater : Prop} (fetch : List Params)
    (used : readLater ∨ fetch ≠ []) (bound : ∀ params ∈ fetch, params = held.getD {}) :
    Settled given readLater (sent ++ fetch) (some (held.getD {})) := by
  refine ⟨⟨nofun, fun free => ?_⟩, settled.chosen, fun params member => ?_⟩
  · obtain ⟨_, unread, unsent⟩ := free
    exact absurd (used.resolve_left unread) (not_not_intro (List.append_eq_nil_iff.mp unsent).2)
  · rcases List.mem_append.mp member with earlier | now
    · exact settled.uniform params earlier
    · exact (bound params now).trans settled.chosen

theorem settled_given (settled : Settled given read sent none) {readLater : Prop} (params : Params) :
    Settled (given ++ [params]) readLater sent (some params) := by
  obtain ⟨ungiven, _, unsent⟩ := settled.unsettled.mp rfl
  subst ungiven unsent
  exact ⟨⟨nofun, fun free => absurd free.1 (List.cons_ne_nil _ _)⟩, rfl, nofun⟩

theorem settled_kept (settled : Settled given read sent held) {readLater : Prop} (same : readLater ↔ read) :
    Settled given readLater sent held := by
  obtain ⟨unsettled, chosen, uniform⟩ := settled
  exact ⟨by rw [same]; exact unsettled, chosen, uniform⟩

theorem grants_of_settled (settled : Settled given read sent held) {setParams : Params → Except Error Service}
    {holding : Params → Service}
    (answers : ∀ params, setParams params = if held.isNone then .ok (holding params) else .error .paramsAlreadyBound) :
    Grants setParams holding (given = [] ∧ ¬read ∧ sent = []) := by
  refine ⟨fun free params => ?_, fun taken params => ?_⟩
  · rw [answers, settled.unsettled.mpr free]
    rfl
  · rw [answers, if_neg]
    exact fun unheld => taken (settled.unsettled.mp (Option.isNone_iff_eq_none.mp unheld))

end Params

namespace PointLookup

variable {lookup : PointLookup}

inductive Call where
  | setParams (params : Params)
  | readParams
  | get (fetch : FetchKey) (adapter : AdapterId) (dataId : Bytes)

def holding (lookup : PointLookup) (params : Params) : PointLookup := { lookup with params := some params }

def called (lookup : PointLookup) : Call → PointLookup
  | .setParams params =>
      match lookup.setParams params with
      | .ok bound => bound
      | .error _ => lookup
  | .readParams => lookup.bind
  | .get fetch adapter dataId => (lookup.get fetch adapter dataId).2

def calledAll (lookup : PointLookup) (calls : List Call) : PointLookup := calls.foldl called lookup

def accepted (lookup : PointLookup) : Call → List Params
  | .setParams params => Params.accepted (lookup.setParams params) params
  | _ => []

def given : PointLookup → List Call → List Params
  | _, [] => []
  | lookup, call :: rest => lookup.accepted call ++ given (lookup.called call) rest

def sent (lookup : PointLookup) : List Params := lookup.fetches.map KeyFetch.params

theorem setParams_eq (lookup : PointLookup) (params : Params) :
    lookup.setParams params
      = if lookup.params.isNone then .ok (lookup.holding params) else .error .paramsAlreadyBound := by
  unfold setParams
  split <;> (rename_i held; rw [held]; rfl)

theorem given_append (lookup : PointLookup) (calls more : List Call) :
    lookup.given (calls ++ more) = lookup.given calls ++ (lookup.calledAll calls).given more := by
  induction calls generalizing lookup with
  | nil => rfl
  | cons first rest step =>
      rw [List.cons_append, given, step, given, List.append_assoc]
      rfl

theorem calledAll_concat (lookup : PointLookup) (calls : List Call) (call : Call) :
    lookup.calledAll (calls ++ [call]) = (lookup.calledAll calls).called call := by
  rw [calledAll, List.foldl_append]
  rfl

theorem get_binds (lookup : PointLookup) (fetch : FetchKey) (adapter : AdapterId) (dataId : Bytes) :
    (lookup.get fetch adapter dataId).2.params = some lookup.bound
      ∧ (lookup.get fetch adapter dataId).2.sent = lookup.sent ++ [lookup.bound] := by
  unfold get
  dsimp only
  split <;> exact ⟨rfl, by simp [sent]⟩

def Settled (calls : List Call) (given : List Params) (lookup : PointLookup) : Prop :=
  Params.Settled given (Call.readParams ∈ calls) lookup.sent lookup.params

theorem settled_called {calls : List Call} {given : List Params} (settled : Settled calls given lookup) (call : Call) :
    Settled (calls ++ [call]) (given ++ lookup.accepted call) (lookup.called call) := by
  cases call with
  | setParams params =>
      have unread : Call.readParams ∈ calls ++ [Call.setParams params] ↔ Call.readParams ∈ calls := by simp
      cases held : lookup.params with
      | none =>
          have set : lookup.setParams params = .ok (lookup.holding params) := by rw [setParams_eq, held]; rfl
          rw [Settled, held] at settled
          simp only [Settled, called, accepted, set, Params.accepted]
          exact Params.settled_given settled params
      | some bound =>
          have refused : lookup.setParams params = .error .paramsAlreadyBound := by rw [setParams_eq, held]; rfl
          simp only [Settled, called, accepted, refused, Params.accepted, List.append_nil]
          exact Params.settled_kept settled unread
  | readParams =>
      have read : Call.readParams ∈ calls ++ [Call.readParams] := List.mem_append_right _ List.mem_cons_self
      have used := Params.settled_used settled [] (.inl read) nofun
      rw [List.append_nil] at used
      exact (List.append_nil given).symm ▸ used
  | get fetch adapter dataId =>
      obtain ⟨held, sends⟩ := get_binds lookup fetch adapter dataId
      simp only [Settled, called, accepted, List.append_nil, held, sends]
      exact Params.settled_used settled _ (.inr (List.cons_ne_nil _ _)) (fun params member => List.mem_singleton.mp member)

theorem settled_calls (calls : List Call) : Settled calls (given {} calls) (calledAll {} calls) := by
  induction calls using List.reverseRecOn with
  | nil => exact Params.settled_fresh List.not_mem_nil
  | append_singleton calls call settled =>
      rw [given_append, calledAll_concat, given, given, List.append_nil]
      exact settled_called settled call

def Free (calls : List Call) : Prop :=
  given {} calls = [] ∧ Call.readParams ∉ calls ∧ (calledAll {} calls).fetches = []

theorem grants_calls (calls : List Call) :
    Params.Grants (calledAll {} calls).setParams (calledAll {} calls).holding (Free calls) := by
  have grants := Params.grants_of_settled (settled_calls calls) (setParams_eq _)
  rwa [sent, List.map_eq_nil_iff] at grants

theorem fetches_of_calls (calls : List Call) :
    ∀ fetch ∈ (calledAll {} calls).fetches, fetch.params = (given {} calls).head?.getD {} :=
  fun _ member => (settled_calls calls).uniform _ (List.mem_map_of_mem member)

theorem given_of_free {calls : List Call} (free : Free calls) (params : Params) (more : List Call) :
    (given {} (calls ++ .setParams params :: more)).head?.getD {} = params := by
  rw [given_append, free.1, given, accepted, (grants_calls calls).granted free params]
  rfl

end PointLookup

namespace BatchLookup

variable {lookup later : BatchLookup}

def holding (lookup : BatchLookup) (params : Params) : BatchLookup := { lookup with params := some params }

def sent (lookup : BatchLookup) : List Params := lookup.batches.map Batch.params

theorem setParams_eq (lookup : BatchLookup) (params : Params) :
    lookup.setParams params
      = if lookup.params.isNone then .ok (lookup.holding params) else .error .paramsAlreadyBound := by
  unfold setParams
  split <;> (rename_i held; rw [held]; rfl)

inductive Fetches (lookup later : BatchLookup) : Prop
  | still (held : later.params = lookup.params) (sends : later.sent = lookup.sent)
  | dispatched (held : later.params = some lookup.bound) (sends : later.sent = lookup.sent ++ [lookup.bound])

theorem fetches_flushAdapter (lookup : BatchLookup) (adapter : AdapterId) :
    Fetches lookup (lookup.flushAdapter adapter) := by
  unfold flushAdapter
  split
  · exact .still rfl rfl
  · exact .dispatched rfl List.map_append

theorem fetches_request (lookup : BatchLookup) (adapter : AdapterId) (key : Bytes) :
    Fetches lookup (lookup.request adapter key).2 := by
  unfold request
  split
  · exact .still rfl rfl
  · dsimp only
    split
    · cases fetches_flushAdapter (lookup.enqueue adapter key) adapter with
      | still held sends => exact .still held sends
      | dispatched held sends => exact .dispatched held sends
    · exact .still rfl rfl

theorem fetches_retire (lookup : BatchLookup) : Fetches lookup lookup.retire.2 := by
  unfold retire
  split <;> exact .still rfl rfl

theorem fetches_complete {index : Nat} {fetched : Fetched} (taken : lookup.complete index fetched = some later) :
    Fetches lookup later := by
  simp only [complete, Option.bind_eq_bind, Option.bind_eq_some_iff] at taken
  obtain ⟨batch, held, taken⟩ := taken
  split at taken <;> cases taken
  exact .still rfl (map_set_same _ _ held rfl)

theorem fetches_reply {index : Nat} (taken : lookup.reply index = some later) : Fetches lookup later := by
  simp only [reply, Option.bind_eq_bind, Option.bind_eq_some_iff] at taken
  obtain ⟨batch, held, taken⟩ := taken
  split at taken <;> cases taken
  exact .still rfl (map_set_same _ _ held rfl)

theorem fetches_look {request : RequestId} {found : Option Values} (settled : lookup.look request = some (found, later)) :
    Fetches lookup later := by
  unfold look at settled
  split at settled
  · cases settled
  · cases settled; exact .still rfl rfl
  · split at settled <;> (cases settled; exact .still rfl rfl)

end BatchLookup

namespace Clients

variable {clients later : Clients}

def fresh (size : Nat) : Clients := { lookup := { batchSize := size } }

def accepted (clients : Clients) : Act → List Params
  | .setParams params => Params.accepted (clients.lookup.setParams params) params
  | _ => []

def given : Clients → List Act → List Params
  | _, [] => []
  | clients, action :: rest =>
      match clients.act action with
      | none => []
      | some later => clients.accepted action ++ given later rest

theorem run_append (clients : Clients) (acts more : List Act) :
    clients.run (acts ++ more) = (clients.run acts).bind (fun later => later.run more) :=
  List.foldlM_append

theorem given_append {acts : List Act} (ran : clients.run acts = some later) (more : List Act) :
    clients.given (acts ++ more) = clients.given acts ++ later.given more := by
  induction acts generalizing clients with
  | nil => cases ran; rfl
  | cons action rest step =>
      obtain ⟨next, taken, ran⟩ := Option.bind_eq_some_iff.mp ((run_cons clients action rest).symm.trans ran)
      simp only [List.cons_append, given, taken, step ran, List.append_assoc]

def Settled (acts : List Act) (given : List Params) (clients : Clients) : Prop :=
  Params.Settled given (Act.readParams ∈ acts) clients.lookup.sent clients.lookup.params

theorem fetches_act {action : Act} (taken : clients.act action = some later)
    (unset : ∀ params, action ≠ .setParams params) (unread : action ≠ .readParams) :
    clients.lookup.Fetches later.lookup := by
  cases move_of_act taken with
  | request adapter key => exact BatchLookup.fetches_request _ _ _
  | flushAdapter adapter => exact BatchLookup.fetches_flushAdapter _ _
  | next listed member => exact BatchLookup.fetches_flushAdapter _ _
  | exhaust others => exact BatchLookup.fetches_retire _
  | exhaustLast last => exact BatchLookup.fetches_retire _
  | setParams set => exact absurd rfl (unset _)
  | readParams => exact absurd rfl unread
  | complete given => exact BatchLookup.fetches_complete given
  | reply given => exact BatchLookup.fetches_reply given
  | look settled => exact BatchLookup.fetches_look settled
  | _ => exact .still rfl rfl

theorem settled_fetches {acts : List Act} {given : List Params} (settled : Settled acts given clients)
    (fetches : clients.lookup.Fetches later.lookup) {action : Act} (unread : action ≠ .readParams) :
    Settled (acts ++ [action]) given later := by
  have same : Act.readParams ∈ acts ++ [action] ↔ Act.readParams ∈ acts := by
    simp only [List.mem_append, List.mem_singleton, unread.symm, or_false]
  cases fetches with
  | still held sends =>
      rw [Settled, held, sends]
      exact Params.settled_kept settled same
  | dispatched held sends =>
      rw [Settled, held, sends]
      exact Params.settled_used settled _ (.inr (List.cons_ne_nil _ _)) (fun params member => List.mem_singleton.mp member)

theorem settled_act {acts : List Act} {given : List Params} (settled : Settled acts given clients) {action : Act}
    (taken : clients.act action = some later) : Settled (acts ++ [action]) (given ++ clients.accepted action) later := by
  cases action with
  | setParams params =>
      cases taken
      have unread : Act.readParams ∈ acts ++ [Act.setParams params] ↔ Act.readParams ∈ acts := by simp
      cases held : clients.lookup.params with
      | none =>
          have set : clients.lookup.setParams params = .ok (clients.lookup.holding params) := by
            rw [BatchLookup.setParams_eq, held]
            rfl
          rw [Settled, held] at settled
          simp only [Settled, setParams, accepted, set, Params.accepted]
          exact Params.settled_given settled params
      | some bound =>
          have refused : clients.lookup.setParams params = .error .paramsAlreadyBound := by
            rw [BatchLookup.setParams_eq, held]
            rfl
          simp only [Settled, setParams, accepted, refused, Params.accepted, List.append_nil]
          exact Params.settled_kept settled unread
  | readParams =>
      cases taken
      have read : Act.readParams ∈ acts ++ [Act.readParams] := List.mem_append_right _ List.mem_cons_self
      have used := Params.settled_used settled [] (.inl read) nofun
      rw [List.append_nil] at used
      exact (List.append_nil given).symm ▸ used
  | _ =>
      have ungiven := List.append_nil given
      exact ungiven.symm ▸ settled_fetches settled (fetches_act taken nofun nofun) nofun

theorem settled_run {size : Nat} {acts : List Act} (ran : (fresh size).run acts = some clients) :
    Settled acts ((fresh size).given acts) clients := by
  induction acts using List.reverseRecOn generalizing clients with
  | nil =>
      cases ran
      exact Params.settled_fresh List.not_mem_nil
  | append_singleton acts action settled =>
      rw [run_append] at ran
      obtain ⟨before, ran, taken⟩ := Option.bind_eq_some_iff.mp ran
      have step : before.act action = some clients := by simpa [run] using taken
      have given : before.given [action] = before.accepted action := by simp [Clients.given, step]
      rw [given_append ran, given]
      exact settled_act (settled ran) step

def Free (size : Nat) (acts : List Act) (clients : Clients) : Prop :=
  (fresh size).given acts = [] ∧ Act.readParams ∉ acts ∧ clients.lookup.batches = []

variable {size : Nat} {acts : List Act}

theorem grants_run (ran : (fresh size).run acts = some clients) :
    Params.Grants clients.lookup.setParams clients.lookup.holding (Free size acts clients) := by
  have grants := Params.grants_of_settled (settled_run ran) (BatchLookup.setParams_eq _)
  rwa [BatchLookup.sent, List.map_eq_nil_iff] at grants

theorem batches_of_run (ran : (fresh size).run acts = some clients) :
    ∀ batch ∈ clients.lookup.batches, batch.params = ((fresh size).given acts).head?.getD {} :=
  fun _ member => (settled_run ran).uniform _ (List.mem_map_of_mem member)

theorem batches_of_free (ran : (fresh size).run acts = some clients) (free : Free size acts clients) {params : Params}
    {more : List Act} {last : Clients} (goes : clients.run (.setParams params :: more) = some last) :
    ∀ batch ∈ last.lookup.batches, batch.params = params := by
  have whole : (fresh size).run (acts ++ .setParams params :: more) = some last := by rw [run_append, ran]; exact goes
  have chosen : ((fresh size).given (acts ++ .setParams params :: more)).head?.getD {} = params := by
    rw [given_append ran, free.1, given, act, accepted, (grants_run ran).granted free params]
    rfl
  intro batch member
  exact (batches_of_run whole batch member).trans chosen

end Clients

-- Params are accepted exactly if nothing has settled them before; a refusal changes nothing. Every fetch is made with
-- the params that were set, or with the defaults if none were.
theorem params_bound_once {calls : List PointLookup.Call} {lookup : PointLookup}
    (called : PointLookup.calledAll {} calls = lookup) {size : Nat} {acts : List Clients.Act} {clients : Clients}
    (ran : (Clients.fresh size).run acts = some clients) :
    (Params.Grants lookup.setParams lookup.holding (PointLookup.Free calls)
      ∧ Params.Grants (fun params => (Lookup.point lookup).setParams params)
        (fun params => Lookup.point (lookup.holding params)) (PointLookup.Free calls)
      ∧ (¬PointLookup.Free calls → ∀ params, lookup.called (.setParams params) = lookup)
      ∧ (∀ fetch ∈ lookup.fetches, fetch.params = (PointLookup.given {} calls).head?.getD {})
      ∧ lookup.bound = (PointLookup.given {} calls).head?.getD {}
      ∧ (PointLookup.Free calls → ∀ params more,
          ∀ fetch ∈ (lookup.calledAll (.setParams params :: more)).fetches, fetch.params = params))
    ∧ Params.Grants clients.lookup.setParams clients.lookup.holding (Clients.Free size acts clients)
    ∧ Params.Grants (fun params => (Lookup.batch clients.lookup).setParams params)
      (fun params => Lookup.batch (clients.lookup.holding params)) (Clients.Free size acts clients)
    ∧ (¬Clients.Free size acts clients → ∀ params, clients.act (.setParams params) = some clients)
    ∧ (∀ batch ∈ clients.lookup.batches, batch.params = ((Clients.fresh size).given acts).head?.getD {})
    ∧ clients.lookup.bound = ((Clients.fresh size).given acts).head?.getD {}
    ∧ (Clients.Free size acts clients → ∀ params more last, clients.run (.setParams params :: more) = some last →
        ∀ batch ∈ last.lookup.batches, batch.params = params) := by
  subst called
  refine ⟨?_, Clients.grants_run ran, (Clients.grants_run ran).map Lookup.batch, ?_, Clients.batches_of_run ran,
    (Clients.settled_run ran).chosen, fun free params more last goes => Clients.batches_of_free ran free goes⟩
  · have grants := PointLookup.grants_calls calls
    refine ⟨grants, grants.map Lookup.point, ?_, PointLookup.fetches_of_calls calls,
      (PointLookup.settled_calls calls).chosen, ?_⟩
    · intro taken params
      rw [PointLookup.called, grants.refused taken params]
    · intro free params more fetch member
      rw [← PointLookup.given_of_free free params more]
      apply PointLookup.fetches_of_calls
      rwa [PointLookup.calledAll, List.foldl_append]
  · intro taken params
    rw [Clients.act, Clients.setParams, (Clients.grants_run ran).refused taken params]

theorem params_bound_once_of_pending :
    ∃ clients, (Clients.fresh 3).run [.request 7 [1], .request 7 [2]] = some clients
      ∧ clients.lookup.setParams ⟨some ⟨7, ["name"], [1]⟩, none⟩
        = .ok (clients.lookup.holding ⟨some ⟨7, ["name"], [1]⟩, none⟩)
      ∧ (∃ last, clients.run [.setParams ⟨some ⟨7, ["name"], [1]⟩, none⟩, .setParams {}, .request 7 [3]] = some last
        ∧ last.lookup.batches.map Batch.keys = [[[1], [2], [3]]]
        ∧ ∀ batch ∈ last.lookup.batches, batch.params = ⟨some ⟨7, ["name"], [1]⟩, none⟩)
      ∧ (PointLookup.calledAll {} [.get (fun _ _ _ => .ok none) 7 [1]]).setParams {} = .error .paramsAlreadyBound := by
  obtain ⟨point, grants, _, _, _, _, governs⟩ :=
    @params_bound_once [.get (fun _ _ _ => .ok none) 7 [1]] _ rfl 3 [.request 7 [1], .request 7 [2]] _ rfl
  refine ⟨_, rfl, grants.granted ⟨rfl, by simp, rfl⟩ _, ⟨_, rfl, by decide, ?_⟩, ?_⟩
  · exact governs ⟨rfl, by simp, rfl⟩ _ [.setParams {}, .request 7 [3]] _ rfl
  · exact point.1.refused (fun free => List.cons_ne_nil _ _ free.2.2) {}

end ThinScan
