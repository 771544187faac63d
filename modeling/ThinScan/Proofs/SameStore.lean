import Mathlib.Data.List.Pairwise
import ThinScan.Proofs.Opening
import ThinScan.Shelf

set_option autoImplicit false

namespace ThinScan

namespace Registry

inductive Wanted where
  | memory (name : Text)
  | bucket (name : Text) (anonymous : Bool)
  | disk
deriving DecidableEq, Repr

namespace Wanted

def ofLocation : Location → Wanted
  | .bucket name anonymous _ => .bucket name anonymous
  | .memory name _ => .memory name
  | .disk _ => .disk

def kind : Wanted → Kind
  | memory _ => .memory
  | bucket name anonymous => .bucket name anonymous
  | disk => .disk

end Wanted

def Call.wanted : Call → Except Error Wanted
  | .bucket name anonymous => .ok (.bucket name anonymous)
  | .memory name => .ok (.memory name)
  | .resolve location =>
      match Location.parse location with
      | .error fault => .error fault.error
      | .ok place => .ok (.ofLocation place)

def answer (registry : Registry) : Call → Except Error Handle
  | .bucket name anonymous => .ok (registry.bucket name anonymous).1
  | .memory name => .ok (registry.memory name).1
  | .resolve location => (registry.resolve location).map (fun resolved => resolved.1.1)

def history : Registry → List Call → List (Call × Except Error Handle)
  | _, [] => []
  | registry, call :: rest => (call, registry.answer call) :: history (registry.called call) rest

variable {registry : Registry} {number : Nat}

def kept (registry : Registry) : Wanted → Option Handle
  | .memory name => registry.memories.lookup name
  | .bucket name anonymous => registry.buckets.lookup (name, anonymous)
  | .disk => none

def give (registry : Registry) : Wanted → Handle × Registry
  | .memory name => registry.memory name
  | .bucket name anonymous => registry.bucket name anonymous
  | .disk => registry.disk

theorem store_give (registry : Registry) (place : Location) : registry.store place = registry.give (.ofLocation place) := by
  cases place <;> rfl

theorem answer_of_wanted (registry : Registry) (call : Call) :
    registry.answer call = call.wanted.map (fun wanted => (registry.give wanted).1)
      ∧ registry.called call = (call.wanted.map (fun wanted => (registry.give wanted).2)).toOption.getD registry := by
  cases call with
  | bucket name anonymous => exact ⟨rfl, rfl⟩
  | memory name => exact ⟨rfl, rfl⟩
  | resolve location =>
      simp only [answer, called, resolve, Call.wanted]
      cases Location.parse location with
      | error fault => exact ⟨rfl, rfl⟩
      | ok place =>
          dsimp only
          rw [store_give registry place]
          exact ⟨rfl, rfl⟩

theorem lookup_bucket (registry : Registry) (name : Text) (anonymous : Bool) (other : Text × Bool) :
    (registry.bucket name anonymous).2.buckets.lookup other
      = if other = (name, anonymous) then some (registry.bucket name anonymous).1 else registry.buckets.lookup other := by
  unfold bucket
  cases found : registry.buckets.lookup (name, anonymous) with
  | some handle =>
      by_cases same : other = (name, anonymous)
      · rw [if_pos same, same]
        exact found
      · rw [if_neg same]
  | none =>
      by_cases same : other = (name, anonymous)
      · rw [if_pos same, same]
        exact List.lookup_cons_self
      · rw [if_neg same]
        dsimp only
        rw [List.lookup_cons, beq_false_of_ne same]

theorem memories_bucket (registry : Registry) (name : Text) (anonymous : Bool) :
    (registry.bucket name anonymous).2.memories = registry.memories := by
  unfold bucket
  split <;> rfl

theorem buckets_memory (registry : Registry) (name : Text) :
    (registry.memory name).2.buckets = registry.buckets := by
  unfold memory
  split <;> rfl

theorem kept_give (registry : Registry) (wanted other : Wanted) :
    (registry.give wanted).2.kept other
      = if other = wanted ∧ wanted ≠ .disk then some (registry.give wanted).1 else registry.kept other := by
  cases wanted with
  | memory name =>
      cases other with
      | memory another => simpa [kept, give] using lookup_memory registry name another
      | bucket another anonymous => simp [kept, give, buckets_memory]
      | disk => simp [kept]
  | bucket name anonymous =>
      cases other with
      | memory another => simp [kept, give, memories_bucket]
      | bucket another way => simpa [kept, give] using lookup_bucket registry name anonymous (another, way)
      | disk => simp [kept]
  | disk =>
      rw [if_neg (fun both => both.2 rfl)]
      cases other <;> rfl

theorem give_kept {wanted : Wanted} {handle : Handle} (found : registry.kept wanted = some handle) :
    registry.give wanted = (handle, registry) := by
  cases wanted with
  | memory name =>
      have held : registry.memories.lookup name = some handle := found
      simp only [give, memory, held]
  | bucket name anonymous =>
      have held : registry.buckets.lookup (name, anonymous) = some handle := found
      simp only [give, bucket, held]
  | disk => cases found

theorem give_fresh {wanted : Wanted} (unknown : registry.kept wanted = none) :
    (registry.give wanted).1 = registry.fresh wanted.kind
      ∧ (registry.give wanted).2.number = registry.number
      ∧ (registry.give wanted).2.opened = registry.opened + 1 := by
  cases wanted with
  | memory name =>
      have missing : registry.memories.lookup name = none := unknown
      simp [give, memory, missing, Wanted.kind]
  | bucket name anonymous =>
      have missing : registry.buckets.lookup (name, anonymous) = none := unknown
      simp [give, bucket, missing, Wanted.kind]
  | disk => exact ⟨rfl, rfl, rfl⟩

def Wanted.Shared (wanted other : Wanted) : Prop := wanted = other ∧ wanted ≠ .disk

theorem Wanted.shared_comm (wanted other : Wanted) : wanted.Shared other ↔ other.Shared wanted := by
  constructor <;> exact fun shared => ⟨shared.1.symm, shared.1 ▸ shared.2⟩

abbrev Given := Wanted × Handle

def Given.Apart (given other : Given) : Prop := given.2 = other.2 ↔ given.1.Shared other.1

instance : Std.Symm Given.Apart where
  symm given other apart := by
    unfold Given.Apart at apart ⊢
    rw [eq_comm, apart, Wanted.shared_comm]

structure Kept (number : Nat) (registry : Registry) (past : List Given) : Prop where
  numbered : registry.number = number
  keeps : ∀ wanted handle, registry.kept wanted = some handle ↔ wanted ≠ .disk ∧ (wanted, handle) ∈ past
  issued : ∀ given ∈ past, given.2.registry = number ∧ given.2.serial < registry.opened ∧ given.2.kind = given.1.kind
  apart : past.Pairwise Given.Apart

theorem kept_new (number : Nat) : Kept number (Registry.mk number [] [] 0) [] := by
  refine ⟨rfl, fun wanted handle => ?_, List.forall_mem_nil _, .nil⟩
  cases wanted <;> simp [kept]

variable {past : List Given} {wanted : Wanted}

theorem apart_again (before : Kept number registry past) {handle : Handle}
    (known : registry.kept wanted = some handle) : ∀ given ∈ past, Given.Apart given (wanted, handle) := by
  obtain ⟨stored, held⟩ := (before.keeps wanted handle).mp known
  intro given member
  by_cases same : given = (wanted, handle)
  · rw [same]
    exact ⟨fun _ => ⟨rfl, stored⟩, fun _ => rfl⟩
  · exact before.apart.forall member held same

theorem apart_opened (before : Kept number registry past) (unknown : registry.kept wanted = none) :
    ∀ given ∈ past, Given.Apart given (wanted, registry.fresh wanted.kind) := by
  intro given member
  have older := (before.issued given member).2.1
  constructor
  · intro same
    rw [same] at older
    exact absurd older (Nat.lt_irrefl _)
  · rintro ⟨same, stored⟩
    have known := (before.keeps given.1 given.2).mpr ⟨stored, member⟩
    rw [same, unknown] at known
    cases known

theorem keeps_given (before : Kept number registry past) (other : Wanted) (another : Handle) :
    (registry.give wanted).2.kept other = some another
      ↔ other ≠ .disk ∧ (other, another) ∈ past ++ [(wanted, (registry.give wanted).1)] := by
  rw [kept_give, List.mem_append, List.mem_singleton, Prod.mk.injEq]
  by_cases here : other = wanted ∧ wanted ≠ .disk
  · rw [if_pos here]
    obtain ⟨rfl, stored⟩ := here
    constructor
    · intro same
      exact ⟨stored, .inr ⟨rfl, (Option.some.inj same).symm⟩⟩
    · rintro ⟨_, member | ⟨_, last⟩⟩
      · rw [give_kept ((before.keeps other another).mpr ⟨stored, member⟩)]
      · rw [last]
  · rw [if_neg here, before.keeps]
    constructor
    · exact fun held => ⟨held.1, .inl held.2⟩
    · rintro ⟨stored, member | ⟨same, _⟩⟩
      · exact ⟨stored, member⟩
      · exact absurd ⟨same, same ▸ stored⟩ here

theorem issued_given (before : Kept number registry past) (wanted : Wanted) :
    ∀ given ∈ past ++ [(wanted, (registry.give wanted).1)], given.2.registry = number
      ∧ given.2.serial < (registry.give wanted).2.opened ∧ given.2.kind = given.1.kind := by
  intro given member
  cases known : registry.kept wanted with
  | some handle =>
      obtain ⟨_, held⟩ := (before.keeps wanted handle).mp known
      rw [give_kept known] at member ⊢
      rcases List.mem_append.mp member with earlier | last
      · exact before.issued given earlier
      · rw [List.mem_singleton.mp last]
        exact before.issued _ held
  | none =>
      obtain ⟨opened, _, serial⟩ := give_fresh known
      rw [serial]
      rcases List.mem_append.mp member with earlier | last
      · obtain ⟨numbered, older, kind⟩ := before.issued given earlier
        exact ⟨numbered, Nat.lt_succ_of_lt older, kind⟩
      · rw [List.mem_singleton.mp last, opened]
        exact ⟨before.numbered, Nat.lt_succ_self _, rfl⟩

theorem kept_given (before : Kept number registry past) (wanted : Wanted) :
    Kept number (registry.give wanted).2 (past ++ [(wanted, (registry.give wanted).1)]) := by
  have numbered : (registry.give wanted).2.number = number ∧ ∀ given ∈ past,
      Given.Apart given (wanted, (registry.give wanted).1) := by
    cases known : registry.kept wanted with
    | some handle =>
        rw [give_kept known]
        exact ⟨before.numbered, apart_again before known⟩
    | none =>
        obtain ⟨opened, number, _⟩ := give_fresh known
        rw [opened]
        exact ⟨number.trans before.numbered, apart_opened before known⟩
  refine ⟨numbered.1, keeps_given before, issued_given before wanted, List.pairwise_append.mpr ⟨before.apart, ?_, ?_⟩⟩
  · exact List.pairwise_singleton _ _
  · intro given member now last
    rw [List.mem_singleton.mp last]
    exact numbered.2 given member

def given? (asked : Call × Except Error Handle) : Option Given :=
  match asked.1.wanted, asked.2 with
  | .ok wanted, .ok handle => some (wanted, handle)
  | _, _ => none

theorem kept_called (before : Kept number registry past) (call : Call) :
    Kept number (registry.called call) (past ++ (given? (call, registry.answer call)).toList) := by
  obtain ⟨answered, after⟩ := answer_of_wanted registry call
  cases asked : call.wanted with
  | error cause =>
      have nothing : given? (call, registry.answer call) = none := by simp only [given?, asked]
      rw [nothing, Option.toList_none, List.append_nil, after, asked]
      exact before
  | ok wanted =>
      have something : given? (call, registry.answer call) = some (wanted, (registry.give wanted).1) := by
        simp only [given?, answered, asked, Except.map]
      rw [something, Option.toList_some, after, asked]
      exact kept_given before wanted

theorem kept_history (before : Kept number registry past) (calls : List Call) :
    Kept number (calls.foldl called registry) (past ++ (registry.history calls).filterMap given?) := by
  induction calls generalizing registry past with
  | nil =>
      rw [history, List.filterMap_nil, List.append_nil]
      exact before
  | cons call rest step =>
      have next := step (kept_called before call)
      rw [List.append_assoc] at next
      cases first : given? (call, registry.answer call) with
      | none =>
          rw [first] at next
          rw [history, List.filterMap_cons_none first]
          exact next
      | some given =>
          rw [first] at next
          rw [history, List.filterMap_cons_some first]
          exact next

theorem history_answered {calls : List Call} {asked : Call × Except Error Handle}
    (member : asked ∈ registry.history calls) :
    ∃ before : Registry, asked.2 = asked.1.wanted.map (fun wanted => (before.give wanted).1) := by
  induction calls generalizing registry with
  | nil => cases member
  | cons call rest step =>
      rcases List.mem_cons.mp member with first | later
      · rw [first]
        exact ⟨registry, (answer_of_wanted registry call).1⟩
      · exact step later

theorem given_of_ok {calls : List Call} {asked : Call × Except Error Handle} {handle : Handle}
    (member : asked ∈ registry.history calls) (handed : asked.2 = .ok handle) :
    ∃ wanted, asked.1.wanted = .ok wanted ∧ given? asked = some (wanted, handle) := by
  obtain ⟨before, answered⟩ := history_answered member
  cases wants : asked.1.wanted with
  | error cause =>
      rw [wants, handed] at answered
      cases answered
  | ok wanted => exact ⟨wanted, rfl, by simp only [given?, wants, handed]⟩

theorem ok_of_wanted {calls : List Call} {asked : Call × Except Error Handle} {wanted : Wanted}
    (member : asked ∈ registry.history calls) (wants : asked.1.wanted = .ok wanted) :
    ∃ handle, asked.2 = .ok handle ∧ given? asked = some (wanted, handle) := by
  obtain ⟨before, answered⟩ := history_answered member
  rw [wants] at answered
  exact ⟨_, answered, by simp only [given?, wants, answered, Except.map]⟩

-- Both calls want the same store in memory, or the same bucket in the same way.
def Call.Shares (call other : Call) : Prop :=
  (∃ name, call.wanted = .ok (.memory name) ∧ other.wanted = .ok (.memory name))
    ∨ ∃ name anonymous, call.wanted = .ok (.bucket name anonymous) ∧ other.wanted = .ok (.bucket name anonymous)

theorem Call.shares_iff {call other : Call} {wanted another : Wanted} (wants : call.wanted = .ok wanted)
    (wants_other : other.wanted = .ok another) : call.Shares other ↔ wanted.Shared another := by
  unfold Shares Wanted.Shared
  rw [wants, wants_other]
  cases wanted <;> cases another <;> simp [eq_comm]

theorem history_apart {past : List Given} (before : Kept number registry past) (calls : List Call) :
    (registry.history calls).Pairwise (fun earlier later =>
      ∀ handle another, earlier.2 = .ok handle → later.2 = .ok another →
        (handle = another ↔ earlier.1.Shares later.1)) := by
  have apart := (List.pairwise_append.mp (kept_history before calls).apart).2.1
  refine (List.pairwise_filterMap.mp apart).imp_of_mem ?_
  intro earlier later member member_later apart handle another handed handed_later
  obtain ⟨wanted, wants, given⟩ := given_of_ok member handed
  obtain ⟨wanted_later, wants_later, given_later⟩ := given_of_ok member_later handed_later
  rw [Call.shares_iff wants wants_later]
  exact apart _ given _ given_later

theorem history_issued {past : List Given} (before : Kept number registry past) {calls : List Call}
    {asked : Call × Except Error Handle} (member : asked ∈ registry.history calls) {given : Given}
    (handed : given? asked = some given) : given.2.registry = number ∧ given.2.kind = given.1.kind := by
  have held : given ∈ past ++ (registry.history calls).filterMap given? :=
    List.mem_append_right _ (List.mem_filterMap.mpr ⟨asked, member, handed⟩)
  obtain ⟨numbered, _, kind⟩ := (kept_history before calls).issued given held
  exact ⟨numbered, kind⟩

theorem called_of_failed {call : Call} {cause : Error} (failed : registry.answer call = .error cause) :
    registry.called call = registry := by
  obtain ⟨answered, after⟩ := answer_of_wanted registry call
  cases wants : call.wanted with
  | error other => rw [after, wants]; rfl
  | ok wanted =>
      rw [answered, wants] at failed
      cases failed

end Registry

theorem Shelf.registry_openAt (shelf : Shelf) (location : Text) (config : Config) :
    (∀ cause, (shelf.openAt location config).1 = .failed cause → (shelf.openAt location config).2 = shelf)
      ∧ ∀ index, (shelf.openAt location config).1 = .opened index →
        (shelf.openAt location config).2.depot.registry = shelf.depot.registry.called (.resolve location) := by
  unfold openAt
  cases opening : shelf.depot.openAt location config with
  | error cause => exact ⟨fun _ _ => rfl, nofun⟩
  | ok opened =>
      refine ⟨nofun, fun _ _ => ?_⟩
      simp only [Depot.openAt, bind, Except.bind] at opening
      split at opening
      · cases opening
      · cases resolved : shelf.depot.registry.resolve location with
        | error cause =>
            rw [resolved] at opening
            cases opening
        | ok found =>
            rw [resolved] at opening
            cases opening
            simp only [Registry.called, resolved]

namespace Registry

-- Those calls are handed one store that want the same named store in memory, or the same bucket with the same way of
-- access, whatever else is asked for in between.
theorem same_store (number : Nat) (calls : List Call) :
    ((Registry.mk number [] [] 0).history calls).Pairwise (fun earlier later =>
      ∀ handle another, earlier.2 = .ok handle → later.2 = .ok another →
        (handle = another ↔ earlier.1.Shares later.1) ∧ (later.1.wanted = .ok .disk → handle ≠ another))
    ∧ (∀ asked ∈ (Registry.mk number [] [] 0).history calls, ∀ wanted, asked.1.wanted = .ok wanted →
        ∃ handle, asked.2 = .ok handle ∧ handle.kind = wanted.kind)
    ∧ (∀ call cause, (calls.foldl called (Registry.mk number [] [] 0)).answer call = .error cause →
        (calls.foldl called (Registry.mk number [] [] 0)).called call = calls.foldl called (Registry.mk number [] [] 0))
    ∧ (∀ (shelf : Shelf) location config,
        (∀ cause, (shelf.openAt location config).1 = .failed cause → (shelf.openAt location config).2 = shelf)
        ∧ ∀ index, (shelf.openAt location config).1 = .opened index →
          (shelf.openAt location config).2.depot.registry = shelf.depot.registry.called (.resolve location))
    ∧ ∀ other more, number ≠ other → ∀ asked ∈ (Registry.mk number [] [] 0).history calls,
        ∀ elsewhere ∈ (Registry.mk other [] [] 0).history more, ∀ handle another,
          asked.2 = .ok handle → elsewhere.2 = .ok another → handle ≠ another := by
  refine ⟨?_, ?_, fun _ _ => called_of_failed, Shelf.registry_openAt, ?_⟩
  · refine (history_apart (kept_new number) calls).imp ?_
    intro earlier later apart handle another handed handed_later
    refine ⟨apart handle another handed handed_later, fun wants same => ?_⟩
    rcases (apart handle another handed handed_later).mp same with ⟨_, _, other⟩ | ⟨_, _, _, other⟩ <;>
      (rw [wants] at other; cases other)
  · intro asked member wanted wants
    obtain ⟨handle, handed, given⟩ := ok_of_wanted member wants
    exact ⟨handle, handed, (history_issued (kept_new number) member given).2⟩
  · intro other more different asked member elsewhere member_elsewhere handle another handed handed_elsewhere same
    obtain ⟨_, _, given⟩ := given_of_ok member handed
    obtain ⟨_, _, given_elsewhere⟩ := given_of_ok member_elsewhere handed_elsewhere
    have here := (history_issued (kept_new number) member given).1
    have there := (history_issued (kept_new other) member_elsewhere given_elsewhere).1
    rw [← same] at there
    exact different (here.symm.trans there)

theorem same_store_of_bucket :
    ((Registry.mk 1 [] [] 0).history
        [.bucket "b".toList true, .resolve "s3://b/k?anon=1".toList, .bucket "b".toList false]).map Prod.snd
      = [.ok ⟨1, 0, .bucket "b".toList true⟩, .ok ⟨1, 0, .bucket "b".toList true⟩, .ok ⟨1, 1, .bucket "b".toList false⟩]
    ∧ (Call.bucket "b".toList true).Shares (.resolve "s3://b/k?anon=1".toList)
    ∧ ¬(Call.resolve "s3://b/k?anon=1".toList).Shares (.bucket "b".toList false) := by
  obtain ⟨apart, _⟩ := same_store 1
    [.bucket "b".toList true, .resolve "s3://b/k?anon=1".toList, .bucket "b".toList false]
  obtain ⟨first, rest⟩ := List.pairwise_cons.mp apart
  obtain ⟨second, _⟩ := List.pairwise_cons.mp rest
  refine ⟨rfl, ?_, fun shares => ?_⟩
  · exact (first _ List.mem_cons_self _ _ rfl rfl).1.mp rfl
  · have same := (second _ List.mem_cons_self _ _ rfl rfl).1.mpr shares
    exact absurd same (by decide)

end Registry

end ThinScan
