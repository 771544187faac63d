import ThinScan.Proofs.Outstanding
import ThinScan.Proofs.Resting

set_option autoImplicit false

namespace ThinScan

variable {T : Type}

namespace Told

def isEnd : Told T → Bool
  | .more known => !known
  | .value found => found.isNone
  | .crashed => false

end Told

namespace Cursor

variable {cursor ahead after : Cursor T} {more : Bool}

theorem passAll_append (cursor : Cursor T) (steps others : List (Meanwhile T)) :
    cursor.passAll (steps ++ others) = (cursor.passAll steps).bind (fun after => after.passAll others) := by
  rw [passAll, List.foldlM_append]
  rfl

theorem passAll_inline (decoder : Decoder T) (fetch : FetchKey) (trace : InlineTrace) (steps : List (Meanwhile T)) :
    ∃ decoder' fetch' trace', ∀ scan : InlineScan T,
      (inline decoder fetch scan trace).passAll steps = some (inline decoder' fetch' scan trace') := by
  induction steps generalizing decoder fetch trace with
  | nil => exact ⟨decoder, fetch, trace, fun _ => rfl⟩
  | cons step rest more =>
      cases step with
      | shared adapters fetch' trace' => exact more { decoder with adapters := adapters } fetch' trace'
      | step action => exact more decoder fetch trace

theorem passAll_deferred {index : Nat} {world : World T} {steps : List (Meanwhile T)}
    (passed : (deferred index world).passAll steps = some after) :
    ∃ acts later, after = deferred index later ∧ world.run acts = some later
      ∧ ∀ action ∈ acts, action.isCall index = false := by
  induction steps generalizing world with
  | nil =>
      cases passed
      exact ⟨[], world, rfl, rfl, List.forall_mem_nil _⟩
  | cons step rest more =>
      obtain ⟨between, first, passed⟩ := Option.bind_eq_some_iff.mp passed
      cases step with
      | shared adapters fetch trace =>
          cases first
          exact more passed
      | step action =>
          rw [pass] at first
          split at first
          · cases first
          · rename_i uncalled
            obtain ⟨later, taken, rfl⟩ := Option.map_eq_some_iff.mp first
            obtain ⟨acts, last, same, ran, others⟩ := more passed
            refine ⟨action :: acts, last, same, ?_, List.forall_mem_cons.mpr ⟨by simpa using uncalled, others⟩⟩
            rw [World.run_cons, taken]
            exact ran

inductive Ahead (more : Bool) : Cursor T → Prop
  | inline {decoder : Decoder T} {fetch : FetchKey} {scan : InlineScan T} {trace : InlineTrace}
      (known : scan.lookahead.isSome = more) (ended : more = false → scan.source = []) :
      Ahead more (inline decoder fetch scan trace)
  | deferred {index : Nat} {world : World T} {scan : Scan T} (held : world.scans[index]? = some scan)
      (idle : scan.phase = .idle) (free : scan.dropped = false) (counted : scan.initiated = true)
      (known : scan.lookahead.isSome = more) (ended : more = false → scan.finished = true) :
      Ahead more (deferred index world)

theorem ahead_passAll {steps : List (Meanwhile T)} (looked : Ahead more cursor)
    (passed : cursor.passAll steps = some after) : Ahead more after := by
  cases looked with
  | @inline decoder fetch scan trace known ended =>
      obtain ⟨_, _, _, all⟩ := passAll_inline decoder fetch trace steps
      cases (all scan).symm.trans passed
      exact .inline known ended
  | deferred held idle free counted known ended =>
      obtain ⟨acts, later, rfl, ran, uncalled⟩ := passAll_deferred passed
      obtain ⟨⟨_, now, queue, outstanding, rfl⟩, _⟩ := World.rests_run ran uncalled held idle
      exact .deferred now idle free counted known ended

end Cursor

namespace InlineScan

variable {decoder : Decoder T} {fetch : FetchKey} {scan : InlineScan T} {trace : InlineTrace} {more : Bool}

theorem hasNext_ahead (decoder : Decoder T) (fetch : FetchKey) (trace : InlineTrace)
    (known : scan.lookahead.isSome = more) (ended : more = false → scan.source = []) :
    scan.hasNext decoder fetch trace = (some more, scan, trace) := by
  obtain ⟨source, lookahead⟩ := scan
  cases lookahead with
  | some value =>
      cases known
      rfl
  | none =>
      cases known
      have spent : source = [] := ended rfl
      subst spent
      rfl

theorem ask_looked (more : Bool) (ahead : InlineScan T) (question : Question) :
    ∃ told after, ∀ {scan : InlineScan T} {decoder : Decoder T} {fetch : FetchKey} {trace used : InlineTrace},
      scan.hasNext decoder fetch trace = (some more, ahead, used)
        → scan.ask decoder fetch trace question = (told, after, used) := by
  cases question with
  | hasNext =>
      refine ⟨.more more, ahead, fun looked => ?_⟩
      rw [ask, looked]
      rfl
  | next =>
      refine ⟨.value ahead.lookahead, { ahead with lookahead := none }, fun looked => ?_⟩
      simp only [ask, next, looked, Option.elim_some]

theorem hasNext_asked {ahead : InlineScan T} {used : InlineTrace}
    (asked : scan.ask decoder fetch trace .hasNext = (.more more, ahead, used)) :
    scan.hasNext decoder fetch trace = (some more, ahead, used) := by
  simp only [ask] at asked
  generalize scan.hasNext decoder fetch trace = looked at asked ⊢
  obtain ⟨said, kept, left⟩ := looked
  cases said with
  | none => cases asked
  | some more =>
      cases asked
      rfl

theorem ask_crashed {after : InlineScan T} {used : InlineTrace}
    (asked : scan.ask decoder fetch trace .hasNext = (.crashed, after, used)) (question : Question) :
    scan.ask decoder fetch trace question = (.crashed, after, used) := by
  cases question with
  | hasNext => exact asked
  | next =>
      simp only [ask, next] at asked ⊢
      generalize scan.hasNext decoder fetch trace = looked at asked ⊢
      obtain ⟨said, kept, left⟩ := looked
      cases said with
      | none => exact asked
      | some more => cases asked

theorem hasNext_ended {ahead : InlineScan T} {used : InlineTrace}
    (looked : scan.hasNext decoder fetch trace = (some more, ahead, used)) :
    ahead.lookahead.isSome = more ∧ (more = false → ahead.source = []) := by
  unfold hasNext at looked
  split at looked
  · rename_i value ready
    cases looked
    exact ⟨by rw [ready]; rfl, nofun⟩
  · split at looked
    · cases looked
      exact ⟨rfl, nofun⟩
    · rename_i searched
      cases looked
      have ended := search_exhausted (congrArg Prod.fst searched)
      rw [searched] at ended
      exact ⟨rfl, fun _ => ended⟩
    · cases looked

theorem next_ended {after : InlineScan T} {used : InlineTrace}
    (taken : scan.next decoder fetch trace = (some none, after, used)) : after.lookahead = none ∧ after.source = [] := by
  unfold next at taken
  split at taken
  · rename_i said ahead _ looked
    simp only [Prod.mk.injEq, Option.some.injEq] at taken
    obtain ⟨unready, rfl, rfl⟩ := taken
    obtain ⟨known, ended⟩ := hasNext_ended looked
    cases said with
    | true => simp [unready] at known
    | false => exact ⟨rfl, ended rfl⟩
  · cases taken

theorem ask_ended {question : Question} {told : Told T} {after : InlineScan T} {used : InlineTrace}
    (asked : scan.ask decoder fetch trace question = (told, after, used)) (atEnd : told.isEnd = true) :
    after.lookahead = none ∧ after.source = [] := by
  cases question with
  | hasNext =>
      cases looked : scan.hasNext decoder fetch trace with
      | mk said left =>
          rw [ask, looked] at asked
          cases said with
          | none =>
              cases asked
              cases atEnd
          | some more =>
              cases asked
              cases more with
              | true => cases atEnd
              | false =>
                  obtain ⟨unready, ended⟩ := hasNext_ended looked
                  exact ⟨by simpa using unready, ended rfl⟩
  | next =>
      cases taken : scan.next decoder fetch trace with
      | mk said left =>
          rw [ask, taken] at asked
          cases said with
          | none =>
              cases asked
              cases atEnd
          | some value =>
              cases asked
              cases value with
              | some value => cases atEnd
              | none => exact next_ended taken

end InlineScan

theorem Scan.isFree_of_idle {scan : Scan T} (free : scan.dropped = false) (idle : scan.phase = .idle) :
    scan.isFree = true := by
  rw [isFree, free, idle]
  rfl

namespace World

variable {world later : World T} {index : Nat} {scan : Scan T}

theorem setScan_same (held : world.scans[index]? = some scan) : world.setScan index scan = world := by
  obtain ⟨bound, rfl⟩ := List.getElem?_eq_some_iff.mp held
  rw [setScan, List.set_getElem_self]

theorem pull_ahead (held : world.scans[index]? = some scan) (free : scan.isFree = true) (counted : scan.initiated = true)
    (known : scan.lookahead.isSome = true ∨ scan.finished = true) : world.act (.pull index) = some world := by
  have begins : scan.begin = scan := by
    obtain ⟨_, same⟩ | ⟨unready, unfinished, _⟩ | ⟨unready, unfinished, _⟩ := Scan.begin_cases scan
    · rw [same, ← counted]
    · simp [unready, unfinished] at known
    · simp [unready, unfinished] at known
  simp only [act, pull, held, Option.bind_eq_bind, Option.bind_some, free, counted, begins, Bool.not_true,
    Bool.false_eq_true, if_false, if_true]
  exact congrArg some (setScan_same held)

theorem initiated_run {acts : List (Act T)} (ran : world.run acts = some later) (held : world.scans[index]? = some scan)
    (counted : scan.initiated = true) : ∃ last, later.scans[index]? = some last ∧ last.initiated = true := by
  induction acts generalizing world scan with
  | nil =>
      cases ran
      exact ⟨scan, held, counted⟩
  | cons action rest step =>
      obtain ⟨between, taken, ran⟩ := Option.bind_eq_some_iff.mp ((run_cons world action rest).symm.trans ran)
      obtain ⟨fresh, now⟩ := stays_move (move_of_act taken) held
      exact step ran now ((follows_move (move_of_act taken) held now).initiated counted)

theorem answer_cases (world : World T) (index : Nat) (scan : Scan T) :
    (scan.lookahead = none ∧ scan.finished = false ∧ ∀ question, world.answer index scan question = (.crashed, world))
      ∨ ((scan.lookahead.isSome = true ∨ scan.finished = true)
        ∧ world.answer index scan .hasNext = (.more scan.lookahead.isSome, world)
        ∧ world.answer index scan .next = (.value scan.lookahead, (world.act (.take index)).getD world)) := by
  by_cases crashed : (scan.lookahead.isNone && !scan.finished) = true
  · refine .inl ⟨?_, ?_, fun question => if_pos crashed⟩
    · simpa using (Bool.and_eq_true_iff.mp crashed).1
    · simpa using (Bool.and_eq_true_iff.mp crashed).2
  · refine .inr ⟨?_, if_neg crashed, if_neg crashed⟩
    cases ready : scan.lookahead with
    | some value => exact .inl rfl
    | none => exact .inr (by simpa [ready] using crashed)

theorem take_nothing (held : world.scans[index]? = some scan) (unready : scan.lookahead = none) :
    (world.act (.take index)).getD world = world := by
  cases taken : world.act (.take index) with
  | none => rfl
  | some later =>
      obtain ⟨same, found, taken⟩ := Option.bind_eq_some_iff.mp taken
      cases held.symm.trans found
      split at taken
      · cases taken
      · rw [unready] at taken
        cases taken

end World

namespace Cursor

variable {cursor ahead after ended : Cursor T} {more : Bool}

theorem answer_deferred {index : Nat} {world : World T} {question : Question} {told : Told T}
    (answered : (deferred index world).answer question = some (told, after)) :
    ∃ scan left, world.scans[index]? = some scan ∧ scan.isFree = true
      ∧ world.answer index scan question = (told, left) ∧ after = deferred index left := by
  obtain ⟨scan, held, answered⟩ := Option.bind_eq_some_iff.mp answered
  split at answered
  · rename_i free
    cases answered
    exact ⟨scan, _, held, free, rfl, rfl⟩
  · cases answered

theorem call_deferred {index : Nat} {world : World T} (looked : Ahead more (deferred index world)) (question : Question)
    (during : List (Meanwhile T)) : (deferred index world).call question during
      = ((deferred index world).passAll during).bind (fun rested => rested.answer question) := by
  cases looked with
  | @deferred _ _ scan held idle free counted known ended =>
      have ready : scan.lookahead.isSome = true ∨ scan.finished = true := by
        cases more with
        | true => exact .inl known
        | false => exact .inr (ended rfl)
      rw [call, World.pull_ahead held (Scan.isFree_of_idle free idle) counted ready]
      rfl

theorem call_ahead (looked : Ahead more cursor) (question : Question) (steps others : List (Meanwhile T)) :
    cursor.call question (steps ++ others) = (cursor.passAll steps).bind (fun after => after.call question others) := by
  have looked_after {after : Cursor T} (passed : cursor.passAll steps = some after) : Ahead more after :=
    ahead_passAll looked passed
  cases looked with
  | @inline decoder fetch scan trace known ended =>
      obtain ⟨decoder', fetch', trace', all⟩ := passAll_inline decoder fetch trace steps
      obtain ⟨told, kept, asks⟩ := InlineScan.ask_looked more scan question
      have before := asks (InlineScan.hasNext_ahead decoder fetch trace known ended)
      have behind := asks (InlineScan.hasNext_ahead decoder' fetch' trace' known ended)
      rw [all scan, Option.bind_some]
      simp only [call, before, behind, Option.bind_eq_bind, passAll_append, all, Option.bind_some]
  | @deferred index world scan held idle free counted known ended =>
      rw [call_deferred (.deferred held idle free counted known ended), passAll_append, Option.bind_assoc]
      refine Option.bind_congr (fun after passed => ?_)
      obtain ⟨_, later, rfl, _⟩ := passAll_deferred passed
      exact (call_deferred (looked_after passed) question others).symm

theorem ahead_rested {index : Nat} {world pulled later : World T} {during : List (Meanwhile T)} {scan : Scan T}
    (begun : world.act (.pull index) = some pulled)
    (passed : (deferred index pulled).passAll during = some (deferred index later)) (held : later.scans[index]? = some scan)
    (free : scan.isFree = true) (known : scan.lookahead.isSome = true ∨ scan.finished = true) :
    Ahead scan.lookahead.isSome (deferred index later) := by
  obtain ⟨acts, same, here, ran, _⟩ := passAll_deferred passed
  cases here
  have counted : ∃ fresh, pulled.scans[index]? = some fresh ∧ fresh.initiated = true := by
    obtain ⟨before, found, started⟩ := Option.bind_eq_some_iff.mp begun
    split at started
    · cases started
    · cases started
      exact ⟨before.begin, (set_at _ found index).trans (if_pos rfl), Scan.initiated_begin before⟩
  obtain ⟨fresh, at_start, initiated⟩ := counted
  obtain ⟨_, now, still⟩ := World.initiated_run ran at_start initiated
  cases held.symm.trans now
  obtain ⟨undropped, idle⟩ := Scan.free_of_isFree (by rw [free]; rfl)
  refine .deferred held idle undropped still rfl (fun unready => known.resolve_left ?_)
  rw [unready]
  exact Bool.false_ne_true

theorem answer_ahead {index : Nat} {world : World T} (looked : Ahead more (deferred index world)) :
    ∃ scan, world.scans[index]? = some scan ∧ scan.lookahead.isSome = more
      ∧ (deferred index world).answer .hasNext = some (.more more, deferred index world)
      ∧ (deferred index world).answer .next
        = some (.value scan.lookahead, deferred index ((world.act (.take index)).getD world)) := by
  cases looked with
  | @deferred _ _ scan held idle free counted known ended =>
      refine ⟨scan, held, known, ?_⟩
      simp only [answer, held, Option.bind_eq_bind, Option.bind_some, Scan.isFree_of_idle free idle, if_true]
      obtain ⟨unready, unfinished, _⟩ | ⟨_, has, next⟩ := World.answer_cases world index scan
      · cases more with
        | true => simp [unready] at known
        | false => exact absurd (unfinished.symm.trans (ended rfl)) Bool.false_ne_true
      · rw [has, next, known]
        exact ⟨rfl, rfl⟩

theorem call_at_once (looked : Ahead more cursor) (question : Question) (during : List (Meanwhile T)) :
    cursor.call question during = (cursor.passAll during).bind (fun after => after.call question []) := by
  rw [← call_ahead looked, List.append_nil]

theorem hasNext_ahead (looked : Ahead more cursor) (during : List (Meanwhile T)) :
    cursor.call .hasNext during = (cursor.passAll during).map (fun after => (.more more, after)) := by
  rw [call_at_once looked, Option.map_eq_bind]
  refine Option.bind_congr (fun after passed => ?_)
  cases ahead_passAll looked passed with
  | @inline decoder fetch scan trace known ended =>
      rw [call, InlineScan.ask, InlineScan.hasNext_ahead decoder fetch trace known ended]
      rfl
  | deferred held idle free counted known ended =>
      have looked_after := Ahead.deferred held idle free counted known ended
      obtain ⟨_, _, _, told, _⟩ := answer_ahead looked_after
      rw [call_deferred looked_after]
      exact told

theorem next_ahead (looked : Ahead more cursor) :
    ∃ value last, cursor.call .next [] = some (.value value, last) ∧ value.isSome = more := by
  cases looked with
  | @inline decoder fetch scan trace known ended =>
      refine ⟨scan.lookahead, inline decoder fetch { scan with lookahead := none } trace, ?_, known⟩
      simp only [call, InlineScan.ask, InlineScan.next, InlineScan.hasNext_ahead decoder fetch trace known ended]
      rfl
  | @deferred index world scan held idle free counted known ended =>
      have looked : Ahead more (deferred index world) := .deferred held idle free counted known ended
      obtain ⟨_, same, _, _, told⟩ := answer_ahead looked
      cases held.symm.trans same
      refine ⟨scan.lookahead, deferred index ((world.act (.take index)).getD world), ?_, known⟩
      rw [call_deferred looked]
      exact told

theorem next_told {during : List (Meanwhile T)} {told : Told T} (looked : Ahead more cursor)
    (called : cursor.call .next during = some (told, after)) : ∃ value, told = .value value ∧ value.isSome = more := by
  rw [call_at_once looked] at called
  obtain ⟨later, passed, called⟩ := Option.bind_eq_some_iff.mp called
  obtain ⟨value, last, taken, known⟩ := next_ahead (ahead_passAll looked passed)
  cases taken.symm.trans called
  exact ⟨value, rfl, known⟩

theorem next_ended (looked : Ahead false cursor) (during : List (Meanwhile T)) :
    cursor.call .next during = (cursor.passAll during).map (fun after => (.value none, after)) := by
  rw [call_at_once looked, Option.map_eq_bind]
  refine Option.bind_congr (fun after passed => ?_)
  cases ahead_passAll looked passed with
  | @inline decoder fetch scan trace known ended =>
      obtain ⟨source, lookahead⟩ := scan
      cases lookahead with
      | some value => cases known
      | none =>
          simp only [call, InlineScan.ask, InlineScan.next, InlineScan.hasNext_ahead decoder fetch trace known ended]
          rfl
  | deferred held idle free counted known ended =>
      have looked_after := Ahead.deferred held idle free counted known ended
      obtain ⟨last, now, unready, _, told⟩ := answer_ahead looked_after
      have nothing : last.lookahead = none := by simpa using unready
      rw [nothing, World.take_nothing now nothing] at told
      rw [call_deferred looked_after]
      exact told

theorem call_asked {decoder : Decoder T} {fetch : FetchKey} {scan : InlineScan T} {trace : InlineTrace}
    {question : Question} {during : List (Meanwhile T)} {told : Told T}
    (called : (inline decoder fetch scan trace).call question during = some (told, after)) :
    ∃ kept used decoder' fetch' trace', scan.ask decoder fetch trace question = (told, kept, used)
      ∧ (∀ other, (inline decoder fetch other used).passAll during = some (inline decoder' fetch' other trace'))
      ∧ after = inline decoder' fetch' kept trace' := by
  obtain ⟨decoder', fetch', trace', all⟩ :=
    passAll_inline decoder fetch (scan.ask decoder fetch trace question).2.2 during
  obtain ⟨later, passed, returned⟩ := Option.bind_eq_some_iff.mp called
  cases (all _).symm.trans passed
  cases returned
  exact ⟨_, _, decoder', fetch', trace', rfl, all, rfl⟩

theorem call_told {index : Nat} {world : World T} {question : Question} {during : List (Meanwhile T)} {told : Told T}
    (called : (deferred index world).call question during = some (told, after)) :
    ∃ pulled rested scan left, world.act (.pull index) = some pulled
      ∧ (deferred index pulled).passAll during = some (deferred index rested) ∧ rested.scans[index]? = some scan
      ∧ scan.isFree = true ∧ rested.answer index scan question = (told, left) ∧ after = deferred index left := by
  obtain ⟨pulled, begun, called⟩ := Option.bind_eq_some_iff.mp called
  obtain ⟨later, passed, answered⟩ := Option.bind_eq_some_iff.mp called
  obtain ⟨_, rested, rfl, _⟩ := passAll_deferred passed
  obtain ⟨scan, left, held, free, said, same⟩ := answer_deferred answered
  exact ⟨pulled, rested, scan, left, begun, passed, held, free, said, same⟩

theorem ahead_looked {first : List (Meanwhile T)} (looked : cursor.call .hasNext first = some (.more more, ahead)) :
    Ahead more ahead ∧ ∀ question others, cursor.call question (first ++ others) = ahead.call question others := by
  cases cursor with
  | inline decoder fetch scan trace =>
      obtain ⟨kept, used, decoder', fetch', trace', asked, all, rfl⟩ := call_asked looked
      have found : scan.hasNext decoder fetch trace = (some more, kept, used) := InlineScan.hasNext_asked asked
      obtain ⟨known, ended⟩ := InlineScan.hasNext_ended found
      refine ⟨.inline known ended, fun question others => ?_⟩
      obtain ⟨told, after, asks⟩ := InlineScan.ask_looked more kept question
      have behind := asks (InlineScan.hasNext_ahead decoder' fetch' trace' known ended)
      simp only [call, asks found, behind, Option.bind_eq_bind, passAll_append, all, Option.bind_some]
  | deferred index world =>
      obtain ⟨pulled, rested, scan, _, begun, passed, held, free, said, rfl⟩ := call_told looked
      obtain ⟨_, _, crashed⟩ | ⟨ready, has, _⟩ := World.answer_cases rested index scan
      · cases (crashed _).symm.trans said
      · cases has.symm.trans said
        have now : Ahead scan.lookahead.isSome (deferred index rested) := ahead_rested begun passed held free ready
        refine ⟨now, fun question others => ?_⟩
        rw [call_deferred now, call, begun]
        simp only [Option.bind_eq_bind, Option.bind_some, passAll_append, passed]

theorem call_crashed {during : List (Meanwhile T)} (looked : cursor.call .hasNext during = some (.crashed, after))
    (question : Question) : cursor.call question during = some (.crashed, after) := by
  cases cursor with
  | inline decoder fetch scan trace =>
      obtain ⟨kept, used, _, _, _, asked, all, rfl⟩ := call_asked looked
      simp only [call, InlineScan.ask_crashed asked question, Option.bind_eq_bind, all, Option.bind_some]
  | deferred index world =>
      obtain ⟨pulled, rested, scan, _, begun, passed, held, free, said, rfl⟩ := call_told looked
      obtain ⟨_, _, crashed⟩ | ⟨_, has, _⟩ := World.answer_cases rested index scan
      · cases (crashed _).symm.trans said
        simp only [call, begun, passed, answer, held, free, crashed, Option.bind_eq_bind, Option.bind_some, if_true]
      · cases has.symm.trans said

theorem ahead_ended {question : Question} {during : List (Meanwhile T)} {told : Told T}
    (called : cursor.call question during = some (told, ended)) (atEnd : told.isEnd = true) : Ahead false ended := by
  cases cursor with
  | inline decoder fetch scan trace =>
      obtain ⟨kept, used, _, _, _, asked, _, rfl⟩ := call_asked called
      obtain ⟨unready, spent⟩ := InlineScan.ask_ended asked atEnd
      exact .inline (by rw [unready]; rfl) (fun _ => spent)
  | deferred index world =>
      obtain ⟨pulled, rested, scan, _, begun, passed, held, free, said, rfl⟩ := call_told called
      obtain ⟨_, _, crashed⟩ | ⟨ready, has, next⟩ := World.answer_cases rested index scan
      · cases (crashed _).symm.trans said
        cases atEnd
      · have now : Ahead scan.lookahead.isSome (deferred index rested) := ahead_rested begun passed held free ready
        cases question with
        | hasNext =>
            cases has.symm.trans said
            have unready : scan.lookahead.isSome = false := by simpa [Told.isEnd] using atEnd
            exact unready ▸ now
        | next =>
            cases next.symm.trans said
            have unready : scan.lookahead = none := by simpa [Told.isEnd] using atEnd
            rw [World.take_nothing held unready]
            rw [unready] at now
            exact now

end Cursor

inductive Moment (T : Type) where
  | pass (step : Meanwhile T)
  | call (question : Question) (during : List (Meanwhile T))

namespace Moment

def steps : Moment T → List (Meanwhile T)
  | pass step => [step]
  | call _ during => during

def isLook : Moment T → Bool
  | call .next _ => false
  | _ => true

def told (more : Bool) : Moment T → List (Told T)
  | pass _ => []
  | call .hasNext _ => [.more more]
  | call .next _ => [.value none]

end Moment

namespace Cursor

variable {cursor ahead after ended : Cursor T} {more : Bool}

def run : Cursor T → List (Moment T) → Option (List (Told T) × Cursor T)
  | cursor, [] => some ([], cursor)
  | cursor, .pass step :: rest => (cursor.pass step).bind (fun after => after.run rest)
  | cursor, .call question during :: rest =>
      (cursor.call question during).bind (fun answer => (answer.2.run rest).map (Prod.map (answer.1 :: ·) id))

theorem run_append (cursor : Cursor T) (script rest : List (Moment T)) : cursor.run (script ++ rest)
    = (cursor.run script).bind (fun answers => (answers.2.run rest).map (Prod.map (answers.1 ++ ·) id)) := by
  induction script generalizing cursor with
  | nil =>
      rw [run, Option.bind_some]
      exact (congrFun Option.map_id (cursor.run rest)).symm
  | cons moment script step =>
      cases moment with
      | pass between =>
          rw [List.cons_append, run, run, Option.bind_assoc]
          exact Option.bind_congr (fun after _ => step after)
      | call question during =>
          rw [List.cons_append, run, run, Option.bind_assoc]
          refine Option.bind_congr (fun answer _ => ?_)
          rw [step]
          simp only [Option.map_bind, Option.bind_map, Option.map_map, Function.comp_def, Prod.map_map]
          rfl

theorem run_moment {moment : Moment T} (looked : Ahead more cursor) (quiet : more = false ∨ moment.isLook = true)
    (script : List (Moment T)) : cursor.run (moment :: script)
      = (cursor.passAll moment.steps).bind (fun after => (after.run script).map (Prod.map (moment.told more ++ ·) id)) := by
  have same (answers : Option (List (Told T) × Cursor T)) : answers.map (Prod.map ([] ++ ·) id) = answers :=
    congrFun Option.map_id answers
  cases moment with
  | pass between =>
      simp only [run, Moment.steps, Moment.told, same]
      rw [passAll, List.foldlM_cons, Option.bind_eq_bind]
      simp only [List.foldlM_nil, Option.pure_def, Option.bind_fun_some]
  | call question during =>
      cases question with
      | hasNext =>
          rw [run, hasNext_ahead looked, Option.bind_map]
          rfl
      | next =>
          have none_left : more = false := quiet.resolve_right Bool.false_ne_true
          subst none_left
          rw [run, next_ended looked, Option.bind_map]
          rfl

theorem run_ahead {script : List (Moment T)} (looked : Ahead more cursor)
    (quiet : ∀ moment ∈ script, more = false ∨ moment.isLook = true) :
    cursor.run script = (cursor.passAll (script.flatMap Moment.steps)).map (script.flatMap (Moment.told more), ·) := by
  induction script generalizing cursor with
  | nil => rfl
  | cons moment script step =>
      obtain ⟨here, others⟩ := List.forall_mem_cons.mp quiet
      rw [run_moment looked here]
      simp only [List.flatMap_cons, passAll_append, Option.map_bind]
      refine Option.bind_congr (fun after passed => ?_)
      rw [step (ahead_passAll looked passed) others, Option.map_map, Function.comp_def]
      rfl

theorem run_looks {first : List (Meanwhile T)} {looks : List (Moment T)}
    (looked : cursor.call .hasNext first = some (.more more, ahead)) (quiet : ∀ moment ∈ looks, moment.isLook = true)
    (question : Question) (others : List (Meanwhile T)) (rest : List (Moment T)) :
    cursor.run (.call .hasNext first :: looks ++ .call question others :: rest)
      = (cursor.run (.call question (first ++ looks.flatMap Moment.steps ++ others) :: rest)).map
          (Prod.map (.more more :: looks.flatMap (Moment.told more) ++ ·) id) := by
  obtain ⟨now, same⟩ := ahead_looked looked
  have told := run_ahead now (fun moment member => .inr (quiet moment member))
  have plain : cursor.run (.call question (first ++ looks.flatMap Moment.steps ++ others) :: rest)
      = (ahead.passAll (looks.flatMap Moment.steps)).bind (fun after => after.run (.call question others :: rest)) := by
    rw [run, List.append_assoc, same, call_ahead now, Option.bind_assoc]
    rfl
  rw [plain, Option.map_bind, List.cons_append, run, looked, Option.bind_some, run_append, told, Option.bind_map,
    Option.map_bind]
  refine Option.bind_congr (fun after _ => ?_)
  rw [Function.comp_apply, Function.comp_apply, Function.comp_apply, Option.map_map, Prod.map_comp_map]
  rfl

-- Looks right before a call, with all that goes on beside them, are told the same, and leave what that call and all
-- later ones are told, and everything else, as it would be without them.
structure Looks (cursor : Cursor T) (first : List (Meanwhile T)) (more : Bool) (ahead : Cursor T) : Prop where
  unchanged : ∀ looks : List (Moment T), (∀ moment ∈ looks, moment.isLook = true) → ∀ question others rest,
    cursor.run (.call .hasNext first :: looks ++ .call question others :: rest)
      = (cursor.run (.call question (first ++ looks.flatMap Moment.steps ++ others) :: rest)).map
          (Prod.map (.more more :: looks.flatMap (Moment.told more) ++ ·) id)
  ready : ∃ value last, ahead.call .next [] = some (.value value, last) ∧ value.isSome = more
  agrees : ∀ looks : List (Moment T), (∀ moment ∈ looks, moment.isLook = true) → ∀ others answers last,
    ahead.run (looks ++ [.call .next others]) = some (answers, last) →
      ∃ value, answers = looks.flatMap (Moment.told more) ++ [.value value] ∧ value.isSome = more

theorem looks_told {first : List (Meanwhile T)} (looked : cursor.call .hasNext first = some (.more more, ahead)) :
    cursor.Looks first more ahead := by
  have now := (ahead_looked looked).1
  refine ⟨fun looks quiet => run_looks looked quiet, next_ahead now, fun looks quiet others answers last ran => ?_⟩
  rw [run_append, run_ahead now (fun moment member => .inr (quiet moment member)), Option.bind_map] at ran
  obtain ⟨later, passed, ran⟩ := Option.bind_eq_some_iff.mp ran
  obtain ⟨⟨told, _⟩, taken, whole⟩ := Option.map_eq_some_iff.mp ran
  obtain ⟨⟨said, _⟩, called, taken⟩ := Option.bind_eq_some_iff.mp taken
  obtain ⟨value, rfl, known⟩ := next_told (ahead_passAll now passed) called
  cases taken
  cases whole
  exact ⟨value, rfl, known⟩

theorem sound_called {index : Nat} {world left : World T} {question : Question} {during : List (Meanwhile T)}
    {told : Told T} (sound : world.Sound)
    (called : (deferred index world).call question during = some (told, deferred index left)) : left.Sound := by
  obtain ⟨pulled, rested, scan, _, begun, passed, _, _, said, same⟩ := call_told called
  obtain ⟨acts, _, here, ran, _⟩ := passAll_deferred passed
  cases here
  cases same
  have rested_sound : rested.Sound := World.sound_run (World.sound_act sound begun) ran
  obtain ⟨_, _, crashed⟩ | ⟨_, has, next⟩ := World.answer_cases rested index scan
  · cases (crashed _).symm.trans said
    exact rested_sound
  · cases question with
    | hasNext =>
        cases has.symm.trans said
        exact rested_sound
    | next =>
        cases next.symm.trans said
        cases taken : rested.act (.take index) with
        | none => exact rested_sound
        | some after => exact World.sound_act rested_sound taken

theorem silent_ended {stores : List (Adapters T)} {size : Nat} {params : Option Params} {acts more : List (Act T)}
    {index : Nat} {world ended later : World T} {question : Question} {during : List (Meanwhile T)} {told : Told T}
    (ran : (World.fresh stores size params).run acts = some world)
    (called : (deferred index world).call question during = some (told, deferred index ended)) (atEnd : told.isEnd = true)
    (uncalled : ∀ action ∈ more, action.isCall index = false) (went : ended.run more = some later) :
    World.pulledBy index (ended.history more) = [] ∧ World.noticesOf index (ended.notices more) = []
      ∧ ∀ kind, ended.logged kind index more = [] := by
  have sound : ended.Sound := sound_called (World.sound_run (World.sound_fresh stores size params) ran) called
  cases ahead_ended called atEnd with
  | deferred held idle free counted known finished => exact World.silent_run sound went uncalled held idle (finished rfl)

-- Looking ahead changes nothing and tells whether there is a next value. Once a call has told the end of a scan, so
-- does every call, and does nothing; nor does any other step then do anything for a deferred scan.
theorem look_ahead_pure :
    (∀ (cursor ahead : Cursor T) (first : List (Meanwhile T)) (more : Bool),
      cursor.call .hasNext first = some (.more more, ahead) → cursor.Looks first more ahead)
    ∧ (∀ (cursor after : Cursor T) (during : List (Meanwhile T)),
      cursor.call .hasNext during = some (.crashed, after) → ∀ question, cursor.call question during = some (.crashed, after))
    ∧ (∀ (cursor ended : Cursor T) (question : Question) (during : List (Meanwhile T)) (told : Told T),
      cursor.call question during = some (told, ended) → told.isEnd = true →
      ∀ script, ended.run script
        = (ended.passAll (script.flatMap Moment.steps)).map (script.flatMap (Moment.told false), ·))
    ∧ ∀ (stores : List (Adapters T)) (size : Nat) (params : Option Params) (acts : List (Act T)) (index : Nat)
      (world ended later : World T) (question : Question) (during : List (Meanwhile T)) (told : Told T)
      (more : List (Act T)),
      (World.fresh stores size params).run acts = some world →
      (deferred index world).call question during = some (told, deferred index ended) → told.isEnd = true →
      (∀ action ∈ more, action.isCall index = false) → ended.run more = some later →
      World.pulledBy index (ended.history more) = [] ∧ World.noticesOf index (ended.notices more) = []
        ∧ ∀ kind, ended.logged kind index more = [] := by
  refine ⟨fun cursor ahead first more looked => looks_told looked,
    fun cursor after during crashed => call_crashed crashed, ?_, ?_⟩
  · intro cursor ended question during told called atEnd script
    exact run_ahead (ahead_ended called atEnd) (fun _ _ => .inl rfl)
  · intro stores size params acts index world ended later question during told more ran called atEnd uncalled went
    exact silent_ended ran called atEnd uncalled went

open World (counting crashing)

def oneRow (adapter : AdapterId) : Source := [some (.full [2] adapter [⟨[], [], []⟩]), none, some (.full [3] adapter [])]

def oneInline (adapter : AdapterId) : Cursor Nat :=
  inline ⟨Adapters.ofList [counting, crashing], []⟩ (fun _ _ _ => .ok none) ⟨oneRow adapter, none⟩ ⟨none, [], []⟩

def oneFresh : World Nat := World.fresh [Adapters.ofList [counting]] 2 none

def oneStarted : World Nat := (oneFresh.run [.start 0 [] (oneRow 7) 1]).getD oneFresh

def oneTaken : World Nat := (oneStarted.run [.pull 0, .advance 0, .take 0]).getD oneStarted

def toEnd : List (Meanwhile Nat) := List.replicate 4 (.step (.advance 0))

def begins : List (Act Nat) := [.start 0 [] (oneRow 7) 1, .pull 1, .advance 1]

theorem look_ahead_pure_of_one :
    (∃ ahead, (oneInline 7).call .hasNext [] = some (.more true, ahead) ∧ (oneInline 7).Looks [] true ahead)
    ∧ (∃ after, (oneInline 8).call .hasNext [] = some (.crashed, after)
      ∧ (oneInline 8).call .next [] = some (.crashed, after))
    ∧ (∃ ahead, (deferred 0 oneStarted).call .hasNext [.step (.advance 0)] = some (.more true, ahead)
      ∧ (deferred 0 oneStarted).Looks [.step (.advance 0)] true ahead)
    ∧ ∃ ended later, (deferred 0 oneTaken).call .next toEnd = some (.value none, deferred 0 ended)
      ∧ (deferred 0 ended).run [.call .next [], .call .hasNext []] = some ([.value none, .more false], deferred 0 ended)
      ∧ ended.run begins = some later ∧ World.pulledBy 0 (ended.history begins) = []
      ∧ World.noticesOf 0 (ended.notices begins) = [] ∧ ∀ kind, ended.logged kind 0 begins = [] := by
  obtain ⟨looks, crashes, ends, silent⟩ := @look_ahead_pure Nat
  refine ⟨⟨_, rfl, looks _ _ _ _ rfl⟩, ⟨_, rfl, crashes _ _ _ rfl _⟩, ⟨_, rfl, looks _ _ _ _ rfl⟩,
    ⟨_, _, rfl, ends (deferred 0 oneTaken) _ .next toEnd (.value none) rfl rfl _, rfl, ?_⟩⟩
  exact silent [Adapters.ofList [counting]] 2 none [.start 0 [] (oneRow 7) 1, .pull 0, .advance 0, .take 0] 0 oneTaken _ _
    .next toEnd (.value none) begins rfl rfl rfl (by decide) rfl

end Cursor

end ThinScan
