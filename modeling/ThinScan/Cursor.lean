import ThinScan.World

set_option autoImplicit false

namespace ThinScan

variable {T : Type}

inductive Question where
  | hasNext
  | next
deriving DecidableEq, Repr

inductive Told (T : Type) where
  | more (more : Bool)
  | value (value : Option T)
  | crashed
deriving DecidableEq, Repr

namespace InlineScan

def ask (decoder : Decoder T) (fetch : FetchKey) (scan : InlineScan T) (trace : InlineTrace) :
    Question → Told T × InlineScan T × InlineTrace
  | .hasNext =>
      let (more, ahead, used) := scan.hasNext decoder fetch trace
      (more.elim .crashed .more, ahead, used)
  | .next =>
      let (value, after, used) := scan.next decoder fetch trace
      (value.elim .crashed .value, after, used)

end InlineScan

namespace World

-- What a pull is told that has come to rest. One that ended without a value and without the end of its scan has crashed.
def answer (world : World T) (index : Nat) (scan : Scan T) (question : Question) : Told T × World T :=
  if scan.lookahead.isNone && !scan.finished then (.crashed, world)
  else
    match question with
    | .hasNext => (.more scan.lookahead.isSome, world)
    | .next => (.value scan.lookahead, (world.act (.take index)).getD world)

end World

def Act.isCall (index : Nat) : Act T → Bool
  | .pull scan => scan = index
  | .take scan => scan = index
  | .drop scan => scan = index
  | _ => false

-- What goes on beside the calls of one scan: others use what an inline scan shares with them, or a step is taken.
inductive Meanwhile (T : Type) where
  | shared (adapters : Adapters T) (fetch : FetchKey) (trace : InlineTrace)
  | step (action : Act T)

inductive Cursor (T : Type) where
  | inline (decoder : Decoder T) (fetch : FetchKey) (scan : InlineScan T) (trace : InlineTrace)
  | deferred (index : Nat) (world : World T)

namespace Cursor

def pass : Cursor T → Meanwhile T → Option (Cursor T)
  | inline decoder _ scan _, .shared adapters fetch trace => some (inline { decoder with adapters := adapters } fetch scan trace)
  | deferred index world, .step action => if action.isCall index then none else (world.act action).map (deferred index)
  | cursor, _ => some cursor

def passAll (cursor : Cursor T) (steps : List (Meanwhile T)) : Option (Cursor T) := steps.foldlM pass cursor

def answer : Cursor T → Question → Option (Told T × Cursor T)
  | inline .., _ => none
  | deferred index world, question => do
      let scan ← world.scans[index]?
      if scan.isFree then
        let (told, after) := world.answer index scan question
        some (told, deferred index after)
      else none

def call (cursor : Cursor T) (question : Question) (during : List (Meanwhile T)) : Option (Told T × Cursor T) :=
  match cursor with
  | inline decoder fetch scan trace => do
      let (told, after, used) := scan.ask decoder fetch trace question
      let later ← (inline decoder fetch after used).passAll during
      some (told, later)
  | deferred index world => do
      let pulled ← world.act (.pull index)
      let rested ← (deferred index pulled).passAll during
      rested.answer question

end Cursor

end ThinScan
