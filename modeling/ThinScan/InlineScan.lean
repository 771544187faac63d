import ThinScan.Decoder

set_option autoImplicit false

namespace ThinScan

variable {T : Type}

-- A row source. It ends at its first `none`, whatever stands behind it.
abbrev Source := List (Option Row)

structure InlineScan (T : Type) where
  source : Source
  lookahead : Option T := none

-- What inline scans share and leave behind: the lookup service, the rows examined, the events.
structure InlineTrace where
  lookup : Option PointLookup
  examined : List Row := []
  events : List Event := []

namespace InlineTrace

def record (trace : InlineTrace) (row : Row) (outcome : Outcome T) (lookup : Option PointLookup) :
    InlineTrace :=
  { lookup := lookup
    examined := row :: trace.examined
    events := outcome.events ++ trace.events }

def fetches (trace : InlineTrace) : List KeyFetch := (trace.lookup.map PointLookup.fetches).getD []

def allEvents (trace : InlineTrace) : List Event :=
  trace.events ++ (trace.lookup.map PointLookup.events).getD []

def clearEvents (trace : InlineTrace) : InlineTrace :=
  { trace with events := [], lookup := trace.lookup.map (fun lookup => { lookup with events := [] }) }

end InlineTrace

inductive Search (T : Type) where
  | found (value : T)
  | exhausted
  | crashed

namespace InlineScan

def decode (decoder : Decoder T) (fetch : FetchKey) (row : Row) (trace : InlineTrace) :
    Outcome T × InlineTrace :=
  let (outcome, lookup) := decoder.decodeInline fetch row trace.lookup
  (outcome, trace.record row outcome lookup)

def search (decoder : Decoder T) (fetch : FetchKey) : Source → InlineTrace → Search T × Source × InlineTrace
  | [], trace => (.exhausted, [], trace)
  | none :: _, trace => (.exhausted, [], trace)
  | some row :: rest, trace =>
      match decode decoder fetch row trace with
      | (.value value, used) => (.found value, rest, used)
      | (.crashed, used) => (.crashed, rest, used)
      | (_, used) => search decoder fetch rest used

-- Looks ahead. `none` if a decoder crashed; the row it crashed on is gone.
def hasNext (decoder : Decoder T) (fetch : FetchKey) (scan : InlineScan T) (trace : InlineTrace) :
    Option Bool × InlineScan T × InlineTrace :=
  match scan.lookahead with
  | some _ => (some true, scan, trace)
  | none =>
      match search decoder fetch scan.source trace with
      | (.found value, rest, used) => (some true, ⟨rest, some value⟩, used)
      | (.exhausted, rest, used) => (some false, ⟨rest, none⟩, used)
      | (.crashed, rest, used) => (none, ⟨rest, none⟩, used)

def next (decoder : Decoder T) (fetch : FetchKey) (scan : InlineScan T) (trace : InlineTrace) :
    Option (Option T) × InlineScan T × InlineTrace :=
  match scan.hasNext decoder fetch trace with
  | (some _, ahead, used) => (some ahead.lookahead, { ahead with lookahead := none }, used)
  | (none, ahead, used) => (none, ahead, used)

def collectFrom (decoder : Decoder T) (fetch : FetchKey) :
    Source → InlineTrace → List T × Bool × Source × InlineTrace
  | [], trace => ([], true, [], trace)
  | none :: _, trace => ([], true, [], trace)
  | some row :: rest, trace =>
      match decode decoder fetch row trace with
      | (.value value, used) =>
          let (values, ended, left, last) := collectFrom decoder fetch rest used
          (value :: values, ended, left, last)
      | (.crashed, used) => ([], false, rest, used)
      | (_, used) => collectFrom decoder fetch rest used

def collect (decoder : Decoder T) (fetch : FetchKey) (scan : InlineScan T) (trace : InlineTrace) :
    List T × Bool × InlineScan T × InlineTrace :=
  let (values, ended, left, last) := collectFrom decoder fetch scan.source trace
  (scan.lookahead.toList ++ values, ended, ⟨left, none⟩, last)

end InlineScan

end ThinScan
