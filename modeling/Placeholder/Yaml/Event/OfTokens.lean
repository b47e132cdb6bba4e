import Placeholder.Yaml.Event.Basic

/-! The events that tokens spell. A reading keeps the places that it will come back to, innermost
first, and looks one token ahead. -/

namespace Placeholder.Yaml

abbrev Handles := List (Text × Uri)

namespace Handles

def defaults : Handles :=
  [(['!'], Uri.ofText ['!']), ("!!".toList, Uri.ofText "tag:yaml.org,2002:".toList)]

def resolve? (hs : Handles) (t : Tag) : Option Uri :=
  if t.handle.isEmpty then some t.suffix else (hs.lookup t.handle).map (· ++ t.suffix)

end Handles

structure Step where
  event : Located
  places : List Place
  rest : List Placed

namespace Step

def scalar (ps : Properties) (text : Text) (style : Style) (m : Mark) (places : List Place)
    (rest : List Placed) : Option Step :=
  some ⟨⟨.scalar ps text style, m⟩, places, rest⟩

def empty (m : Mark) (places : List Place) (rest : List Placed) : Option Step :=
  scalar {} [] .plain m places rest

def emit (e : Event) (m : Mark) (places : List Place) (rest : List Placed) : Option Step :=
  some ⟨⟨e, m⟩, places, rest⟩

def properties (hs : Handles) : List Placed → Option (Properties × Option Mark × List Placed)
  | ⟨.anchor a, m, _⟩ :: ⟨.tag t, _, _⟩ :: r => do
    let u ← hs.resolve? t
    some (⟨some a, some u⟩, some m, r)
  | ⟨.anchor a, m, _⟩ :: r => some (⟨some a, none⟩, some m, r)
  | ⟨.tag t, m, _⟩ :: ⟨.anchor a, _, _⟩ :: r => do
    let u ← hs.resolve? t
    some (⟨some a, some u⟩, some m, r)
  | ⟨.tag t, m, _⟩ :: r => do
    let u ← hs.resolve? t
    some (⟨none, some u⟩, some m, r)
  | r => some ({}, none, r)

/-- A node. `block` allows it to be a block of its own, `flush` a sequence without further
indentation. -/
def node (hs : Handles) (block flush : Bool) (places : List Place) (ts : List Placed) :
    Option Step :=
  match ts with
  | ⟨.alias a, m, _⟩ :: r => emit (.alias a) m places r
  | ts => do
    let (ps, first, r) ← properties hs ts
    match r with
    | [] => none
    | t :: r =>
      let m := first.getD t.start
      match t.token with
      | .scalar text style => scalar ps text style m places r
      | .flowSequenceStart => emit (.sequenceStart ps) m (.flowSequenceFirst :: places) (t :: r)
      | .flowMappingStart => emit (.mappingStart ps) m (.flowMappingFirst :: places) (t :: r)
      | token =>
        if flush ∧ token = .blockEntry then
          emit (.sequenceStart ps) m (.flushEntry :: places) (t :: r)
        else if block ∧ token = .blockSequenceStart then
          emit (.sequenceStart ps) m (.sequenceFirst :: places) (t :: r)
        else if block ∧ token = .blockMappingStart then
          emit (.mappingStart ps) m (.mappingFirst :: places) (t :: r)
        else if first.isSome then scalar ps [] .plain m places (t :: r)
        else none

def nodeUnless (stops : List Token) (hs : Handles) (block flush : Bool) (empty : Mark → Mark)
    (places : List Place) : List Placed → Option Step
  | [] => none
  | t :: r =>
    if stops.contains t.token then Step.empty (empty t.start) places (t :: r)
    else node hs block flush places (t :: r)

end Step

open Step

def afterIndicator (stops : List Token) (hs : Handles) (flush : Bool) (stop : Mark)
    (places : List Place) (ts : List Placed) : Option Step :=
  nodeUnless stops hs true flush (fun _ => stop) places ts

def blockEntry (hs : Handles) (places : List Place) : List Placed → Option Step
  | ⟨.blockEntry, _, stop⟩ :: r =>
    afterIndicator [.blockEntry, .blockEnd] hs false stop (.sequenceEntry :: places) r
  | ⟨.blockEnd, m, _⟩ :: r => emit .sequenceEnd m places r
  | _ => none

def flushEntry (hs : Handles) (places : List Place) : List Placed → Option Step
  | ⟨.blockEntry, _, stop⟩ :: r =>
    afterIndicator [.blockEntry, .key, .value, .blockEnd] hs false stop (.flushEntry :: places) r
  | t :: r => emit .sequenceEnd t.start places (t :: r)
  | [] => none

def blockKey (hs : Handles) (places : List Place) : List Placed → Option Step
  | ⟨.key, _, stop⟩ :: r =>
    afterIndicator [.key, .value, .blockEnd] hs true stop (.mappingValue :: places) r
  | ⟨.blockEnd, m, _⟩ :: r => emit .mappingEnd m places r
  | _ => none

def blockValue (hs : Handles) (places : List Place) : List Placed → Option Step
  | ⟨.value, _, stop⟩ :: r =>
    afterIndicator [.key, .value, .blockEnd] hs true stop (.mappingKey :: places) r
  | t :: r => Step.empty t.start (.mappingKey :: places) (t :: r)
  | [] => none

def flowEntry (hs : Handles) (places : List Place) : List Placed → Option Step
  | ⟨.flowSequenceEnd, m, _⟩ :: r => emit .sequenceEnd m places r
  | ⟨.key, m, _⟩ :: r => emit (.mappingStart {}) m (.pairKey :: .flowSequenceEntry :: places) r
  | ts => node hs false false (.flowSequenceEntry :: places) ts

def pairKey (hs : Handles) (places : List Place) : List Placed → Option Step
  | [] => none
  | t :: r =>
    if [Token.value, .flowEntry, .flowSequenceEnd].contains t.token then
      Step.empty t.stop (.pairValue :: places) r
    else node hs false false (.pairValue :: places) (t :: r)

def pairValue (hs : Handles) (places : List Place) : List Placed → Option Step
  | ⟨.value, _, _⟩ :: r =>
    nodeUnless [.flowEntry, .flowSequenceEnd] hs false false id (.pairEnd :: places) r
  | t :: r => Step.empty t.start (.pairEnd :: places) (t :: r)
  | [] => none

def flowKey (hs : Handles) (places : List Place) : List Placed → Option Step
  | ⟨.flowMappingEnd, m, _⟩ :: r => emit .mappingEnd m places r
  | ⟨.key, _, _⟩ :: r =>
    nodeUnless [.value, .flowEntry, .flowMappingEnd] hs false false id
      (.flowMappingValue :: places) r
  | ts => node hs false false (.flowMappingNoValue :: places) ts

def flowValue (hs : Handles) (places : List Place) : List Placed → Option Step
  | ⟨.value, _, _⟩ :: r =>
    nodeUnless [.flowEntry, .flowMappingEnd] hs false false id (.flowMappingKey :: places) r
  | t :: r => Step.empty t.start (.flowMappingKey :: places) (t :: r)
  | [] => none

def stepAt (hs : Handles) (places : List Place) (ts : List Placed) : Place → Option Step
  | .node => node hs true false places ts
  | .content =>
    match ts with
    | [] => none
    | t :: _ =>
      match t.token with
      | .directive _ | .documentStart | .documentEnd | .streamEnd => Step.empty t.start places ts
      | _ => node hs true false places ts
  | .sequenceFirst => blockEntry hs places (ts.drop 1)
  | .sequenceEntry => blockEntry hs places ts
  | .flushEntry => flushEntry hs places ts
  | .mappingFirst => blockKey hs places (ts.drop 1)
  | .mappingKey => blockKey hs places ts
  | .mappingValue => blockValue hs places ts
  | .flowSequenceFirst => flowEntry hs places (ts.drop 1)
  | .flowSequenceEntry =>
    match ts with
    | ⟨.flowEntry, _, _⟩ :: r => flowEntry hs places r
    | ⟨.flowSequenceEnd, m, _⟩ :: r => emit .sequenceEnd m places r
    | _ => none
  | .pairKey => pairKey hs places ts
  | .pairValue => pairValue hs places ts
  | .pairEnd =>
    match ts with
    | [] => none
    | t :: r => emit .mappingEnd t.start places (t :: r)
  | .flowMappingFirst => flowKey hs places (ts.drop 1)
  | .flowMappingKey =>
    match ts with
    | ⟨.flowEntry, _, _⟩ :: r => flowKey hs places r
    | ⟨.flowMappingEnd, m, _⟩ :: r => emit .mappingEnd m places r
    | _ => none
  | .flowMappingValue => flowValue hs places ts
  | .flowMappingNoValue =>
    match ts with
    | [] => none
    | t :: r => Step.empty t.start (.flowMappingKey :: places) (t :: r)

/-- The events from a place up to the end of its document, and the tokens behind it. Without such an
end there is no rest: the tokens break off, or are none of a document. -/
def readEvents (hs : Handles) :
    Nat → List Place → List Placed → List Located × Option (List Placed)
  | _, [], ts => ([], if ts.isEmpty then none else some ts)
  | 0, _, _ => ([], none)
  | n + 1, place :: places, ts =>
    match stepAt hs places ts place with
    | none => ([], none)
    | some s =>
      let (es, r) := readEvents hs n s.places s.rest
      (s.event :: es, r)

/-- A token takes part in fewer than this many steps. -/
def stepsPerToken : Nat := 8

structure Prologue where
  hasVersion : Bool := false
  handles : Handles := []

namespace Prologue

def read (p : Prologue) : List Placed → Option (Prologue × List Placed)
  | ⟨.directive (.version major minor), _, _⟩ :: r =>
    if p.hasVersion || major ≠ 1 || (minor ≠ 1 && minor ≠ 2) then none
    else read { p with hasVersion := true } r
  | ⟨.directive (.tag h u), _, _⟩ :: r =>
    if (p.handles.lookup h).isSome then none
    else read { p with handles := p.handles ++ [(h, u)] } r
  | ts => some (p, ts)

end Prologue

def firstDocument (ts : List Placed) : List Located × Option (List Placed) :=
  let run (hs : Handles) (place : Place) (ts : List Placed) :=
    readEvents hs (stepsPerToken * (ts.length + 1)) [place] ts
  match ts with
  | [] => ([], none)
  | t :: r =>
    match t.token with
    | .streamEnd => ([], some (t :: r))
    | .directive _ | .documentStart =>
      match Prologue.read {} (t :: r) with
      | some (p, ⟨.documentStart, _, _⟩ :: r) => run (p.handles ++ Handles.defaults) .content r
      | _ => ([], none)
    | _ => run Handles.defaults .node (t :: r)

def endsStream : List Placed → Bool
  | ⟨.documentEnd, _, _⟩ :: r => endsStream r
  | ⟨.streamEnd, _, _⟩ :: _ => true
  | _ => false

end Placeholder.Yaml
