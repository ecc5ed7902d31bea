import Blueprint.Yaml.Scanner

/-!
# Reading YAML documents

The structure of a document is read off its tokens by a function for each kind of
collection, and the outcome is an offer (`Feed`) rather than a tree, since a YAML mapping
may have any node as a key. A place without a node holds the empty scalar, which is null.
A text holds one document, and at most 128 collections inside one another.

This is not all of YAML: a text with a block scalar, an anchor, an alias, a tag or a directive is
not read.

The functions call one another, so they count down a fuel, which `Yaml.readFeed?`
computes from the number of tokens; `room` is the number of collections that may still
be opened.
-/

namespace Blueprint

namespace Yaml

/-- The next token is one of a sequence entry or the end of a block. -/
def endsSequenceNode : List Token → Bool
  | .blockEntry :: _ | .blockEnd :: _ => true
  | _ => false

/-- The next token ends an entry of a block sequence that is not indented. -/
def endsIndentlessNode : List Token → Bool
  | .blockEntry :: _ | .key :: _ | .value :: _ | .blockEnd :: _ => true
  | _ => false

/-- The next token ends a key or a value of a block mapping. -/
def endsMappingNode : List Token → Bool
  | .key :: _ | .value :: _ | .blockEnd :: _ => true
  | _ => false

/-- The next token ends a key of a flow collection. -/
def endsFlowKey (close : Token) : List Token → Bool
  | .value :: _ | .flowEntry :: _ => true
  | t :: _ => t = close
  | [] => false

/-- The next token ends a value of a flow collection. -/
def endsFlowValue (close : Token) : List Token → Bool
  | .flowEntry :: _ => true
  | t :: _ => t = close
  | [] => false

/-- The tokens of the next entry of a flow collection, after the comma that separates it
from the entry before it. -/
def nextFlowNode? (first : Bool) (close : Token) (ts : List Token) : Option (List Token) :=
  if first then some ts
  else
    match ts with
    | .flowEntry :: rest => some rest
    | t :: _ => if t = close then some ts else none
    | [] => none

mutual

/-- **A node**: a scalar or a collection. Block collections stand in block context only,
and a block sequence without indentation only where a mapping has its keys and
values. -/
def node? (room : Nat) (block indentless : Bool) : Nat → List Token → Option (Feed × List Token)
  | 0, _ => none
  | fuel + 1, ts =>
    match ts with
    | .scalar text plain :: rest => some (scalarFeed text plain, rest)
    | t :: rest =>
      if room = 0 then none
      else if t = .blockEntry && indentless then
        (indentless? (room - 1) fuel (t :: rest)).map fun (items, rest) => (.sequence items, rest)
      else if t = .flowSequenceStart then
        (flowSequence? (room - 1) true fuel rest).map fun (items, rest) => (.sequence items, rest)
      else if t = .flowMappingStart then
        (flowMapping? (room - 1) true fuel rest).map fun (entries, rest) => (.mapping entries, rest)
      else if block && t = .blockSequenceStart then
        (blockSequence? (room - 1) fuel rest).map fun (items, rest) => (.sequence items, rest)
      else if block && t = .blockMappingStart then
        (blockMapping? (room - 1) fuel rest).map fun (entries, rest) => (.mapping entries, rest)
      else none
    | [] => none
termination_by structural fuel => fuel

/-- The entries of a block sequence, up to its end. -/
def blockSequence? (room : Nat) : Nat → List Token → Option (List Feed × List Token)
  | 0, _ => none
  | fuel + 1, ts =>
    match ts with
    | .blockEntry :: rest => do
      let (item, rest) ←
        if endsSequenceNode rest then some (.null, rest) else node? room true false fuel rest
      let (items, rest) ← blockSequence? room fuel rest
      return (item :: items, rest)
    | .blockEnd :: rest => some ([], rest)
    | _ => none
termination_by structural fuel => fuel

/-- The entries of a block sequence that is not indented, up to anything else. -/
def indentless? (room : Nat) : Nat → List Token → Option (List Feed × List Token)
  | 0, _ => none
  | fuel + 1, ts =>
    match ts with
    | .blockEntry :: rest => do
      let (item, rest) ←
        if endsIndentlessNode rest then some (.null, rest) else node? room true false fuel rest
      let (items, rest) ← indentless? room fuel rest
      return (item :: items, rest)
    | _ => some ([], ts)
termination_by structural fuel => fuel

/-- The entries of a block mapping, up to its end. -/
def blockMapping? (room : Nat) : Nat → List Token → Option (List (Feed × Feed) × List Token)
  | 0, _ => none
  | fuel + 1, ts =>
    match ts with
    | .key :: rest => do
      let (key, rest) ←
        if endsMappingNode rest then some (.null, rest) else node? room true true fuel rest
      let (value, rest) ← match rest with
        | .value :: rest =>
          if endsMappingNode rest then some (.null, rest) else node? room true true fuel rest
        | rest => some (.null, rest)
      let (entries, rest) ← blockMapping? room fuel rest
      return ((key, value) :: entries, rest)
    | .blockEnd :: rest => some ([], rest)
    | _ => none
termination_by structural fuel => fuel

/-- The value after a key of a flow collection. -/
def flowValue? (room : Nat) (close : Token) : Nat → List Token → Option (Feed × List Token)
  | 0, _ => none
  | fuel + 1, ts =>
    match ts with
    | .value :: rest =>
      if endsFlowValue close rest then some (.null, rest) else node? room false false fuel rest
    | ts => some (.null, ts)
termination_by structural fuel => fuel

/-- The items of a flow sequence, up to its end. An item with a key is a mapping of one
entry; a key that is missing takes the token after its mark with it. -/
def flowSequence? (room : Nat) (first : Bool) : Nat → List Token → Option (List Feed × List Token)
  | 0, _ => none
  | fuel + 1, ts => do
    match ← nextFlowNode? first .flowSequenceEnd ts with
    | .flowSequenceEnd :: rest => return ([], rest)
    | .key :: rest =>
      if room = 0 then none
      else
        let (key, rest) ←
          if endsFlowKey .flowSequenceEnd rest then some (Feed.null, rest.drop 1)
          else node? (room - 1) false false fuel rest
        let (value, rest) ← flowValue? (room - 1) .flowSequenceEnd fuel rest
        let (items, rest) ← flowSequence? room false fuel rest
        return (.mapping [(key, value)] :: items, rest)
    | ts =>
      let (item, rest) ← node? room false false fuel ts
      let (items, rest) ← flowSequence? room false fuel rest
      return (item :: items, rest)
termination_by structural fuel => fuel

/-- The entries of a flow mapping, up to its end. -/
def flowMapping? (room : Nat) (first : Bool) :
    Nat → List Token → Option (List (Feed × Feed) × List Token)
  | 0, _ => none
  | fuel + 1, ts => do
    match ← nextFlowNode? first .flowMappingEnd ts with
    | .flowMappingEnd :: rest => return ([], rest)
    | .key :: rest =>
      let (key, rest) ←
        if endsFlowKey .flowMappingEnd rest then some (Feed.null, rest)
        else node? room false false fuel rest
      let (value, rest) ← flowValue? room .flowMappingEnd fuel rest
      let (entries, rest) ← flowMapping? room false fuel rest
      return ((key, value) :: entries, rest)
    | ts =>
      let (key, rest) ← node? room false false fuel ts
      let (entries, rest) ← flowMapping? room false fuel rest
      return ((key, .null) :: entries, rest)
termination_by structural fuel => fuel

end

/-- The collections that may stand inside one another. -/
def maxDepth : Nat := 128

/-- Nothing but markers of a document's end. -/
def onlyEnds (ts : List Token) : Bool := ts.all fun t => t = .documentEnd

/-- The document of a list of tokens, with a marker before it or without. -/
def document? (ts : List Token) : Option Feed := do
  let fuel := 4 * ts.length + 4
  let (feed, rest) ← match ts with
    | [] => some (Feed.null, [])
    | .documentStart :: rest =>
      match rest with
      | [] | .documentStart :: _ | .documentEnd :: _ => some (.null, rest)
      | rest => node? maxDepth true false fuel rest
    | ts => node? maxDepth true false fuel ts
  if onlyEnds rest then some feed else none

/-- **A YAML text as an offer.** -/
def readFeed? (text : String) : Option Feed := do
  document? (← tokens? text)

/-- **A YAML text as a tree.** -/
def read? (text : String) : Option Tree := do
  (← readFeed? text).toTree.toOption

end Yaml

end Blueprint
