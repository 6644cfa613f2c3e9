import Embargo.Yaml.Token

/-!
This module contains the nodes of a YAML document: its scalars as they are written, with their tags,
and its collections. Aliases are replaced by the nodes they stand for.
-/

namespace Embargo.Yaml

inductive Node where
  | scalar (tag : Option String) (text : String) (plain : Bool)
  | seq (tag : Option String) (items : List Node)
  | map (tag : Option String) (entries : List (Node × Node))
deriving Inhabited

namespace Node

def empty : Node :=
  .scalar none "" true

structure Source where
  tokens : List Token
  anchors : List (String × Node)
  handles : List (String × String)

abbrev Reader (α : Type) := StateT Source Option α

namespace Reader

def peek : Reader (Option Token) :=
  return (← get).tokens.head?

def skip : Reader Unit :=
  modify fun s => { s with tokens := s.tokens.drop 1 }

def accept (t : Token) : Reader Bool := do
  if (← peek) == some t then
    skip
    return true
  else
    return false

def expect (t : Token) : Reader Unit := do
  if !(← accept t) then failure

def nextIsOneOf (ts : List Token) : Reader Bool := do
  match ← peek with
  | some t => return ts.contains t
  | none => return true

def resolveTag (handle suffix : String) : Reader String := do
  if handle.isEmpty then
    return suffix
  else
    match (← get).handles.lookup handle with
    | some text => return text ++ suffix
    | none => failure

def properties : Reader (Option String × Option String) := do
  match ← peek with
  | some (.anchor name) =>
    skip
    return (some name, ← tag)
  | some (.tag _ _) =>
    let t ← tag
    match ← peek with
    | some (.anchor name) =>
      skip
      return (some name, t)
    | _ => return (none, t)
  | _ => return (none, none)
where
  tag : Reader (Option String) := do
    match ← peek with
    | some (.tag handle suffix) =>
      skip
      return some (← resolveTag handle suffix)
    | _ => return none

mutual

/--
Read a node. In a block it may be a block collection, and behind a key of a mapping a sequence that is
not indented further. The fuel bounds the number of nodes and entries.
-/
def node (inBlock afterKey : Bool) (fuel : Nat) : Reader Node := do
  match fuel with
  | 0 => failure
  | fuel + 1 =>
    match ← peek with
    | some (.alias name) =>
      skip
      match (← get).anchors.lookup name with
      | some n => return n
      | none => failure
    | _ =>
      let (anchor, tag) ← properties
      let n ← content inBlock afterKey tag (anchor.isSome || tag.isSome) fuel
      match anchor with
      | some name => modify fun s => { s with anchors := (name, n) :: s.anchors }
      | none => pure ()
      return n

def content (inBlock afterKey : Bool) (tag : Option String) (hasProperties : Bool) (fuel : Nat) :
    Reader Node := do
  match fuel with
  | 0 => failure
  | fuel + 1 =>
    match ← peek with
    | some (.scalar text plain) =>
      skip
      return .scalar (if tag == some "!" then none else tag) text plain
    | some .flowSeqStart =>
      skip
      return .seq tag (← flowItems true fuel)
    | some .flowMapStart =>
      skip
      return .map tag (← flowEntries true fuel)
    | some .blockEntry =>
      if afterKey then
        return .seq tag (← plainItems fuel)
      else
        absent tag hasProperties
    | some .blockSeqStart =>
      if inBlock then
        skip
        return .seq tag (← blockItems fuel)
      else
        absent tag hasProperties
    | some .blockMapStart =>
      if inBlock then
        skip
        return .map tag (← blockEntries fuel)
      else
        absent tag hasProperties
    | _ => absent tag hasProperties

def absent (tag : Option String) (hasProperties : Bool) : Reader Node := do
  if hasProperties then return .scalar (if tag == some "!" then none else tag) "" true else failure

def blockItems (fuel : Nat) : Reader (List Node) := do
  match fuel with
  | 0 => failure
  | fuel + 1 =>
    if ← accept .blockEntry then
      let item ←
        if ← nextIsOneOf [.blockEntry, .blockEnd] then pure empty else node true false fuel
      return item :: (← blockItems fuel)
    else
      expect .blockEnd
      return []

def plainItems (fuel : Nat) : Reader (List Node) := do
  match fuel with
  | 0 => failure
  | fuel + 1 =>
    if ← accept .blockEntry then
      let item ←
        if ← nextIsOneOf [.blockEntry, .key, .value, .blockEnd] then
          pure empty
        else
          node true false fuel
      return item :: (← plainItems fuel)
    else
      return []

def blockEntries (fuel : Nat) : Reader (List (Node × Node)) := do
  match fuel with
  | 0 => failure
  | fuel + 1 =>
    if ← accept .key then
      let key ←
        if ← nextIsOneOf [.key, .value, .blockEnd] then pure empty else node true true fuel
      let value ←
        if ← accept .value then
          if ← nextIsOneOf [.key, .value, .blockEnd] then pure empty else node true true fuel
        else
          pure empty
      return (key, value) :: (← blockEntries fuel)
    else
      expect .blockEnd
      return []

def flowItems (first : Bool) (fuel : Nat) : Reader (List Node) := do
  match fuel with
  | 0 => failure
  | fuel + 1 =>
    if ← accept .flowSeqEnd then
      return []
    else
      if !first then expect .flowEntry
      if ← accept .key then
        let key ←
          if ← nextIsOneOf [.value, .flowEntry, .flowSeqEnd] then
            pure empty
          else
            node false false fuel
        let value ←
          if ← accept .value then
            if ← nextIsOneOf [.flowEntry, .flowSeqEnd] then pure empty else node false false fuel
          else
            pure empty
        return .map none [(key, value)] :: (← flowItems false fuel)
      else if ← accept .flowSeqEnd then
        return []
      else
        let item ← node false false fuel
        return item :: (← flowItems false fuel)

def flowEntries (first : Bool) (fuel : Nat) : Reader (List (Node × Node)) := do
  match fuel with
  | 0 => failure
  | fuel + 1 =>
    if ← accept .flowMapEnd then
      return []
    else
      if !first then expect .flowEntry
      if ← accept .key then
        let key ←
          if ← nextIsOneOf [.value, .flowEntry, .flowMapEnd] then
            pure empty
          else
            node false false fuel
        let value ←
          if ← accept .value then
            if ← nextIsOneOf [.flowEntry, .flowMapEnd] then pure empty else node false false fuel
          else
            pure empty
        return (key, value) :: (← flowEntries false fuel)
      else if ← accept .flowMapEnd then
        return []
      else
        let key ← node false false fuel
        return (key, empty) :: (← flowEntries false fuel)

end

def directives (version : Bool) (fuel : Nat) : Reader Unit := do
  match fuel with
  | 0 => failure
  | fuel + 1 =>
    match ← peek with
    | some (.version major minor) =>
      if version || major != 1 || (minor != 1 && minor != 2) then failure
      skip
      directives true fuel
    | some (.tagPrefix handle text) =>
      if (← get).handles.any fun h => h.1 == handle then failure
      skip
      modify fun s => { s with handles := (handle, text) :: s.handles }
      directives version fuel
    | _ => return

def skipDocumentEnds (fuel : Nat) : Reader Unit := do
  match fuel with
  | 0 => return
  | fuel + 1 => if ← accept .documentEnd then skipDocumentEnds fuel

def document (fuel : Nat) : Reader (Option Node) := do
  skipDocumentEnds fuel
  match ← peek with
  | none => return none
  | some (.version _ _) => explicit
  | some (.tagPrefix _ _) => explicit
  | some .documentStart => explicit
  | _ =>
    addHandles
    let n ← node true false fuel
    finish
    return some n
where
  addHandles : Reader Unit :=
    modify fun s =>
      { s with handles := s.handles ++ [("!", "!"), ("!!", "tag:yaml.org,2002:")] }
  explicit : Reader (Option Node) := do
    directives false fuel
    addHandles
    expect .documentStart
    let n ←
      match ← peek with
      | none => pure empty
      | some (.version _ _) => pure empty
      | some (.tagPrefix _ _) => pure empty
      | some .documentStart => pure empty
      | some .documentEnd => pure empty
      | _ => node true false fuel
    finish
    return some n
  finish : Reader Unit := do
    skipDocumentEnds fuel
    if (← peek).isSome then failure

end Reader

inductive Document where
  | malformed
  | nothing
  | root (n : Node)

def ofText (text : String) : Document :=
  match tokens? text with
  | none => .malformed
  | some ts =>
    match (Reader.document (4 * ts.length + 4)).run ⟨ts, [], []⟩ with
    | none => .malformed
    | some (none, _) => .nothing
    | some (some n, _) => .root n

end Node

end Embargo.Yaml
