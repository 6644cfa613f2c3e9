import Embargo.Yaml.Scalar
import Embargo.Text.Decimal

/-!
This module contains the tokens of a YAML text. Indentation is turned into tokens that open and close
block collections. Whether a scalar is a key shows only at the colon behind it, so the tokens of a
key are put in front of it afterwards.
-/

namespace Embargo.Yaml

inductive Token where
  | version (major minor : Nat)
  | tagPrefix (handle text : String)
  | documentStart
  | documentEnd
  | blockSeqStart
  | blockMapStart
  | blockEnd
  | flowSeqStart
  | flowSeqEnd
  | flowMapStart
  | flowMapEnd
  | blockEntry
  | flowEntry
  | key
  | value
  | alias (name : String)
  | anchor (name : String)
  | tag (handle suffix : String)
  | scalar (text : String) (plain : Bool)
deriving DecidableEq, Repr

/--
A token that turns out to be a key if a colon follows on its line. It has to be one if it stands
where only a key can.
-/
structure PossibleKey where
  required : Bool
  number : Nat
  place : Place

/--
The state between two tokens. The tokens are kept with the last one first, and the possible keys are
those of the open flow collections, the innermost first.
-/
structure Scan where
  rest : List Char
  place : Place
  indent : Int
  outerIndents : List Int
  keyAllowed : Bool
  possibleKey : Option PossibleKey
  outerKeys : List (Option PossibleKey)
  tokens : List Token

namespace Scan

def start (cs : List Char) : Scan :=
  ⟨cs, .start, -1, [], true, none, [], []⟩

def inFlow (s : Scan) : Bool :=
  !s.outerKeys.isEmpty

def emit (s : Scan) (t : Token) : Scan :=
  { s with tokens := t :: s.tokens }

def emitAt (s : Scan) (number : Nat) (t : Token) : Scan :=
  let behind := s.tokens.length - number
  { s with tokens := s.tokens.take behind ++ t :: s.tokens.drop behind }

def moveTo (s : Scan) (rest : List Char) : Scan :=
  { s with
    rest := rest
    place := s.place.afterAll (s.rest.take (s.rest.length - rest.length)) }

def skip (s : Scan) (n : Nat) : Scan :=
  s.moveTo (s.rest.drop n)

def allowKey (s : Scan) (b : Bool) : Scan :=
  { s with keyAllowed := b }

def dropKey? (s : Scan) : Option Scan :=
  match s.possibleKey with
  | some k => if k.required then none else some { s with possibleKey := none }
  | none => some s

def saveKey? (s : Scan) : Option Scan :=
  if s.keyAllowed then
    s.dropKey?.map fun s =>
      let required := !s.inFlow && s.indent == (s.place.column : Int)
      { s with possibleKey := some (PossibleKey.mk required s.tokens.length s.place) }
  else
    some s

/--
A key and its colon stand on one line, with at most 1024 characters between them.
-/
def PossibleKey.isStale (k : PossibleKey) (p : Place) : Bool :=
  k.place.line < p.line || k.place.index + 1024 < p.index

def dropStale? (s : Scan) : Option Scan :=
  let check : Option PossibleKey → Option (Option PossibleKey)
    | some k =>
      if PossibleKey.isStale k s.place then
        if k.required then none else some none
      else
        some (some k)
    | none => some none
  match check s.possibleKey, s.outerKeys.mapM check with
  | some k, some ks => some { s with possibleKey := k, outerKeys := ks }
  | _, _ => none

def openBlock (s : Scan) (column : Nat) (number : Nat) (t : Token) : Scan :=
  if !s.inFlow && s.indent < column then
    { s with indent := column, outerIndents := s.indent :: s.outerIndents }.emitAt number t
  else
    s

def closeBlocks (s : Scan) (column : Int) : Scan :=
  if s.inFlow then s else go s.indent s.outerIndents s
where
  go (indent : Int) : List Int → Scan → Scan
    | outer :: others, s =>
      if column < indent then
        go outer others ({ s with indent := outer, outerIndents := others }.emit .blockEnd)
      else
        s
    | [], s => s

/--
Skip blanks, comments and line breaks in front of a token. Outside flow collections a key may follow
a line break, and no tab may stand in front of it.
-/
def skipBlanks (s : Scan) : Scan :=
  let (rest, allowed) := go s.inFlow s.keyAllowed false
    (if s.place.index = 0 && s.rest.head? == some '\uFEFF' then s.rest.drop 1 else s.rest)
  (s.moveTo rest).allowKey allowed
where
  go (inFlow allowed comment : Bool) : List Char → List Char × Bool
    | [] => ([], allowed)
    | c :: cs =>
      if isBreak c then
        go inFlow (allowed || !inFlow) false cs
      else if comment || c == ' ' || (c == '\t' && (inFlow || !allowed)) then
        go inFlow allowed comment cs
      else if c == '#' then
        go inFlow allowed true cs
      else
        (c :: cs, allowed)

/-! ### Directives, anchors and tags -/

def isTagChar (listed : Bool) (c : Char) : Bool :=
  isNameChar c || ";/?:@&=+$.!~*'()".toList.contains c || (listed && ",[]".toList.contains c)

structure PartialChar where
  left : Nat
  value : Nat

def PartialChar.add? (p : Option PartialChar) (byte : Nat) : Option (Char ⊕ PartialChar) :=
  match p with
  | none =>
    if byte < 0x80 then some (.inl (Char.ofNat byte))
    else if 0xC0 ≤ byte ∧ byte < 0xE0 then some (.inr ⟨1, byte - 0xC0⟩)
    else if 0xE0 ≤ byte ∧ byte < 0xF0 then some (.inr ⟨2, byte - 0xE0⟩)
    else if 0xF0 ≤ byte ∧ byte < 0xF8 then some (.inr ⟨3, byte - 0xF0⟩)
    else none
  | some ⟨left, value⟩ =>
    let value := value * 0x40 + (byte - 0x80)
    if byte < 0x80 ∨ 0xC0 ≤ byte then none
    else if 1 < left then some (.inr ⟨left - 1, value⟩)
    else if value.isValidChar then some (.inl (Char.ofNat value))
    else none

def readTagText (listed : Bool) (cs : List Char) : Option (List Char × List Char) :=
  go [] none cs
where
  go (acc : List Char) (open? : Option PartialChar) : List Char → Option (List Char × List Char)
    | '%' :: a :: b :: cs =>
      match hexValue? a, hexValue? b with
      | some x, some y =>
        match PartialChar.add? open? (x * 16 + y) with
        | some (.inl c) => go (c :: acc) none cs
        | some (.inr p) => go acc (some p) cs
        | none => none
      | _, _ => none
    | '%' :: _ => none
    | c :: cs =>
      if open?.isSome then none
      else if isTagChar listed c then go (c :: acc) none cs
      else some (acc.reverse, c :: cs)
    | [] => if open?.isSome then none else some (acc.reverse, [])

def readTag (cs : List Char) : Option (Token × List Char) :=
  match cs with
  | '<' :: cs =>
    match readTagText true cs with
    | some (text, '>' :: rest) =>
      if text.isEmpty then none else some (.tag "" (String.ofList text), rest)
    | _ => none
  | _ =>
    let name := cs.takeWhile isNameChar
    match cs.drop name.length with
    | '!' :: rest =>
      match readTagText false rest with
      | some (text, rest) =>
        if text.isEmpty then
          none
        else
          some (.tag (String.ofList ('!' :: name ++ ['!'])) (String.ofList text), rest)
      | none => none
    | _ =>
      match readTagText false cs with
      | some (text, rest) =>
        if text.isEmpty then some (.tag "" "!", rest) else some (.tag "!" (String.ofList text), rest)
      | none => none

def restOfLine? (cs : List Char) : Option (List Char) :=
  let cs := cs.dropWhile isBlank
  let cs := if cs.head? == some '#' then cs.dropWhile (!isBreak ·) else cs
  match cs with
  | [] => some []
  | c :: rest => if isBreak c then some rest else none

def readVersion (cs : List Char) : Option (Token × List Char) :=
  let cs := cs.dropWhile isBlank
  let major := cs.takeWhile Char.isDigit
  match cs.drop major.length with
  | '.' :: cs =>
    let minor := cs.takeWhile Char.isDigit
    match Text.readNat? 1000000000 major, Text.readNat? 1000000000 minor with
    | some a, some b => some (.version a b, cs.drop minor.length)
    | _, _ => none
  | _ => none

def readTagPrefix (cs : List Char) : Option (Token × List Char) :=
  match cs.dropWhile isBlank with
  | '!' :: cs =>
    let name := cs.takeWhile isNameChar
    let handle? : Option (List Char × List Char) :=
      match cs.drop name.length with
      | '!' :: rest => some ('!' :: name ++ ['!'], rest)
      | rest => if name.isEmpty then some (['!'], rest) else none
    match handle? with
    | some (handle, rest) =>
      if rest.head?.any isBlank then
        match readTagText true (rest.dropWhile isBlank) with
        | some (text, rest) =>
          if text.isEmpty || !endsWord rest then
            none
          else
            some (.tagPrefix (String.ofList handle) (String.ofList text), rest)
        | none => none
      else
        none
    | none => none
  | _ => none

def readDirective (cs : List Char) : Option (Token × List Char) :=
  let name := cs.takeWhile isNameChar
  let rest := cs.drop name.length
  let directive? :=
    match String.ofList name with
    | "YAML" => readVersion rest
    | "TAG" => readTagPrefix rest
    | _ => none
  match directive? with
  | some (t, rest) => (restOfLine? rest).map (t, ·)
  | none => none

def readAnchor (cs : List Char) : Option (String × List Char) :=
  let name := cs.takeWhile isNameChar
  let rest := cs.drop name.length
  let ends := endsWord rest || rest.head?.any fun c => "?:,]\x7d%@".toList.contains c || c.toNat == 0x60
  if name.isEmpty || !ends then none else some (String.ofList name, rest)

/-! ### Tokens -/

def mark (s : Scan) (n : Nat) (t : Token) : Scan :=
  (s.emit t).skip n

def leaveDocument? (s : Scan) : Option Scan :=
  (s.closeBlocks (-1)).dropKey?.map (·.allowKey false)

def openFlow? (s : Scan) (t : Token) : Option Scan :=
  s.saveKey?.map fun s =>
    ({ s with possibleKey := none, outerKeys := s.possibleKey :: s.outerKeys }.allowKey true).mark 1 t

def closeFlow? (s : Scan) (t : Token) : Option Scan :=
  s.dropKey?.map fun s =>
    let s := match s.outerKeys with
      | k :: ks => { s with possibleKey := k, outerKeys := ks }
      | [] => s
    (s.allowKey false).mark 1 t

def flowEntry? (s : Scan) : Option Scan :=
  s.dropKey?.map fun s => (s.allowKey true).mark 1 .flowEntry

def blockEntry? (s : Scan) : Option Scan :=
  if !s.inFlow && !s.keyAllowed then
    none
  else
    (s.openBlock s.place.column s.tokens.length .blockSeqStart).dropKey?.map fun s =>
      (s.allowKey true).mark 1 .blockEntry

def key? (s : Scan) : Option Scan :=
  if !s.inFlow && !s.keyAllowed then
    none
  else
    (s.openBlock s.place.column s.tokens.length .blockMapStart).dropKey?.map fun s =>
      (s.allowKey (!s.inFlow)).mark 1 .key

def value? (s : Scan) : Option Scan :=
  match s.possibleKey with
  | some k =>
    let s := (s.emitAt k.number .key).openBlock k.place.column k.number .blockMapStart
    some (({ s with possibleKey := none }.allowKey false).mark 1 .value)
  | none =>
    if !s.inFlow && !s.keyAllowed then
      none
    else
      let s := s.openBlock s.place.column s.tokens.length .blockMapStart
      some ((s.allowKey (!s.inFlow)).mark 1 .value)

def keyToken? (s : Scan) (t : Token) (rest : List Char) : Option Scan :=
  s.saveKey?.map fun s => ((s.allowKey false).emit t).moveTo rest

def plain? (s : Scan) : Option Scan :=
  match s.saveKey? with
  | some s =>
    (readPlain s.inFlow (s.indent + 1) [] .none s.place.column s.rest).map fun p =>
      ((s.allowKey p.multiLine).emit (.scalar (String.ofList p.text) true)).moveTo p.rest
  | none => none

def block? (s : Scan) (folded : Bool) : Option Scan :=
  match s.dropKey? with
  | some s =>
    (readBlock folded s.indent (s.rest.drop 1)).map fun (text, rest) =>
      ((s.allowKey true).emit (.scalar (String.ofList text) false)).moveTo rest
  | none => none

def quoted? (s : Scan) (q : Char) : Option Scan :=
  match readQuoted q [] .none false .none (s.rest.drop 1) with
  | some (text, rest) => s.keyToken? (.scalar (String.ofList text) false) rest
  | none => none

def isIndicator (c : Char) : Bool :=
  isBlank c || "-?:,[]\x7b\x7d#&*!|>'\"%@".toList.contains c || c.toNat == 0x60

def next? (s : Scan) : Option Scan :=
  match s.rest with
  | [] => some s
  | c :: cs =>
    let word := endsWord cs
    if s.place.column = 0 && c == '%' then
      match s.leaveDocument?, readDirective cs with
      | some s, some (t, rest) => some ((s.emit t).moveTo rest)
      | _, _ => none
    else if s.place.column = 0 && startsDocumentMark s.rest then
      s.leaveDocument?.map (·.mark 3 (if c == '-' then .documentStart else .documentEnd))
    else
      match c with
      | '[' => s.openFlow? .flowSeqStart
      | '\x7b' => s.openFlow? .flowMapStart
      | ']' => s.closeFlow? .flowSeqEnd
      | '\x7d' => s.closeFlow? .flowMapEnd
      | ',' => s.flowEntry?
      | '*' =>
        match readAnchor cs with
        | some (name, rest) => s.keyToken? (.alias name) rest
        | none => none
      | '&' =>
        match readAnchor cs with
        | some (name, rest) => s.keyToken? (.anchor name) rest
        | none => none
      | '!' =>
        match readTag cs with
        | some (t, rest) =>
          if endsWord rest || (s.inFlow && rest.head? == some ',') then
            s.keyToken? t rest
          else
            none
        | none => none
      | '\'' => s.quoted? '\''
      | '"' => s.quoted? '"'
      | _ =>
        if c == '-' && word then s.blockEntry?
        else if c == '?' && (s.inFlow || word) then s.key?
        else if c == ':' && (s.inFlow || word) then s.value?
        else if c == '|' && !s.inFlow then s.block? false
        else if c == '>' && !s.inFlow then s.block? true
        else if !isIndicator c || (c == '-' && !cs.head?.any isBlank)
            || (!s.inFlow && (c == '?' || c == ':') && !word) then
          s.plain?
        else
          none

def run (s : Scan) : Option (List Token) :=
  match s.skipBlanks.dropStale? with
  | none => none
  | some t =>
    if t.rest.isEmpty then
      (t.closeBlocks (-1)).dropKey?.map fun s => s.tokens.reverse
    else
      match (t.closeBlocks t.place.column).next? with
      | none => none
      | some u => if u.rest.length < s.rest.length then run u else none
termination_by s.rest.length

end Scan

def tokens? (text : String) : Option (List Token) :=
  if text.toList.all isAllowed then
    (Scan.start (normaliseBreaks text.toList)).run
  else
    none

end Embargo.Yaml
