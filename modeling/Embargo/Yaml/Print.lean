import Embargo.Yaml.Document

/-!
This module contains the text that a YAML value is written as: collections in block style, texts plain
wherever that is possible, and the items of a sequence in the column of its key.
-/

namespace Embargo.Yaml

namespace Style

def isPrintable (c : Char) : Bool :=
  let n := c.toNat
  n == 0x0A || (0x20 ≤ n && n ≤ 0x7E) || (0xA0 ≤ n && n ≤ 0xD7FF)
    || (0xE000 ≤ n && n ≤ 0xFFFD && n != 0xFEFF)

def isBreakOut (c : Char) : Bool :=
  isBreak c || c == '\r' || c == '\u0085'

def isOldBool (s : String) : Bool :=
  ["y", "Y", "yes", "Yes", "YES", "n", "N", "no", "No", "NO", "on", "On", "ON", "off", "Off",
    "OFF"].contains s

def isAmbiguous (s : String) : Bool :=
  isOldBool s || hasLeadingZero s.toList ||
    match ofPlain? s with
    | some (.text _) => false
    | _ => true

structure Analysis where
  plain : Bool
  singleQuoted : Bool
  block : Bool
  multiLine : Bool
deriving Repr

def isFirstIndicator (c : Char) : Bool :=
  "#,[]\x7b\x7d&*!|>'\"%@".toList.contains c || c.toNat == 0x60

def hasIndicator (spaced : Bool) : List Char → Bool
  | [] => false
  | c :: cs =>
    (c == ':' && endsWord cs) || (c == '#' && spaced)
      || hasIndicator (isBlank c || isBreakOut c) cs

def hasPair (p q : Char → Bool) : List Char → Bool
  | a :: b :: cs => (p a && q b) || hasPair p q (b :: cs)
  | _ => false

def analyse (cs : List Char) : Analysis :=
  match cs with
  | [] => ⟨true, true, false, false⟩
  | first :: others =>
    let isSpace (c : Char) : Bool := c == ' '
    let last := cs.getLastD ' '
    let special := !cs.all isPrintable
    let breaks := cs.any isBreakOut
    let spaceBreak := hasPair isSpace isBreakOut cs
    let breakSpace := hasPair isBreakOut isSpace cs
    let edges := isSpace first || isBreakOut first || isSpace last || isBreakOut last
    let mark := "---".toList.isPrefixOf cs || "...".toList.isPrefixOf cs
    let indicator := mark || isFirstIndicator first
      || ((first == '?' || first == ':' || first == '-') && endsWord others)
      || hasIndicator (isBlank first || isBreakOut first) others
    ⟨!(edges || breakSpace || spaceBreak || special || breaks || indicator),
      !(breakSpace || spaceBreak || special),
      !(isSpace last || spaceBreak || special),
      breaks⟩

def hex (width n : Nat) : List Char :=
  let ds := (Nat.toDigits 16 n).map Char.toUpper
  List.replicate (width - ds.length) '0' ++ ds

def escape (c : Char) : List Char :=
  let n := c.toNat
  if isPrintable c && !isBreakOut c && c != '"' && c != '\\' then
    [c]
  else
    '\\' :: match n with
    | 0x00 => ['0']
    | 0x07 => ['a']
    | 0x08 => ['b']
    | 0x09 => ['t']
    | 0x0A => ['n']
    | 0x0B => ['v']
    | 0x0C => ['f']
    | 0x0D => ['r']
    | 0x1B => ['e']
    | 0x22 => ['"']
    | 0x5C => ['\\']
    | 0x85 => ['N']
    | 0xA0 => ['_']
    | 0x2028 => ['L']
    | 0x2029 => ['P']
    | _ =>
      if n ≤ 0xFF then 'x' :: hex 2 n
      else if n ≤ 0xFFFF then 'u' :: hex 4 n
      else 'U' :: hex 8 n

def doubleQuoted (cs : List Char) : List Char :=
  '"' :: cs.flatMap escape ++ ['"']

def newLine (indent : Nat) : List Char :=
  '\n' :: List.replicate indent ' '

def singleQuoted (indent : Nat) (cs : List Char) : List Char :=
  '\'' :: go false cs
where
  go (afterBreak : Bool) : List Char → List Char
    | [] => (if afterBreak then List.replicate indent ' ' else []) ++ ['\'']
    | c :: cs =>
      if isBreakOut c then
        (if !afterBreak && c == '\n' then ['\n', '\n'] else [c]) ++ go true cs
      else
        (if afterBreak then List.replicate indent ' ' else [])
          ++ (if c == '\'' then ['\'', '\''] else [c]) ++ go false cs

def literal (indent : Nat) (cs : List Char) : List Char :=
  let leading := cs.head?.any fun c => c == ' ' || isBreakOut c
  let hint : List Char :=
    match cs.reverse with
    | [] => ['-']
    | last :: others =>
      if !isBreakOut last then ['-']
      else if others.isEmpty || others.head?.any isBreakOut then ['+']
      else []
  '|' :: (if leading then ['2'] else []) ++ hint ++ ['\n'] ++ go true cs
where
  go (lineStart : Bool) : List Char → List Char
    | [] => []
    | c :: cs =>
      if isBreakOut c then
        c :: go true cs
      else
        (if lineStart then List.replicate indent ' ' else []) ++ c :: go false cs

inductive Choice where
  | plain
  | single
  | double
  | literal
deriving DecidableEq, Repr

def choose (s : String) (asKey : Bool) : Choice :=
  let a := analyse s.toList
  if asKey && a.multiLine then
    .double
  else if s.toList.contains '\n' then
    if a.block && !asKey then .literal else .double
  else if !isAmbiguous s && a.plain then
    .plain
  else if a.singleQuoted then
    .single
  else
    .double

def writeText (s : String) (indent : Nat) (asKey : Bool) : List Char :=
  match choose s asKey with
  | .plain => s.toList
  | .single => singleQuoted indent s.toList
  | .double => doubleQuoted s.toList
  | .literal => literal indent s.toList

def isTagChar (c : Char) : Bool :=
  c.isAlphanum || "-_;/?:@&=+$,.!~*'()[]".toList.contains c

def writeTag (tag : String) : List Char :=
  if tag = "!" then
    "!<!>".toList
  else
    '!' :: tag.toList.flatMap fun c =>
      if isTagChar c then
        [c]
      else
        (String.ofList [c]).toUTF8.toList.flatMap fun b => '%' :: hex 2 b.toNat

def below (indent : Nat) (top bottom : List Char) : List Char :=
  (if top.getLast?.any isBreakOut then top else top ++ ['\n'])
    ++ List.replicate indent ' ' ++ bottom

def column (indent : Nat) : List (List Char) → List Char
  | [] => []
  | [top] => top
  | top :: others => below indent top (column indent others)

end Style

namespace Value

open Style

def simple? (v : Value) (indent : Nat) (asKey : Bool) : Option (List Char) :=
  match v with
  | .null => some "null".toList
  | .bool b => some (if b then "true" else "false").toList
  | .number n => some n.text.toList
  | .text s => some (writeText s indent asKey)
  | .seq [] => some "[]".toList
  | .mapping [] => some "\x7b\x7d".toList
  | _ => none

def keyLength? : Value → Option Nat
  | .text s => if (analyse s.toList).multiLine then none else some s.utf8ByteSize
  | .tagged tag v => (keyLength? v).map (· + tag.utf8ByteSize + 1)
  | v => (v.simple? 0 true).map fun cs => if cs.head? == some '[' || cs.head? == some '\x7b' then 0
      else cs.length

def isSimpleKey (v : Value) : Bool :=
  v.keyLength?.any (· ≤ 128)

/--
Where the text of a value starts: in the column of its block, or behind the colon of a key or a tag
in a block of the given kind.
-/
inductive Spot where
  | column
  | behind (inMapping : Bool)
deriving DecidableEq, Repr

def gap (spot : Spot) : List Char :=
  if spot = .column then [] else [' ']

def Spot.behindTag : Spot → Spot
  | .column => .behind false
  | spot => spot

mutual

def write (parent : Option Nat) (spot : Spot) (asKey : Bool) : Value → List Char
  | .tagged tag v =>
    gap spot ++ writeTag tag ++ write parent spot.behindTag asKey v
  | .seq (v :: vs) =>
    let indent := match parent, spot with
      | none, _ => 0
      | some n, .behind true => n
      | some n, _ => n + 2
    (if spot = .column then [] else newLine indent) ++ column indent (writeItems indent (v :: vs))
  | .mapping (e :: es) =>
    let indent := parent.elim 0 (· + 2)
    (if spot = .column then [] else newLine indent) ++ column indent (writeEntries indent (e :: es))
  | .seq [] => gap spot ++ "[]".toList
  | .mapping [] => gap spot ++ "\x7b\x7d".toList
  | .null => gap spot ++ "null".toList
  | .bool b => gap spot ++ (if b then "true" else "false").toList
  | .number n => gap spot ++ n.text.toList
  | .text s => gap spot ++ writeText s (parent.elim 2 (· + 2)) asKey

def writeItems (indent : Nat) : List Value → List (List Char)
  | [] => []
  | v :: vs => ('-' :: ' ' :: write (some indent) .column false v) :: writeItems indent vs

def writeEntries (indent : Nat) : List (Value × Value) → List (List Char)
  | [] => []
  | (k, v) :: es =>
    if k.isSimpleKey then
      (write (some indent) .column true k ++ ':' :: write (some indent) (.behind true) false v)
        :: writeEntries indent es
    else
      ('?' :: ' ' :: write (some indent) .column false k)
        :: (':' :: ' ' :: write (some indent) .column false v) :: writeEntries indent es

end

mutual

/--
Whether a tagged value has no second tag. Two tags on one value cannot be written.
-/
def isWritable : Value → Bool
  | .tagged _ (.tagged _ _) => false
  | .tagged _ v => isWritable v
  | .seq vs => areWritable vs
  | .mapping es => entriesWritable es
  | _ => true

def areWritable : List Value → Bool
  | [] => true
  | v :: vs => isWritable v && areWritable vs

def entriesWritable : List (Value × Value) → Bool
  | [] => true
  | (k, v) :: es => isWritable k && isWritable v && entriesWritable es

end

def document? (v : Value) : Option String :=
  if v.isWritable then
    some (String.ofList (below 0 (v.write none .column false) []))
  else
    none

end Value

end Embargo.Yaml
