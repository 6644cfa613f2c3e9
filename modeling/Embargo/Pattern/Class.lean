import Embargo.Pattern.CharSet
import Embargo.Pattern.Regex

/-!
This module contains the reading of the parts of a pattern that stand for one character or one
place: escapes and bracketed classes. A reader returns what it read with the characters that follow,
and `none` where the pattern is malformed.
-/

namespace Embargo.Pattern

structure Flags where
  ignoreCase : Bool
  multiLine : Bool
  dotAll : Bool
  crlf : Bool
  unicode : Bool
  spaced : Bool
deriving DecidableEq, Repr

namespace Flags

def initial (ignoreCase : Bool) : Flags :=
  ⟨ignoreCase, false, false, false, true, false⟩

def switch (f : Flags) (letter : Char) (on : Bool) : Flags :=
  match letter with
  | 'i' => { f with ignoreCase := on }
  | 'm' => { f with multiLine := on }
  | 's' => { f with dotAll := on }
  | 'R' => { f with crlf := on }
  | 'u' => { f with unicode := on }
  | 'x' => { f with spaced := on }
  | _ => f

/--
Skip what stands for nothing in spaced mode: white space, and comments up to the end of their line.
-/
def skip (f : Flags) (cs : List Char) : List Char :=
  if f.spaced then go false cs else cs
where
  go (comment : Bool) : List Char → List Char
    | [] => []
    | c :: cs =>
      if comment then
        go (c != '\n') cs
      else if Text.isWhiteSpace c then
        go false cs
      else if c == '#' then
        go true cs
      else
        c :: cs

def fold (f : Flags) (s : CharSet) : CharSet :=
  if f.ignoreCase then
    if f.unicode then s.foldCase else s.foldAsciiCase
  else
    s

def foldThenNegate (f : Flags) (negated : Bool) (s : CharSet) : CharSet :=
  if negated then (f.fold s).compl else f.fold s

/--
Without Unicode a set has to stay within ASCII, since texts are not cut inside a character.
-/
def admit? (f : Flags) (s : CharSet) : Option CharSet :=
  if f.unicode || s.ascii then some s else none

end Flags

inductive Atom where
  | char (c : Char) (byte : Bool)
  | set (s : CharSet)
  | look (l : Look)

namespace Atom

def isHex (c : Char) : Bool :=
  c.isDigit || ('a' ≤ c && c ≤ 'f') || ('A' ≤ c && c ≤ 'F')

def hexValue (cs : List Char) : Nat :=
  cs.foldl (fun n c => n * 16 + Unicode.Runs.hexDigit c.toUpper) 0

def charOfNat? (n : Nat) : Option Char :=
  if n.isValidChar then some (Char.ofNat n) else none

def readHexDigits (f : Flags) (acc : List Char) : Nat → List Char → Option (List Char × List Char)
  | 0, cs => some (acc.reverse, cs)
  | n + 1, c :: cs =>
    if isHex c then
      readHexDigits f (c :: acc) n (if n = 0 then cs else f.skip cs)
    else
      none
  | _ + 1, [] => none

def readHexBraced (f : Flags) (acc : List Char) : List Char → Option (List Char × List Char)
  | [] => none
  | c :: cs =>
    if c == '}' then
      some (acc.reverse, cs)
    else if isHex c then
      readHexBraced f (c :: acc) cs
    else if f.spaced && Text.isWhiteSpace c then
      readHexBraced f acc cs
    else
      none

def readHex (f : Flags) (width : Nat) (cs : List Char) : Option (Atom × List Char) :=
  match f.skip cs with
  | [] => none
  | '{' :: cs =>
    match readHexBraced f [] cs with
    | some (digits, rest) =>
      if digits.isEmpty then
        none
      else
        (charOfNat? (hexValue digits)).map fun c => (.char c false, rest)
    | none => none
  | cs =>
    match readHexDigits f [] width cs with
    | some (digits, rest) =>
      (charOfNat? (hexValue digits)).map fun c => (.char c (width == 2), rest)
    | none => none

def cutAt? (sep : Char) (cs : List Char) : Option (List Char × List Char) :=
  if cs.contains sep then
    some (cs.takeWhile (· != sep), (cs.dropWhile (· != sep)).drop 1)
  else
    none

def propertyOf? (name : List Char) : Option (CharSet × Bool) :=
  match cutAt? '!' name with
  | some (front, '=' :: back) => (CharSet.propertyValue? front back).map (·, true)
  | _ =>
    match cutAt? ':' name <|> cutAt? '=' name with
    | some (front, back) => (CharSet.propertyValue? front back).map (·, false)
    | none => (CharSet.property? name).map (·, false)

def readProperty (f : Flags) (negated : Bool) (cs : List Char) : Option (Atom × List Char) :=
  let result (name rest : List Char) : Option (Atom × List Char) :=
    if f.unicode then
      (propertyOf? name).map fun (s, n) => (.set (f.foldThenNegate (negated != n) s), rest)
    else
      none
  match f.skip cs with
  | [] => none
  | '{' :: cs =>
    if cs.contains '}' then
      let name := cs.takeWhile (· != '}')
      let name := if f.spaced then name.filter (!Text.isWhiteSpace ·) else name
      result name ((cs.dropWhile (· != '}')).drop 1)
    else
      none
  | c :: cs => if c == '\\' then none else result [c] cs

def readWordEdge (f : Flags) (cs : List Char) : Option (WordEdge × List Char) :=
  match cs with
  | '{' :: rest =>
    match f.skip rest with
    | [] => none
    | c :: _ =>
      if c.isAlpha || c == '-' then
        let body := if f.spaced then rest.filter (!Text.isWhiteSpace ·) else rest
        let name := body.takeWhile fun c => c.isAlpha || c == '-'
        match rest.dropWhile (fun c => c.isAlpha || c == '-' || (f.spaced && Text.isWhiteSpace c)) with
        | '}' :: rest =>
          match String.ofList name with
          | "start" => some (.start, rest)
          | "end" => some (.stop, rest)
          | "start-half" => some (.startHalf, rest)
          | "end-half" => some (.stopHalf, rest)
          | _ => none
        | _ => none
      else
        some (.boundary, cs)
  | _ => some (.boundary, cs)

def isEscapable (c : Char) : Bool :=
  c.toNat < 0x80 && !c.isAlphanum && c != '<' && c != '>'

def readEscape (f : Flags) : List Char → Option (Atom × List Char)
  | [] => none
  | c :: cs =>
    let char (n : Nat) : Option (Atom × List Char) := some (.char (Char.ofNat n) false, cs)
    let perl (s : CharSet) : Option (Atom × List Char) := (f.admit? s).map fun s => (.set s, cs)
    let edge (e : WordEdge) : Atom := .look (.word f.unicode e)
    match c with
    | 'x' => readHex f 2 cs
    | 'u' => readHex f 4 cs
    | 'U' => readHex f 8 cs
    | 'p' => readProperty f false cs
    | 'P' => readProperty f true cs
    | 'd' => perl (.digits f.unicode)
    | 'D' => perl (CharSet.digits f.unicode).compl
    | 's' => perl (.blanks f.unicode)
    | 'S' => perl (CharSet.blanks f.unicode).compl
    | 'w' => perl (.words f.unicode)
    | 'W' => perl (CharSet.words f.unicode).compl
    | 'a' => char 0x07
    | 'f' => char 0x0C
    | 't' => char 0x09
    | 'n' => char 0x0A
    | 'r' => char 0x0D
    | 'v' => char 0x0B
    | 'A' => some (.look .textStart, cs)
    | 'z' => some (.look .textEnd, cs)
    | 'b' => (readWordEdge f cs).map fun (e, rest) => (edge e, rest)
    | 'B' => some (edge .inside, cs)
    | '<' => some (edge .start, cs)
    | '>' => some (edge .stop, cs)
    | _ => if isEscapable c then some (.char c false, cs) else none

def charSet? (f : Flags) (c : Char) : Option CharSet :=
  if c.toNat < 0x80 || f.unicode then some (f.fold (.single c)) else none

end Atom

/-! ### Bracketed classes -/

inductive SetOp where
  | inter
  | diff
  | symmDiff
deriving DecidableEq, Repr

namespace SetOp

def apply (f : Flags) (op : SetOp) (s t : CharSet) : CharSet :=
  match op with
  | .inter => (f.fold s).inter (f.fold t)
  | .diff => (f.fold s).diff (f.fold t)
  | .symmDiff => (f.fold s).symmDiff (f.fold t)

end SetOp

/--
A class whose closing bracket is still to come: the items since the last operator, and the operator
with its left operand.
-/
structure OpenClass where
  negated : Bool
  items : CharSet
  pending : Option (SetOp × CharSet)

namespace OpenClass

def operand (f : Flags) (c : OpenClass) : CharSet :=
  match c.pending with
  | some (op, left) => op.apply f left c.items
  | none => c.items

def close (f : Flags) (c : OpenClass) : CharSet :=
  f.foldThenNegate c.negated (c.operand f)

def add (c : OpenClass) (s : CharSet) : OpenClass :=
  { c with items := c.items.union s }

def operator (f : Flags) (c : OpenClass) (op : SetOp) : OpenClass :=
  { c with items := .none, pending := some (op, c.operand f) }

def read (f : Flags) (cs : List Char) : Option (OpenClass × List Char) :=
  match f.skip cs with
  | '^' :: cs => hyphens ⟨true, .none, none⟩ (f.skip cs)
  | cs => hyphens ⟨false, .none, none⟩ cs
where
  hyphens (c : OpenClass) (cs : List Char) : Option (OpenClass × List Char) :=
    match cs with
    | ']' :: cs => some (c.add (.single ']'), f.skip cs)
    | '-' :: cs => moreHyphens (c.add (.single '-')) cs
    | [] => none
    | cs => some (c, cs)
  moreHyphens (c : OpenClass) : List Char → Option (OpenClass × List Char)
    | '-' :: cs => moreHyphens c cs
    | [] => none
    | ch :: cs =>
      if f.spaced && Text.isWhiteSpace ch then moreHyphens c cs else some (c, f.skip (ch :: cs))

def readNamed? (f : Flags) (cs : List Char) : Option (CharSet × List Char) :=
  match cs with
  | ':' :: cs =>
    let (negated, cs) := match cs with
      | '^' :: cs => (true, cs)
      | _ => (false, cs)
    match cs.dropWhile (· != ':') with
    | ':' :: ']' :: rest =>
      (CharSet.named? (String.ofList (cs.takeWhile (· != ':')))).map fun s =>
        (f.foldThenNegate negated s, rest)
    | _ => none
  | _ => none

def readItem (f : Flags) : List Char → Option (Atom × List Char)
  | [] => none
  | '\\' :: cs => Atom.readEscape f cs
  | c :: cs => some (.char c false, cs)

def charItem? (f : Flags) (c : Char) (byte : Bool) : Option CharSet :=
  if f.unicode || (c.toNat < 0x80 || byte) then some (.single c) else none

def readRange (f : Flags) (cs : List Char) : Option (CharSet × List Char) :=
  match readItem f cs with
  | none => none
  | some (first, rest) =>
    let alone : Option (CharSet × List Char) :=
      match first with
      | .char c byte => (charItem? f c byte).map (·, rest)
      | .set s => some (s, rest)
      | .look _ => none
    match f.skip rest with
    | [] => none
    | '-' :: rest =>
      match f.skip rest with
      | ']' :: _ => alone
      | '-' :: _ => alone
      | [] => none
      | rest =>
        match first, readItem f rest with
        | .char a _, some (.char b _, rest) =>
          if a ≤ b && (f.unicode || b.toNat < 0x80) then some (.range a b, rest) else none
        | _, _ => none
    | _ => alone

inductive Step where
  | done (s : CharSet)
  | more (inner : OpenClass) (outer : List OpenClass)

def step (f : Flags) (inner : OpenClass) (outer : List OpenClass) (cs : List Char) :
    Option (Step × List Char) :=
  match f.skip cs with
  | [] => none
  | '[' :: rest =>
    match readNamed? f rest with
    | some (s, rest) => some (.more (inner.add s) outer, rest)
    | none => (read f rest).map fun (new, rest) => (.more new (inner :: outer), rest)
  | ']' :: rest =>
    match outer with
    | [] => some (.done (inner.close f), rest)
    | next :: outer => some (.more (next.add (inner.close f)) outer, rest)
  | '&' :: '&' :: rest => some (.more (inner.operator f .inter) outer, rest)
  | '-' :: '-' :: rest => some (.more (inner.operator f .diff) outer, rest)
  | '~' :: '~' :: rest => some (.more (inner.operator f .symmDiff) outer, rest)
  | cs => (readRange f cs).map fun (s, rest) => (.more (inner.add s) outer, rest)

def readItems (f : Flags) (inner : OpenClass) (outer : List OpenClass) (cs : List Char) :
    Option (CharSet × List Char) :=
  match step f inner outer cs with
  | some (.done s, rest) => some (s, rest)
  | some (.more inner outer, rest) =>
    if rest.length < cs.length then readItems f inner outer rest else none
  | none => none
termination_by cs.length

def readClass (f : Flags) (cs : List Char) : Option (CharSet × List Char) :=
  match read f cs with
  | some (new, rest) =>
    match readItems f new [] rest with
    | some (s, rest) => (f.admit? s).map (·, rest)
    | none => none
  | none => none

end OpenClass

end Embargo.Pattern
