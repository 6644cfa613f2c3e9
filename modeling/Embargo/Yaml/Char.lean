/-!
This module contains the character classes of YAML and the places of its texts. Line breaks are
normalised before a text is read, so that each is a single character.
-/

namespace Embargo.Yaml

def isBreak (c : Char) : Bool :=
  c == '\n' || c == '\u2028' || c == '\u2029'

def isBlank (c : Char) : Bool :=
  c == ' ' || c == '\t'

def isNameChar (c : Char) : Bool :=
  c.isAlphanum || c == '-' || c == '_'

def endsWord : List Char → Bool
  | [] => true
  | c :: _ => isBlank c || isBreak c

def isAllowed (c : Char) : Bool :=
  let n := c.toNat
  n == 0x09 || n == 0x0A || n == 0x0D || (0x20 ≤ n && n ≤ 0x7E) || n == 0x85
    || (0xA0 ≤ n && n ≤ 0xFFFD) || 0x10000 ≤ n

/--
Write every line break of one or two characters as a line feed. Line and paragraph separators stay.
-/
def normaliseBreaks : List Char → List Char
  | [] => []
  | '\r' :: '\n' :: cs => '\n' :: normaliseBreaks cs
  | c :: cs => (if c == '\r' || c == '\u0085' then '\n' else c) :: normaliseBreaks cs

def startsDocumentMark : List Char → Bool
  | '-' :: '-' :: '-' :: cs => endsWord cs
  | '.' :: '.' :: '.' :: cs => endsWord cs
  | _ => false

structure Place where
  line : Nat
  column : Nat
  index : Nat
deriving Repr

namespace Place

def start : Place :=
  ⟨0, 0, 0⟩

def after (p : Place) (c : Char) : Place :=
  if isBreak c then ⟨p.line + 1, 0, p.index + 1⟩ else ⟨p.line, p.column + 1, p.index + 1⟩

def afterAll (p : Place) (cs : List Char) : Place :=
  cs.foldl after p

end Place

end Embargo.Yaml
