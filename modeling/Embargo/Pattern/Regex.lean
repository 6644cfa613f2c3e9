import Embargo.Unicode.Property

/-!
This module contains regular expressions over characters, and the computation of all places of a text up
to which an expression spans from a given one.
-/

namespace Embargo.Pattern

/--
A place in a text: the character in front of it, if any, and the characters behind it.
-/
structure Cursor where
  before : Option Char
  rest : List Char
deriving DecidableEq, Repr

namespace Cursor

def start (cs : List Char) : Cursor :=
  ⟨none, cs⟩

def onwards (c : Cursor) : List Cursor :=
  go c.before c.rest
where
  go (before : Option Char) : List Char → List Cursor
    | [] => [⟨before, []⟩]
    | x :: xs => ⟨before, x :: xs⟩ :: go (some x) xs

end Cursor

inductive WordEdge where
  | boundary
  | inside
  | start
  | stop
  | startHalf
  | stopHalf
deriving DecidableEq, Repr

inductive Look where
  | textStart
  | textEnd
  | lineStart (crlf : Bool)
  | lineEnd (crlf : Bool)
  | word (unicode : Bool) (edge : WordEdge)
deriving DecidableEq, Repr

namespace Look

def isAsciiWord (c : Char) : Bool :=
  c.isAlphanum || c == '_'

def wordAt (unicode : Bool) (c : Option Char) : Bool :=
  c.any (if unicode then Unicode.isWord else isAsciiWord)

def holds (l : Look) (c : Cursor) : Bool :=
  let after := c.rest.head?
  match l with
  | .textStart => c.before.isNone
  | .textEnd => after.isNone
  | .lineStart false => c.before.isNone || c.before == some '\n'
  | .lineEnd false => after.isNone || after == some '\n'
  | .lineStart true =>
    c.before.isNone || c.before == some '\n' || (c.before == some '\r' && after != some '\n')
  | .lineEnd true =>
    after.isNone || after == some '\r' || (after == some '\n' && c.before != some '\r')
  | .word unicode edge =>
    let front := wordAt unicode c.before
    let back := wordAt unicode after
    match edge with
    | .boundary => front != back
    | .inside => front == back
    | .start => !front && back
    | .stop => front && !back
    | .startHalf => !front
    | .stopHalf => !back

end Look

inductive Regex where
  | empty
  | set (mem : Char → Bool)
  | look (l : Look)
  | seq (a b : Regex)
  | alt (a b : Regex)
  | repeated (least : Nat) (most : Option Nat) (r : Regex)

namespace Regex

def exactly (step : Cursor → List Cursor) : Nat → List Cursor → List Cursor
  | 0, cs => cs
  | n + 1, cs =>
    let next := (cs.flatMap step).eraseDups
    if next == cs then cs else exactly step n next

def atMost (step : Cursor → List Cursor) : Nat → List Cursor → List Cursor
  | 0, cs => cs
  | n + 1, cs =>
    let next := (cs ++ cs.flatMap step).eraseDups
    if next.length == cs.length then cs else atMost step n next

/--
All places up to which an expression spans from a given place. The steps of an unbounded repetition
lead onwards, so there is no use in more of them than there are characters left.
-/
def ends : Regex → Cursor → List Cursor
  | .empty, c => [c]
  | .set mem, c =>
    match c.rest with
    | x :: xs => if mem x then [⟨some x, xs⟩] else []
    | [] => []
  | .look l, c => if l.holds c then [c] else []
  | .seq a b, c => ((ends a c).flatMap (ends b)).eraseDups
  | .alt a b, c => (ends a c ++ ends b c).eraseDups
  | .repeated least most r, c =>
    let steps := match most with
      | some n => n - least
      | none => c.rest.length
    atMost (ends r) steps (exactly (ends r) least [c])

def occurs (r : Regex) (cs : List Char) : Bool :=
  (Cursor.start cs).onwards.any fun c => !(r.ends c).isEmpty

def sequence : List Regex → Regex
  | [] => .empty
  | [r] => r
  | r :: rs => .seq r (sequence rs)

def oneOf : Regex → List Regex → Regex
  | r, [] => r
  | r, s :: rs => .alt r (oneOf s rs)

end Regex

end Embargo.Pattern
