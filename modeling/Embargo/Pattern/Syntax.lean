import Embargo.Pattern
import Embargo.Pattern.Class
import Embargo.Text.Decimal

/-!
This module contains the reading of patterns and the engine that is used where a host brings none. A
pattern is read from left to right by a machine whose state holds the groups that are open; every step
takes at least one character. The engine refuses the properties of characters that it has no table for, it
does not bound how deep groups are nested, and how large the automaton of a pattern would be is estimated.
-/

namespace Embargo

namespace Pattern

structure Piece where
  regex : Regex
  weight : Nat

namespace Piece

def ofSet (s : CharSet) : Piece :=
  ⟨.set s.mem, s.weight⟩

def ofLook (l : Look) : Piece :=
  ⟨.look l, 32⟩

def sequence (ps : List Piece) : Piece :=
  ⟨.sequence (ps.map regex), ps.foldr (fun q n => q.weight + n) 0⟩

def oneOf (p : Piece) (ps : List Piece) : Piece :=
  ⟨.oneOf p.regex (ps.map regex), 32 + p.weight + ps.foldr (fun q n => q.weight + 4 + n) 0⟩

def repeated (least : Nat) (most : Option Nat) (p : Piece) : Piece :=
  ⟨.repeated least most p.regex, 64 + (most.getD (least + 1)) * (p.weight + 40)⟩

end Piece

/--
A group whose closing parenthesis is still to come: its finished branches and the items of the
current one, the last first. The place of a mode switch is kept as `none`, since nothing can repeat
it.
-/
structure Frame where
  branches : List Piece
  items : List (Option Piece)

namespace Frame

def empty : Frame :=
  ⟨[], []⟩

def push (fr : Frame) (p : Piece) : Frame :=
  { fr with items := some p :: fr.items }

def switch (fr : Frame) : Frame :=
  { fr with items := none :: fr.items }

def branch (fr : Frame) : Piece :=
  .sequence (fr.items.reverse.filterMap id)

def newBranch (fr : Frame) : Frame :=
  ⟨fr.branch :: fr.branches, []⟩

def close (fr : Frame) : Piece :=
  match (fr.branch :: fr.branches).reverse with
  | [] => .sequence []
  | [p] => p
  | p :: ps => .oneOf p ps

def repeatLast? (fr : Frame) (least : Nat) (most : Option Nat) : Option Frame :=
  match fr.items with
  | some p :: items => some { fr with items := some (p.repeated least most) :: items }
  | _ => none

end Frame

/--
The state between two characters of a pattern: the modes in force, the innermost open group, and the
groups around it with the modes to return to.
-/
structure Reading where
  flags : Flags
  frame : Frame
  outer : List (Frame × Flags)
  names : List String

namespace Reading

def initial (ignoreCase : Bool) : Reading :=
  ⟨.initial ignoreCase, .empty, [], []⟩

def readSwitches (cs : List Char) : Option (List (Char × Bool) × Char × List Char) :=
  go [] true [] cs
where
  go (seen : List Char) (on : Bool) (acc : List (Char × Bool)) :
      List Char → Option (List (Char × Bool) × Char × List Char)
    | [] => none
    | c :: cs =>
      if c == ':' || c == ')' then
        if seen.head? == some '-' then none else some (acc.reverse, c, cs)
      else if seen.contains c then
        none
      else if c == '-' then
        go (c :: seen) false acc cs
      else if ['i', 'm', 's', 'U', 'u', 'R', 'x'].contains c then
        go (c :: seen) on ((c, on) :: acc) cs
      else
        none

def switchAll (f : Flags) (switches : List (Char × Bool)) : Flags :=
  switches.foldl (fun f (c, on) => f.switch c on) f

def openGroup (r : Reading) (inside : Flags) : Reading :=
  { r with flags := inside, frame := .empty, outer := (r.frame, r.flags) :: r.outer }

def closeGroup? (r : Reading) : Option Reading :=
  match r.outer with
  | (frame, flags) :: outer =>
    some { r with flags := flags, frame := frame.push r.frame.close, outer := outer }
  | [] => none

def isNameStart (c : Char) : Bool :=
  c == '_' || Unicode.isAlphabetic c

def isNameChar (c : Char) : Bool :=
  c == '_' || c == '.' || c == '[' || c == ']' || Unicode.isAlphanumeric c

def openNamed (r : Reading) (cs : List Char) : Option (Reading × List Char) :=
  let name := cs.takeWhile (· != '>')
  match name, cs.dropWhile (· != '>') with
  | first :: others, '>' :: rest =>
    let text := String.ofList name
    if isNameStart first && others.all isNameChar && !r.names.contains text then
      some ({ r.openGroup r.flags with names := text :: r.names }, rest)
    else
      none
  | _, _ => none

def readGroup (r : Reading) (cs : List Char) : Option (Reading × List Char) :=
  match r.flags.skip cs with
  | '?' :: '=' :: _ => none
  | '?' :: '!' :: _ => none
  | '?' :: '<' :: '=' :: _ => none
  | '?' :: '<' :: '!' :: _ => none
  | '?' :: 'P' :: '<' :: cs => r.openNamed cs
  | '?' :: '<' :: cs => r.openNamed cs
  | '?' :: cs =>
    match readSwitches cs with
    | some (switches, ')', rest) =>
      if switches.isEmpty then
        none
      else
        some ({ r with flags := switchAll r.flags switches, frame := r.frame.switch }, rest)
    | some (switches, _, rest) => some (r.openGroup (switchAll r.flags switches), rest)
    | none => none
  | cs => some (r.openGroup r.flags, cs)

def readCount (f : Flags) (cs : List Char) : Option (Nat × List Char) :=
  let cs := f.skip (cs.dropWhile Text.isWhiteSpace)
  let body := if f.spaced then cs.filter (!Text.isWhiteSpace ·) else cs
  let digits := body.takeWhile Char.isDigit
  let rest := cs.dropWhile fun c => c.isDigit || (f.spaced && Text.isWhiteSpace c)
  (Text.readNat? UInt32.size digits).map (·, f.skip (rest.dropWhile Text.isWhiteSpace))

/--
The mark behind a repetition that asks for few rounds instead of many changes which match is found,
but not whether there is one.
-/
def skipLazy : List Char → List Char
  | '?' :: cs => cs
  | cs => cs

def readCounts (f : Flags) (cs : List Char) : Option ((Nat × Option Nat) × List Char) :=
  match readCount f (f.skip cs) with
  | some (least, '}' :: rest) => some ((least, some least), skipLazy (f.skip rest))
  | some (least, ',' :: rest) =>
    match f.skip rest with
    | '}' :: rest => some ((least, none), skipLazy (f.skip rest))
    | rest =>
      match readCount f rest with
      | some (most, '}' :: rest) =>
        if least ≤ most then some ((least, some most), skipLazy (f.skip rest)) else none
      | _ => none
  | _ => none

def push (r : Reading) (p : Piece) : Reading :=
  { r with frame := r.frame.push p }

def repeatLast? (r : Reading) (least : Nat) (most : Option Nat) : Option Reading :=
  (r.frame.repeatLast? least most).map fun frame => { r with frame := frame }

def pushAtom? (r : Reading) : Atom → Option Reading
  | .char c byte =>
    if r.flags.unicode || !byte then
      (Atom.charSet? r.flags c).map fun s => r.push (.ofSet s)
    else if c.toNat < 0x80 then
      some (r.push (.ofSet (r.flags.fold (.single c))))
    else
      none
  | .set s => some (r.push (.ofSet s))
  | .look l => some (r.push (.ofLook l))

def dot? (f : Flags) : Option CharSet :=
  let mem : Char → Bool := fun c =>
    f.dotAll || (c != '\n' && (!f.crlf || c != '\r'))
  if f.unicode then some ⟨mem, false, CharSet.rangeWeight⟩ else none

def step (r : Reading) (cs : List Char) : Option (Reading × List Char) :=
  match r.flags.skip cs with
  | [] => some (r, [])
  | '(' :: rest => r.readGroup rest
  | ')' :: rest => r.closeGroup?.map (·, rest)
  | '|' :: rest => some ({ r with frame := r.frame.newBranch }, rest)
  | '[' :: rest =>
    (OpenClass.readClass r.flags rest).map fun (s, rest) => (r.push (.ofSet s), rest)
  | '?' :: rest => (r.repeatLast? 0 (some 1)).map (·, skipLazy rest)
  | '*' :: rest => (r.repeatLast? 0 none).map (·, skipLazy rest)
  | '+' :: rest => (r.repeatLast? 1 none).map (·, skipLazy rest)
  | '{' :: rest =>
    match readCounts r.flags rest with
    | some ((least, most), rest) => (r.repeatLast? least most).map (·, rest)
    | none => none
  | '\\' :: rest =>
    match Atom.readEscape r.flags rest with
    | some (atom, rest) => (r.pushAtom? atom).map (·, rest)
    | none => none
  | '.' :: rest => (dot? r.flags).map fun s => (r.push (.ofSet s), rest)
  | '^' :: rest =>
    let look := if r.flags.multiLine then .lineStart r.flags.crlf else .textStart
    some (r.push (.ofLook look), rest)
  | '$' :: rest =>
    let look := if r.flags.multiLine then .lineEnd r.flags.crlf else .textEnd
    some (r.push (.ofLook look), rest)
  | c :: rest => (r.pushAtom? (.char c false)).map (·, rest)

def run (r : Reading) (cs : List Char) : Option Reading :=
  match cs with
  | [] => some r
  | c :: cs =>
    match r.step (c :: cs) with
    | some (r, rest) => if rest.length ≤ cs.length then run r rest else none
    | none => none
termination_by cs.length

def finish? (r : Reading) : Option Piece :=
  if r.outer.isEmpty then some r.frame.close else none

end Reading

def readPattern? (ignoreCase : Bool) (cs : List Char) : Option Piece :=
  ((Reading.initial ignoreCase).run cs).bind Reading.finish?

end Pattern

namespace Engine

/--
The largest automaton that is built for a pattern, in bytes.
-/
def sizeLimit : Nat := 10 * 1024 * 1024

def builtIn : Engine where
  build ignoreCase text :=
    match Pattern.readPattern? ignoreCase text.toList with
    | some piece =>
      if piece.weight ≤ sizeLimit then
        .ok ⟨fun name => piece.regex.occurs name.toList⟩
      else
        .error s!"Compiled regex exceeds size limit of {sizeLimit} bytes."
    | none => .error "regex parse error"

end Engine

def Pattern.compile? (body : String) : Option Pattern :=
  (Engine.builtIn.compile body).toOption

end Embargo
