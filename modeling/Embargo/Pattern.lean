import Embargo.Text.WhiteSpace

/-!
This module contains the patterns of expressions. What a pattern describes is up to an engine; the body of
a pattern is put between anchors as text and compiled such that it ignores case.
-/

namespace Embargo

structure Pattern where
  /-- whether the pattern describes some part of a name -/
  isMatch : String → Bool
deriving Inhabited

/--
An engine for regular expressions. It compiles a text or says why that is no pattern.
-/
structure Engine where
  build (ignoreCase : Bool) (text : String) : Except String Pattern
deriving Inhabited

namespace Engine

def anchored (body : String) : String :=
  "^(?:" ++ Text.trim body ++ ")$"

def compile (engine : Engine) (body : String) : Except String Pattern :=
  engine.build true (anchored body)

inductive Anchor where
  | textStart
  | textEnd
deriving DecidableEq

namespace Anchor

def char : Anchor → Char
  | textStart => '^'
  | textEnd => '$'

def Holds : Anchor → (front back : List Char) → Prop
  | textStart, front, _ => front = []
  | textEnd, _, back => back = []

end Anchor

def enclosed (before : List Anchor) (body : List Char) (after : List Anchor) : List Char :=
  before.map Anchor.char ++ "(?:".toList ++ (body ++ ')' :: after.map Anchor.char)

/--
What is documented of an engine: which texts are patterns, and which parts of a text a pattern describes,
given what stands in front of the part and behind it.
-/
structure Manual (engine : Engine) where
  WellFormed (pattern : List Char) : Prop
  Describes (ignoreCase : Bool) (pattern front part back : List Char) : Prop
  /-- only patterns are compiled -/
  wellFormed {ignoreCase : Bool} {text : String} {p : Pattern} :
    engine.build ignoreCase text = .ok p → WellFormed text.toList
  /-- a pattern matches a name if it describes a part of it, whichever that is -/
  isMatch_iff {ignoreCase : Bool} {text : String} {p : Pattern} :
    engine.build ignoreCase text = .ok p → ∀ name, p.isMatch name = true ↔
      ∃ front part back, name.toList = front ++ part ++ back
        ∧ Describes ignoreCase text.toList front part back
  /-- a group that is opened is closed at some point, and what it has inside is a pattern -/
  closed {before : List Anchor} {rest : List Char} :
    WellFormed (before.map Anchor.char ++ "(?:".toList ++ rest) →
      ∃ body after, rest = body ++ ')' :: after ∧ WellFormed body
  /-- a group describes what its body does, where the anchors around it hold -/
  enclosed {before after : List Anchor} {body : List Char} :
    WellFormed body → WellFormed (enclosed before body after) →
      ∀ ignoreCase front part back, Describes ignoreCase (enclosed before body after) front part back ↔
        (∀ a ∈ before, a.Holds front (part ++ back)) ∧ Describes ignoreCase body front part back
          ∧ ∀ a ∈ after, a.Holds (front ++ part) back

end Engine

end Embargo
