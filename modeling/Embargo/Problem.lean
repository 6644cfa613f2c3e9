import Embargo.Registry

/-!
This module contains the problems that a configuration can have, and its loading, which never fails but
leaves a trail of problems.
-/

namespace Embargo

structure Path where
  segments : List String
deriving DecidableEq, Repr, Inhabited

namespace Path

def root : Path :=
  ⟨[]⟩

def push (path : Path) (segment : String) : Path :=
  ⟨path.segments ++ [segment]⟩

def isRoot (path : Path) : Bool :=
  path.segments.isEmpty

def text (path : Path) : String :=
  if path.isRoot then "<root>" else " → ".intercalate path.segments

@[simp]
theorem segments_push (path : Path) (segment : String) :
    (path.push segment).segments = path.segments ++ [segment] := rfl

end Path

inductive Shape where
  | text
  | textList
  | textOrList
  | natural
  | integer
  | truthValue
  | enchantmentLevels
  | effectLevels
  | expression
  | actionExpression
  | regionList
  | mapping
  | optionMapping
  | itemMapping
deriving DecidableEq, Repr, Inhabited

def Shape.describe : Shape → String
  | text => "text"
  | textList => "a list of text"
  | textOrList => "text or a list of text"
  | natural => "a non-negative integer"
  | integer => "an integer"
  | truthValue => "true or false"
  | enchantmentLevels => "enchantments as 'name:level' or a name → level map"
  | effectLevels => "effects as 'name:level' or a name → level map"
  | expression => "an expression"
  | actionExpression => "an action expression"
  | regionList => "a list of region names"
  | mapping => "a mapping"
  | optionMapping => "a mapping of options"
  | itemMapping => "a mapping with a material"

inductive Problem where
  | unknownToken (subject : Subject) (token : String)
  /-- the engine refuses the pattern, and says why -/
  | invalidPattern (pattern : String) {reason : String}
  | invalidLevel (token : String)
  | invalidPayload (key : String) (expected : Shape)
  | invalidValue (key value : String)
  | unknownOption (key : String)
  | unknownPredicate (key : String)
  | missingMaterial
  /-- the expression has no members, and nothing else says why -/
  | emptyExpression (expression : String)
deriving DecidableEq, Repr, Inhabited

def Problem.text : Problem → String
  | unknownToken subject token => s!"unknown {subject.text} " ++ quoted token
  | @invalidPattern pattern reason => "invalid regex " ++ quoted pattern ++ ": " ++ reason
  | invalidLevel token => "invalid level in " ++ quoted token
  | invalidPayload key expected => quoted key ++ " expects " ++ expected.describe
  | invalidValue key value => "invalid value " ++ quoted value ++ " for " ++ quoted key
  | unknownOption key => "unknown option " ++ quoted key
  | unknownPredicate key => "unknown metadata predicate " ++ quoted key
  | missingMaterial => "custom item has no material"
  | emptyExpression expression => quoted expression ++ " matched nothing"
where
  quoted (s : String) : String := "'" ++ s ++ "'"

structure LoadError where
  path : Path
  problem : Problem
deriving DecidableEq, Repr, Inhabited

def LoadError.message (e : LoadError) : String :=
  e.path.text ++ ": " ++ e.problem.text

inductive AdminError where
  | itemExists (name : String)
  | itemNotFound (name : String)
  | invalidName (name : String)
  | unresolvable (name : String)
deriving DecidableEq, Repr, Inhabited

def AdminError.message : AdminError → String
  | itemExists name => "Custom item already exists: " ++ name
  | itemNotFound name => "Custom item not found: " ++ name
  | invalidName name => "Invalid custom item name: " ++ name
  | unresolvable name => "Custom item does not resolve: " ++ name

abbrev Trail := List LoadError

abbrev Load := StateM Trail

namespace Load

def report (path : Path) (problem : Problem) : Load Unit :=
  modify (· ++ [⟨path, problem⟩])

/--
Run `x` and tell whether it added a problem.
-/
def watch {α : Type} (x : Load α) : Load (α × Bool) := do
  let before ← get
  let a ← x
  let after ← get
  return (a, before.length < after.length)

def start {α : Type} (x : Load α) : α × Trail :=
  x.run []

end Load

end Embargo
