import Embargo.Collection.OrderedSet
import Embargo.Expression
import Embargo.Pattern
import Embargo.Problem

namespace Embargo

inductive NameFault where
  | unknown
  | invalidLevel
deriving DecidableEq, Repr

structure Domain (α : Type) where
  subject : Subject
  /-- what `*` stands for, and what patterns select from -/
  members : List α
  resolve : String → Except NameFault α
  engine : Engine
  selects : Pattern → α → Bool
  /-- whether the negation of the first removes the second -/
  negates : α → α → Bool

namespace Domain

variable {α : Type}

def meaning (d : Domain α) (token : String) : Except Problem (List α) :=
  match token.toList with
  | ['*'] => .ok d.members
  | '#' :: body =>
    match d.engine.compile (String.ofList body) with
    | .ok p => .ok (d.members.filter (d.selects p))
    | .error reason => .error (@Problem.invalidPattern (String.ofList body) reason)
  | _ =>
    match d.resolve token with
    | .ok a => .ok [a]
    | .error .unknown => .error (.unknownToken d.subject token)
    | .error .invalidLevel => .error (.invalidLevel token)

def mentioned (d : Domain α) (path : Path) (token : String) : Load (List α) :=
  match d.meaning token with
  | .ok as => pure as
  | .error problem => do
    Load.report path problem
    return []

variable [DecidableEq α]

def applyToken (d : Domain α) (path : Path) (set : OrderedSet α) (raw : String) :
    Load (OrderedSet α) := do
  let token := Text.trim raw
  match token.toList with
  | [] => return set
  | '!' :: rest =>
    let removed ← d.mentioned path (Text.trim (String.ofList rest))
    return set.filter fun a => !removed.any (d.negates · a)
  | _ =>
    let added ← d.mentioned path token
    return set.insertAll added

def evaluateTokens (d : Domain α) (path : Path) (tokens : List String) : Load (OrderedSet α) :=
  tokens.foldlM (d.applyToken path) ∅

def evaluate (d : Domain α) (path : Path) (e : Expression) : Load (OrderedSet α) :=
  d.evaluateTokens path e.tokens

end Domain

end Embargo
