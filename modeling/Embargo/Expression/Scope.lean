import Embargo.Action
import Embargo.Alias.Stock
import Embargo.Expression.Domain
import Embargo.Item.Catalogue
import Embargo.Pattern.Syntax
import Embargo.Registry
import Embargo.Text.Decimal

namespace Embargo

structure Scope where
  roster : Roster
  aliases : Aliases
  catalogue : Catalogue := ∅
  legacy : Bool := false
  engine : Engine := .builtIn

structure Leveled (r : Registry) where
  key : Key r
  level : Level
deriving DecidableEq, Repr, Inhabited

namespace Scope

/--
The member of a registry that has a name now or, failing that, had it once.
-/
def key? (scope : Scope) (r : Registry) (name : String) : Option (Key r) :=
  if .ofText name ∈ scope.roster.members r then
    some (.ofText name)
  else
    ((scope.aliases.current? (.key r) name).map .ofText).filter (scope.roster.members r).contains

def keys (scope : Scope) (r : Registry) : Domain (Key r) where
  subject := .key r
  members := (scope.roster.members r).toList
  resolve name := match scope.key? r name with
    | some k => .ok k
    | none => .error .unknown
  engine := scope.engine
  selects p k := p.isMatch k.name
  negates a b := a == b

def action? (scope : Scope) (name : String) : Option Action :=
  (Action.ofText? name).or ((scope.aliases.current? .action name).bind Action.ofText?)

def actions (scope : Scope) : Domain Action where
  subject := .action
  members := Action.all
  resolve name := match scope.action? name with
    | some a => .ok a
    | none => .error .unknown
  engine := scope.engine
  selects p a := p.isMatch a.name
  negates a b := a == b

/--
Cut a token into a name and a level. What stands behind the stock namespace is no level.
-/
def splitLevel (token : String) : Except NameFault (String × Level) :=
  match Text.splitLast? ':' token.toList with
  | some (name, level) =>
    if name.isEmpty || Text.equalIgnoringAsciiCase (String.ofList name) "minecraft" then
      .ok (token, .any)
    else
      match Text.trimChars level with
      | [] => .ok (String.ofList name, .any)
      | digits =>
        match Text.readUInt32? digits with
        | some n => .ok (String.ofList name, .ofNumber n)
        | none => .error .invalidLevel
  | none => .ok (token, .any)

def leveled (scope : Scope) (r : Registry) : Domain (Leveled r) where
  subject := .key r
  members := (scope.roster.members r).toList.map (⟨·, .any⟩)
  resolve token := match splitLevel token with
    | .error fault => .error fault
    | .ok (name, level) => match scope.key? r name with
      | some k => .ok ⟨k, level⟩
      | none => .error .unknown
  engine := scope.engine
  selects p a := p.isMatch a.key.name
  negates a b := a.key == b.key && (a.level == .any || a.level == b.level)

def legacyItem? (scope : Scope) (name data : List Char) : Except NameFault Identity :=
  match Text.readUInt32? data with
  | none => .error .invalidLevel
  | some n => match scope.key? .material (String.ofList name) with
    | some m => .ok ((Identity.plain m).withPredicate (.durability n))
    | none => .error .unknown

def item (scope : Scope) (token : String) : Except NameFault Identity :=
  let stock : Except NameFault Identity := match scope.key? .material token with
    | some m => .ok (.plain m)
    | none => .error .unknown
  match scope.catalogue.get? token with
  | some i => .ok i
  | none =>
    if scope.legacy then
      match Text.splitLast? ':' (canonicalName token).toList with
      | some (name, data) => scope.legacyItem? name data
      | none => stock
    else
      stock

/--
All materials and all custom items. A pattern selects an identity by each of its names.
-/
def items (scope : Scope) : Domain Identity where
  subject := .item
  members :=
    (scope.roster.members .material).toList.map .plain ++ scope.catalogue.items.map Prod.snd
  resolve := scope.item
  engine := scope.engine
  selects p i :=
    (!i.hasPredicates && p.isMatch i.material.name)
      || scope.catalogue.items.any fun e => e.2 == i && p.isMatch e.1
  negates a b := a == b

end Scope

end Embargo
