import Embargo.Item.Notation
import Embargo.Rule.Book
import Embargo.Rule.Source

/-!
This module contains the compilation of a configuration into a rule book. Entries with a problem are
left out and reported, such that there is always a rule book.
-/

namespace Embargo

open Yaml (Value)

namespace Compile

/--
Evaluate an expression that should have members. If it has none and no problem says why, that is a
problem itself.
-/
def members {α : Type} [DecidableEq α] (d : Domain α) (path : Path) (e : Expression) :
    Load (OrderedSet α) := do
  let (set, reported) ← (d.evaluate path e).watch
  if set.isEmpty && !reported then
    Load.report path (.emptyExpression e.display)
  return set

def mappingEntries (path : Path) (key : String) : Value → Load (Option (List (Value × Value)))
  | .mapping entries => return some entries
  | .null => return none
  | _ => do
    Load.report path (.invalidPayload key .mapping)
    return none

variable (scope : Scope)

def actionEntry (path : Path) (key : String) (v : Value) : Load (List (Action × Options)) := do
  let path := path.push key
  let actions ← members scope.actions path (.text key)
  if actions.isEmpty then
    return []
  else
    let options ← Options.read scope path v
    return actions.toList.map (·, options)

def itemActions (path : Path) (key : String) (v : Value) : Load (List (Action × Options)) :=
  match Expression.ofValue? v with
  | some e => do
    let actions ← members scope.actions path e
    return actions.toList.map (·, {})
  | none => do
    match ← mappingEntries path key v with
    | some entries =>
      let parts ← (Value.textEntries entries).mapM fun f => actionEntry scope path f.1 f.2
      return parts.flatten
    | none => return []

def itemBans (path : Path) (key : String) (v : Value) : Load (List Ban) := do
  let path := path.push key
  let items ← members scope.items path (.text key)
  let actions ← itemActions scope path key v
  return items.toList.flatMap fun i => actions.map fun a => ⟨i, a.1, a.2⟩

def banIn (blacklist : Table World Bans) (worlds : List World) (bans : Bans) : Table World Bans :=
  worlds.foldl (fun t w => t.upsert w fun old => (old.getD ∅).addAll bans.toList) blacklist

def blacklistSection (path : Path) (blacklist : Table World Bans) (key : String) (v : Value) :
    Load (Table World Bans) := do
  let path := path.push key
  let worlds ← members (scope.keys .world) path (.text key)
  match ← mappingEntries path key v with
  | some entries =>
    let parts ← (Value.textEntries entries).mapM fun f => itemBans scope path f.1 f.2
    return banIn blacklist worlds.toList (.ofList parts.flatten)
  | none => return blacklist

def blacklist (source : RuleSource) : Load (Table World Bans) :=
  source.blacklist.entries.foldlM
    (fun t s => blacklistSection scope (Path.root.push "blacklist") t s.1 s.2) ∅

inductive WhitelistField where
  | message
  | ignored
  | item
deriving DecidableEq

def WhitelistField.ofText (key : String) : WhitelistField :=
  if Text.equalIgnoringAsciiCase key "message" then .message
  else if Text.equalIgnoringAsciiCase key "ignored" then .ignored
  else .item

def allowEntry (path : Path) (w : Whitelist) (key : String) (v : Value) : Load Whitelist := do
  let items ← members scope.items path (.text key)
  match Expression.ofValue? v with
  | some e =>
    let actions ← members scope.actions path e
    return items.toList.foldl (·.allow · actions) w
  | none =>
    Load.report path (.invalidPayload key .actionExpression)
    return w

def whitelistEntry (path : Path) (w : Whitelist) (key : String) (v : Value) : Load Whitelist := do
  let path := path.push key
  match WhitelistField.ofText key with
  | .message =>
    match v.messageLines? with
    | some lines => return { w with message := some ("\n".intercalate lines) }
    | none =>
      Load.report path (.invalidPayload key .textOrList)
      return w
  | .ignored =>
    match Expression.ofValue? v with
    | some e =>
      let actions ← scope.actions.evaluate path e
      return { w with ignored := w.ignored.union actions }
    | none =>
      Load.report path (.invalidPayload key .actionExpression)
      return w
  | .item => allowEntry scope path w key v

def listIn (whitelists : Table World Whitelist) (worlds : List World) (w : Whitelist) :
    Table World Whitelist :=
  worlds.foldl (fun t world => t.upsert world fun old => old.elim w (·.merge w)) whitelists

def whitelistSection (path : Path) (whitelists : Table World Whitelist) (key : String) (v : Value) :
    Load (Table World Whitelist) := do
  let path := path.push key
  let worlds ← members (scope.keys .world) path (.text key)
  let entries ← mappingEntries path key v
  let w ← (Value.textEntries (entries.getD [])).foldlM
    (fun w f => whitelistEntry scope path w f.1 f.2) {}
  return listIn whitelists worlds.toList w

def whitelists (source : RuleSource) : Load (Table World Whitelist) :=
  source.whitelist.entries.foldlM
    (fun t s => whitelistSection scope (Path.root.push "whitelist") t s.1 s.2) ∅

end Compile

namespace RuleSource

def rules (source : RuleSource) (scope : Scope) :
    Load (Table World Bans × Table World Whitelist) := do
  let blacklist ← Compile.blacklist scope source
  let whitelists ← Compile.whitelists scope source
  return (blacklist, whitelists)

def bookAfter (source : RuleSource) (scope : Scope) (trail : Trail) : RuleBook :=
  let ((blacklist, whitelists), problems) := (source.rules scope).run trail
  { blacklist, whitelists, problems,
    catalogue := scope.catalogue, roster := scope.roster, legacy := scope.legacy }

def catalogue (source : RuleSource) (scope : Scope) : Load Catalogue :=
  Catalogue.read scope (Path.root.push "custom-items") source.customItems.entries

def compile (source : RuleSource) (roster : Roster) (aliases : Aliases) (legacy : Bool)
    (engine : Engine := .builtIn) : RuleBook :=
  let (catalogue, trail) := (source.catalogue { roster, aliases, legacy, engine }).start
  source.bookAfter { roster, aliases, catalogue, legacy, engine } trail

end RuleSource

end Embargo
