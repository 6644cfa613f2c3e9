import Embargo.Rule.Compile

/-!
This module contains the store of the rules in force, which can be loaded anew and edited item by item.
-/

namespace Embargo

structure Store where
  source : RuleSource
  roster : Roster
  catalogue : Catalogue
  book : RuleBook
  aliases : Aliases
  legacy : Bool
  engine : Engine
deriving Inhabited

namespace Store

def itemScope (store : Store) : Scope where
  roster := store.roster
  aliases := store.aliases
  legacy := store.legacy
  engine := store.engine

def rebuild (store : Store) : Store :=
  let (catalogue, trail) := (store.source.catalogue store.itemScope).start
  { store with
    catalogue := catalogue
    book := store.source.bookAfter { store.itemScope with catalogue := catalogue } trail }

def new (roster : Roster) (aliases : Aliases) (legacy : Bool)
    (engine : Engine := .builtIn) : Store :=
  rebuild { source := {}, roster, aliases, legacy, engine, catalogue := ∅, book := default }

def reload (store : Store) (source : RuleSource) : Store :=
  rebuild { store with source := source }

def setRoster (store : Store) (roster : Roster) : Store :=
  rebuild { store with roster := roster }

/--
Whether a name is taken by a custom item or by an entry that did not load.
-/
def isTaken (store : Store) (name : String) : Bool :=
  store.catalogue.contains name
    || store.source.customItems.keys.any fun key => canonicalName key == name

def loads (store : Store) (name : String) (entry : Yaml.Value) : Bool :=
  let alone : RuleSource := { customItems := Table.ofList [(name, entry)] }
  !(alone.catalogue store.itemScope).start.1.isEmpty

def without (s : Section) (name : String) : Section :=
  s.filter fun key _ => canonicalName key != name

def withItems (store : Store) (items : Section) : Store :=
  rebuild { store with source := { store.source with customItems := items } }

/--
Register a custom item. Only its entry is written; the others stay as they are.
-/
def addItem (store : Store) (name : String) (i : Identity) (overwrite : Bool) :
    Except AdminError Store := do
  let name ← validateName name
  if store.isTaken name && !overwrite then
    throw (.itemExists name)
  if !store.loads name i.toValue then
    throw (.unresolvable name)
  return store.withItems ((without store.source.customItems name).insert name i.toValue)

def removeItem (store : Store) (name : String) : Except AdminError (Identity × Store) :=
  let key := canonicalName name
  match store.catalogue.get? key with
  | some i => .ok (i, store.withItems (without store.source.customItems key))
  | none => .error (.itemNotFound name)

end Store

end Embargo
