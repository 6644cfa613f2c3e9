import Embargo.Collection.Table
import Embargo.Item.Identity
import Embargo.Problem

/-!
This module contains the catalogue of custom items: identities under names, in the order in which they
were registered.
-/

namespace Embargo

def isReserved (c : Char) : Bool :=
  c == ',' || c == '!' || c == '#' || c == '*' || Text.isWhiteSpace c

def validateName (raw : String) : Except AdminError String :=
  let name := Text.trim raw
  if name.isEmpty || name.toList.any isReserved then
    .error (.invalidName raw)
  else
    .ok (canonicalName name)

/--
Custom items by name, and the name that each identity with conditions is known by.
-/
structure Catalogue where
  byName : Table String Identity
  nameIndex : Table Identity String
deriving DecidableEq, Inhabited

namespace Catalogue

def empty : Catalogue :=
  ⟨∅, ∅⟩

instance : EmptyCollection Catalogue := ⟨empty⟩

def items (c : Catalogue) : List (String × Identity) :=
  c.byName.entries

def names (c : Catalogue) : List String :=
  c.byName.keys

def size (c : Catalogue) : Nat :=
  c.byName.size

def isEmpty (c : Catalogue) : Bool :=
  c.byName.isEmpty

def get? (c : Catalogue) (name : String) : Option Identity :=
  c.byName.get? (canonicalName name)

def contains (c : Catalogue) (name : String) : Bool :=
  (c.get? name).isSome

/--
The name that an identity is known by. A custom item that is just a material does not rename it.
-/
def nameOf? (c : Catalogue) (i : Identity) : Option String :=
  c.nameIndex.get? i

def displayName (c : Catalogue) (i : Identity) : String :=
  (c.nameOf? i).getD i.material.name

def find? (c : Catalogue) (s : Stack) : Option (String × Identity) :=
  c.items.find? fun e => e.2.holds s

/--
Forget a name. An identity that is known by it gets the next name that it is registered under.
-/
def forget (c : Catalogue) (name : String) : Catalogue :=
  match c.byName.get? name with
  | none => c
  | some i =>
    let byName := c.byName.erase name
    if c.nameIndex.get? i = some name then
      let nameIndex := c.nameIndex.erase i
      match byName.entries.find? fun e => e.2 = i with
      | some e => ⟨byName, nameIndex.insert i e.1⟩
      | none => ⟨byName, nameIndex⟩
    else
      ⟨byName, c.nameIndex⟩

def register (c : Catalogue) (name : String) (i : Identity) : Catalogue :=
  let c := c.forget name
  { byName := c.byName.insert name i
    nameIndex := if i.hasPredicates then c.nameIndex.upsert i (·.getD name) else c.nameIndex }

def insert (c : Catalogue) (name : String) (i : Identity) : Catalogue :=
  c.register (canonicalName name) i

end Catalogue

end Embargo
