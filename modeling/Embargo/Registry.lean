import Embargo.Collection.OrderedSet
import Embargo.Collection.Table
import Embargo.Text.Lowercase
import Embargo.Text.Search
import Embargo.Text.WhiteSpace

/-!
This module contains the registries of a host: how their members are named, the keys that stand for members,
and the roster of those that are known.
-/

namespace Embargo

def stockNamespace : List Char :=
  "minecraft:".toList

def dropNamespace (cs : List Char) : List Char :=
  if stockNamespace.isPrefixOf cs then cs.drop stockNamespace.length else cs

def joinWords (cs : List Char) : List Char :=
  cs.map fun c => if c = ' ' then '_' else c

/--
The canonical form of a name: without white space around it, lowercase, without the stock namespace in
front of it, and with underscores for inner spaces.
-/
def canonicalName (raw : String) : String :=
  String.ofList (joinWords (dropNamespace (Text.lowercaseChars (Text.trimChars raw.toList))))

@[simp]
theorem toList_canonicalName (raw : String) :
    (canonicalName raw).toList =
      joinWords (dropNamespace (Text.lowercaseChars (Text.trimChars raw.toList))) := by
  simp [canonicalName]

theorem canonicalName_trim (raw : String) : canonicalName (Text.trim raw) = canonicalName raw := by
  unfold canonicalName
  rw [Text.toList_trim, Text.trimChars_trimChars]

inductive Registry where
  | world
  | material
  | entity
  | gameMode
  | inventoryType
  | enchantment
  | potion
deriving DecidableEq, Repr, Inhabited

namespace Registry

def all : List Registry :=
  [world, material, entity, gameMode, inventoryType, enchantment, potion]

end Registry

structure Key (r : Registry) where
  name : String
deriving DecidableEq, Repr, Inhabited

namespace Key

variable {r : Registry}

def ofText (raw : String) : Key r :=
  ⟨canonicalName raw⟩

@[ext]
theorem ext {a b : Key r} (h : a.name = b.name) : a = b := by
  cases a
  cases b
  simp_all

instance : LT (Key r) := ⟨fun a b => a.name < b.name⟩

instance {a b : Key r} : Decidable (a < b) :=
  inferInstanceAs (Decidable (a.name < b.name))

theorem lt_irrefl (a : Key r) : ¬ a < a :=
  String.lt_irrefl a.name

theorem lt_trans {a b c : Key r} (h : a < b) (h' : b < c) : a < c :=
  String.lt_trans (a := a.name) h h'

theorem lt_of_not_lt {a b : Key r} (h : ¬ b < a) (hne : a ≠ b) : a < b :=
  Std.lt_of_le_of_ne (a := a.name) h fun he => hne (ext he)

end Key

abbrev World := Key .world
abbrev Material := Key .material
abbrev EntityType := Key .entity
abbrev GameMode := Key .gameMode
abbrev InventoryType := Key .inventoryType
abbrev Enchantment := Key .enchantment
abbrev PotionEffect := Key .potion

inductive Subject where
  | key (r : Registry)
  | action
  | item
deriving DecidableEq, Repr, Inhabited

namespace Subject

def all : List Subject :=
  Registry.all.map .key ++ [.action, .item]

def name : Subject → String
  | .key .world => "world"
  | .key .material => "material"
  | .key .entity => "entity"
  | .key .gameMode => "game_mode"
  | .key .inventoryType => "inventory_type"
  | .key .enchantment => "enchantment"
  | .key .potion => "potion"
  | .action => "ban_action"
  | .item => "item"

def ofName? (name : String) : Option Subject :=
  all.find? fun s => s.name == name

def text : Subject → String
  | .key .world => "world"
  | .key .material => "material"
  | .key .entity => "entity"
  | .key .gameMode => "game mode"
  | .key .inventoryType => "inventory type"
  | .key .enchantment => "enchantment"
  | .key .potion => "potion"
  | .action => "action"
  | .item => "item"

end Subject

structure Roster where
  members : (r : Registry) → OrderedSet (Key r)
  maxAmount : Table Material UInt32
  maxLevel : Table Enchantment UInt32

namespace Roster

def stockGameModes : List String :=
  ["survival", "creative", "adventure", "spectator"]

def stock : Roster where
  members
    | .gameMode => .ofList (stockGameModes.map .ofText)
    | _ => ∅
  maxAmount := ∅
  maxLevel := ∅

instance : Inhabited Roster := ⟨stock⟩

def setMembers (roster : Roster) (r : Registry) (ks : OrderedSet (Key r)) : Roster :=
  { roster with members := fun s => if h : r = s then h ▸ ks else roster.members s }

def add (roster : Roster) (r : Registry) (names : List String) : Roster :=
  roster.setMembers r ((roster.members r).insertAll (names.map .ofText))

end Roster

end Embargo
