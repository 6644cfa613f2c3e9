import Embargo.Text.Lowercase
import Embargo.Text.WhiteSpace

namespace Embargo

inductive Action where
  | armorStandPlace
  | armorStandTake
  | attack
  | breakBlock
  | brew
  | consume
  | craft
  | delete
  | dispense
  | drop
  | enchant
  | entityDrop
  | entityInteract
  | fill
  | glide
  | hangingPlace
  | hold
  | interact
  | inventoryClick
  | pickup
  | place
  | rename
  | smelt
  | swap
  | transfer
  | useItem
  | wear
deriving DecidableEq, Repr, Inhabited

namespace Action

def all : List Action :=
  [armorStandPlace, armorStandTake, attack, breakBlock, brew, consume, craft, delete, dispense, drop,
    enchant, entityDrop, entityInteract, fill, glide, hangingPlace, hold, interact, inventoryClick,
    pickup, place, rename, smelt, swap, transfer, useItem, wear]

theorem mem_all (a : Action) : a ∈ all := by
  cases a <;> decide

def name : Action → String
  | armorStandPlace => "armorstand_place"
  | armorStandTake => "armorstand_take"
  | attack => "attack"
  | breakBlock => "break"
  | brew => "brew"
  | consume => "consume"
  | craft => "craft"
  | delete => "delete"
  | dispense => "dispense"
  | drop => "drop"
  | enchant => "enchant"
  | entityDrop => "entity_drop"
  | entityInteract => "entity_interact"
  | fill => "fill"
  | glide => "glide"
  | hangingPlace => "hanging_place"
  | hold => "hold"
  | interact => "interact"
  | inventoryClick => "inventory_click"
  | pickup => "pickup"
  | place => "place"
  | rename => "rename"
  | smelt => "smelt"
  | swap => "swap"
  | transfer => "transfer"
  | useItem => "use"
  | wear => "wear"

def ofName? (name : String) : Option Action :=
  all.find? fun a => a.name == name

def ofText? (raw : String) : Option Action :=
  ofName? (String.ofList ((Text.lowercaseChars (Text.trimChars raw.toList)).map fun c =>
    if c = '-' || c = ' ' then '_' else c))

end Action

end Embargo
