import Embargo.KeyMap

namespace Embargo

structure AppliedEffect where
  effect : PotionEffect
  level : UInt32
deriving DecidableEq, Repr, Inhabited

structure Potion where
  base : Option AppliedEffect := none
  extra : List AppliedEffect := []
deriving DecidableEq, Repr, Inhabited

def Potion.effects (p : Potion) : List AppliedEffect :=
  p.base.toList ++ p.extra

structure Metadata where
  displayName : Option String := none
  lore : List String := []
  enchantments : KeyMap .enchantment UInt32 := ∅
  potion : Option Potion := none
  modelData : Option Int32 := none
deriving DecidableEq, Inhabited

def Metadata.isEmpty (m : Metadata) : Bool :=
  m.displayName.isNone && m.lore.isEmpty && m.enchantments.isEmpty && m.potion.isNone
    && m.modelData.isNone

/--
An item stack. The damage is the data value of the item under the legacy item model.
-/
structure Stack where
  material : Material
  amount : UInt32 := 1
  damage : UInt32 := 0
  metadata : Option Metadata := none
deriving DecidableEq, Inhabited

namespace Stack

def displayName? (s : Stack) : Option String :=
  s.metadata.bind (·.displayName)

def lore (s : Stack) : List String :=
  s.metadata.elim [] (·.lore)

def enchantments (s : Stack) : KeyMap .enchantment UInt32 :=
  s.metadata.elim ∅ (·.enchantments)

def level? (s : Stack) (e : Enchantment) : Option UInt32 :=
  s.enchantments.get? e

def potion? (s : Stack) : Option Potion :=
  s.metadata.bind (·.potion)

def modelData? (s : Stack) : Option Int32 :=
  s.metadata.bind (·.modelData)

def describe (s : Stack) (f : Metadata → Metadata) : Stack :=
  { s with metadata := some (f (s.metadata.getD {})) }

def brew (s : Stack) (f : Potion → Potion) : Stack :=
  s.describe fun m => { m with potion := some (f (m.potion.getD {})) }

def withDisplayName (s : Stack) (name : String) : Stack :=
  s.describe fun m => { m with displayName := some name }

def withLore (s : Stack) (lines : List String) : Stack :=
  s.describe fun m => { m with lore := lines }

def withEnchantment (s : Stack) (name : String) (level : UInt32) : Stack :=
  s.describe fun m => { m with enchantments := m.enchantments.insert (.ofText name) level }

def withBasePotion (s : Stack) (name : String) (level : UInt32) : Stack :=
  s.brew fun p => { p with base := some ⟨.ofText name, level⟩ }

def withPotionEffect (s : Stack) (name : String) (level : UInt32) : Stack :=
  s.brew fun p => { p with extra := p.extra ++ [⟨.ofText name, level⟩] }

def withModelData (s : Stack) (data : Int32) : Stack :=
  s.describe fun m => { m with modelData := some data }

end Stack

end Embargo
