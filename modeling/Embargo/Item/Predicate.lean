import Embargo.Item.Stack
import Embargo.Level
import Embargo.Text.Lowercase
import Embargo.Text.Search

namespace Embargo

inductive PredicateKind where
  | displayNameEquals
  | displayNameContains
  | loreEquals
  | loreContains
  | loreLineContains
  | durability
  | enchantmentEquals
  | enchantmentContains
  | potion
  | potionEquals
  | modelDataEquals
deriving DecidableEq, Repr, Inhabited

namespace PredicateKind

def all : List PredicateKind :=
  [displayNameEquals, displayNameContains, loreEquals, loreContains, loreLineContains, durability,
    enchantmentEquals, enchantmentContains, potion, potionEquals, modelDataEquals]

theorem mem_all (k : PredicateKind) : k ∈ all := by
  cases k <;> decide

def key : PredicateKind → String
  | displayNameEquals => "display-name-equals"
  | displayNameContains => "display-name-contains"
  | loreEquals => "lore-equals"
  | loreContains => "lore-contains"
  | loreLineContains => "lore-line-contains"
  | durability => "durability"
  | enchantmentEquals => "enchantment-equals"
  | enchantmentContains => "enchantment-contains"
  | potion => "potion"
  | potionEquals => "potion-equals"
  | modelDataEquals => "custom-model-data-equals"

def ofText? (raw : String) : Option PredicateKind :=
  let key := Text.normalizedKey raw
  all.find? fun k => k.key == key

end PredicateKind

abbrev EnchantmentLevels := KeyMap .enchantment Level
abbrev EffectLevels := KeyMap .potion Level

/--
A condition on the metadata of a stack. Where names have levels, `equals` is about all names of the stack,
whereas one of the names is enough for `contains` and for `potion`.
-/
inductive Predicate where
  | displayNameEquals (text : String)
  | displayNameContains (text : String)
  | loreEquals (lines : List String)
  | loreContains (lines : List String)
  | loreLineContains (text : String)
  | durability (damage : UInt32)
  | enchantmentEquals (levels : EnchantmentLevels)
  | enchantmentContains (levels : EnchantmentLevels)
  | potion (levels : EffectLevels)
  | potionEquals (levels : EffectLevels)
  | modelDataEquals (data : Int32)
deriving DecidableEq, Inhabited

namespace Predicate

def kind : Predicate → PredicateKind
  | displayNameEquals _ => .displayNameEquals
  | displayNameContains _ => .displayNameContains
  | loreEquals _ => .loreEquals
  | loreContains _ => .loreContains
  | loreLineContains _ => .loreLineContains
  | durability _ => .durability
  | enchantmentEquals _ => .enchantmentEquals
  | enchantmentContains _ => .enchantmentContains
  | potion _ => .potion
  | potionEquals _ => .potionEquals
  | modelDataEquals _ => .modelDataEquals

def contains (text part : String) : Bool :=
  Text.occursIn part.toList text.toList

def hasEnchantment (s : Stack) (e : Enchantment) (level : Level) : Bool :=
  (s.level? e).any level.accepts

def hasEffect (p : Potion) (e : PotionEffect) (level : Level) : Bool :=
  p.effects.any fun a => a.effect == e && level.accepts a.level

def holds (s : Stack) : Predicate → Bool
  | displayNameEquals text => s.displayName? == some text
  | displayNameContains text => s.displayName?.any (contains · text)
  | loreEquals lines => s.lore == lines
  | loreContains lines => lines.all s.lore.contains
  | loreLineContains text => s.lore.any (contains · text)
  | durability damage => s.damage == damage
  | enchantmentEquals levels =>
    if s.enchantments.isEmpty then
      levels.isEmpty
    else
      s.enchantments.size == levels.size && levels.entries.all fun e => hasEnchantment s e.1 e.2
  | enchantmentContains levels => levels.entries.any fun e => hasEnchantment s e.1 e.2
  | potion levels => s.potion?.any fun p => levels.entries.any fun e => hasEffect p e.1 e.2
  | potionEquals levels =>
    match s.potion? with
    | none => levels.isEmpty
    | some p =>
      p.effects.all (fun a => levels.contains a.effect)
        && levels.entries.all fun e => hasEffect p e.1 e.2
  | modelDataEquals data => s.modelData? == some data

end Predicate

end Embargo
