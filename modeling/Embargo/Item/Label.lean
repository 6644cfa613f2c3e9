import Embargo.Expression.Scope

namespace Embargo

open Yaml (Value)

namespace Predicate

def levelsToValue {r : Registry} (levels : KeyMap r Level) : Value :=
  .ofFields (levels.entries.map fun e => (e.1.name, .number (.int e.2.toNumber.toNat)))

def toValue : Predicate → Value
  | displayNameEquals text | displayNameContains text | loreLineContains text => .text text
  | loreEquals lines | loreContains lines => .seq (lines.map .text)
  | durability damage => .number (.int damage.toNat)
  | enchantmentEquals levels | enchantmentContains levels => levelsToValue levels
  | potion levels | potionEquals levels => levelsToValue levels
  | modelDataEquals data => .number (.int data.toInt)

end Predicate

namespace Identity

def materialKey : String :=
  "material"

def toValue (i : Identity) : Value :=
  .ofFields ((materialKey, .text i.material.name)
    :: i.predicates.toList.map fun p => (p.kind.key, p.toValue))

end Identity

def Catalogue.toEntries (c : Catalogue) : List (String × Value) :=
  c.items.map fun e => (e.1, e.2.toValue)

def AppliedEffect.label (a : AppliedEffect) : String :=
  a.effect.name ++ ":" ++ Text.showNat a.level.toNat

def Leveled.label {r : Registry} (a : Leveled r) : String :=
  a.key.name ++ ":" ++ a.level.text

def KeyMap.label {r : Registry} (levels : KeyMap r Level) : String :=
  ",".intercalate (levels.entries.map fun e => Leveled.label ⟨e.1, e.2⟩)

def Predicate.label : Predicate → String
  | displayNameEquals text | displayNameContains text | loreLineContains text => text
  | loreEquals lines | loreContains lines => "\n".intercalate lines
  | durability damage => Text.showNat damage.toNat
  | enchantmentEquals levels | enchantmentContains levels => levels.label
  | potion levels | potionEquals levels => levels.label
  | modelDataEquals data => String.ofList (Yaml.Number.showInt data.toInt)

def Identity.label (i : Identity) : String :=
  i.material.name ++ "".intercalate (i.predicates.toList.map fun p =>
    "\x7b" ++ p.kind.key ++ "=" ++ p.label ++ "\x7d")

end Embargo
