import Embargo.Item.Label

namespace Embargo

open Yaml (Value)

namespace Yaml.Value

def scalarText? (v : Value) : Option String :=
  match v.untag with
  | .text s => some s
  | .number n => some n.text
  | .bool b => some (if b then "true" else "false")
  | _ => none

def lines? (v : Value) : Option (List String) :=
  match v.untag with
  | .seq vs => vs.mapM scalarText?
  | w => w.scalarText?.map ([·])

def natural? (v : Value) : Option UInt32 :=
  match v.untag with
  | .number (.int n) => if 0 ≤ n ∧ n < UInt32.size then some (.ofNat n.toNat) else none
  | .text s => Text.readUInt32? (Text.trimChars s.toList)
  | _ => none

def int32? (v : Value) : Option Int32 :=
  v.asInt?.bind fun n =>
    if -(Nat.pow 2 31 : Int) ≤ n ∧ n < (Nat.pow 2 31 : Int) then some (.ofInt n) else none

end Yaml.Value

variable (scope : Scope)

def readLevelEntries (r : Registry) (path : Path) :
    List (Value × Value) → Load (Option (List (Leveled r)))
  | [] => return some []
  | (k, v) :: es =>
    match k.scalarText?, v.natural? with
    | some name, some n =>
      match scope.key? r name with
      | some key => do
        let others ← readLevelEntries r path es
        return others.map (⟨key, .ofNumber n⟩ :: ·)
      | none => do
        Load.report path (.unknownToken (.key r) name)
        readLevelEntries r path es
    | _, _ => return none

def mentionedLevels (r : Registry) (path : Path) (v : Value) : Load (Option (List (Leveled r))) :=
  match v with
  | .mapping es => readLevelEntries scope r path es
  | _ =>
    match Expression.ofValue? v with
    | some e => do
      let set ← (scope.leveled r).evaluate path e
      return some set.toList
    | none => return none

def collectLevels? {r : Registry} (levels : List (Leveled r)) : Option (KeyMap r Level) :=
  if levels.isEmpty || !(decide (levels.map Leveled.key).Nodup) then none
  else some (.ofList (levels.map fun a => (a.key, a.level)))

def readLevels (r : Registry) (path : Path) (v : Value) : Load (Option (KeyMap r Level)) := do
  let (levels, reported) ← (mentionedLevels scope r path v).watch
  return if reported then none else levels.bind collectLevels?

namespace PredicateKind

def shape : PredicateKind → Shape
  | displayNameEquals | displayNameContains | loreLineContains => .text
  | loreEquals | loreContains => .textList
  | durability => .natural
  | enchantmentEquals | enchantmentContains => .enchantmentLevels
  | potion | potionEquals => .effectLevels
  | modelDataEquals => .integer

end PredicateKind

namespace Predicate

def ofPayload? (path : Path) (v : Value) : PredicateKind → Load (Option Predicate)
  | .displayNameEquals => return v.scalarText?.map .displayNameEquals
  | .displayNameContains => return v.scalarText?.map .displayNameContains
  | .loreEquals => return v.lines?.map .loreEquals
  | .loreContains => return v.lines?.map .loreContains
  | .loreLineContains => return v.scalarText?.map .loreLineContains
  | .durability => return v.natural?.map .durability
  | .enchantmentEquals => return (← readLevels scope .enchantment path v).map .enchantmentEquals
  | .enchantmentContains =>
    return (← readLevels scope .enchantment path v).map .enchantmentContains
  | .potion => return (← readLevels scope .potion path v).map .potion
  | .potionEquals => return (← readLevels scope .potion path v).map .potionEquals
  | .modelDataEquals => return v.int32?.map .modelDataEquals

def read (kind : PredicateKind) (path : Path) (v : Value) : Load (Option Predicate) := do
  let p ← ofPayload? scope path v kind
  if p.isNone then
    Load.report path (.invalidPayload kind.key kind.shape)
  return p

end Predicate

namespace Identity

def isMaterialKey (key : String) : Bool :=
  Text.equalIgnoringAsciiCase key materialKey

def readCondition (path : Path) (key : String) (v : Value) : Load (Option Predicate) :=
  match PredicateKind.ofText? key with
  | some kind => Predicate.read scope kind (path.push key) v
  | none => do
    Load.report (path.push key) (.unknownPredicate key)
    return none

def readConditions (path : Path) : List (String × Value) → Load (Option (List Predicate))
  | [] => return some []
  | (key, v) :: fields => do
    let p ← readCondition scope path key v
    let ps ← readConditions path fields
    return match p, ps with
      | some p, some ps => some (p :: ps)
      | _, _ => none

/--
The identity that an entry describes. An entry with a condition that does not load is none at all.
-/
def read (path : Path) (entries : List (Value × Value)) : Load (Option Identity) := do
  let name := (Value.field? entries materialKey).bind Value.asText?
  match name.bind (scope.key? .material) with
  | none =>
    Load.report path .missingMaterial
    return none
  | some m =>
    let fields := (Value.textEntries entries).filter fun f => !isMaterialKey f.1
    let ps ← readConditions scope path fields
    return ps.map (·.foldl withPredicate (plain m))

end Identity

namespace Catalogue

def readEntry (path : Path) (rawName : String) (v : Value) : Load (Option (String × Identity)) := do
  let path := path.push rawName
  match validateName rawName with
  | .error _ =>
    Load.report path (.invalidValue "name" rawName)
    return none
  | .ok name =>
    match v with
    | .mapping entries =>
      let i ← Identity.read scope path entries
      return i.map (name, ·)
    | _ =>
      Load.report path (.invalidPayload rawName .itemMapping)
      return none

def read (path : Path) (entries : List (String × Value)) : Load Catalogue :=
  entries.foldlM (fun c e => do
    match ← readEntry scope path e.1 e.2 with
    | some (name, i) => return c.register name i
    | none => return c) ∅

end Catalogue

end Embargo
