import Embargo.Decision.Context
import Embargo.Expression.Scope
import Embargo.Yaml.Print

namespace Embargo

open Yaml (Value)

/--
What must be true of an action for a ban to apply. A category that is `none` restricts nothing.
-/
structure Restrictions where
  entities : Option (OrderedSet EntityType) := none
  gameModes : Option (OrderedSet GameMode) := none
  inventoryFrom : Option (OrderedSet InventoryType) := none
  inventoryTo : Option (OrderedSet InventoryType) := none
  materials : Option (OrderedSet Material) := none
  regions : Option (OrderedSet String) := none
deriving DecidableEq, Inhabited

namespace Restrictions

def anyRegion : String :=
  "*"

/--
Whether a restriction lets a fact pass. A fact that was not observed passes no restriction.
-/
def allows {α : Type} [DecidableEq α] (restriction : Option (OrderedSet α)) (fact : Option α) :
    Bool :=
  match restriction with
  | none => true
  | some set => fact.any set.contains

def allowsRegions (restriction : Option (OrderedSet String)) (regions : List String) : Bool :=
  match restriction with
  | none => true
  | some set => !regions.isEmpty && (set.contains anyRegion || regions.any set.contains)

def admits (rs : Restrictions) (ctx : Context) : Bool :=
  allows rs.entities ctx.entity && allows rs.gameModes ctx.gameMode
    && allows rs.inventoryFrom ctx.inventoryFrom && allows rs.inventoryTo ctx.inventoryTo
    && allows rs.materials ctx.material && allowsRegions rs.regions ctx.regions

def isEmpty (rs : Restrictions) : Bool :=
  rs.entities.isNone && rs.gameModes.isNone && rs.inventoryFrom.isNone && rs.inventoryTo.isNone
    && rs.materials.isNone && rs.regions.isNone

def merge (earlier later : Restrictions) : Restrictions where
  entities := later.entities.or earlier.entities
  gameModes := later.gameModes.or earlier.gameModes
  inventoryFrom := later.inventoryFrom.or earlier.inventoryFrom
  inventoryTo := later.inventoryTo.or earlier.inventoryTo
  materials := later.materials.or earlier.materials
  regions := later.regions.or earlier.regions

end Restrictions

structure Options where
  messages : List String := []
  log : Option Bool := none
  cooldown : Option Nat := none
  restrictions : Restrictions := {}
deriving DecidableEq, Inhabited

namespace Options

def message? (o : Options) : Option String :=
  if o.messages.isEmpty then none else some ("\n".intercalate o.messages)

def shouldLog (o : Options) : Bool :=
  o.log.getD false

def applies (o : Options) (ctx : Context) : Bool :=
  o.restrictions.admits ctx

def merge (earlier later : Options) : Options where
  messages := if later.messages.isEmpty then earlier.messages else later.messages
  log := later.log.or earlier.log
  cooldown := later.cooldown.or earlier.cooldown
  restrictions := earlier.restrictions.merge later.restrictions

end Options

inductive OptionField where
  | message
  | log
  | cooldown
  | entities
  | gameModes
  | inventoryFrom
  | inventoryTo
  | materials
  | regions
deriving DecidableEq, Repr

def OptionField.ofText? (raw : String) : Option OptionField :=
  match Text.normalizedKey raw with
  | "message" | "messages" => some .message
  | "log" => some .log
  | "cooldown" => some .cooldown
  | "entities" => some .entities
  | "gamemodes" | "game-modes" => some .gameModes
  | "inventory-from" => some .inventoryFrom
  | "inventory-to" => some .inventoryTo
  | "materials" => some .materials
  | "regions" => some .regions
  | _ => none

namespace Yaml.Value

def messageLines? : Value → Option (List String)
  | .text s => some [s]
  | .seq vs => vs.mapM asText?
  | _ => none

def milliseconds? : Value → Option Nat
  | .number (.int n) => if 0 ≤ n ∧ n < UInt64.size then some n.toNat else none
  | .text s => Text.readNat? UInt64.size (Text.trimChars s.toList)
  | _ => none

def display (v : Value) : String :=
  (v.document?.map Text.trim).getD ""

end Yaml.Value

namespace Options

variable (scope : Scope)

/--
Read a restriction. An expression without members still restricts, and then nothing passes.
-/
def readRestriction (r : Registry) (key : String) (path : Path) (v : Value) :
    Load (Option (OrderedSet (Key r))) :=
  match Expression.ofValue? v with
  | some e => do
    let set ← (scope.keys r).evaluate path e
    return some set
  | none => do
    Load.report path (.invalidPayload key .expression)
    return none

def regionNames (e : Expression) : OrderedSet String :=
  .ofList (e.tokens.map Text.lowercase)

def readField (path : Path) (o : Options) (key : String) (v : Value) : Load Options := do
  let path := path.push key
  let rs := o.restrictions
  match OptionField.ofText? key with
  | some .message =>
    match v.messageLines? with
    | some lines => return { o with messages := lines }
    | none =>
      Load.report path (.invalidPayload key .textOrList)
      return o
  | some .log =>
    match v.asBool? with
    | some flag => return { o with log := some flag }
    | none =>
      Load.report path (.invalidPayload key .truthValue)
      return o
  | some .cooldown =>
    match v.milliseconds? with
    | some ms => return { o with cooldown := some ms }
    | none =>
      Load.report path (.invalidValue key v.display)
      return o
  | some .entities =>
    let set ← readRestriction scope .entity key path v
    return { o with restrictions := { rs with entities := set } }
  | some .gameModes =>
    let set ← readRestriction scope .gameMode key path v
    return { o with restrictions := { rs with gameModes := set } }
  | some .inventoryFrom =>
    let set ← readRestriction scope .inventoryType key path v
    return { o with restrictions := { rs with inventoryFrom := set } }
  | some .inventoryTo =>
    let set ← readRestriction scope .inventoryType key path v
    return { o with restrictions := { rs with inventoryTo := set } }
  | some .materials =>
    let set ← readRestriction scope .material key path v
    return { o with restrictions := { rs with materials := set } }
  | some .regions =>
    match Expression.ofValue? v with
    | some e => return { o with restrictions := { rs with regions := some (regionNames e) } }
    | none =>
      Load.report path (.invalidPayload key .regionList)
      return o
  | none =>
    Load.report path (.unknownOption key)
    return o

def read (path : Path) (v : Value) : Load Options :=
  match v with
  | .null => return {}
  | .mapping entries =>
    (Value.textEntries entries).foldlM (fun o f => readField scope path o f.1 f.2) {}
  | _ => do
    Load.report path (.invalidPayload (path.segments.getLastD "") .optionMapping)
    return {}

end Options

end Embargo
