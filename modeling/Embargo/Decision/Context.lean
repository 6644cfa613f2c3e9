import Embargo.Action
import Embargo.Registry

namespace Embargo

structure Context where
  entity : Option EntityType := none
  gameMode : Option GameMode := none
  inventoryFrom : Option InventoryType := none
  inventoryTo : Option InventoryType := none
  material : Option Material := none
  regions : List String := []
deriving DecidableEq, Repr, Inhabited

def Context.addRegion (ctx : Context) (name : String) : Context :=
  { ctx with regions := ctx.regions ++ [Text.lowercase (Text.trim name)] }

structure Actor where
  id : Nat
  permissions : List String := []
deriving DecidableEq, Repr, Inhabited

def Actor.holdsNode (a : Actor) (node : String) : Bool :=
  a.permissions.contains node

namespace Bypass

def stockFront : String :=
  "itemban.bypass"

def normalFront (front : String) : String :=
  String.ofList ((front.toList.reverse.dropWhile (· == '.')).reverse)

def scopeNode (front world item : String) : String :=
  front ++ "." ++ world ++ "." ++ item

/--
The nodes that lift a ban, the most specific first.
-/
def nodes (front : String) (world : World) (itemName : String) (action : Action) : List String :=
  [world.name, "*"].flatMap fun w => [itemName, "*"].flatMap fun i =>
    [scopeNode front w i ++ "." ++ action.name, scopeNode front w i]

def holds (front : String) (actor : Actor) (world : World) (itemName : String) (action : Action) :
    Bool :=
  (nodes front world itemName action).any actor.holdsNode

end Bypass

end Embargo
