import Embargo.Item.Stack
import Embargo.Rule.Options

/-!
This module contains the listeners of a host, which learn of a denial or a removal before it takes
effect and may cancel it.
-/

namespace Embargo

structure BanEvent where
  actor : Nat
  world : World
  item : Identity
  action : Action
  options : Option Options
  cancelled : Bool := false
deriving DecidableEq, Inhabited

structure RemovalEvent where
  actor : Nat
  world : World
  stack : Stack
  slot : Nat
  cancelled : Bool := false
deriving DecidableEq, Inhabited

structure Listener where
  name : String
  cancelsBan : BanEvent → Bool := fun _ => false
  cancelsRemoval : RemovalEvent → Bool := fun _ => false
deriving Inhabited

inductive Notice where
  | ban (listener : String) (event : BanEvent)
  | removal (listener : String) (event : RemovalEvent)
deriving DecidableEq, Inhabited

structure Listeners where
  toList : List Listener := []
deriving Inhabited

namespace Listeners

def register (ls : Listeners) (l : Listener) : Listeners :=
  ⟨ls.toList ++ [l]⟩

def unregister (ls : Listeners) (name : String) : Listeners :=
  ⟨ls.toList.filter fun l => l.name != name⟩

def isRegistered (ls : Listeners) (name : String) : Bool :=
  ls.toList.any fun l => l.name == name

/--
The notices of a denial. Each listener sees whether one before it has cancelled the denial.
-/
def banNotices (e : BanEvent) : List Listener → List Notice
  | [] => []
  | l :: ls =>
    .ban l.name e :: banNotices { e with cancelled := e.cancelled || l.cancelsBan e } ls

def cancelsBan (e : BanEvent) : List Listener → Bool
  | [] => e.cancelled
  | l :: ls => cancelsBan { e with cancelled := e.cancelled || l.cancelsBan e } ls

def removalNotices (e : RemovalEvent) : List Listener → List Notice
  | [] => []
  | l :: ls =>
    .removal l.name e :: removalNotices { e with cancelled := e.cancelled || l.cancelsRemoval e } ls

def cancelsRemoval (e : RemovalEvent) : List Listener → Bool
  | [] => e.cancelled
  | l :: ls => cancelsRemoval { e with cancelled := e.cancelled || l.cancelsRemoval e } ls

end Listeners

end Embargo
