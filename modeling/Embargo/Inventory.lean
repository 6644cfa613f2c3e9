import Embargo.Decision.Context
import Embargo.Item.Stack
import Embargo.Registry

namespace Embargo

inductive SlotKind where
  | storage
  | armor
  | offhand
deriving DecidableEq, Repr, Inhabited

def SlotKind.ofName? : String → Option SlotKind
  | "storage" => some storage
  | "armor" => some armor
  | "offhand" => some offhand
  | _ => none

structure Slot where
  index : Nat
  kind : SlotKind
  stack : Stack
deriving DecidableEq, Inhabited

structure Holder where
  actor : Actor
  world : World
  slots : List Slot
deriving DecidableEq, Inhabited

def Holder.clear (h : Holder) (index : Nat) : Holder :=
  { h with slots := h.slots.filter fun s => s.index != index }

inductive IllegalReason where
  | oversized (amount max : UInt32)
  | overenchanted (enchantment : Enchantment) (level max : UInt32)
deriving DecidableEq, Repr, Inhabited

def overenchanted? (roster : Roster) (e : Enchantment) (level : UInt32) : Option IllegalReason :=
  match roster.maxLevel.get? e with
  | some max => if max < level then some (.overenchanted e level max) else none
  | none => none

/--
The first reason why a stack is illegal. What has no known limit is legal.
-/
def illegalReason? (roster : Roster) (s : Stack) : Option IllegalReason :=
  let oversized := (roster.maxAmount.get? s.material).bind fun max =>
    if max < s.amount then some (.oversized s.amount max) else none
  oversized.or (s.enchantments.entries.findSome? fun e => overenchanted? roster e.1 e.2)

end Embargo
