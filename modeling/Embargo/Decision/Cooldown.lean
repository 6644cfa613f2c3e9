import Embargo.Collection.Table
import Embargo.Item.Identity

/-!
This module contains the cooldown windows, within which an actor is not told again that an item is
banned.
-/

namespace Embargo

/--
For each actor and item the time at which the last window started, in milliseconds.
-/
structure Cooldowns where
  started : Table (Nat × Identity) Nat
deriving DecidableEq, Inhabited

inductive CooldownCheck where
  | triggered
  | active (remaining : Nat)
deriving DecidableEq, Repr

namespace Cooldowns

def empty : Cooldowns :=
  ⟨∅⟩

instance : EmptyCollection Cooldowns := ⟨empty⟩

def size (c : Cooldowns) : Nat :=
  c.started.size

def isEmpty (c : Cooldowns) : Bool :=
  c.started.isEmpty

def last? (c : Cooldowns) (actor : Nat) (i : Identity) : Option Nat :=
  c.started.get? (actor, i)

def start (c : Cooldowns) (actor : Nat) (i : Identity) (now : Nat) : Cooldowns :=
  ⟨c.started.insert (actor, i) now⟩

/--
Start a window unless one is open. An open window is not extended.
-/
def check (c : Cooldowns) (actor : Nat) (i : Identity) (length now : Nat) :
    CooldownCheck × Cooldowns :=
  match c.last? actor i with
  | some t =>
    if now - t < length then (.active (length - (now - t)), c)
    else (.triggered, c.start actor i now)
  | none => (.triggered, c.start actor i now)

def forget (c : Cooldowns) (actor : Nat) : Cooldowns :=
  ⟨c.started.filter fun k _ => k.1 != actor⟩

def prune (c : Cooldowns) (age now : Nat) : Cooldowns :=
  ⟨c.started.filter fun _ t => now - t < age⟩

end Cooldowns

end Embargo
