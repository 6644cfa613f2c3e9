import Embargo.Decision.Context
import Embargo.Decision.Cooldown
import Embargo.Decision.Listener
import Embargo.Decision.Verdict
import Embargo.Rule.Book

/-!
This module contains the decision whether an action may be done. A ban denies it, and so does a
whitelist that does not mention it, unless the actor may bypass rules or a listener objects.
-/

namespace Embargo

structure Arbiter where
  book : RuleBook
  listeners : List Listener
  front : String
deriving Inhabited

structure Ruling where
  verdict : Verdict
  cooldowns : Cooldowns
  announced : Option BanEvent := none
deriving DecidableEq, Inhabited

namespace Arbiter

/--
The identities whose rules apply to an item: its own one, then that of its material.
-/
def candidates (i : Identity) : List Identity :=
  if i.hasPredicates then [i, .plain i.material] else [i]

def ban? (arbiter : Arbiter) (r : Request) : Option Options :=
  (candidates r.item).findSome? fun i =>
    (arbiter.book.options? r.world i r.action).filter (·.applies r.context)

def itemName (arbiter : Arbiter) (r : Request) : String :=
  arbiter.book.itemName r.item

def bypasses (arbiter : Arbiter) (r : Request) : Bool :=
  Bypass.holds arbiter.front r.actor r.world (arbiter.itemName r) r.action

def fill (arbiter : Arbiter) (r : Request) (template : String) (time : Option Nat) : String :=
  Message.fill template (arbiter.itemName r) r.action r.world time

/--
Deny a request unless the actor may bypass rules or a listener cancels the denial.
-/
def denyUnless (arbiter : Arbiter) (cooldowns : Cooldowns) (r : Request) (options : Option Options)
    (denial : Verdict × Cooldowns) : Ruling :=
  if arbiter.bypasses r then
    { verdict := { outcome := .allow, ground := .bypass }, cooldowns }
  else
    let event : BanEvent :=
      { actor := r.actor.id, world := r.world, item := r.item, action := r.action, options }
    if Listeners.cancelsBan event arbiter.listeners then
      { verdict := { outcome := .allow, ground := .listener }, cooldowns, announced := some event }
    else
      { verdict := denial.1, cooldowns := denial.2, announced := some event }

def loudDenial (arbiter : Arbiter) (r : Request) (o : Options) : Verdict where
  outcome := .deny
  ground := .blacklist
  message := o.message?.map (arbiter.fill r · o.cooldown)
  shouldLog := o.shouldLog

/--
The denial of a ban. Within a cooldown window it is silent.
-/
def banDenial (arbiter : Arbiter) (cooldowns : Cooldowns) (r : Request) (o : Options) :
    Verdict × Cooldowns :=
  match o.cooldown with
  | none => (arbiter.loudDenial r o, cooldowns)
  | some length =>
    match cooldowns.check r.actor.id r.item length r.time with
    | (.active remaining, cooldowns) =>
      ({ outcome := .deny, ground := .blacklist, remaining := some remaining }, cooldowns)
    | (.triggered, cooldowns) => (arbiter.loudDenial r o, cooldowns)

def decideUnbanned (arbiter : Arbiter) (cooldowns : Cooldowns) (r : Request) : Ruling :=
  match (arbiter.book.whitelist? r.world).filter fun w => !w.ignores r.action with
  | none => { verdict := { outcome := .allow, ground := .default }, cooldowns }
  | some w =>
    if (candidates r.item).any (w.allows · r.action) then
      { verdict := { outcome := .allow, ground := .whitelist }, cooldowns }
    else
      arbiter.denyUnless cooldowns r none
        ({ outcome := .deny, ground := .whitelist, message := w.message.map (arbiter.fill r · none) },
          cooldowns)

def decide (arbiter : Arbiter) (cooldowns : Cooldowns) (r : Request) : Ruling :=
  match arbiter.ban? r with
  | some o => arbiter.denyUnless cooldowns r (some o) (arbiter.banDenial cooldowns r o)
  | none => arbiter.decideUnbanned cooldowns r

def notices (arbiter : Arbiter) (ruling : Ruling) : List Notice :=
  ruling.announced.elim [] (Listeners.banNotices · arbiter.listeners)

end Arbiter

end Embargo
