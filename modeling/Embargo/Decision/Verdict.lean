import Embargo.Decision.Context
import Embargo.Item.Identity
import Embargo.Text.Decimal
import Embargo.Text.Search

namespace Embargo

inductive Outcome where
  | allow
  | deny
deriving DecidableEq, Repr, Inhabited

def Outcome.name : Outcome → String
  | allow => "allow"
  | deny => "deny"

inductive Ground where
  | bypass
  | blacklist
  | whitelist
  | listener
  | default
deriving DecidableEq, Repr, Inhabited

def Ground.name : Ground → String
  | bypass => "bypass"
  | blacklist => "blacklist"
  | whitelist => "whitelist"
  | listener => "listener"
  | default => "default"

structure Verdict where
  outcome : Outcome
  ground : Ground
  message : Option String := none
  shouldLog : Bool := false
  remaining : Option Nat := none
deriving DecidableEq, Repr, Inhabited

namespace Verdict

def isAllowed (v : Verdict) : Bool :=
  v.outcome == .allow

def isDenied (v : Verdict) : Bool :=
  v.outcome == .deny

end Verdict

structure Request where
  actor : Actor
  world : World
  item : Identity
  action : Action
  context : Context := {}
  time : Nat
deriving Inhabited

namespace Message

def seconds (milliseconds : Nat) : Nat :=
  (milliseconds + 999) / 1000

/--
Fill in a template: first the item, then the action, the world and at last the time in whole seconds,
rounded up.
-/
def fill (template itemName : String) (action : Action) (world : World) (time : Option Nat) :
    String :=
  let withItem := Text.replace "\x7bitem\x7d" itemName template
  let withAction := Text.replace "\x7baction\x7d" action.name withItem
  let withWorld := Text.replace "\x7bworld\x7d" world.name withAction
  Text.replace "\x7btime\x7d" ((time.map fun ms => Text.showNat (seconds ms)).getD "") withWorld

end Message

end Embargo
