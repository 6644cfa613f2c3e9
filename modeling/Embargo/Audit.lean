import Embargo.Decision.Verdict
import Embargo.Rule.Book

namespace Embargo

inductive Severity where
  | debug
  | info
  | warn
  | error
deriving DecidableEq, Repr, Inhabited

namespace Severity

def all : List Severity :=
  [debug, info, warn, error]

def name : Severity → String
  | debug => "debug"
  | info => "info"
  | warn => "warn"
  | error => "error"

def ofName? (name : String) : Option Severity :=
  all.find? fun s => s.name == name

def rank : Severity → Nat
  | debug => 0
  | info => 1
  | warn => 2
  | error => 3

def passes (threshold entry : Severity) : Bool :=
  threshold.rank ≤ entry.rank

end Severity

structure AuditEntry where
  level : Severity := .info
  actor : Nat
  world : World
  itemName : String
  action : Action
  outcome : Outcome
  ground : Ground
  message : Option String
deriving DecidableEq, Repr, Inhabited

def uuidText (n : Nat) : String :=
  let ds := Nat.toDigits 16 n
  let ds := List.replicate (32 - ds.length) '0' ++ ds
  let part (start size : Nat) : String := String.ofList ((ds.drop start).take size)
  "-".intercalate [part 0 8, part 8 4, part 12 4, part 16 4, part 20 12]

inductive AuditSink where
  | host
  | log (threshold : Severity) (enabled : Bool)
deriving DecidableEq, Repr, Inhabited

namespace AuditSink

def takes : AuditSink → AuditEntry → Bool
  | host, _ => true
  | log threshold enabled, e => enabled && threshold.passes e.level

/--
The entries that a sink receives for a verdict: one if the verdict asks to be logged. Items are named
as in the rule book.
-/
def record (sink : AuditSink) (book : RuleBook) (r : Request) (v : Verdict) : List AuditEntry :=
  if v.shouldLog then
    let e : AuditEntry :=
      { actor := r.actor.id, world := r.world, itemName := book.itemName r.item, action := r.action
        outcome := v.outcome, ground := v.ground, message := v.message }
    if sink.takes e then [e] else []
  else
    []

end AuditSink

end Embargo
