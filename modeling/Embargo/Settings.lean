import Embargo.Audit
import Embargo.Decision.Context
import Embargo.Yaml.Document

/-!
This module contains the settings. Whatever a document leaves out has its default.
-/

namespace Embargo

open Yaml

inductive IllegalMode where
  | ignore
  | log
  | delete
deriving DecidableEq, Repr, Inhabited

namespace IllegalMode

def name : IllegalMode → String
  | ignore => "ignore"
  | log => "log"
  | delete => "delete"

def ofName? (name : String) : Option IllegalMode :=
  [ignore, log, delete].find? fun m => m.name == name

end IllegalMode

structure AuditSettings where
  enabled : Bool := true
  level : Severity := .info
deriving DecidableEq, Repr, Inhabited

structure ScanSettings where
  enabled : Bool := false
  intervalSeconds : Nat := 30
  illegalStacks : IllegalMode := .ignore
  checkArmor : Bool := true
deriving DecidableEq, Repr, Inhabited

/--
The milliseconds between two scans. Scans are at least a second apart.
-/
def ScanSettings.interval (s : ScanSettings) : Nat :=
  max s.intervalSeconds 1 * 1000

structure Settings where
  legacy : Bool := false
  bypassFront : String := Bypass.stockFront
  audit : AuditSettings := {}
  scan : ScanSettings := {}
deriving DecidableEq, Repr, Inhabited

namespace Settings

section Reading

variable {α : Type} (access : Access α)

def readAudit? (x : α) : Option AuditSettings := do
  let fields ← access.fields? x
  let enabled ← fieldOr fields "enabled" true access.bool?
  let level ← fieldOr fields "level" .info fun y => (access.variant? y).bind Severity.ofName?
  return { enabled, level }

def readScan? (x : α) : Option ScanSettings := do
  let fields ← access.fields? x
  let enabled ← fieldOr fields "enabled" false access.bool?
  let intervalSeconds ← fieldOr fields "interval-secs" 30 access.unsigned?
  let illegalStacks ← fieldOr fields "illegal-stacks" .ignore fun y =>
    (access.variant? y).bind IllegalMode.ofName?
  let checkArmor ← fieldOr fields "check-armor" true access.bool?
  return { enabled, intervalSeconds, illegalStacks, checkArmor }

def read? (x : α) : Option Settings := do
  let fields ← access.fields? x
  let legacy ← fieldOr fields "legacy-item-model" false access.bool?
  let bypassFront ← fieldOr fields "bypass-prefix" Bypass.stockFront access.text?
  let audit ← fieldOr fields "audit" {} (readAudit? access)
  let scan ← fieldOr fields "scan" {} (readScan? access)
  return { legacy, bypassFront, audit, scan }

end Reading

def ofValue? (v : Value) : Option Settings :=
  read? Value.access v

def ofText? (text : String) : Option Settings :=
  if (Text.trim text).isEmpty then
    some {}
  else
    match Node.ofText text with
    | .malformed => none
    | .nothing => some {}
    | .root n => read? Node.access n

end Settings

end Embargo
