import Embargo.Collection.Table
import Embargo.Text.WhiteSpace
import Embargo.Yaml.Document
import Embargo.Yaml.Print

/-!
This module contains the configuration that rules are compiled from. Its sections are kept as they are
written, such that an entry that does not load is not lost.
-/

namespace Embargo

open Yaml

abbrev Section := Table String Value

structure RuleSource where
  /-- world expression → item expression → actions, or action expression → options -/
  blacklist : Section := ∅
  /-- world expression → item expression → actions -/
  whitelist : Section := ∅
  /-- name → material and conditions -/
  customItems : Section := ∅
deriving Inhabited

namespace RuleSource

def isEmpty (source : RuleSource) : Bool :=
  source.blacklist.isEmpty && source.whitelist.isEmpty && source.customItems.isEmpty

def readSection? {α : Type} (access : Access α) (x : α) : Option Section := do
  let fields ← access.fields? x
  let entries ← fields.mapM fun f => (access.value? f.2).map (f.1, ·)
  return Table.ofList entries

def read? {α : Type} (access : Access α) (x : α) : Option RuleSource := do
  let fields ← access.fields? x
  let blacklist ← fieldOr fields "blacklist" ∅ (readSection? access)
  let whitelist ← fieldOr fields "whitelist" ∅ (readSection? access)
  let customItems ← fieldOr fields "custom-items" ∅ (readSection? access)
  return { blacklist, whitelist, customItems }

def ofValue? (v : Value) : Option RuleSource :=
  read? Value.access v

def ofText? (text : String) : Option RuleSource :=
  if (Text.trim text).isEmpty then
    some {}
  else
    match Node.ofText text with
    | .malformed => none
    | .nothing => some {}
    | .root n => read? Node.access n

def ofFile? (text : String) : Option RuleSource :=
  match Node.ofText text with
  | .malformed => none
  | .nothing => some {}
  | .root n => if n.isNull then some {} else read? Node.access n

def toText? (source : RuleSource) : Option String :=
  let part (name : String) (s : Section) : List (String × Value) :=
    if s.isEmpty then [] else [(name, .ofFields s.entries)]
  (Value.ofFields (part "blacklist" source.blacklist ++ part "whitelist" source.whitelist
    ++ part "custom-items" source.customItems)).document?

end RuleSource

end Embargo
