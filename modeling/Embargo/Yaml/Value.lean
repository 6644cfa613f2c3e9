import Embargo.Yaml.Number

/-!
This module contains the values of a YAML document. Mappings keep the order of their entries.
-/

namespace Embargo.Yaml

inductive Value where
  | null
  | bool (b : Bool)
  | number (n : Number)
  | text (s : String)
  | seq (items : List Value)
  | mapping (entries : List (Value × Value))
  | tagged (tag : String) (value : Value)
deriving Repr, Inhabited

namespace Value

def untag : Value → Value
  | .tagged _ v => untag v
  | v => v

def asText? (v : Value) : Option String :=
  match v.untag with
  | .text s => some s
  | _ => none

def asBool? (v : Value) : Option Bool :=
  match v.untag with
  | .bool b => some b
  | _ => none

def asInt? (v : Value) : Option Int :=
  match v.untag with
  | .number (.int n) => some n
  | _ => none

def textEntries (entries : List (Value × Value)) : List (String × Value) :=
  entries.filterMap fun e => e.1.asText?.map (·, e.2)

def field? (entries : List (Value × Value)) (key : String) : Option Value :=
  match entries with
  | [] => none
  | (.text k, v) :: rest => if k = key then some v else field? rest key
  | _ :: rest => field? rest key

def ofFields (fields : List (String × Value)) : Value :=
  .mapping (fields.map fun f => (.text f.1, f.2))

@[simp]
theorem textEntries_ofFields (fields : List (String × Value)) :
    textEntries (fields.map fun f => (.text f.1, f.2)) = fields := by
  induction fields with
  | nil => rfl
  | cons f fs ih =>
    rw [List.map_cons, textEntries, List.filterMap_cons]
    change f :: textEntries (fs.map fun f => (.text f.1, f.2)) = f :: fs
    rw [ih]

mutual

def sameKey : Value → Value → Bool
  | .null, .null => true
  | .bool a, .bool b => a == b
  | .number m, .number n => m.sameKey n
  | .text s, .text t => s == t
  | .seq xs, .seq ys => sameItems xs ys
  | .mapping xs, .mapping ys => sameEntries xs ys
  | .tagged s v, .tagged t w => s == t && sameKey v w
  | _, _ => false

def sameItems : List Value → List Value → Bool
  | [], [] => true
  | x :: xs, y :: ys => sameKey x y && sameItems xs ys
  | _, _ => false

def sameEntries : List (Value × Value) → List (Value × Value) → Bool
  | [], [] => true
  | (k, v) :: xs, (l, w) :: ys => sameKey k l && sameKey v w && sameEntries xs ys
  | _, _ => false

end

end Value

end Embargo.Yaml
