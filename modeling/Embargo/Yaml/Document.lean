import Embargo.Yaml.Node
import Embargo.Yaml.Value

/-!
This module contains the values that the nodes of a document stand for under the core schema, and the
access to typed data that nodes and values have in common.
-/

namespace Embargo.Yaml

open Decimal

def isNull (s : String) : Bool :=
  ["null", "Null", "NULL", "~"].contains s

def readBool? (s : String) : Option Bool :=
  if ["true", "True", "TRUE"].contains s then some true
  else if ["false", "False", "FALSE"].contains s then some false
  else none

def hasLeadingZero (cs : List Char) : Bool :=
  let cs := match cs with
    | '-' :: cs => cs
    | '+' :: cs => cs
    | cs => cs
  match cs with
  | '0' :: d :: ds => (d :: ds).all Char.isDigit
  | _ => false

def readBased? (cs : List Char) : Option Nat :=
  let digits (base : Nat) (ds : List Char) : Option Nat :=
    if ds.isEmpty then
      none
    else
      ds.foldlM (fun n c => (hexValue? c).bind fun d => if d < base then some (n * base + d) else none)
        0
  match cs with
  | '0' :: 'x' :: ds => digits 16 ds
  | '0' :: 'o' :: ds => digits 8 ds
  | '0' :: 'b' :: ds => digits 2 ds
  | _ => none

def readWhole? (cs : List Char) : Option Int :=
  let unsigned (ds : List Char) : Option Nat :=
    readBased? ds <|>
      if ds.isEmpty || !ds.all Char.isDigit || hasLeadingZero cs then none
      else some (Text.digitsValue ds)
  match cs with
  | '-' :: ds => (unsigned ds).map fun n => -(n : Int)
  | '+' :: ds => (unsigned ds).map Int.ofNat
  | ds => (unsigned ds).map Int.ofNat

def readUnsigned? (cs : List Char) : Option Nat :=
  if cs.head? == some '-' then
    none
  else
    (readWhole? cs).bind fun n => if n < Nat.pow 2 64 then some n.toNat else none

def readFloat? (cs : List Char) : Option Binary64 :=
  let s := String.ofList cs
  let unsigned := match cs with
    | '+' :: ds => ds
    | _ => cs
  if [".inf", ".Inf", ".INF"].contains (String.ofList unsigned) then some .infinity
  else if ["-.inf", "-.Inf", "-.INF"].contains s then some .negInfinity
  else if [".nan", ".NaN", ".NAN"].contains s then some .nan
  else if cs.head? == some '+' && (unsigned.head? == some '+' || unsigned.head? == some '-') then none
  else (Binary64.ofDecimalText? unsigned).filter (·.isFinite)

/--
The number that a scalar is, where whole numbers that fit into 128 bits but not into 64 bits are
refused.
-/
def readNumber? (cs : List Char) : Option (Option Number) :=
  match readWhole? cs with
  | some n =>
    if Number.fits 64 n then some (some (.int n))
    else if Number.fits 128 n then none
    else some ((readFloat? cs).map .float)
  | none =>
    if hasLeadingZero cs then some none else some ((readFloat? cs).map .float)

def ofPlain? (s : String) : Option Value :=
  if s.isEmpty || isNull s then
    some .null
  else
    match readBool? s with
    | some b => some (.bool b)
    | none =>
      match readNumber? s.toList with
      | some (some n) => some (.number n)
      | some none => some (.text s)
      | none => none

namespace Node

def tagName? (tag : Option String) : Option String :=
  match tag.map String.toList with
  | some ['!'] => some "!"
  | some ('!' :: name) => some (String.ofList name)
  | _ => none

def ofCoreTag? (tag : String) (s : String) : Option Value :=
  match tag with
  | "tag:yaml.org,2002:bool" => (readBool? s).map .bool
  | "tag:yaml.org,2002:int" =>
    match readWhole? s.toList with
    | some n => if Number.fits 64 n then some (.number (.int n)) else none
    | none => none
  | "tag:yaml.org,2002:float" => (readFloat? s.toList).map fun x => .number (.float x)
  | "tag:yaml.org,2002:null" => if isNull s then some .null else none
  | _ => some (.text s)

def ofScalar? (tag : Option String) (s : String) (plain : Bool) : Option Value :=
  let untagged : Option Value := if plain then ofPlain? s else some (.text s)
  match tagName? tag with
  | some name => untagged.map (.tagged name)
  | none =>
    match tag with
    | some t => ofCoreTag? t s
    | none => untagged

def addTag (tag : Option String) (v : Value) : Value :=
  match tagName? tag with
  | some name => .tagged name v
  | none => v

mutual

/--
The value of a node, in which no mapping has a key twice and at most `depth` collections are nested.
-/
def toValue? (depth : Nat) : Node → Option Value
  | .scalar tag s plain => ofScalar? tag s plain
  | .seq tag items =>
    if depth = 0 then none
    else (itemValues? (depth - 1) items).map fun vs => addTag tag (.seq vs)
  | .map tag entries =>
    if depth = 0 then none
    else (entryValues? (depth - 1) [] entries).map fun es => addTag tag (.mapping es)

def itemValues? (depth : Nat) : List Node → Option (List Value)
  | [] => some []
  | n :: ns =>
    match toValue? depth n, itemValues? depth ns with
    | some v, some vs => some (v :: vs)
    | _, _ => none

def entryValues? (depth : Nat) (seen : List (Value × Value)) :
    List (Node × Node) → Option (List (Value × Value))
  | [] => some seen.reverse
  | (k, n) :: es =>
    match toValue? depth k, toValue? depth n with
    | some k, some v =>
      if seen.any fun e => e.1.sameKey k then none else entryValues? depth ((k, v) :: seen) es
    | _, _ => none

end

end Node

/--
The ways to take typed data from a node or a value. Each is `none` where the shape does not fit.
-/
structure Access (α : Type) where
  fields? : α → Option (List (String × α))
  text? : α → Option String
  bool? : α → Option Bool
  unsigned? : α → Option Nat
  variant? : α → Option String
  value? : α → Option Value

def Node.access : Access Node where
  fields?
    | .map _ entries =>
      entries.mapM fun (k, v) => match k with
        | .scalar _ s _ => some (s, v)
        | _ => none
    | .scalar _ s plain => if plain && s.isEmpty then some [] else none
    | .seq _ _ => none
  text?
    | .scalar _ s _ => some s
    | _ => none
  bool?
    | .scalar _ s plain => if plain then readBool? s else none
    | _ => none
  unsigned?
    | .scalar _ s plain => if plain then readUnsigned? s.toList else none
    | _ => none
  variant?
    | .scalar tag s plain =>
      match Node.tagName? tag with
      | some name => if plain && (s.isEmpty || isNull s) then some name else none
      | none => some s
    | _ => none
  value? := Node.toValue? 126

def Node.isNull : Node → Bool
  | .scalar _ s plain => plain && (s.isEmpty || Yaml.isNull s)
  | _ => false

def Value.access : Access Value where
  fields? v :=
    match v.untag with
    | .mapping entries => entries.mapM fun (k, v) => match k.untag with
      | .text s => some (s, v)
      | _ => none
    | .null => some []
    | _ => none
  text? := Value.asText?
  bool? := Value.asBool?
  unsigned? v := v.asInt?.bind fun n => if 0 ≤ n && n < Nat.pow 2 64 then some n.toNat else none
  variant?
    | .text s => some s
    | .tagged name .null => some name
    | _ => none
  value? := some

def fieldOr {α β : Type} (fields : List (String × α)) (name : String) (default : β)
    (read : α → Option β) : Option β :=
  match fields.filter (·.1 == name) with
  | [] => some default
  | [(_, x)] => read x
  | _ => none

end Embargo.Yaml
