import Embargo.Text.Search
import Embargo.Text.WhiteSpace
import Embargo.Yaml.Value

/-!
This module contains expressions as they are written: texts with commas and lists of such texts, which
come down to a list of tokens.
-/

namespace Embargo

inductive Expression where
  | text (s : String)
  | list (parts : List Expression)
deriving Repr, Inhabited

namespace Expression

mutual

def ofValue? : Yaml.Value → Option Expression
  | .null => some (.list [])
  | .bool b => some (.text (if b then "true" else "false"))
  | .number n => some (.text n.text)
  | .text s => some (.text s)
  | .seq vs => (ofValues? vs).map .list
  | .mapping _ => none
  | .tagged _ v => ofValue? v

def ofValues? : List Yaml.Value → Option (List Expression)
  | [] => some []
  | v :: vs =>
    match ofValue? v, ofValues? vs with
    | some e, some es => some (e :: es)
    | _, _ => none

end

mutual

def ofTexts? : Yaml.Value → Option Expression
  | .text s => some (.text s)
  | .seq vs => (ofTextLists? vs).map .list
  | _ => none

def ofTextLists? : List Yaml.Value → Option (List Expression)
  | [] => some []
  | v :: vs =>
    match ofTexts? v, ofTextLists? vs with
    | some e, some es => some (e :: es)
    | _, _ => none

end

def pieces (s : String) : List String :=
  ((Text.splitCommas s.toList).map fun cs => String.ofList (Text.trimChars cs)).filter
    fun t => !t.isEmpty

mutual

def tokens : Expression → List String
  | .text s => pieces s
  | .list es => allTokens es

def allTokens : List Expression → List String
  | [] => []
  | e :: es => tokens e ++ allTokens es

end

def isEmpty (e : Expression) : Bool :=
  e.tokens.isEmpty

def display (e : Expression) : String :=
  ", ".intercalate e.tokens

end Expression

end Embargo
