import Embargo.Text.WhiteSpace
import Embargo.Unicode.Case
import Embargo.Unicode.Property

/-!
This module contains the lowercase mapping of texts. It maps character by character, except that a
capital sigma at the end of a word becomes a final sigma and that a dotted capital I keeps its dot.
-/

namespace Embargo.Text

open Unicode

def startsCased (cs : List Char) : Bool :=
  match cs.dropWhile isCaseIgnorable with
  | c :: _ => isCased c
  | [] => false

/--
The lowercase mapping of one character, where `before` are the characters in front of it, the
nearest first, and `after` are those that follow.
-/
def lowercaseAt (before : List Char) (c : Char) (after : List Char) : List Char :=
  if c = 'Σ' then
    [if startsCased before && !startsCased after then 'ς' else 'σ']
  else if c = 'İ' then
    ['i', '\u0307']
  else
    [lowercaseChar c]

def lowercaseChars (cs : List Char) : List Char :=
  go [] cs
where
  go (before : List Char) : List Char → List Char
    | [] => []
    | c :: after => lowercaseAt before c after ++ go (c :: before) after

def lowercase (s : String) : String :=
  String.ofList (lowercaseChars s.toList)

def equalIgnoringAsciiCase (s t : String) : Bool :=
  s.toList.map Char.toLower == t.toList.map Char.toLower

/--
A key whose case and separators do not matter: without white space around it, lowercase and with dashes
for underscores.
-/
def normalizedKey (raw : String) : String :=
  String.ofList ((lowercaseChars (trimChars raw.toList)).map fun c => if c = '_' then '-' else c)

end Embargo.Text
