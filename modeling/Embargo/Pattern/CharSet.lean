import Embargo.Unicode.Case
import Embargo.Unicode.Property
import Embargo.Unicode.Script

/-!
This module contains the sets of characters that a pattern can name, and the operations from which
bracketed classes are built.
-/

namespace Embargo.Pattern

open Unicode

/--
A set of characters. It records whether it is known to hold ASCII characters only and about how much
room an automaton takes that recognises it.
-/
structure CharSet where
  mem : Char → Bool
  ascii : Bool
  weight : Nat

namespace CharSet

def asciiWeight : Nat := 48

def rangeWeight : Nat := 600

def propertyWeight : Nat := 57000

def none : CharSet :=
  ⟨fun _ => false, true, asciiWeight⟩

def single (c : Char) : CharSet :=
  ⟨fun x => x == c, c.toNat < 0x80, asciiWeight⟩

def range (first last : Char) : CharSet :=
  ⟨fun x => first ≤ x && x ≤ last, last.toNat < 0x80,
    if last.toNat < 0x80 then asciiWeight else rangeWeight⟩

def ofProperty (p : Char → Bool) : CharSet :=
  ⟨p, false, propertyWeight⟩

def union (s t : CharSet) : CharSet :=
  ⟨fun x => s.mem x || t.mem x, s.ascii && t.ascii, max s.weight t.weight⟩

def inter (s t : CharSet) : CharSet :=
  ⟨fun x => s.mem x && t.mem x, s.ascii || t.ascii, min s.weight t.weight⟩

def diff (s t : CharSet) : CharSet :=
  ⟨fun x => s.mem x && !t.mem x, s.ascii, s.weight⟩

def symmDiff (s t : CharSet) : CharSet :=
  ⟨fun x => s.mem x != t.mem x, s.ascii && t.ascii, max s.weight t.weight⟩

def compl (s : CharSet) : CharSet :=
  ⟨fun x => !s.mem x, false, max s.weight rangeWeight⟩

def foldCase (s : CharSet) : CharSet :=
  ⟨fun x => (caseVariants x).any s.mem, false, s.weight⟩

def foldAsciiCase (s : CharSet) : CharSet :=
  ⟨fun x => s.mem x || s.mem x.toLower || s.mem x.toUpper, s.ascii, s.weight⟩

def digits (unicode : Bool) : CharSet :=
  if unicode then ⟨isDecimalDigit, false, 6000⟩ else ⟨Char.isDigit, true, asciiWeight⟩

def blanks (unicode : Bool) : CharSet :=
  if unicode then
    ⟨Text.isWhiteSpace, false, rangeWeight⟩
  else
    ⟨fun c => c == ' ' || (9 ≤ c.toNat && c.toNat ≤ 13), true, asciiWeight⟩

def words (unicode : Bool) : CharSet :=
  if unicode then ofProperty isWord else ⟨fun c => c.isAlphanum || c == '_', true, asciiWeight⟩

def named? (name : String) : Option CharSet :=
  let between (a b : Nat) : Char → Bool := fun c => a ≤ c.toNat && c.toNat ≤ b
  let test : Option (Char → Bool) :=
    match name with
    | "alnum" => some Char.isAlphanum
    | "alpha" => some Char.isAlpha
    | "ascii" => some (between 0 0x7F)
    | "blank" => some fun c => c == ' ' || c == '\t'
    | "cntrl" => some fun c => between 0 0x1F c || c.toNat == 0x7F
    | "digit" => some Char.isDigit
    | "graph" => some (between 0x21 0x7E)
    | "lower" => some Char.isLower
    | "print" => some (between 0x20 0x7E)
    | "punct" => some fun c => between 0x21 0x7E c && !c.isAlphanum
    | "space" => some fun c => c == ' ' || between 9 13 c
    | "upper" => some Char.isUpper
    | "word" => some fun c => c.isAlphanum || c == '_'
    | "xdigit" => some fun c =>
      c.isDigit || between 0x41 0x46 c || between 0x61 0x66 c
    | _ => Option.none
  test.map fun p => ⟨p, true, asciiWeight⟩

def looseName (cs : List Char) : List Char :=
  let cs := (cs.filter fun c => c != ' ' && c != '_' && c != '-' && c.toNat < 0x80).map Char.toLower
  match cs with
  | ['i', 's', 'c'] => cs
  | 'i' :: 's' :: rest => if rest.isEmpty then cs else rest
  | _ => cs

def sameName (cs : List Char) (s : String) : Bool :=
  cs == looseName s.toList

def categoryGroups : List (List String × List Category) :=
  [(["L", "Letter"], [.uppercaseLetter, .lowercaseLetter, .titlecaseLetter, .modifierLetter,
      .otherLetter]),
   (["LC", "Cased_Letter"], [.uppercaseLetter, .lowercaseLetter, .titlecaseLetter]),
   (["Lu", "Uppercase_Letter"], [.uppercaseLetter]),
   (["Ll", "Lowercase_Letter"], [.lowercaseLetter]),
   (["Lt", "Titlecase_Letter"], [.titlecaseLetter]),
   (["Lm", "Modifier_Letter"], [.modifierLetter]),
   (["Lo", "Other_Letter"], [.otherLetter]),
   (["M", "Mark", "Combining_Mark"], [.nonspacingMark, .spacingMark, .enclosingMark]),
   (["Mn", "Nonspacing_Mark"], [.nonspacingMark]),
   (["Mc", "Spacing_Mark"], [.spacingMark]),
   (["Me", "Enclosing_Mark"], [.enclosingMark]),
   (["N", "Number"], [.decimalNumber, .letterNumber, .otherNumber]),
   (["Nd", "Decimal_Number", "digit"], [.decimalNumber]),
   (["Nl", "Letter_Number"], [.letterNumber]),
   (["No", "Other_Number"], [.otherNumber]),
   (["P", "Punctuation", "punct"], [.connectorPunctuation, .dashPunctuation, .openPunctuation,
      .closePunctuation, .initialPunctuation, .finalPunctuation, .otherPunctuation]),
   (["Pc", "Connector_Punctuation"], [.connectorPunctuation]),
   (["Pd", "Dash_Punctuation"], [.dashPunctuation]),
   (["Ps", "Open_Punctuation"], [.openPunctuation]),
   (["Pe", "Close_Punctuation"], [.closePunctuation]),
   (["Pi", "Initial_Punctuation"], [.initialPunctuation]),
   (["Pf", "Final_Punctuation"], [.finalPunctuation]),
   (["Po", "Other_Punctuation"], [.otherPunctuation]),
   (["S", "Symbol"], [.mathSymbol, .currencySymbol, .modifierSymbol, .otherSymbol]),
   (["Sm", "Math_Symbol"], [.mathSymbol]),
   (["Sc", "Currency_Symbol"], [.currencySymbol]),
   (["Sk", "Modifier_Symbol"], [.modifierSymbol]),
   (["So", "Other_Symbol"], [.otherSymbol]),
   (["Z", "Separator"], [.spaceSeparator, .lineSeparator, .paragraphSeparator]),
   (["Zs", "Space_Separator"], [.spaceSeparator]),
   (["Zl", "Line_Separator"], [.lineSeparator]),
   (["Zp", "Paragraph_Separator"], [.paragraphSeparator]),
   (["C", "Other"], [.control, .format, .surrogate, .privateUse, .unassigned]),
   (["Cc", "Control", "cntrl"], [.control]),
   (["Cf", "Format"], [.format]),
   (["Co", "Private_Use"], [.privateUse]),
   (["Cn", "Unassigned"], [.unassigned])]

def category? (name : List Char) : Option CharSet :=
  if sameName name "Any" then
    some (ofProperty fun _ => true)
  else if sameName name "Assigned" then
    some (ofProperty fun c => category c != .unassigned)
  else if sameName name "ASCII" then
    some ⟨fun c => c.toNat < 0x80, true, asciiWeight⟩
  else
    (categoryGroups.find? fun g => g.1.any (sameName name)).map fun g =>
      ofProperty fun c => g.2.contains (category c)

def script? (name : List Char) : Option CharSet :=
  (Script.names.find? fun n => sameName name n.1 || sameName name n.2).map fun n =>
    ofProperty fun c => script c == n.1

def binary? (name : List Char) : Option CharSet :=
  let table : List (List String × (Char → Bool)) :=
    [(["Alphabetic", "Alpha"], isAlphabetic),
     (["Lowercase", "Lower"], isLowercase),
     (["Uppercase", "Upper"], isUppercase),
     (["White_Space", "WSpace", "space"], Text.isWhiteSpace),
     (["Cased"], isCased),
     (["Case_Ignorable", "CI"], isCaseIgnorable),
     (["Dash"], dashes.contains),
     (["Ideographic", "Ideo"], ideographs.contains),
     (["Emoji"], emoji.contains),
     (["Hex_Digit", "Hex"], isHexDigit),
     (["ASCII_Hex_Digit", "AHex"], fun c => c.toNat < 0x80 && isHexDigit c),
     (["Join_Control", "Join_C"], fun c => c.toNat == 0x200C || c.toNat == 0x200D)]
  (table.find? fun p => p.1.any (sameName name)).map fun p => ofProperty p.2

def property? (name : List Char) : Option CharSet :=
  let name := looseName name
  let category := category? name
  let names := ["cf", "sc", "lc"]
  (if names.any (sameName name) then Option.none else binary? name)
    <|> category <|> script? name

def propertyValue? (name value : List Char) : Option CharSet :=
  let name := looseName name
  let value := looseName value
  if sameName name "General_Category" || sameName name "gc" then
    category? value
  else if sameName name "Script" || sameName name "sc" then
    script? value
  else
    Option.none

end CharSet

end Embargo.Pattern
