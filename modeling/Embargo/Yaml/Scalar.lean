import Embargo.Yaml.Char

/-!
This module contains the scalars of a YAML text as they are written: plain, quoted and in blocks. A
reader returns the text of the scalar with the characters that follow.
-/

namespace Embargo.Yaml

/--
White space inside a scalar that is not part of its text yet: blanks on a line, or line breaks with
the first one apart. A line break that is escaped leaves no first one.
-/
inductive Gap where
  | none
  | blanks (last : List Char)
  | breaks (first : Option Char) (more : List Char)

namespace Gap

def addBlank : Gap → Char → Gap
  | .none, c => .blanks [c]
  | .blanks cs, c => .blanks (c :: cs)
  | g, _ => g

def addBreak : Gap → Char → Gap
  | .breaks first more, c => .breaks first (c :: more)
  | _, c => .breaks (some c) []

def fold : Gap → List Char
  | .none => []
  | .blanks cs => cs
  | .breaks (some '\n') [] => [' ']
  | .breaks (some '\n') more => more
  | .breaks (some c) more => more ++ [c]
  | .breaks Option.none more => more

def isBreaks : Gap → Bool
  | .breaks _ _ => true
  | _ => false

end Gap

def hexValue? (c : Char) : Option Nat :=
  if c.isDigit then some (c.toNat - '0'.toNat)
  else if 'a' ≤ c && c ≤ 'f' then some (c.toNat - 'a'.toNat + 10)
  else if 'A' ≤ c && c ≤ 'F' then some (c.toNat - 'A'.toNat + 10)
  else none

def escaped? : Char → Option Char
  | '0' => some '\x00'
  | 'a' => some '\x07'
  | 'b' => some '\x08'
  | 't' => some '\t'
  | '\t' => some '\t'
  | 'n' => some '\n'
  | 'v' => some '\x0b'
  | 'f' => some '\x0c'
  | 'r' => some '\r'
  | 'e' => some '\x1b'
  | ' ' => some ' '
  | '"' => some '"'
  | '/' => some '/'
  | '\\' => some '\\'
  | 'N' => some '\u0085'
  | '_' => some '\u00a0'
  | 'L' => some '\u2028'
  | 'P' => some '\u2029'
  | _ => none

def escapeDigits? : Char → Option Nat
  | 'x' => some 2
  | 'u' => some 4
  | 'U' => some 8
  | _ => none

inductive Escape where
  | none
  | letter
  | digits (left value : Nat)

def readQuoted (q : Char) (acc : List Char) (gap : Gap) (lineStart : Bool) (esc : Escape) :
    List Char → Option (List Char × List Char)
  | [] => none
  | c :: cs =>
    match esc with
    | .digits left value =>
      match hexValue? c with
      | some d =>
        let value := value * 16 + d
        if left = 1 then
          if value.isValidChar then
            readQuoted q (Char.ofNat value :: acc) .none false .none cs
          else
            none
        else
          readQuoted q acc .none false (.digits (left - 1) value) cs
      | none => none
    | .letter =>
      if isBreak c then
        readQuoted q acc (.breaks Option.none []) true .none cs
      else
        match escapeDigits? c with
        | some n => readQuoted q acc .none false (.digits n 0) cs
        | none =>
          match escaped? c with
          | some e => readQuoted q (e :: acc) .none false .none cs
          | none => none
    | .none =>
      if lineStart && startsDocumentMark (c :: cs) then
        none
      else if isBreak c then
        readQuoted q acc (gap.addBreak c) true .none cs
      else if isBlank c then
        readQuoted q acc (gap.addBlank c) false .none cs
      else
        let acc := gap.fold ++ acc
        if c == q then
          match q, cs with
          | '\'', '\'' :: cs => readQuoted q ('\'' :: acc) .none false .none cs
          | _, _ => some (acc.reverse, cs)
        else if q == '"' && c == '\\' then
          readQuoted q acc .none false .letter cs
        else
          readQuoted q (c :: acc) .none false .none cs

structure PlainScalar where
  text : List Char
  multiLine : Bool
  rest : List Char

def readPlain (inFlow : Bool) (indent : Int) (acc : List Char) (gap : Gap) (column : Nat)
    (cs : List Char) : Option PlainScalar :=
  match cs with
  | [] => some ⟨acc.reverse, gap.isBreaks, []⟩
  | c :: rest =>
    if isBreak c then
      readPlain inFlow indent acc (gap.addBreak c) 0 rest
    else if isBlank c then
      if gap.isBreaks && c == '\t' && column < indent then
        none
      else
        readPlain inFlow indent acc (gap.addBlank c) (column + 1) rest
    else if (gap.isBreaks && !inFlow && column < indent)
        || (column == 0 && startsDocumentMark cs)
        || (c == '#' && (acc.isEmpty || !gap matches .none))
        || (c == ':' && endsWord rest)
        || (inFlow && [',', '[', ']', '\x7b', '\x7d'].contains c) then
      some ⟨acc.reverse, gap.isBreaks, cs⟩
    else if inFlow && c == ':'
        && [',', '?', '[', ']', '\x7b', '\x7d'].contains (rest.headD ' ') then
      none
    else
      readPlain inFlow indent (c :: (gap.fold ++ acc)) .none (column + 1) rest

inductive Chomp where
  | strip
  | clip
  | keep
deriving DecidableEq, Repr

structure BlockHeader where
  chomp : Chomp
  increment : Option Nat

def readBlockHeader (cs : List Char) : Option (BlockHeader × List Char) :=
  let sign : List Char → Option Chomp × List Char
    | '+' :: cs => (some .keep, cs)
    | '-' :: cs => (some .strip, cs)
    | cs => (none, cs)
  let (first, cs) := sign cs
  let digit := cs.head?.filter Char.isDigit
  let cs := if digit.isSome then cs.drop 1 else cs
  let (second, cs) := if first.isNone && digit.isSome then sign cs else (none, cs)
  let cs := cs.dropWhile isBlank
  let cs := if cs.head? == some '#' then cs.dropWhile (!isBreak ·) else cs
  if digit == some '0' then
    none
  else
    let header : BlockHeader :=
      ⟨(first <|> second).getD .clip, digit.map fun d => d.toNat - '0'.toNat⟩
    match cs with
    | [] => some (header, [])
    | c :: cs => if isBreak c then some (header, cs) else none

def splitLines : List Char → List (List Char)
  | [] => []
  | c :: cs =>
    if isBreak c then
      [c] :: splitLines cs
    else
      match splitLines cs with
      | [] => [[c]]
      | line :: lines => (c :: line) :: lines

def leadingSpaces (line : List Char) : Nat :=
  (line.takeWhile (· == ' ')).length

/--
The columns that the lines up to the first one with a text reach, or `none` where a tab stands in
their indentation.
-/
def detectIndent (reached : Nat) : List (List Char) → Option Nat
  | [] => some reached
  | line :: lines =>
    let n := leadingSpaces line
    match line.drop n with
    | '\t' :: _ => none
    | [] => detectIndent (max reached n) lines
    | c :: _ => if isBreak c then detectIndent (max reached n) lines else some (max reached n)

/--
The state of a block scalar between two lines: the text so far, the line break at the end of its last
line, the breaks of the blank lines after it, and whether that line started with a blank. All texts
are kept with the last character first.
-/
structure BlockText where
  text : List Char
  lineBreak : List Char
  blankLines : List Char
  blankStart : Bool

namespace BlockText

/--
Add a line. In a folded scalar a single line feed between two lines that start with no blank becomes
a space.
-/
def addLine (b : BlockText) (folded : Bool) (line : List Char) : BlockText :=
  let content := line.takeWhile (!isBreak ·)
  let blank := content.head?.any isBlank
  let joint :=
    if folded && b.lineBreak == ['\n'] && !b.blankStart && !blank then
      if b.blankLines.isEmpty then [' '] else b.blankLines
    else
      b.blankLines ++ b.lineBreak
  ⟨content.reverse ++ joint ++ b.text, line.dropWhile (!isBreak ·), [], blank⟩

def finish (b : BlockText) (chomp : Chomp) : List Char :=
  (match chomp with
  | .strip => b.text
  | .clip => b.lineBreak ++ b.text
  | .keep => b.blankLines ++ b.lineBreak ++ b.text).reverse

end BlockText

def readBlockLines (folded : Bool) (indent : Nat) (b : BlockText) :
    List (List Char) → Option (BlockText × List Char)
  | [] => some (b, [])
  | line :: lines =>
    let n := min indent (leadingSpaces line)
    match line.drop n with
    | [] => readBlockLines folded indent b lines
    | c :: cs =>
      if n < indent && c == '\t' then
        none
      else if isBreak c then
        readBlockLines folded indent { b with blankLines := c :: b.blankLines } lines
      else if n < indent then
        some (b, (c :: cs) ++ lines.flatten)
      else
        readBlockLines folded indent (b.addLine folded (c :: cs)) lines

def readBlock (folded : Bool) (parent : Int) (cs : List Char) :
    Option (List Char × List Char) :=
  match readBlockHeader cs with
  | none => none
  | some (header, cs) =>
    let lines := splitLines cs
    let indent? : Option Nat :=
      match header.increment with
      | some n => some (max parent 0 + n).toNat
      | none => (detectIndent 0 lines).map fun n => max n (max (parent + 1).toNat 1)
    match indent? with
    | none => none
    | some indent =>
      (readBlockLines folded indent ⟨[], [], [], false⟩ lines).map fun (b, rest) =>
        (b.finish header.chomp, rest)

end Embargo.Yaml
