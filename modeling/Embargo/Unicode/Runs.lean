/-!
This module contains the storage of character properties. A property is kept as runs: the first
code point of each run with the value that holds from there up to the next run.
-/

namespace Embargo.Unicode

/--
A property of code points, as the starts of its runs in ascending order.
-/
structure Runs (α : Type) where
  starts : Array (Nat × α)

namespace Runs

variable {α : Type}

def find? (r : Runs α) (n : Nat) : Option α :=
  go 0 r.starts.size
where
  go (lo hi : Nat) : Option α :=
    if lo < hi then
      let mid := (lo + hi) / 2
      match r.starts[mid]? with
      | some (start, _) => if start ≤ n then go (mid + 1) hi else go lo mid
      | none => none
    else if lo = 0 then
      none
    else
      r.starts[lo - 1]?.map (·.2)
  termination_by hi - lo

def hexDigit (c : Char) : Nat :=
  if c.isDigit then c.toNat - '0'.toNat else c.toNat - 'A'.toNat + 10

def hexNumber (cs : List Char) : Nat :=
  cs.foldl (fun n c => n * 16 + hexDigit c) 0

def words (lines : List String) : List (List Char) :=
  lines.flatMap fun line => line.toList.splitOn ' '

def ofCodes (width : Nat) (value : String → α) (lines : List String) : Runs α :=
  ⟨((words lines).map fun w =>
    let n := w.length - width
    (hexNumber (w.take n), value (String.ofList (w.drop n)))).toArray⟩

def ofRanges (lines : List String) : Runs Bool :=
  ⟨((words lines).flatMap fun w =>
    let first := hexNumber (w.takeWhile (· != '-'))
    let last := if w.contains '-' then hexNumber ((w.dropWhile (· != '-')).drop 1) else first
    [(first, true), (last + 1, false)]).toArray⟩

def contains (r : Runs Bool) (c : Char) : Bool :=
  (r.find? c.toNat).getD false

end Runs

end Embargo.Unicode
