import Embargo.Proofs.Load.Readers

/-!
This module contains the flat reading of the whitelists: the list of what their sections say, in the
order of the document, and what that list comes to for a world.
-/

namespace Embargo

open Yaml (Value)

inductive Clause where
  | message (text : String)
  | ignored (actions : OrderedSet Action)
  | item (items : OrderedSet Identity) (actions : OrderedSet Action)

namespace Clause

def message? : Clause → Option String
  | message text => some text
  | _ => none

def Ignores (a : Action) : Clause → Prop
  | ignored actions => a ∈ actions
  | _ => False

def Allows (i : Identity) (a : Action) : Clause → Prop
  | item items actions => i ∈ items ∧ a ∈ actions
  | _ => False

end Clause

/--
A whitelist ignores and allows what any of some clauses does, and its message is the last of theirs.
-/
structure Whitelist.Reflects (w : Whitelist) (clauses : List Clause) : Prop where
  allows (i : Identity) (a : Action) : w.allows i a ↔ ∃ c ∈ clauses, c.Allows i a
  ignores (a : Action) : w.ignores a ↔ ∃ c ∈ clauses, c.Ignores a
  message : w.message = (clauses.filterMap Clause.message?).getLast?

theorem Whitelist.reflects_empty : ({} : Whitelist).Reflects [] where
  allows i a := by simp [allows]
  ignores a := by simp [ignores]
  message := rfl

structure Listing where
  worlds : OrderedSet World
  clauses : List Clause

namespace Listing

def clausesFor (ls : List Listing) (w : World) : List Clause :=
  (ls.filter fun l => w ∈ l.worlds).flatMap clauses

/--
What some listings make the whitelist of a world. There is none if none of them is about the world.
-/
def Determines (ls : List Listing) (w : World) : Option Whitelist → Prop
  | some list => (∃ l ∈ ls, w ∈ l.worlds) ∧ list.Reflects (clausesFor ls w)
  | none => ∀ l ∈ ls, w ∉ l.worlds

end Listing

namespace Compile

variable (scope : Scope)

def readClause? (path : Path) (key : String) (v : Value) : Option Clause :=
  match WhitelistField.ofText key with
  | .message => v.messageLines?.map fun lines => .message ("\n".intercalate lines)
  | .ignored => (Expression.ofValue? v).map fun e =>
    .ignored (scope.actions.evaluate (path.push key) e).value
  | .item => (Expression.ofValue? v).map fun e =>
    .item (scope.items.evaluate (path.push key) (.text key)).value
      (scope.actions.evaluate (path.push key) e).value

/--
The clauses of a section. A section that is no mapping has none, but is about its worlds all the same.
-/
def readClauses (path : Path) : Value → List Clause
  | .mapping entries => (Value.textEntries entries).filterMap fun f => readClause? scope path f.1 f.2
  | _ => []

def readListing (path : Path) (key : String) (v : Value) : Listing where
  worlds := ((scope.keys .world).evaluate (path.push key) (.text key)).value
  clauses := readClauses scope (path.push key) v

def readListings (source : RuleSource) : List Listing :=
  source.whitelist.entries.map fun s => readListing scope (Path.root.push "whitelist") s.1 s.2

end Compile

end Embargo
