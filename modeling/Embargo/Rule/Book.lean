import Embargo.Item.Catalogue
import Embargo.Problem
import Embargo.Registry
import Embargo.Rule.Bans
import Embargo.Rule.Whitelist

namespace Embargo

structure RuleBook where
  blacklist : Table World Bans
  whitelists : Table World Whitelist
  catalogue : Catalogue
  roster : Roster
  legacy : Bool
  problems : Trail
deriving Inhabited

namespace RuleBook

def actionBans? (book : RuleBook) (w : World) (i : Identity) : Option ActionBans :=
  (book.blacklist.get? w).bind (·.get? i)

def options? (book : RuleBook) (w : World) (i : Identity) (a : Action) : Option Options :=
  (book.actionBans? w i).bind (·.get? a)

def whitelist? (book : RuleBook) (w : World) : Option Whitelist :=
  book.whitelists.get? w

def worlds (book : RuleBook) : OrderedSet World :=
  .ofList (book.blacklist.keys ++ book.whitelists.keys)

def bans (book : RuleBook) : List Ban :=
  book.blacklist.values.flatMap Bans.toList

def banCount (book : RuleBook) : Nat :=
  book.bans.length

def longestCooldown? (book : RuleBook) : Option Nat :=
  (book.bans.filterMap (·.options.cooldown)).max?

theorem mem_bans {book : RuleBook} {w : World} {i : Identity} {a : Action} {o : Options}
    (h : book.options? w i a = some o) : ⟨i, a, o⟩ ∈ book.bans := by
  unfold options? actionBans? at h
  rw [Option.bind_assoc, Option.bind_eq_some_iff] at h
  obtain ⟨bans, hworld, hban⟩ := h
  have hentry : (w, bans) ∈ book.blacklist.entries := Table.get?_eq_some_iff_mem.1 hworld
  have hbans : bans ∈ book.blacklist.values := List.mem_map.2 ⟨(w, bans), hentry, rfl⟩
  exact List.mem_flatMap.2 ⟨bans, hbans, Bans.mem_toList.2 hban⟩

theorem le_longestCooldown {book : RuleBook} {w : World} {i : Identity} {a : Action} {o : Options}
    {length : Nat} (h : book.options? w i a = some o) (hcooldown : o.cooldown = some length) :
    length ≤ book.longestCooldown?.getD 0 := by
  have hmem : length ∈ book.bans.filterMap (·.options.cooldown) :=
    List.mem_filterMap.2 ⟨⟨i, a, o⟩, mem_bans h, hcooldown⟩
  unfold longestCooldown?
  cases hlongest : (book.bans.filterMap (·.options.cooldown)).max? with
  | none =>
    rw [List.max?_eq_none_iff] at hlongest
    rw [hlongest] at hmem
    cases hmem
  | some longest => exact (List.max?_le_iff hlongest).1 (Nat.le_refl _) length hmem

/--
The identity of a stack: the first custom item that it is one of, or else its material.
-/
def identify (book : RuleBook) (s : Stack) : Identity :=
  match book.catalogue.find? s with
  | some e => e.2
  | none => .ofStack s book.legacy

def itemName (book : RuleBook) (i : Identity) : String :=
  book.catalogue.displayName i

end RuleBook

end Embargo
