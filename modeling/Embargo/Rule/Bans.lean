import Embargo.Collection.Table
import Embargo.Item.Identity
import Embargo.Rule.Options

namespace Embargo

abbrev ActionBans := Table Action Options

abbrev Bans := Table Identity ActionBans

structure Ban where
  item : Identity
  action : Action
  options : Options
deriving DecidableEq, Inhabited

namespace Bans

def options? (bans : Bans) (i : Identity) (a : Action) : Option Options :=
  (bans.get? i).bind (·.get? a)

def add (bans : Bans) (ban : Ban) : Bans :=
  bans.upsert ban.item fun actions =>
    (actions.getD ∅).upsert ban.action fun options =>
      options.elim ban.options (·.merge ban.options)

def addAll (bans : Bans) (more : List Ban) : Bans :=
  more.foldl add bans

def ofList (more : List Ban) : Bans :=
  addAll ∅ more

def toList (bans : Bans) : List Ban :=
  bans.entries.flatMap fun e => e.2.entries.map fun f => ⟨e.1, f.1, f.2⟩

@[simp]
theorem options?_empty (i : Identity) (a : Action) : options? ∅ i a = none := rfl

theorem options?_add (bans : Bans) (ban : Ban) (i : Identity) (a : Action) :
    (bans.add ban).options? i a =
      if ban.item = i ∧ ban.action = a then
        some ((bans.options? i a).elim ban.options (·.merge ban.options))
      else
        bans.options? i a := by
  unfold options? add
  by_cases hi : ban.item = i
  · subst hi
    cases h : bans.get? ban.item with
    | none => by_cases ha : ban.action = a <;> simp [h, ha]
    | some actions => by_cases ha : ban.action = a <;> simp [h, ha]
  · simp [hi]

theorem mem_toList {bans : Bans} {i : Identity} {a : Action} {o : Options} :
    ⟨i, a, o⟩ ∈ bans.toList ↔ bans.options? i a = some o := by
  unfold toList options?
  rw [List.mem_flatMap, Option.bind_eq_some_iff]
  constructor
  · rintro ⟨⟨j, actions⟩, hitem, hban⟩
    rw [List.mem_map] at hban
    obtain ⟨⟨b, p⟩, haction, hsame⟩ := hban
    cases hsame
    exact ⟨actions, Table.get?_eq_some_iff_mem.2 hitem, Table.get?_eq_some_iff_mem.2 haction⟩
  · rintro ⟨actions, hitem, haction⟩
    refine ⟨(i, actions), Table.get?_eq_some_iff_mem.1 hitem, ?_⟩
    exact List.mem_map.2 ⟨(a, o), Table.get?_eq_some_iff_mem.1 haction, rfl⟩

end Bans

end Embargo
