import Embargo.Proofs.Load.Readers

/-!
This module contains the flat reading of a blacklist: the list of what its entries contribute, in the
order of the document, and what that list says about an action of an item in a world.
-/

namespace Embargo

open Yaml (Value)

structure Contribution where
  worlds : OrderedSet World
  items : OrderedSet Identity
  actions : OrderedSet Action
  options : Options

namespace Contribution

def covers (c : Contribution) (w : World) (i : Identity) (a : Action) : Bool :=
  w ∈ c.worlds ∧ i ∈ c.items ∧ a ∈ c.actions

def optionsFor (cs : List Contribution) (w : World) (i : Identity) (a : Action) : List Options :=
  (cs.filter (·.covers w i a)).map options

def merged? (cs : List Contribution) (w : World) (i : Identity) (a : Action) : Option Options :=
  if (optionsFor cs w i a).isEmpty then none
  else some ((optionsFor cs w i a).foldl Options.merge {})

theorem optionsFor_append (cs ds : List Contribution) (w : World) (i : Identity) (a : Action) :
    optionsFor (cs ++ ds) w i a = optionsFor cs w i a ++ optionsFor ds w i a := by
  unfold optionsFor
  rw [List.filter_append, List.map_append]

end Contribution

structure ActionRule where
  actions : OrderedSet Action
  options : Options

structure ItemRule where
  items : OrderedSet Identity
  rules : List ActionRule

structure SectionRule where
  worlds : OrderedSet World
  items : List ItemRule

def SectionRule.contributions (s : SectionRule) : List Contribution :=
  s.items.flatMap fun r => r.rules.map fun q =>
    { worlds := s.worlds, items := r.items, actions := q.actions, options := q.options }

namespace Compile

variable (scope : Scope)

def readActions (path : Path) (v : Value) : List ActionRule :=
  match Expression.ofValue? v with
  | some e => [⟨(scope.actions.evaluate path e).value, {}⟩]
  | none =>
    match v with
    | .mapping entries => (Value.textEntries entries).map fun f =>
      { actions := (scope.actions.evaluate (path.push f.1) (.text f.1)).value
        options := (Options.read scope (path.push f.1) f.2).value }
    | _ => []

def readItem (path : Path) (key : String) (v : Value) : ItemRule where
  items := (scope.items.evaluate (path.push key) (.text key)).value
  rules := readActions scope (path.push key) v

def readSection? (path : Path) (key : String) : Value → Option SectionRule
  | .mapping entries => some
    { worlds := ((scope.keys .world).evaluate (path.push key) (.text key)).value
      items := (Value.textEntries entries).map fun f => readItem scope (path.push key) f.1 f.2 }
  | _ => none

def readSections (source : RuleSource) : List SectionRule :=
  source.blacklist.entries.filterMap fun s =>
    readSection? scope (Path.root.push "blacklist") s.1 s.2

def contributions (source : RuleSource) : List Contribution :=
  (readSections scope source).flatMap SectionRule.contributions

end Compile

def ItemRule.actions (r : ItemRule) : List (Action × Options) :=
  r.rules.flatMap fun q => q.actions.toList.map (·, q.options)

def ItemRule.bans (r : ItemRule) : List Ban :=
  r.items.toList.flatMap fun i => r.actions.map fun a => ⟨i, a.1, a.2⟩

def SectionRule.bans (s : SectionRule) : List Ban :=
  s.items.flatMap ItemRule.bans

namespace Compile

open Load (additive_pure value_bind value_bind_pure)

variable (scope : Scope)

theorem value_actionEntry (path : Path) (key : String) (v : Value) :
    (actionEntry scope path key v).value =
      (scope.actions.evaluate (path.push key) (.text key)).value.toList.map
        (·, (Options.read scope (path.push key) v).value) := by
  have hrest (actions : OrderedSet Action) :
      (Options.read scope (path.push key) v >>= fun o =>
        (pure (actions.toList.map (·, o)) : Load (List (Action × Options)))).Additive :=
    (Options.additive_read scope (path.push key) v).bind fun o => additive_pure _
  unfold actionEntry
  rw [value_bind, value_members]
  · split
    · next hempty =>
      rw [List.isEmpty_iff.1 hempty]
      rfl
    · rw [value_bind_pure]
  · intro actions
    split
    · apply additive_pure
    · exact hrest actions

theorem value_itemActions (path : Path) (key : String) (v : Value) :
    (itemActions scope path key v).value =
      (readActions scope path v).flatMap fun q => q.actions.toList.map (·, q.options) := by
  unfold itemActions readActions
  cases Expression.ofValue? v with
  | some e =>
    dsimp only
    rw [value_bind_pure, value_members, List.flatMap_singleton]
  | none =>
    dsimp only
    cases v with
    | mapping entries =>
      have hadditive (f : String × Value) : (actionEntry scope path f.1 f.2).Additive :=
        additive_actionEntry scope path f.1 f.2
      rw [mappingEntries, pure_bind]
      dsimp only
      rw [value_bind_pure, Load.value_mapM hadditive, List.flatMap_map,
        List.flatMap_def]
      simp only [value_actionEntry]
    | _ => rfl

theorem value_itemBans (path : Path) (key : String) (v : Value) :
    (itemBans scope path key v).value = (readItem scope path key v).bans := by
  unfold itemBans
  rw [value_bind, value_bind_pure, value_members, value_itemActions]
  · rfl
  · intro items
    exact (additive_itemActions scope _ key v).bind fun actions => additive_pure _

theorem value_blacklistSection (path : Path) (t : Table World Bans) (key : String) (v : Value) :
    (blacklistSection scope path t key v).value =
      (readSection? scope path key v).elim t fun s => banIn t s.worlds.toList (.ofList s.bans) := by
  have hitem (f : String × Value) : (itemBans scope (path.push key) f.1 f.2).Additive :=
    additive_itemBans scope (path.push key) f.1 f.2
  unfold blacklistSection
  rw [value_bind, value_members]
  · cases v with
    | mapping entries =>
      rw [mappingEntries, pure_bind]
      dsimp only
      rw [value_bind_pure, Load.value_mapM hitem]
      simp only [value_itemBans, readSection?, Option.elim_some, SectionRule.bans,
        List.flatMap_def, List.map_map, Function.comp_def]
    | _ => rfl
  · intro worlds
    refine (additive_mappingEntries (path.push key) key v).bind fun entries => ?_
    split
    · exact (Load.additive_mapM hitem _).bind fun parts => additive_pure _
    · apply additive_pure

theorem value_blacklist (source : RuleSource) :
    (blacklist scope source).value =
      (readSections scope source).foldl
        (fun t s => banIn t s.worlds.toList (.ofList s.bans)) ∅ := by
  have hsection (t : Table World Bans) (s : String × Value) :
      (blacklistSection scope (Path.root.push "blacklist") t s.1 s.2).Additive :=
    additive_blacklistSection scope (Path.root.push "blacklist") t s.1 s.2
  unfold blacklist readSections
  rw [Load.value_foldlM hsection, List.foldl_filterMap]
  congr 1
  funext t s
  rw [value_blacklistSection]
  cases readSection? scope (Path.root.push "blacklist") s.1 s.2 <;> rfl

end Compile

end Embargo
