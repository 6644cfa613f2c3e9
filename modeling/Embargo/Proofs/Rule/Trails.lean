import Embargo.Proofs.Expression.Denoted
import Embargo.Proofs.Rule.Compilation

/-!
This module contains the trails that the rules of a configuration leave, entry by entry in the order of
the document.
-/

namespace Embargo

open Load (additive_pure problems_bind problems_bind_pure)
open Yaml (Value)

namespace Compile

section Members

variable {α : Type} [DecidableEq α] (d : Domain α)

theorem additive_members (path : Path) (e : Expression) : (members d path e).Additive :=
  (reports_members d (path.into_self .null) e).additive

theorem problems_members (path : Path) (e : Expression) :
    (members d path e).problems = (d.evaluate path e).problems ++
      if (d.denoted e).isEmpty && (d.evaluate path e).problems.isEmpty then
        [⟨path, .emptyExpression e.display⟩]
      else
        [] := by
  unfold members
  rw [problems_bind, Load.value_watch, Load.problems_watch, d.value_evaluate]
  · dsimp only
    rw [Bool.not_not]
    split
    · rfl
    · rfl
  · intro set
    dsimp only
    split
    · exact (Load.additive_report _ _).bind fun _ => additive_pure _
    · apply additive_pure

theorem mem_denoted_or_reported (path : Path) (e : Expression) :
    (∃ a, a ∈ d.denoted e) ∨ ∃ p ∈ (members d path e).problems, p.path = path := by
  rw [problems_members]
  cases hset : (d.denoted e).toList with
  | cons a as => exact .inl ⟨a, OrderedSet.mem_toList.1 (hset ▸ List.mem_cons_self)⟩
  | nil =>
    right
    have hplaces : (d.evaluate path e).Reports (· = path) := d.reports_evaluate (p := (· = path)) rfl e
    cases hproblems : (d.evaluate path e).problems with
    | cons p ps =>
      have hp : p ∈ (d.evaluate path e).problems := hproblems ▸ List.mem_cons_self
      exact ⟨p, List.mem_append_left _ List.mem_cons_self, hplaces.places p hp⟩
    | nil =>
      -- what is empty without a problem is a problem itself
      simp [OrderedSet.isEmpty, hset]

end Members

variable (scope : Scope)

theorem problems_actionEntry (path : Path) (key : String) (v : Value) :
    (actionEntry scope path key v).problems =
      (members scope.actions (path.push key) (.text key)).problems ++
        if (scope.actions.denoted (.text key)).isEmpty then []
        else (Options.read scope (path.push key) v).problems := by
  have hrest (actions : OrderedSet Action) :
      (Options.read scope (path.push key) v >>= fun o =>
        (pure (actions.toList.map (·, o)) : Load (List (Action × Options)))).Additive :=
    (Options.additive_read scope (path.push key) v).bind fun o => additive_pure _
  unfold actionEntry
  rw [problems_bind, value_members, Domain.value_evaluate]
  · split
    · rfl
    · rw [problems_bind_pure]
  · intro actions
    split
    · apply additive_pure
    · exact hrest actions

theorem problems_itemActions_of_expression (path : Path) (key : String) {v : Value} {e : Expression}
    (he : Expression.ofValue? v = some e) :
    (itemActions scope path key v).problems = (members scope.actions path e).problems := by
  unfold itemActions
  rw [he]
  dsimp only
  rw [problems_bind_pure]

theorem problems_itemActions_of_mapping (path : Path) (key : String) (entries : List (Value × Value)) :
    (itemActions scope path key (.mapping entries)).problems =
      (Value.textEntries entries).flatMap fun f => (actionEntry scope path f.1 f.2).problems := by
  have hadditive (f : String × Value) : (actionEntry scope path f.1 f.2).Additive :=
    additive_actionEntry scope path f.1 f.2
  unfold itemActions
  rw [Expression.ofValue?]
  dsimp only
  rw [mappingEntries, pure_bind]
  dsimp only
  rw [problems_bind_pure, Load.problems_mapM hadditive]

theorem problems_itemBans (path : Path) (key : String) (v : Value) :
    (itemBans scope path key v).problems =
      (members scope.items (path.push key) (.text key)).problems ++
        (itemActions scope (path.push key) key v).problems := by
  unfold itemBans
  rw [problems_bind, problems_bind_pure]
  intro items
  exact (additive_itemActions scope _ key v).bind fun actions => additive_pure _

theorem problems_blacklistSection (path : Path) (t : Table World Bans) (key : String) (v : Value) :
    (blacklistSection scope path t key v).problems =
      (members (scope.keys .world) (path.push key) (.text key)).problems ++
        ((mappingEntries (path.push key) key v).problems ++
          (Value.textEntries ((mappingEntries (path.push key) key v).value.getD [])).flatMap fun f =>
            (itemBans scope (path.push key) f.1 f.2).problems) := by
  have hitem (f : String × Value) : (itemBans scope (path.push key) f.1 f.2).Additive :=
    additive_itemBans scope (path.push key) f.1 f.2
  have hparts (entries : List (Value × Value)) (put : List (List Ban) → Table World Bans) :
      ((Value.textEntries entries).mapM (fun f => itemBans scope (path.push key) f.1 f.2) >>= fun parts =>
        pure (put parts)).Additive :=
    (Load.additive_mapM hitem _).bind fun parts => additive_pure _
  unfold blacklistSection
  dsimp only
  rw [problems_bind, problems_bind]
  · cases (mappingEntries (path.push key) key v).value with
    | none => rfl
    | some entries =>
      dsimp only
      rw [problems_bind_pure, Load.problems_mapM hitem]
      rfl
  · intro entries
    split
    · exact hparts _ fun parts => banIn t _ (.ofList parts.flatten)
    · apply additive_pure
  · intro worlds
    refine (additive_mappingEntries (path.push key) key v).bind fun entries => ?_
    split
    · exact hparts _ fun parts => banIn t _ (.ofList parts.flatten)
    · apply additive_pure

theorem problems_blacklist (source : RuleSource) :
    (blacklist scope source).problems = source.blacklist.entries.flatMap fun s =>
      (blacklistSection scope (Path.root.push "blacklist") ∅ s.1 s.2).problems := by
  have hadditive (t : Table World Bans) (s : String × Value) :
      (blacklistSection scope (Path.root.push "blacklist") t s.1 s.2).Additive :=
    additive_blacklistSection scope (Path.root.push "blacklist") t s.1 s.2
  unfold blacklist
  rw [Load.problems_foldlM hadditive]
  intro t s
  rw [problems_blacklistSection, problems_blacklistSection]

theorem problems_allowEntry (path : Path) (w : Whitelist) (key : String) (v : Value) :
    (allowEntry scope path w key v).problems =
      (members scope.items path (.text key)).problems ++
        match Expression.ofValue? v with
        | some e => (members scope.actions path e).problems
        | none => [⟨path, .invalidPayload key .actionExpression⟩] := by
  unfold allowEntry
  cases Expression.ofValue? v with
  | some e =>
    dsimp only
    rw [problems_bind, problems_bind_pure]
    intro items
    exact (additive_members _ _ _).bind fun actions => additive_pure _
  | none =>
    dsimp only
    rw [problems_bind]
    · rfl
    · intro items
      exact (Load.additive_report _ _).bind fun _ => additive_pure _

theorem problems_whitelistEntry (path : Path) (w u : Whitelist) (key : String) (v : Value) :
    (whitelistEntry scope path w key v).problems = (whitelistEntry scope path u key v).problems := by
  unfold whitelistEntry
  dsimp only
  cases WhitelistField.ofText key with
  | message =>
    dsimp only
    cases v.messageLines? <;> rfl
  | ignored =>
    dsimp only
    cases Expression.ofValue? v with
    | none => rfl
    | some e =>
      dsimp only
      rw [problems_bind_pure, problems_bind_pure]
  | item =>
    dsimp only
    rw [problems_allowEntry, problems_allowEntry]

theorem problems_whitelistEntry_of_item (path : Path) (w : Whitelist) {key : String} (v : Value)
    (hfield : WhitelistField.ofText key = .item) :
    (whitelistEntry scope path w key v).problems =
      (allowEntry scope (path.push key) w key v).problems := by
  unfold whitelistEntry
  rw [hfield]

theorem problems_whitelistSection (path : Path) (t : Table World Whitelist) (key : String)
    (v : Value) :
    (whitelistSection scope path t key v).problems =
      (members (scope.keys .world) (path.push key) (.text key)).problems ++
        ((mappingEntries (path.push key) key v).problems ++
          (Value.textEntries ((mappingEntries (path.push key) key v).value.getD [])).flatMap fun f =>
            (whitelistEntry scope (path.push key) {} f.1 f.2).problems) := by
  have hentry (w : Whitelist) (f : String × Value) :
      (whitelistEntry scope (path.push key) w f.1 f.2).Additive :=
    additive_whitelistEntry scope (path.push key) w f.1 f.2
  have hlist (worlds : OrderedSet World) (entries : List (String × Value)) :
      (entries.foldlM (fun w f => whitelistEntry scope (path.push key) w f.1 f.2) {} >>= fun w =>
        pure (listIn t worlds.toList w)).Additive :=
    (Load.additive_foldlM hentry _ _).bind fun _ => additive_pure _
  unfold whitelistSection
  dsimp only
  rw [problems_bind, problems_bind fun entries => hlist _ _, problems_bind_pure,
    Load.problems_foldlM hentry]
  · intro w f
    apply problems_whitelistEntry
  · intro worlds
    exact (additive_mappingEntries _ key v).bind fun entries => hlist worlds _

theorem problems_whitelists (source : RuleSource) :
    (whitelists scope source).problems = source.whitelist.entries.flatMap fun s =>
      (whitelistSection scope (Path.root.push "whitelist") ∅ s.1 s.2).problems := by
  have hadditive (t : Table World Whitelist) (s : String × Value) :
      (whitelistSection scope (Path.root.push "whitelist") t s.1 s.2).Additive :=
    additive_whitelistSection scope (Path.root.push "whitelist") t s.1 s.2
  unfold whitelists
  rw [Load.problems_foldlM hadditive]
  intro t s
  rw [problems_whitelistSection, problems_whitelistSection]

end Compile

end Embargo
