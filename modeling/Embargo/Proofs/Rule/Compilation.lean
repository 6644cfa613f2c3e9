import Embargo.Proofs.Item.Entries
import Embargo.Proofs.Rule.Blacklist
import Embargo.Proofs.Rule.Whitelists

/-!
This module contains what a compiled rule book consists of: the problems of its custom items and of its
rules, and the bans and whitelists that its rules come to in the scope of its custom items. Loading goes on
behind any problems in the same way, and no reader looks at those that there are already.
-/

namespace Embargo

namespace RuleSource

variable (source : RuleSource) (roster : Roster) (aliases : Aliases) (legacy : Bool) (engine : Engine)

def scope : Scope where
  roster := roster
  aliases := aliases
  legacy := legacy
  engine := engine
  catalogue := (source.catalogue { roster, aliases, legacy, engine }).value

theorem compile_eq :
    source.compile roster aliases legacy engine =
      source.bookAfter (source.scope roster aliases legacy engine)
        (source.catalogue { roster, aliases, legacy, engine }).problems := rfl

theorem bookAfter_eq (scope : Scope) (trail : Trail) :
    source.bookAfter scope trail =
      { source.bookAfter scope [] with problems := trail ++ (source.bookAfter scope []).problems } := by
  have hrun (before : Trail) :
      (source.rules scope).run before =
        ((source.rules scope).value, before ++ (source.rules scope).problems) :=
    (source.reports_rules scope).additive before
  unfold bookAfter
  rw [hrun trail, hrun []]
  rfl

theorem problems_bookAfter (scope : Scope) (trail : Trail) :
    (source.bookAfter scope trail).problems = trail ++ (source.rules scope).problems := by
  rw [bookAfter_eq]
  rfl

theorem problems_compile :
    (source.compile roster aliases legacy engine).problems =
      (source.catalogue { roster, aliases, legacy, engine }).problems
        ++ (source.rules (source.scope roster aliases legacy engine)).problems := by
  rw [compile_eq, problems_bookAfter]

theorem problems_rules (scope : Scope) :
    (source.rules scope).problems =
      (Compile.blacklist scope source).problems ++ (Compile.whitelists scope source).problems := by
  have hrest (blacklist : Table World Bans) :
      (Compile.whitelists scope source >>= fun whitelists =>
        (pure (blacklist, whitelists) : Load _)).Additive :=
    (Compile.additive_whitelists scope source).bind fun _ => Load.additive_pure _
  unfold rules
  rw [Load.problems_bind hrest, Load.problems_bind_pure]

theorem blacklist_compile :
    (source.compile roster aliases legacy engine).blacklist =
      (Compile.blacklist (source.scope roster aliases legacy engine) source).value := by
  rw [compile_eq, blacklist_bookAfter]

theorem whitelists_compile :
    (source.compile roster aliases legacy engine).whitelists =
      (Compile.whitelists (source.scope roster aliases legacy engine) source).value := by
  rw [compile_eq, whitelists_bookAfter]

theorem mem_problems_compile {e : LoadError}
    (h : e ∈ (Compile.blacklist (source.scope roster aliases legacy engine) source).problems
      ∨ e ∈ (Compile.whitelists (source.scope roster aliases legacy engine) source).problems) :
    e ∈ (source.compile roster aliases legacy engine).problems := by
  rw [problems_compile, problems_rules]
  exact List.mem_append_right _ (List.mem_append.2 h)

end RuleSource

/--
No reader of a configuration looks at the problems that there are already, although readers of levels and of
expressions that should have members look at whether problems are added.
-/
theorem Scope.additive_loading (scope : Scope) :
    (∀ {α : Type} [DecidableEq α] (d : Domain α) (path : Path) (e : Expression),
        (d.evaluate path e).Additive)
      ∧ (∀ kind path v, (Predicate.read scope kind path v).Additive)
      ∧ (∀ path entries, (Catalogue.read scope path entries).Additive)
      ∧ (∀ path v, (Options.read scope path v).Additive)
      ∧ ∀ (source : RuleSource) (trail : Trail),
          source.bookAfter scope trail =
            { source.bookAfter scope [] with
              problems := trail ++ (source.bookAfter scope []).problems } := by
  refine ⟨fun d path e => ?_, fun kind path v => ?_, fun path entries => ?_, fun path v => ?_,
    fun source trail => source.bookAfter_eq scope trail⟩
  · exact (d.reports_evaluate (p := (· = path)) rfl e).additive
  · exact (Predicate.reports_read scope (p := (· = path)) rfl kind v).additive
  · exact Catalogue.additive_read scope path entries
  · exact Options.additive_read scope path v

end Embargo
