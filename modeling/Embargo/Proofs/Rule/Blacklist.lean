import Embargo.Proofs.Rule.Layers
import Embargo.Proofs.Rule.Reading

/-!
This module contains the proof that a compiled blacklist says what its flat reading says. The
compilation merges within a section first and goes through sets of worlds, items and actions on its
way, whose order is of no account.
-/

namespace Embargo

namespace Compile

inductive ListsActions : List ActionRule → List (Action × Options) → Prop
  | nil : ListsActions [] []
  | cons {q : ActionRule} {rules : List ActionRule} {as : List Action} {l : List (Action × Options)}
      (perm : as.Perm q.actions.toList) (rest : ListsActions rules l) :
      ListsActions (q :: rules) (as.map (·, q.options) ++ l)

inductive ListsBans : List ItemRule → List Ban → Prop
  | nil : ListsBans [] []
  | cons {r : ItemRule} {items : List ItemRule} {is : List Identity} {as : List (Action × Options)}
      {l : List Ban} (perm : is.Perm r.items.toList) (actions : ListsActions r.rules as)
      (rest : ListsBans items l) :
      ListsBans (r :: items) ((is.flatMap fun i => as.map fun a => ⟨i, a.1, a.2⟩) ++ l)

inductive AddsIn (bans : Bans) : List World → Table World Bans → Table World Bans → Prop
  | nil {t : Table World Bans} : AddsIn bans [] t t
  | cons {w : World} {ws : List World} {t after : Table World Bans} {l : List Ban}
      (perm : l.Perm bans.toList)
      (rest : AddsIn bans ws (t.upsert w fun old => (old.getD ∅).addAll l) after) :
      AddsIn bans (w :: ws) t after

/--
`after` is a blacklist that some sections can be compiled to on top of `t`. Sets and tables are gone
through in any order, and in another one each time.
-/
inductive Compiles : List SectionRule → Table World Bans → Table World Bans → Prop
  | nil {t : Table World Bans} : Compiles [] t t
  | cons {s : SectionRule} {sections : List SectionRule} {ws : List World} {bans : List Ban}
      {t mid after : Table World Bans} (perm : ws.Perm s.worlds.toList)
      (lists : ListsBans s.items bans) (adds : AddsIn (.ofList bans) ws t mid)
      (rest : Compiles sections mid after) :
      Compiles (s :: sections) t after

theorem listsActions_rules (rules : List ActionRule) :
    ListsActions rules (rules.flatMap fun q => q.actions.toList.map (·, q.options)) := by
  induction rules with
  | nil => exact .nil
  | cons q rules ih => exact .cons (.refl _) ih

theorem listsBans_items (items : List ItemRule) : ListsBans items (items.flatMap ItemRule.bans) := by
  induction items with
  | nil => exact .nil
  | cons r items ih => exact .cons (.refl _) (listsActions_rules r.rules) ih

theorem addsIn_banIn (bans : Bans) (ws : List World) (t : Table World Bans) :
    AddsIn bans ws t (banIn t ws bans) := by
  induction ws generalizing t with
  | nil => exact .nil
  | cons w ws ih => exact .cons (.refl _) (ih _)

theorem compiles_blacklist (scope : Scope) (source : RuleSource) :
    Compiles (readSections scope source) ∅ (blacklist scope source).value := by
  have hfold (sections : List SectionRule) (t : Table World Bans) :
      Compiles sections t
        (sections.foldl (fun t s => banIn t s.worlds.toList (.ofList s.bans)) t) := by
    induction sections generalizing t with
    | nil => exact .nil
    | cons s sections ih =>
      exact .cons (.refl _) (listsBans_items s.items) (addsIn_banIn _ _ _) (ih _)
  rw [value_blacklist]
  apply hfold

theorem ListsActions.options {rules : List ActionRule} {l : List (Action × Options)}
    (h : ListsActions rules l) (a : Action) :
    (l.filter fun p => p.1 = a).map Prod.snd =
      (rules.filter fun q => a ∈ q.actions).map ActionRule.options := by
  induction h with
  | nil => rfl
  | @cons q rules as l perm rest ih =>
    have hblock : ((as.map (·, q.options)).filter fun p => p.1 = a).map Prod.snd =
        if a ∈ q.actions then [q.options] else [] := by
      rw [← OrderedSet.flatMap_eq_of_perm perm]
      clear perm
      induction as with
      | nil => rfl
      | cons b as ih => by_cases hb : b = a <;> simpa [hb] using ih
    rw [List.filter_append, List.map_append, hblock, ih]
    by_cases ha : a ∈ q.actions
    · rw [if_pos ha, List.filter_cons_of_pos (by simpa using ha)]
      rfl
    · rw [if_neg ha, List.filter_cons_of_neg (by simpa using ha)]
      rfl

theorem optionsOf_block {r : ItemRule} {is : List Identity} {as : List (Action × Options)}
    (perm : is.Perm r.items.toList) (actions : ListsActions r.rules as) (i : Identity) (a : Action) :
    Bans.optionsOf (is.flatMap fun j => as.map fun b => ⟨j, b.1, b.2⟩) i a =
      if i ∈ r.items then (r.rules.filter fun q => a ∈ q.actions).map ActionRule.options else [] := by
  have hitem (j : Identity) : Bans.optionsOf (as.map fun b => ⟨j, b.1, b.2⟩) i a =
      if j = i then (as.filter fun p => p.1 = a).map Prod.snd else [] := by
    unfold Bans.optionsOf
    rw [List.filter_map, List.map_map]
    by_cases hj : j = i
    · simp only [Function.comp_def, hj, true_and, if_true]
    · simp [Function.comp_def, hj]
  rw [Bans.optionsOf_flatMap]
  simp only [hitem]
  rw [OrderedSet.flatMap_eq_of_perm perm, actions.options]

theorem optionsFor_block {worlds : OrderedSet World} {w : World} (hw : w ∈ worlds) (r : ItemRule)
    (i : Identity) (a : Action) :
    Contribution.optionsFor (r.rules.map fun q =>
        { worlds, items := r.items, actions := q.actions, options := q.options }) w i a =
      if i ∈ r.items then (r.rules.filter fun q => a ∈ q.actions).map ActionRule.options else [] := by
  unfold Contribution.optionsFor Contribution.covers
  rw [List.filter_map, List.map_map]
  by_cases hi : i ∈ r.items
  · simp only [Function.comp_def, hw, hi, true_and, if_true]
  · simp [Function.comp_def, hi]

theorem ListsBans.optionsOf {worlds : OrderedSet World} {items : List ItemRule} {l : List Ban}
    (h : ListsBans items l) {w : World} (hw : w ∈ worlds) (i : Identity) (a : Action) :
    Bans.optionsOf l i a =
      Contribution.optionsFor (SectionRule.contributions ⟨worlds, items⟩) w i a := by
  unfold SectionRule.contributions
  induction h with
  | nil => rfl
  | cons perm actions rest ih =>
    rw [Bans.optionsOf_append, optionsOf_block perm actions, ih, List.flatMap_cons,
      Contribution.optionsFor_append, optionsFor_block hw]

theorem optionsFor_of_not_mem {s : SectionRule} {w : World} (hw : w ∉ s.worlds) (i : Identity)
    (a : Action) : Contribution.optionsFor s.contributions w i a = [] := by
  unfold Contribution.optionsFor
  rw [List.map_eq_nil_iff, List.filter_eq_nil_iff]
  intro c hc
  obtain ⟨r, -, hr⟩ := List.mem_flatMap.1 hc
  obtain ⟨q, -, rfl⟩ := List.mem_map.1 hr
  simp [Contribution.covers, hw]

def options? (t : Table World Bans) (w : World) (i : Identity) (a : Action) : Option Options :=
  (t.get? w).bind (·.options? i a)

theorem options?_upsert (t : Table World Bans) (v w : World) (l : List Ban) (i : Identity)
    (a : Action) :
    options? (t.upsert v fun old => (old.getD ∅).addAll l) w i a =
      if v = w then Options.layer (options? t w i a) (Bans.optionsOf l i a) else options? t w i a := by
  unfold options?
  rw [Table.get?_upsert]
  by_cases hv : v = w
  · rw [if_pos hv, if_pos hv, Option.bind_some, Bans.options?_addAll]
    cases t.get? w <;> rfl
  · rw [if_neg hv, if_neg hv]

theorem AddsIn.options? {bans : Bans} {ws : List World} {t after : Table World Bans}
    (h : AddsIn bans ws t after) (hnodup : ws.Nodup) (w : World) (i : Identity) (a : Action) :
    Compile.options? after w i a =
      if w ∈ ws then
        Options.layer (Compile.options? t w i a) (bans.options? i a).toList
      else
        Compile.options? t w i a := by
  induction h with
  | nil => rfl
  | @cons v ws t after l perm rest ih =>
    rw [List.nodup_cons] at hnodup
    rw [ih hnodup.2, options?_upsert, Bans.optionsOf_of_perm perm]
    by_cases hv : v = w
    · -- a world is in a set once, so nothing is added to it again
      subst hv
      rw [if_neg hnodup.1, if_pos rfl, if_pos List.mem_cons_self]
    · have hiff : w ∈ v :: ws ↔ w ∈ ws := by
        rw [List.mem_cons]
        exact or_iff_right fun hw => hv hw.symm
      simp only [hv, hiff, if_false]

theorem Compiles.options? {sections : List SectionRule} {t after : Table World Bans}
    (h : Compiles sections t after) (w : World) (i : Identity) (a : Action) :
    Compile.options? after w i a =
      Options.layer (Compile.options? t w i a)
        (Contribution.optionsFor (sections.flatMap SectionRule.contributions) w i a) := by
  induction h with
  | nil => rfl
  | @cons s sections ws bans t mid after perm lists adds rest ih =>
    have hnodup : ws.Nodup := perm.nodup_iff.2 s.worlds.nodup
    rw [ih, List.flatMap_cons, Contribution.optionsFor_append, Options.layer_append]
    congr 1
    -- the section was merged on its own before it was added to each of its worlds
    rw [adds.options? hnodup]
    by_cases hw : w ∈ s.worlds
    · rw [if_pos (perm.mem_iff.2 hw), Bans.options?_ofList, lists.optionsOf hw,
        Options.layer_toList_layer]
    · rw [if_neg fun hmem => hw (perm.mem_iff.1 hmem), optionsFor_of_not_mem hw, Options.layer_nil]

theorem merged?_eq_layer (cs : List Contribution) (w : World) (i : Identity) (a : Action) :
    Contribution.merged? cs w i a = Options.layer none (Contribution.optionsFor cs w i a) := by
  unfold Contribution.merged?
  cases Contribution.optionsFor cs w i a with
  | nil => rfl
  | cons o os => rw [Options.layer_cons, List.foldl_cons, Options.empty_merge]; rfl

end Compile

namespace RuleSource

theorem blacklist_bookAfter (source : RuleSource) (scope : Scope) (trail : Trail) :
    (source.bookAfter scope trail).blacklist = (Compile.blacklist scope source).value := by
  have hrun := Compile.additive_blacklist scope source trail
  unfold bookAfter rules
  rw [Load.run_bind, hrun]
  rfl

theorem options?_bookAfter (source : RuleSource) (scope : Scope) (trail : Trail) (w : World)
    (i : Identity) (a : Action) :
    (source.bookAfter scope trail).options? w i a =
      Compile.options? (Compile.blacklist scope source).value w i a := by
  rw [← blacklist_bookAfter source scope trail]
  unfold RuleBook.options? RuleBook.actionBans? Compile.options? Bans.options?
  rw [Option.bind_assoc]

/--
A compiled blacklist is the flat reading of its source: a ban has the merge of the options of those
contributions that cover it, and there is none if no contribution does. The same holds of whatever the
sections can be compiled to in another order of the sets.
-/
theorem options?_eq_merged? (source : RuleSource) (scope : Scope) (trail : Trail) (w : World)
    (i : Identity) (a : Action) :
    (source.bookAfter scope trail).options? w i a =
        Contribution.merged? (Compile.contributions scope source) w i a
      ∧ ∀ blacklist, Compile.Compiles (Compile.readSections scope source) ∅ blacklist →
          Compile.options? blacklist w i a =
            Contribution.merged? (Compile.contributions scope source) w i a := by
  have hany (blacklist : Table World Bans)
      (h : Compile.Compiles (Compile.readSections scope source) ∅ blacklist) :
      Compile.options? blacklist w i a =
        Contribution.merged? (Compile.contributions scope source) w i a := by
    rw [h.options?, Compile.merged?_eq_layer]
    rfl
  refine ⟨?_, hany⟩
  rw [options?_bookAfter]
  exact hany _ (Compile.compiles_blacklist scope source)

theorem options?_eq_merged?_reordered :
    let scope : Scope :=
      { roster := (Roster.stock.add .world ["town", "fort"]).add .material ["stone"], aliases := ∅ }
    let source : RuleSource :=
      { blacklist := .ofList [("town, fort", .mapping [(.text "stone", .mapping
          [(.text "place", .mapping [(.text "log", .bool true)]),
            (.text "place, break", .mapping [(.text "cooldown", .text "5")])])])] }
    let stone : Identity := .plain ⟨"stone"⟩
    let bans : List Ban :=
      [⟨stone, .place, { log := some true }⟩, ⟨stone, .breakBlock, { cooldown := some 5 }⟩,
        ⟨stone, .place, { cooldown := some 5 }⟩]
    let blacklist := Compile.banIn ∅ [⟨"fort"⟩, ⟨"town"⟩] (.ofList bans)
    Compile.Compiles (Compile.readSections scope source) ∅ blacklist
      ∧ Compile.options? blacklist ⟨"fort"⟩ stone .place =
          Contribution.merged? (Compile.contributions scope source) ⟨"fort"⟩ stone .place := by
  intro scope source stone bans blacklist
  let log : ActionRule := ⟨⟨[.place], by decide⟩, { log := some true }⟩
  let window : ActionRule := ⟨⟨[.place, .breakBlock], by decide⟩, { cooldown := some 5 }⟩
  let item : ItemRule := ⟨⟨[stone], by decide⟩, [log, window]⟩
  have hread : Compile.readSections scope source =
      [{ worlds := ⟨[⟨"town"⟩, ⟨"fort"⟩], by decide⟩, items := [item] }] := by
    rfl
  have hwindow : Compile.ListsActions [window]
      [(.breakBlock, { cooldown := some 5 }), (.place, { cooldown := some 5 })] :=
    @Compile.ListsActions.cons window [] [.breakBlock, .place] [] (.swap _ _ _) .nil
  have hlog := @Compile.ListsActions.cons log [window] [.place] _ (.refl _) hwindow
  have hbans : Compile.ListsBans [item] bans :=
    @Compile.ListsBans.cons item [] [stone] _ [] (.refl _) hlog .nil
  have hcompiles : Compile.Compiles (Compile.readSections scope source) ∅ blacklist := by
    rw [hread]
    exact .cons (.swap _ _ _) hbans (Compile.addsIn_banIn _ _ _) .nil
  exact ⟨hcompiles, (options?_eq_merged? source scope [] ⟨"fort"⟩ stone .place).2 _ hcompiles⟩

end RuleSource

end Embargo
