import Embargo.Rule.Bans

/-!
This module contains the theory of options that are put on top of each other: merging is associative,
and what bans say about an action of an item is the merge of all options that were added for it.
-/

namespace Embargo

theorem Restrictions.merge_assoc (a b c : Restrictions) :
    (a.merge b).merge c = a.merge (b.merge c) := by
  simp only [Restrictions.merge, Option.or_assoc]

namespace Options

theorem merge_assoc (a b c : Options) : (a.merge b).merge c = a.merge (b.merge c) := by
  simp only [merge, Restrictions.merge_assoc, Option.or_assoc]
  by_cases hc : c.messages.isEmpty = true
  · simp [hc]
  · simp [hc]

theorem empty_merge (o : Options) : ({} : Options).merge o = o := by
  have hmessages : (if o.messages.isEmpty then [] else o.messages) = o.messages := by
    cases o.messages <;> rfl
  simp only [merge, Restrictions.merge, Option.or_none, hmessages]

theorem foldl_merge (a o : Options) (os : List Options) :
    os.foldl merge (a.merge o) = a.merge (os.foldl merge o) := by
  induction os generalizing o with
  | nil => rfl
  | cons p os ih => rw [List.foldl_cons, merge_assoc, ih, List.foldl_cons]

def layer (old : Option Options) (os : List Options) : Option Options :=
  os.foldl (fun old o => some (old.elim o (·.merge o))) old

@[simp]
theorem layer_nil (old : Option Options) : layer old [] = old := rfl

theorem layer_append (old : Option Options) (os ps : List Options) :
    layer old (os ++ ps) = layer (layer old os) ps := by
  unfold layer
  rw [List.foldl_append]

theorem layer_some (o : Options) (os : List Options) : layer (some o) os = some (os.foldl merge o) := by
  induction os generalizing o with
  | nil => rfl
  | cons p os ih => exact ih (o.merge p)

theorem layer_cons (old : Option Options) (o : Options) (os : List Options) :
    layer old (o :: os) = some (os.foldl merge (old.elim o (·.merge o))) :=
  layer_some _ os

theorem layer_toList_layer (old : Option Options) (os : List Options) :
    layer old (layer none os).toList = layer old os := by
  cases os with
  | nil => rfl
  | cons o os =>
    rw [layer_cons none, layer_cons old]
    cases old with
    | none => rfl
    | some a => exact congrArg some (foldl_merge a o os).symm

end Options

namespace Bans

def optionsOf (bans : List Ban) (i : Identity) (a : Action) : List Options :=
  (bans.filter fun b => b.item = i ∧ b.action = a).map Ban.options

theorem optionsOf_append (l m : List Ban) (i : Identity) (a : Action) :
    optionsOf (l ++ m) i a = optionsOf l i a ++ optionsOf m i a := by
  unfold optionsOf
  rw [List.filter_append, List.map_append]

theorem options?_addAll (bans : Bans) (more : List Ban) (i : Identity) (a : Action) :
    (bans.addAll more).options? i a = Options.layer (bans.options? i a) (optionsOf more i a) := by
  unfold addAll
  induction more generalizing bans with
  | nil => rfl
  | cons b more ih =>
    rw [List.foldl_cons, ih, options?_add]
    by_cases hb : b.item = i ∧ b.action = a
    · have hcons : optionsOf (b :: more) i a = b.options :: optionsOf more i a := by
        simp [optionsOf, hb]
      rw [if_pos hb, hcons]
      rfl
    · have hcons : optionsOf (b :: more) i a = optionsOf more i a := by
        unfold optionsOf
        rw [List.filter_cons_of_neg (by simpa using hb)]
      rw [if_neg hb, hcons]

theorem options?_ofList (more : List Ban) (i : Identity) (a : Action) :
    (ofList more).options? i a = Options.layer none (optionsOf more i a) := by
  unfold ofList
  rw [options?_addAll, options?_empty]

theorem optionsOf_item (j : Identity) (actions : ActionBans) (i : Identity) (a : Action) :
    optionsOf (actions.entries.map fun f => ⟨j, f.1, f.2⟩) i a =
      if j = i then (actions.get? a).toList else [] := by
  unfold optionsOf
  rw [List.filter_map, List.map_map]
  split
  · next h =>
    rw [← Table.map_snd_filter_key]
    simp only [Function.comp_def, h, true_and]
  · next h =>
    simp [Function.comp_def, h]

theorem optionsOf_flatMap {α : Type} (as : List α) (f : α → List Ban) (i : Identity) (a : Action) :
    optionsOf (as.flatMap f) i a = as.flatMap fun x => optionsOf (f x) i a := by
  induction as with
  | nil => rfl
  | cons x as ih => rw [List.flatMap_cons, optionsOf_append, ih, List.flatMap_cons]

theorem optionsOf_toList (bans : Bans) (i : Identity) (a : Action) :
    optionsOf bans.toList i a = (bans.options? i a).toList := by
  unfold toList options?
  simp only [optionsOf_flatMap, optionsOf_item]
  rw [Table.flatMap_entries_key fun actions : ActionBans => (actions.get? a).toList]
  cases bans.get? i <;> rfl

theorem optionsOf_of_perm {bans : Bans} {l : List Ban} (h : l.Perm bans.toList) (i : Identity)
    (a : Action) : optionsOf l i a = (bans.options? i a).toList := by
  have hperm : (optionsOf l i a).Perm (bans.options? i a).toList := by
    rw [← optionsOf_toList]
    exact (h.filter _).map _
  cases ho : bans.options? i a with
  | none =>
    rw [ho] at hperm
    exact hperm.eq_nil
  | some o =>
    rw [ho] at hperm
    exact List.perm_singleton.1 hperm

end Bans

end Embargo
