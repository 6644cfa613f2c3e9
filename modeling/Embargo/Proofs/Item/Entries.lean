import Embargo.Proofs.Load.Readers

/-!
This module contains the theory of sections of custom items: each entry loads on its own, and a name
has the identity of the last entry that loads under it.
-/

namespace Embargo

open Yaml (Value)

theorem validateName_eq_ok_iff {raw name : String} :
    validateName raw = .ok name ↔
      Text.trim raw ≠ "" ∧ (∀ c ∈ (Text.trim raw).toList, isReserved c = false)
        ∧ name = canonicalName raw := by
  have hvalid : ¬ ((Text.trim raw).isEmpty || (Text.trim raw).toList.any isReserved) = true ↔
      Text.trim raw ≠ "" ∧ ∀ c ∈ (Text.trim raw).toList, isReserved c = false := by
    rw [Bool.not_eq_true, Bool.or_eq_false_iff, List.any_eq_false]
    simp
  unfold validateName
  dsimp only
  rw [canonicalName_trim, ← and_assoc, ← hvalid]
  split
  · next hinvalid => exact iff_of_false nofun fun h => h.1 hinvalid
  · next hok => exact ⟨fun h => ⟨hok, (Except.ok.inj h).symm⟩, fun h => congrArg Except.ok h.2.symm⟩

theorem validateName_eq_ok {raw name : String} (h : validateName raw = .ok name) :
    name = canonicalName raw :=
  (validateName_eq_ok_iff.1 h).2.2

namespace Catalogue

theorem get?_byName_forget (c : Catalogue) (name k : String) :
    (c.forget name).byName.get? k = if name = k then none else c.byName.get? k := by
  unfold forget
  split
  · next hnone =>
    split
    · next hk => rw [← hk, hnone]
    · rfl
  · dsimp only
    split
    · split
      · exact Table.get?_erase
      · exact Table.get?_erase
    · exact Table.get?_erase

theorem get?_byName_register (c : Catalogue) (name : String) (i : Identity) (k : String) :
    (c.register name i).byName.get? k = if name = k then some i else c.byName.get? k := by
  unfold register
  dsimp only
  rw [Table.get?_insert, get?_byName_forget]
  split
  · rfl
  · rfl

def registerAll (c : Catalogue) (items : List (String × Identity)) : Catalogue :=
  items.foldl (fun c e => c.register e.1 e.2) c

def last? (items : List (String × Identity)) (name : String) : Option Identity :=
  ((items.filter fun e => e.1 = name).getLast?).map Prod.snd

theorem get?_byName_registerAll (c : Catalogue) (items : List (String × Identity)) (k : String) :
    (c.registerAll items).byName.get? k = (last? items k).or (c.byName.get? k) := by
  unfold registerAll last?
  induction items generalizing c with
  | nil => rfl
  | cons e items ih =>
    rw [List.foldl_cons, ih, get?_byName_register]
    by_cases hk : e.1 = k
    · rw [if_pos hk, List.filter_cons_of_pos (by simpa using hk), List.getLast?_cons]
      cases (items.filter fun e => e.1 = k).getLast? <;> rfl
    · rw [if_neg hk, List.filter_cons_of_neg (by simpa using hk)]

theorem last?_concat (items : List (String × Identity)) (item : String × Identity) :
    last? (items ++ [item]) item.1 = some item.2 := by
  unfold last?
  simp

theorem isSome_last? {items : List (String × Identity)} {item : String × Identity} (h : item ∈ items) :
    (last? items item.1).isSome = true := by
  unfold last?
  rw [Option.isSome_map, List.getLast?_isSome]
  exact List.ne_nil_of_mem (List.mem_filter.2 ⟨h, by simp⟩)

variable (scope : Scope) (path : Path)

def entryItem? (e : String × Value) : Option (String × Identity) :=
  (readEntry scope path e.1 e.2).value

def entryProblems (e : String × Value) : Trail :=
  (readEntry scope path e.1 e.2).problems

theorem name_of_entryItem? {e : String × Value} {item : String × Identity}
    (h : entryItem? scope path e = some item) : item.1 = canonicalName e.1 := by
  unfold entryItem? readEntry at h
  dsimp only at h
  split at h
  · cases h
  · next name hname =>
    split at h
    · next entries =>
      rw [Load.value_bind_pure] at h
      obtain ⟨i, -, rfl⟩ := Option.map_eq_some_iff.1 h
      exact validateName_eq_ok hname
    · cases h

theorem read_eq (entries : List (String × Value)) :
    read scope path entries = entries.foldlM (fun c e => do
      let item ← readEntry scope path e.1 e.2
      return item.elim c fun item => c.register item.1 item.2) ∅ := by
  unfold read
  refine congrArg (fun step => entries.foldlM step ∅) (funext fun c => funext fun e => ?_)
  refine congrArg (readEntry scope path e.1 e.2 >>= ·) (funext fun item => ?_)
  cases item <;> rfl

theorem additive_enter (c : Catalogue) (e : String × Value) :
    (do
      let item ← readEntry scope path e.1 e.2
      return item.elim c fun item => c.register item.1 item.2 : Load Catalogue).Additive :=
  (reports_readEntry scope path e.1 e.2).additive.bind fun _ => Load.additive_pure _

theorem additive_read (entries : List (String × Value)) : (read scope path entries).Additive := by
  rw [read_eq]
  exact Load.additive_foldlM (additive_enter scope path) ∅ entries

theorem value_read (entries : List (String × Value)) :
    (read scope path entries).value =
      registerAll ∅ (entries.filterMap (entryItem? scope path)) := by
  rw [read_eq, Load.value_foldlM (additive_enter scope path)]
  unfold registerAll
  rw [List.foldl_filterMap]
  refine congrArg (fun step => entries.foldl step ∅) (funext fun c => funext fun e => ?_)
  rw [Load.value_bind_pure]
  unfold entryItem?
  cases (readEntry scope path e.1 e.2).value <;> rfl

theorem isEmpty_value_read (e : String × Value) :
    (read scope path [e]).value.isEmpty = (entryItem? scope path e).isNone := by
  rw [value_read]
  cases hitem : entryItem? scope path e with
  | none =>
    rw [List.filterMap_cons_none hitem]
    rfl
  | some item =>
    rw [List.filterMap_cons_some hitem]
    rfl

theorem problems_read (entries : List (String × Value)) :
    (read scope path entries).problems = entries.flatMap (entryProblems scope path) := by
  rw [read_eq]
  apply Load.problems_foldlM (additive_enter scope path)
  intro c e
  rw [Load.problems_bind_pure]
  rfl

theorem last?_filter {p : String × Value → Bool} {k : String} (entries : List (String × Value))
    (hp : ∀ e, canonicalName e.1 = k → p e = true) :
    last? ((entries.filter p).filterMap (entryItem? scope path)) k =
      last? (entries.filterMap (entryItem? scope path)) k := by
  unfold last?
  rw [List.filterMap_filter, List.filter_filterMap, List.filter_filterMap]
  refine congrArg (fun f => ((entries.filterMap f).getLast?).map Prod.snd) (funext fun e => ?_)
  split
  · rfl
  · next hout =>
    cases hitem : entryItem? scope path e with
    | none => rfl
    | some item =>
      have hname : item.1 ≠ k := by
        rw [name_of_entryItem? scope path hitem]
        exact fun hk => hout (hp e hk)
      simp [Option.filter, hname]

end Catalogue

end Embargo
