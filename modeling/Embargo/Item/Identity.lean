import Embargo.Item.Predicate

/-!
This module contains the identities of items: a material together with conditions on metadata, of
which there is at most one of each kind. The identity that is captured from a stack has a condition on each
part of the metadata that is there, and none on the others.
-/

namespace Embargo

structure Predicates where
  displayNameEquals : Option String := none
  displayNameContains : Option String := none
  loreEquals : Option (List String) := none
  loreContains : Option (List String) := none
  loreLineContains : Option String := none
  durability : Option UInt32 := none
  enchantmentEquals : Option EnchantmentLevels := none
  enchantmentContains : Option EnchantmentLevels := none
  potion : Option EffectLevels := none
  potionEquals : Option EffectLevels := none
  modelDataEquals : Option Int32 := none
deriving DecidableEq, Inhabited

namespace Predicates

def empty : Predicates :=
  {}

instance : EmptyCollection Predicates := ⟨empty⟩

def insert (ps : Predicates) : Predicate → Predicates
  | .displayNameEquals text => { ps with displayNameEquals := some text }
  | .displayNameContains text => { ps with displayNameContains := some text }
  | .loreEquals lines => { ps with loreEquals := some lines }
  | .loreContains lines => { ps with loreContains := some lines }
  | .loreLineContains text => { ps with loreLineContains := some text }
  | .durability damage => { ps with durability := some damage }
  | .enchantmentEquals levels => { ps with enchantmentEquals := some levels }
  | .enchantmentContains levels => { ps with enchantmentContains := some levels }
  | .potion levels => { ps with potion := some levels }
  | .potionEquals levels => { ps with potionEquals := some levels }
  | .modelDataEquals data => { ps with modelDataEquals := some data }

def get? (ps : Predicates) : PredicateKind → Option Predicate
  | .displayNameEquals => ps.displayNameEquals.map .displayNameEquals
  | .displayNameContains => ps.displayNameContains.map .displayNameContains
  | .loreEquals => ps.loreEquals.map .loreEquals
  | .loreContains => ps.loreContains.map .loreContains
  | .loreLineContains => ps.loreLineContains.map .loreLineContains
  | .durability => ps.durability.map .durability
  | .enchantmentEquals => ps.enchantmentEquals.map .enchantmentEquals
  | .enchantmentContains => ps.enchantmentContains.map .enchantmentContains
  | .potion => ps.potion.map .potion
  | .potionEquals => ps.potionEquals.map .potionEquals
  | .modelDataEquals => ps.modelDataEquals.map .modelDataEquals

def toList (ps : Predicates) : List Predicate :=
  PredicateKind.all.filterMap ps.get?

def isEmpty (ps : Predicates) : Bool :=
  ps.toList.isEmpty

@[simp]
theorem get?_empty (k : PredicateKind) : (∅ : Predicates).get? k = none := by
  cases k <;> rfl

@[simp]
theorem get?_insert (ps : Predicates) (p : Predicate) (k : PredicateKind) :
    (ps.insert p).get? k = if p.kind = k then some p else ps.get? k := by
  cases p <;> cases k <;> rfl

theorem kind_of_get? {ps : Predicates} {k : PredicateKind} {p : Predicate} (h : ps.get? k = some p) :
    p.kind = k := by
  cases k <;> (obtain ⟨_, _, rfl⟩ := Option.map_eq_some_iff.1 h; rfl)

theorem mem_toList {ps : Predicates} {p : Predicate} : p ∈ ps.toList ↔ ps.get? p.kind = some p := by
  rw [toList, List.mem_filterMap]
  exact ⟨fun ⟨_, _, h⟩ => kind_of_get? h ▸ h, fun h => ⟨p.kind, p.kind.mem_all, h⟩⟩

theorem ext_get? {ps qs : Predicates} (h : ∀ k, ps.get? k = qs.get? k) : ps = qs := by
  have hmap {α : Type} {x y : Option α} {f : α → Predicate} (hf : ∀ a b, f a = f b → a = b)
      (hxy : x.map f = y.map f) : x = y := Option.map_injective hf hxy
  cases ps
  cases qs
  congr
  · exact hmap (fun a b he => by injection he) (h .displayNameEquals)
  · exact hmap (fun a b he => by injection he) (h .displayNameContains)
  · exact hmap (fun a b he => by injection he) (h .loreEquals)
  · exact hmap (fun a b he => by injection he) (h .loreContains)
  · exact hmap (fun a b he => by injection he) (h .loreLineContains)
  · exact hmap (fun a b he => by injection he) (h .durability)
  · exact hmap (fun a b he => by injection he) (h .enchantmentEquals)
  · exact hmap (fun a b he => by injection he) (h .enchantmentContains)
  · exact hmap (fun a b he => by injection he) (h .potion)
  · exact hmap (fun a b he => by injection he) (h .potionEquals)
  · exact hmap (fun a b he => by injection he) (h .modelDataEquals)

theorem get?_foldl_insert (ps qs : Predicates) (kinds : List PredicateKind) (k : PredicateKind) :
    ((kinds.filterMap ps.get?).foldl insert qs).get? k =
      if k ∈ kinds then (ps.get? k).or (qs.get? k) else qs.get? k := by
  induction kinds generalizing qs with
  | nil => rfl
  | cons j kinds ih =>
    cases hj : ps.get? j with
    | none =>
      rw [List.filterMap_cons_none hj, ih]
      by_cases hk : k = j
      · subst hk
        simp [hj]
      · simp [hk]
    | some p =>
      have hkind : p.kind = j := kind_of_get? hj
      rw [List.filterMap_cons_some hj, List.foldl_cons, ih, get?_insert, hkind]
      by_cases hk : k = j
      · subst hk
        simp [hj]
      · simp [hk, Ne.symm hk]

theorem foldl_insert_toList (ps : Predicates) : ps.toList.foldl insert ∅ = ps := by
  apply ext_get?
  intro k
  rw [toList, get?_foldl_insert, if_pos k.mem_all, get?_empty, Option.or_none]

theorem mem_of_mem_toList_foldl_insert {ps : List Predicate} {p : Predicate}
    (h : p ∈ (ps.foldl insert ∅).toList) : p ∈ ps := by
  have hfold (ps : List Predicate) (qs : Predicates) (k : PredicateKind)
      (h : (ps.foldl insert qs).get? k = some p) : p ∈ ps ∨ qs.get? k = some p := by
    induction ps generalizing qs with
    | nil => exact .inr h
    | cons q ps ih =>
      rcases ih _ h with hps | hqs
      · exact .inl (List.mem_cons_of_mem q hps)
      · rw [get?_insert] at hqs
        split at hqs
        · exact .inl (Option.some.inj hqs ▸ List.mem_cons_self)
        · exact .inr hqs
  rcases hfold ps ∅ p.kind (mem_toList.1 h) with hps | hempty
  · exact hps
  · rw [get?_empty] at hempty
    cases hempty

theorem nodup_kinds_toList (ps : Predicates) : (ps.toList.map Predicate.kind).Nodup := by
  have hkinds (kinds : List PredicateKind) :
      (kinds.filterMap ps.get?).map Predicate.kind = kinds.filter fun k => (ps.get? k).isSome := by
    induction kinds with
    | nil => rfl
    | cons k kinds ih =>
      cases hk : ps.get? k with
      | none => rw [List.filterMap_cons_none hk, ih, List.filter_cons_of_neg (by simp [hk])]
      | some p =>
        rw [List.filterMap_cons_some hk, List.map_cons, ih, kind_of_get? hk,
          List.filter_cons_of_pos (by simp [hk])]
  have hall : PredicateKind.all.Nodup := by decide
  rw [toList, hkinds]
  exact hall.filter _

theorem mem_toList_foldl_insert {ps : List Predicate} (hnodup : (ps.map Predicate.kind).Nodup)
    {p : Predicate} (h : p ∈ ps) : p ∈ (ps.foldl insert ∅).toList := by
  have hkeep (ps : List Predicate) (qs : Predicates) {k : PredicateKind}
      (hk : k ∉ ps.map Predicate.kind) : (ps.foldl insert qs).get? k = qs.get? k := by
    induction ps generalizing qs with
    | nil => rfl
    | cons q ps ih =>
      rw [List.map_cons, List.mem_cons, not_or] at hk
      rw [List.foldl_cons, ih _ hk.2, get?_insert, if_neg (Ne.symm hk.1)]
  have hfold (ps : List Predicate) (qs : Predicates) (hnodup : (ps.map Predicate.kind).Nodup)
      (h : p ∈ ps) : (ps.foldl insert qs).get? p.kind = some p := by
    induction ps generalizing qs with
    | nil => cases h
    | cons q ps ih =>
      obtain ⟨hq, hps⟩ := List.nodup_cons.1 hnodup
      rcases List.mem_cons.1 h with rfl | h
      · rw [List.foldl_cons, hkeep ps _ hq, get?_insert, if_pos rfl]
      · exact ih _ hps h
  exact mem_toList.2 (hfold ps ∅ hnodup h)

end Predicates

structure Identity where
  material : Material
  predicates : Predicates := ∅
deriving DecidableEq, Inhabited

namespace Identity

def plain (m : Material) : Identity :=
  { material := m }

def withPredicate (i : Identity) (p : Predicate) : Identity :=
  { i with predicates := i.predicates.insert p }

theorem foldl_withPredicate (i : Identity) (ps : List Predicate) :
    ps.foldl withPredicate i = { i with predicates := ps.foldl Predicates.insert i.predicates } := by
  induction ps generalizing i with
  | nil => rfl
  | cons p ps ih =>
    rw [List.foldl_cons, ih]
    rfl

def hasPredicates (i : Identity) : Bool :=
  !i.predicates.isEmpty

def holds (i : Identity) (s : Stack) : Bool :=
  s.material == i.material && i.predicates.toList.all (·.holds s)

/--
The identity of a stack that is no custom item. Under the legacy item model the data value belongs to
it.
-/
def ofStack (s : Stack) (legacy : Bool) : Identity :=
  if legacy then (plain s.material).withPredicate (.durability s.damage) else plain s.material

end Identity

structure Specimen where
  identity : Identity
  stack : Stack
deriving DecidableEq, Inhabited

namespace Specimen

/--
The effects of a potion, each at the level at which it comes last.
-/
def effectLevels (p : Potion) : EffectLevels :=
  .ofList (p.effects.map fun a => (a.effect, .ofNumber a.level))

def conditions (m : Metadata) : List Predicate :=
  (m.displayName.map .displayNameEquals).toList
    ++ (if m.lore.isEmpty then [] else [.loreEquals m.lore])
    ++ (if m.enchantments.isEmpty then []
      else [.enchantmentEquals (m.enchantments.mapValues .ofNumber)])
    ++ (m.potion.elim [] fun p =>
      if (effectLevels p).isEmpty then [] else [.potionEquals (effectLevels p)])
    ++ (m.modelData.map .modelDataEquals).toList

def capture (s : Stack) (legacy : Bool) : Specimen where
  identity := (s.metadata.elim [] conditions).foldl Identity.withPredicate (.ofStack s legacy)
  stack := s

end Specimen

end Embargo
