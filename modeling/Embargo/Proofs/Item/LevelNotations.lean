import Embargo.Proofs.Expression.LevelTokens
import Embargo.Proofs.Item.Conditions
import Mathlib.Data.List.Nodup

/-!
This module contains the comparison of the two notations for levels, a mapping of names to levels and a
list of tokens. They say the same unless different names stand for one member and all of these have one
level: the mapping is refused then, whereas the tokens are one requirement before anything is counted.
-/

namespace Embargo

open Yaml (Value)

def levelTexts (ps : List (String × UInt32)) : Value :=
  .seq (ps.map fun p => .text (levelToken p))

namespace Expression

theorem ofValues?_texts (ts : List String) :
    ofValues? (ts.map .text) = some (ts.map .text) := by
  induction ts with
  | nil => rfl
  | cons t ts ih =>
    have htext : ofValue? (.text t) = some (.text t) := rfl
    rw [List.map_cons, ofValues?, htext, ih, List.map_cons]

theorem allTokens_levelTokens {ps : List (String × UInt32)} (hnames : ∀ p ∈ ps, IsLevelName p.1) :
    allTokens (ps.map fun p => .text (levelToken p)) = ps.map levelToken := by
  induction ps with
  | nil => rfl
  | cons p ps ih =>
    obtain ⟨hname, hnames⟩ := List.forall_mem_cons.1 hnames
    rw [List.map_cons, allTokens, hname.tokens_levelToken, ih hnames, List.map_cons, List.singleton_append]

end Expression

section Levels

variable {scope : Scope} {r : Registry} {ps : List (String × UInt32)} {as : List (Leveled r)}

theorem problems_readLevelEntries (path : Path) (h : scope.requirements? r ps = none) :
    (readLevelEntries scope r path
      (ps.map fun p => (.text p.1, .number (.int p.2.toNat)))).problems ≠ [] := by
  have hadditive (es : List (Value × Value)) : (readLevelEntries scope r path es).Additive :=
    (reports_readLevelEntries scope (path.into_self .null) r es).additive
  induction ps with
  | nil => cases h
  | cons p ps ih =>
    rw [List.map_cons, readLevelEntries_cons]
    cases hp : scope.requirement? r p with
    | none =>
      dsimp only
      rw [Load.problems_bind fun _ => hadditive _]
      exact List.append_ne_nil_of_left_ne_nil (List.cons_ne_nil _ _) _
    | some a =>
      rw [Scope.requirements?_cons, hp, Option.bind_some, Option.map_eq_none_iff] at h
      dsimp only
      rw [Load.problems_bind_pure]
      exact ih h

variable (scope r ps) in
theorem value_readLevels_levelMapping (path : Path) :
    (readLevels scope r path (levelMapping ps)).value =
      (scope.requirements? r ps).bind collectLevels? := by
  rw [value_readLevels, mentionedLevels_levelMapping]
  cases h : scope.requirements? r ps with
  | none =>
    have hreported := problems_readLevelEntries path h
    rw [if_neg (by rwa [List.isEmpty_iff]), Option.bind_none]
  | some as =>
    rw [readLevelEntries_of_requirements path h]
    rfl

theorem mentionedLevels_levelTexts (hnames : ∀ p ∈ ps, IsLevelName p.1) (path : Path) :
    mentionedLevels scope r path (levelTexts ps) = do
      let set ← (scope.leveled r).evaluateTokens path (ps.map levelToken)
      return some set.toList := by
  have hvalue : Expression.ofValue? (levelTexts ps) = some (.list (ps.map fun p => .text (levelToken p))) := by
    have htexts := Expression.ofValues?_texts (ps.map levelToken)
    rw [List.map_map, List.map_map] at htexts
    exact congrArg (Option.map Expression.list) htexts
  have htokens := Expression.allTokens_levelTokens hnames
  unfold mentionedLevels levelTexts
  dsimp only
  unfold levelTexts at hvalue
  rw [hvalue]
  dsimp only
  rw [Domain.evaluate, Expression.tokens, htokens]

theorem value_readLevels_levelTexts (hnames : ∀ p ∈ ps, IsLevelName p.1) (path : Path) :
    (readLevels scope r path (levelTexts ps)).value =
      (scope.requirements? r ps).bind fun as => collectLevels? (OrderedSet.ofList as).toList := by
  rw [value_readLevels, mentionedLevels_levelTexts hnames]
  cases h : scope.requirements? r ps with
  | none =>
    have hreported := Scope.problems_evaluateTokens_levelTokens hnames h path
    rw [Load.problems_bind_pure, if_neg (by rwa [List.isEmpty_iff]), Option.bind_none]
  | some as =>
    rw [Scope.evaluateTokens_levelTokens hnames h]
    rfl

theorem collectLevels?_eq_none_iff {levels : List (Leveled r)} :
    collectLevels? levels = none ↔ levels = [] ∨ ¬ (levels.map Leveled.key).Nodup := by
  unfold collectLevels?
  split
  · next hrefused => simpa using hrefused
  · next haccepted => simpa using haccepted

theorem collectLevels?_ofList_eq_iff :
    collectLevels? (OrderedSet.ofList as).toList = collectLevels? as ↔
      ((∀ a ∈ as, ∀ b ∈ as, a.key = b.key → a = b) → (as.map Leveled.key).Nodup) := by
  -- without a repeated key the set is the list, and with one the list is refused in any case
  by_cases hkeys : (as.map Leveled.key).Nodup
  · have hlist : (OrderedSet.ofList as).toList = as := OrderedSet.toList_insertAll (.of_map _ hkeys)
    rw [hlist]
    exact iff_of_true rfl fun _ => hkeys
  · have hrefused : collectLevels? as = none := collectLevels?_eq_none_iff.2 (.inr hkeys)
    have hsome : (OrderedSet.ofList as).toList ≠ [] := by
      intro hnil
      obtain ⟨a, ha⟩ := List.exists_mem_of_ne_nil as fun hnil => hkeys (by simp [hnil])
      have hmem := OrderedSet.mem_toList.2 (OrderedSet.mem_ofList.2 ha)
      rw [hnil] at hmem
      cases hmem
    rw [hrefused, collectLevels?_eq_none_iff, or_iff_right hsome, imp_iff_not hkeys,
      List.nodup_map_iff_inj_on (OrderedSet.ofList as).nodup]
    simp only [OrderedSet.mem_toList, OrderedSet.mem_ofList]

namespace Scope

variable (scope r ps) in
def Repeats : Prop :=
  ∃ p ∈ ps, ∃ q ∈ ps, p.1 ≠ q.1 ∧ scope.key? r p.1 = scope.key? r q.1 ∧ scope.key? r q.1 ≠ none

instance : Decidable (scope.Repeats r ps) :=
  inferInstanceAs (Decidable (∃ _ ∈ _, _))

variable (scope r ps) in
/--
Different names stand for one member, all names are known, and names for one member have one level.
-/
structure RepeatsAlike : Prop where
  known : ∀ p ∈ ps, scope.key? r p.1 ≠ none
  repeats : scope.Repeats r ps
  alike : ∀ p ∈ ps, ∀ q ∈ ps, scope.key? r p.1 = scope.key? r q.1 → p.2 = q.2

instance : Decidable (scope.RepeatsAlike r ps) :=
  decidable_of_iff ((∀ p ∈ ps, scope.key? r p.1 ≠ none) ∧ scope.Repeats r ps
      ∧ ∀ p ∈ ps, ∀ q ∈ ps, scope.key? r p.1 = scope.key? r q.1 → p.2 = q.2)
    ⟨fun ⟨hknown, hrepeats, halike⟩ => ⟨hknown, hrepeats, halike⟩,
    fun h => ⟨h.known, h.repeats, h.alike⟩⟩

section Known

variable (h : scope.requirements? r ps = some as)
include h

theorem key?_ne_none_of_requirements? {p : String × UInt32} (hp : p ∈ ps) : scope.key? r p.1 ≠ none := by
  obtain ⟨a, -, ha⟩ := exists_of_requirements? h hp
  rw [(requirement?_eq_some_iff.1 ha).1]
  exact Option.some_ne_none _

theorem alike_iff_of_requirements? :
    (∀ a ∈ as, ∀ b ∈ as, a.key = b.key → a = b) ↔
      ∀ p ∈ ps, ∀ q ∈ ps, scope.key? r p.1 = scope.key? r q.1 → p.2 = q.2 := by
  constructor
  · intro halike p hp q hq hkeys
    obtain ⟨a, ha, hpa⟩ := exists_of_requirements? h hp
    obtain ⟨b, hb, hqb⟩ := exists_of_requirements? h hq
    rw [requirement?_eq_some_iff] at hpa hqb
    rw [hpa.1, hqb.1, Option.some_inj] at hkeys
    rw [← Level.ofNumber_inj, ← hpa.2, ← hqb.2, halike a ha b hb hkeys]
  · intro halike a ha b hb hkeys
    obtain ⟨p, hp, hpa⟩ := (mem_iff_of_requirements? h).1 ha
    obtain ⟨q, hq, hqb⟩ := (mem_iff_of_requirements? h).1 hb
    rw [requirement?_eq_some_iff] at hpa hqb
    have hnumbers : p.2 = q.2 := halike p hp q hq (by rw [hpa.1, hqb.1, hkeys])
    have hlevels : a.level = b.level := by rw [hpa.2, hqb.2, hnumbers]
    cases a
    cases b
    cases hkeys
    cases hlevels
    rfl

theorem map_key?_of_requirements? :
    (ps.map fun p => scope.key? r p.1) = (as.map Leveled.key).map some := by
  have hkey (p : String × UInt32) : (scope.requirement? r p).map Leveled.key = scope.key? r p.1 := by
    simp [requirement?, Function.comp_def]
  have hmap := congrArg (List.map (Option.map Leveled.key)) (requirements?_eq_some_iff.1 h)
  simpa [Function.comp_def, hkey] using hmap

theorem nodup_iff_of_requirements? (hnodup : (ps.map Prod.fst).Nodup) :
    (as.map Leveled.key).Nodup ↔ ¬ scope.Repeats r ps := by
  have hkeys : (as.map Leveled.key).Nodup ↔ (ps.map fun p => scope.key? r p.1).Nodup := by
    rw [map_key?_of_requirements? h]
    exact (List.nodup_map_iff fun _ _ => Option.some.inj).symm
  rw [hkeys, List.nodup_map_iff_inj_on (.of_map _ hnodup)]
  constructor
  · rintro hinj ⟨p, hp, q, hq, hnames, hkeys, -⟩
    exact hnames (congrArg Prod.fst (hinj p hp q hq hkeys))
  · intro hrepeats p hp q hq hkeys
    by_contra hne
    have hnames : p.1 ≠ q.1 := fun hnames => hne (List.inj_on_of_nodup_map hnodup hp hq hnames)
    exact hrepeats ⟨p, hp, q, hq, hnames, hkeys, key?_ne_none_of_requirements? h hq⟩

end Known

end Scope

theorem value_readLevels_eq_iff (hnames : ∀ p ∈ ps, IsLevelName p.1) (hnodup : (ps.map Prod.fst).Nodup)
    (path : Path) :
    (readLevels scope r path (levelTexts ps)).value = (readLevels scope r path (levelMapping ps)).value ↔
      ¬ scope.RepeatsAlike r ps := by
  rw [value_readLevels_levelTexts hnames, value_readLevels_levelMapping]
  cases h : scope.requirements? r ps with
  | none =>
    refine iff_of_true rfl fun hrepeats => ?_
    obtain ⟨p, hp, hunknown⟩ := Scope.requirements?_eq_none_iff.1 h
    exact hrepeats.known p hp (Option.map_eq_none_iff.1 hunknown)
  | some as =>
    rw [Option.bind_some, Option.bind_some, collectLevels?_ofList_eq_iff, Scope.alike_iff_of_requirements? h,
      Scope.nodup_iff_of_requirements? h hnodup]
    exact ⟨fun hagree halike => hagree halike.alike halike.repeats,
      fun hagree halike hrepeats =>
        hagree ⟨fun _ => Scope.key?_ne_none_of_requirements? h, hrepeats, halike⟩⟩

theorem value_readLevels_of_repeats (hnodup : (ps.map Prod.fst).Nodup) (h : scope.Repeats r ps)
    (path : Path) : (readLevels scope r path (levelMapping ps)).value = none := by
  rw [value_readLevels_levelMapping]
  cases has : scope.requirements? r ps with
  | none => rfl
  | some as =>
    rw [Option.bind_some, collectLevels?_eq_none_iff, Scope.nodup_iff_of_requirements? has hnodup]
    exact .inr (not_not.2 h)

end Levels

def PredicateKind.registry? : PredicateKind → Option Registry
  | enchantmentEquals | enchantmentContains => some .enchantment
  | potion | potionEquals => some .potion
  | _ => none

namespace Predicate

variable {scope : Scope} {kind : PredicateKind} {r : Registry}

variable (scope) in
theorem exists_value_read_eq (h : kind.registry? = some r) :
    ∃ make : KeyMap r Level → Predicate, (∀ m n, make m = make n → m = n)
      ∧ ∀ path v, (read scope kind path v).value = (readLevels scope r path v).value.map make := by
  simp only [value_read]
  cases kind <;> cases h
  · exact ⟨.enchantmentEquals, fun _ _ => enchantmentEquals.inj, fun _ _ => rfl⟩
  · exact ⟨.enchantmentContains, fun _ _ => enchantmentContains.inj, fun _ _ => rfl⟩
  · exact ⟨.potion, fun _ _ => potion.inj, fun _ _ => rfl⟩
  · exact ⟨.potionEquals, fun _ _ => potionEquals.inj, fun _ _ => rfl⟩

/--
The two notations for levels are the same condition, or both are none, unless different names for one
member have one level: the mapping makes no condition then, as is right, but the list makes one.
-/
theorem read_levelTexts_eq_iff (scope : Scope) (hkind : kind.registry? = some r) {ps : List (String × UInt32)}
    (hnames : ∀ p ∈ ps, IsLevelName p.1) (hnodup : (ps.map Prod.fst).Nodup) (path : Path) :
    ((read scope kind path (levelTexts ps)).value = (read scope kind path (levelMapping ps)).value ↔
        ¬ scope.RepeatsAlike r ps)
      ∧ (scope.Repeats r ps → (read scope kind path (levelMapping ps)).value = none
        ∧ ((read scope kind path (levelTexts ps)).value.isSome = true ↔ scope.RepeatsAlike r ps)) := by
  obtain ⟨make, hmake, hread⟩ := exists_value_read_eq scope hkind
  have hagree : (read scope kind path (levelTexts ps)).value = (read scope kind path (levelMapping ps)).value ↔
      ¬ scope.RepeatsAlike r ps := by
    rw [← value_readLevels_eq_iff hnames hnodup path, hread, hread]
    exact Option.map_inj_right hmake
  refine ⟨hagree, fun hrepeats => ?_⟩
  have hrefused : (read scope kind path (levelMapping ps)).value = none := by
    rw [hread, value_readLevels_of_repeats hnodup hrepeats, Option.map_none]
  rw [hrefused] at hagree
  exact ⟨hrefused, by rw [← not_iff_not, ← hagree, Option.not_isSome_iff_eq_none]⟩

theorem read_levelTexts_eq_iff_swiftness :
    let scope : Scope :=
      { roster := Roster.stock.add .potion ["speed", "haste"]
        aliases := (∅ : Aliases).insertAll (.key .potion) [("swiftness", "speed")] }
    let levels : KeyMap .potion Level := .ofList [(⟨"haste"⟩, .any), (⟨"speed"⟩, .exact 2)]
    let effects := [("Speed", 2), ("haste", 0)]
    let repeated := [("Speed", 2), ("swiftness", 3)]
    (read scope .potion .root (levelTexts effects)).value = some (.potion levels)
      ∧ (read scope .potion .root (levelMapping effects)).value = some (.potion levels)
      ∧ scope.Repeats .potion repeated
      ∧ (read scope .potion .root (levelTexts repeated)).value = none
      ∧ (read scope .potion .root (levelMapping repeated)).value = none := by
  intro scope levels effects repeated
  have hkind : PredicateKind.potion.registry? = some .potion := rfl
  have hnames : ∀ p ∈ effects, IsLevelName p.1 := by decide +kernel
  have hothers : ∀ p ∈ repeated, IsLevelName p.1 := by decide +kernel
  have hlevels : (read scope .potion .root (levelMapping effects)).value = some (.potion levels) := by
    decide +kernel
  have hrepeats : scope.Repeats .potion repeated := by decide +kernel
  obtain ⟨heffects, -⟩ := read_levelTexts_eq_iff scope hkind hnames (by decide) .root
  obtain ⟨hagree, hrefused⟩ := read_levelTexts_eq_iff scope hkind hothers (by decide) .root
  have hmapping := (hrefused hrepeats).1
  refine ⟨?_, hlevels, hrepeats, ?_, hmapping⟩
  · rw [heffects.2 (by decide +kernel), hlevels]
  · rw [hagree.2 (by decide +kernel), hmapping]

/--
An enchantment under its name and under another name, at the same level: the mapping is refused, the list
is not.
-/
theorem levelTexts_accept_repeated :
    let scope : Scope :=
      { roster := Roster.stock.add .enchantment ["sharpness"]
        aliases := (∅ : Aliases).insertAll (.key .enchantment) [("damage_all", "sharpness")] }
    let ps := [("sharpness", 2), ("damage_all", 2)]
    (∀ p ∈ ps, IsLevelName p.1) ∧ (ps.map Prod.fst).Nodup ∧ scope.Repeats .enchantment ps
      ∧ (read scope .enchantmentContains .root (levelMapping ps)).value = none
      ∧ (read scope .enchantmentContains .root (levelTexts ps)).value =
        some (.enchantmentContains (.ofList [(⟨"sharpness"⟩, .exact 2)])) := by
  decide +kernel

end Predicate

end Embargo
