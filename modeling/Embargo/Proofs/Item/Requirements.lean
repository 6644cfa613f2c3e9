import Embargo.Item.Predicate
import Mathlib.Data.List.Perm.Subperm

/-!
This module contains which stacks satisfy the conditions on all enchantments or all effects of a stack: the
names have to be the required ones, and the levels have to be accepted.
-/

namespace Embargo

def Stack.effects (s : Stack) : List AppliedEffect :=
  s.potion?.elim [] (·.effects)

/--
Something has exactly the required names, each of them at an accepted level. `has k n` says that it has
the name `k` at the level `n`, of which there may be several.
-/
structure KeyMap.MetExactly {r : Registry} (levels : KeyMap r Level) (has : Key r → UInt32 → Prop) :
    Prop where
  names (k : Key r) : (∃ n, has k n) ↔ k ∈ levels.keys
  accepted (k : Key r) (level : Level) (h : levels.get? k = some level) :
    ∃ n, has k n ∧ level.accepts n = true

namespace Predicate

variable {s : Stack}

theorem isEmpty_iff_of_no_names {r : Registry} {levels : KeyMap r Level} {p : Key r → Level → Prop} :
    levels.isEmpty = true ↔
      (∀ k, k ∈ ([] : List (Key r)) ↔ k ∈ levels.keys)
        ∧ ∀ k level, levels.get? k = some level → p k level := by
  rw [KeyMap.isEmpty_iff, List.eq_nil_iff_forall_not_mem]
  constructor
  · intro hnone
    refine ⟨fun k => iff_of_false List.not_mem_nil (hnone k), fun k level hlevel => ?_⟩
    exact absurd (KeyMap.mem_keys_iff.2 ⟨level, hlevel⟩) (hnone k)
  · rintro ⟨hnames, -⟩ k hk
    exact List.not_mem_nil ((hnames k).2 hk)

theorem hasEnchantment_iff {e : Enchantment} {level : Level} :
    hasEnchantment s e level = true ↔ ∃ n, s.level? e = some n ∧ level.accepts n = true :=
  Option.any_eq_true _ _

theorem hasEffect_iff {p : Potion} {e : PotionEffect} {level : Level} :
    hasEffect p e level = true ↔ ∃ a ∈ p.effects, a.effect = e ∧ level.accepts a.level = true := by
  unfold hasEffect
  simp only [List.any_eq_true, Bool.and_eq_true, beq_iff_eq]

theorem holds_enchantmentEquals_iff {levels : EnchantmentLevels} :
    (enchantmentEquals levels).holds s = true ↔
      (∀ e, e ∈ s.enchantments.keys ↔ e ∈ levels.keys)
        ∧ ∀ e level, levels.get? e = some level →
            ∀ n, s.level? e = some n → level.accepts n = true := by
  have hsize : s.enchantments.size = levels.size ↔
      s.enchantments.keys.length = levels.keys.length := by
    simp [KeyMap.size, KeyMap.keys]
  unfold holds
  dsimp only
  split
  · next hempty =>
    rw [KeyMap.isEmpty_iff] at hempty
    rw [hempty]
    exact isEmpty_iff_of_no_names
  · rw [Bool.and_eq_true, beq_iff_eq, hsize, List.all_eq_true]
    constructor
    · rintro ⟨hlength, hall⟩
      have hhas {e : Enchantment} {level : Level} (hlevel : levels.get? e = some level) :
          ∃ n, s.level? e = some n ∧ level.accepts n = true :=
        hasEnchantment_iff.1 (hall (e, level) (KeyMap.mem_of_get?_eq_some hlevel))
      have hsubset : levels.keys ⊆ s.enchantments.keys := by
        intro e he
        obtain ⟨level, hlevel⟩ := KeyMap.mem_keys_iff.1 he
        obtain ⟨n, hn, -⟩ := hhas hlevel
        exact KeyMap.mem_keys_iff.2 ⟨n, hn⟩
      -- as many names as are required, and each required one is there
      have hperm : levels.keys.Perm s.enchantments.keys :=
        (levels.nodup_keys.subperm hsubset).perm_of_length_le (Nat.le_of_eq hlength)
      refine ⟨fun e => hperm.mem_iff.symm, fun e level hlevel n hn => ?_⟩
      obtain ⟨m, hm, haccepts⟩ := hhas hlevel
      obtain rfl : m = n := Option.some.inj (hm.symm.trans hn)
      exact haccepts
    · rintro ⟨hnames, haccepts⟩
      have hperm : s.enchantments.keys.Perm levels.keys :=
        (List.perm_ext_iff_of_nodup s.enchantments.nodup_keys levels.nodup_keys).2 hnames
      refine ⟨hperm.length_eq, fun e he => hasEnchantment_iff.2 ?_⟩
      obtain ⟨n, hn⟩ := KeyMap.mem_keys_iff.1 ((hnames e.1).2 (List.mem_map_of_mem he))
      exact ⟨n, hn, haccepts e.1 e.2 (KeyMap.get?_eq_some_of_mem he) n hn⟩

theorem holds_potionEquals_iff {levels : EffectLevels} :
    (potionEquals levels).holds s = true ↔
      (∀ e, e ∈ s.effects.map AppliedEffect.effect ↔ e ∈ levels.keys)
        ∧ ∀ e level, levels.get? e = some level →
            ∃ a ∈ s.effects, a.effect = e ∧ level.accepts a.level = true := by
  unfold holds Stack.effects
  dsimp only
  cases s.potion? with
  | none => exact isEmpty_iff_of_no_names
  | some p =>
    simp only [Option.elim_some, Bool.and_eq_true, List.all_eq_true, KeyMap.contains_iff, hasEffect_iff,
      List.mem_map]
    constructor
    · rintro ⟨hknown, hall⟩
      have hhas {e : PotionEffect} {level : Level} (hlevel : levels.get? e = some level) :
          ∃ a ∈ p.effects, a.effect = e ∧ level.accepts a.level = true :=
        hall (e, level) (KeyMap.mem_of_get?_eq_some hlevel)
      refine ⟨fun e => ⟨?_, fun he => ?_⟩, fun e level => hhas⟩
      · rintro ⟨a, ha, rfl⟩
        exact hknown a ha
      · obtain ⟨level, hlevel⟩ := KeyMap.mem_keys_iff.1 he
        obtain ⟨a, ha, hname, -⟩ := hhas hlevel
        exact ⟨a, ha, hname⟩
    · rintro ⟨hnames, haccepts⟩
      refine ⟨fun a ha => (hnames a.effect).1 ⟨a, ha, rfl⟩, fun e he => ?_⟩
      exact haccepts e.1 e.2 (KeyMap.get?_eq_some_of_mem he)

/--
The conditions on all enchantments and on all effects ask for the same, although an enchantment has one
level and an effect may be applied at several ones.
-/
theorem holds_equals_iff_metExactly (s : Stack) :
    (∀ levels : EnchantmentLevels, (enchantmentEquals levels).holds s = true ↔
        levels.MetExactly fun e n => s.level? e = some n)
      ∧ ∀ levels : EffectLevels, (potionEquals levels).holds s = true ↔
          levels.MetExactly fun e n => ⟨e, n⟩ ∈ s.effects := by
  constructor
  · intro levels
    rw [holds_enchantmentEquals_iff]
    constructor
    · rintro ⟨hnames, haccepts⟩
      refine ⟨fun e => KeyMap.mem_keys_iff.symm.trans (hnames e), fun e level hlevel => ?_⟩
      have hthere : e ∈ s.enchantments.keys := (hnames e).2 (KeyMap.mem_keys_iff.2 ⟨level, hlevel⟩)
      obtain ⟨n, hn⟩ := KeyMap.mem_keys_iff.1 hthere
      exact ⟨n, hn, haccepts e level hlevel n hn⟩
    · rintro ⟨hnames, haccepts⟩
      refine ⟨fun e => KeyMap.mem_keys_iff.trans (hnames e), fun e level hlevel n hn => ?_⟩
      -- the stack has no other level that could be the accepted one
      obtain ⟨m, hm, hlevel⟩ := haccepts e level hlevel
      obtain rfl : m = n := Option.some.inj (hm.symm.trans hn)
      exact hlevel
  · intro levels
    have happlied (e : PotionEffect) (p : UInt32 → Prop) :
        (∃ a ∈ s.effects, a.effect = e ∧ p a.level) ↔ ∃ n, ⟨e, n⟩ ∈ s.effects ∧ p n := by
      constructor
      · rintro ⟨⟨_, n⟩, ha, rfl, hn⟩
        exact ⟨n, ha, hn⟩
      · rintro ⟨n, ha, hn⟩
        exact ⟨⟨e, n⟩, ha, rfl, hn⟩
    have hnamed (e : PotionEffect) :
        e ∈ s.effects.map AppliedEffect.effect ↔ ∃ n, ⟨e, n⟩ ∈ s.effects := by
      simpa using happlied e fun _ => True
    rw [holds_potionEquals_iff]
    constructor
    · rintro ⟨hnames, haccepts⟩
      refine ⟨fun e => (hnamed e).symm.trans (hnames e), fun e level hlevel => ?_⟩
      exact (happlied e fun n => level.accepts n = true).1 (haccepts e level hlevel)
    · rintro ⟨hnames, haccepts⟩
      refine ⟨fun e => (hnamed e).trans (hnames e), fun e level hlevel => ?_⟩
      exact (happlied e fun n => level.accepts n = true).2 (haccepts e level hlevel)

end Predicate

end Embargo
