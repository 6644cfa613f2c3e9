import Embargo.Proofs.Item.Requirements

/-!
This module contains which conditions follow from others: a condition on a whole name, a whole lore, all
enchantments or all effects implies those on parts of it, and a condition on levels loses no stack if some
of the levels do not matter any more.
-/

namespace Embargo

def Level.widenIf (chosen : Bool) (level : Level) : Level :=
  if chosen then .any else level

theorem Level.accepts_widenIf {level : Level} {n : UInt32} (chosen : Bool)
    (h : level.accepts n = true) : (level.widenIf chosen).accepts n = true := by
  cases chosen with
  | false => exact h
  | true => rfl

namespace KeyMap

variable {r : Registry}

def widen (chosen : Key r → Bool) (levels : KeyMap r Level) : KeyMap r Level where
  entries := levels.entries.map fun e => (e.1, e.2.widenIf (chosen e.1))
  sorted := List.pairwise_map.2 levels.sorted

@[simp]
theorem keys_widen {chosen : Key r → Bool} {levels : KeyMap r Level} :
    (levels.widen chosen).keys = levels.keys := by
  simp [keys, widen]

@[simp]
theorem get?_widen {chosen : Key r → Bool} {levels : KeyMap r Level} {k : Key r} :
    (levels.widen chosen).get? k = (levels.get? k).map (Level.widenIf (chosen k)) := by
  have hfind (es : List (Key r × Level)) :
      find? k (es.map fun e => (e.1, e.2.widenIf (chosen e.1))) =
        (find? k es).map (Level.widenIf (chosen k)) := by
    induction es with
    | nil => rfl
    | cons e es ih => by_cases hk : e.1 = k <;> simp [find?, hk, ih]
  exact hfind levels.entries

theorem exists_of_get?_widen {chosen : Key r → Bool} {levels : KeyMap r Level} {k : Key r} {wide : Level}
    (h : (levels.widen chosen).get? k = some wide) :
    ∃ level, levels.get? k = some level ∧ ∀ n, level.accepts n = true → wide.accepts n = true := by
  rw [get?_widen] at h
  obtain ⟨level, hlevel, rfl⟩ := Option.map_eq_some_iff.1 h
  exact ⟨level, hlevel, fun n => Level.accepts_widenIf (chosen k)⟩

theorem exists_get?_widen (chosen : Key r → Bool) {levels : KeyMap r Level} {k : Key r} {level : Level}
    (h : levels.get? k = some level) :
    ∃ wide, (levels.widen chosen).get? k = some wide
      ∧ ∀ n, level.accepts n = true → wide.accepts n = true := by
  refine ⟨level.widenIf (chosen k), ?_, fun n => Level.accepts_widenIf (chosen k)⟩
  rw [get?_widen, h]
  rfl

theorem exists_get?_of_ne_empty {υ : Type} {m : KeyMap r υ} (h : m ≠ ∅) :
    ∃ k v, m.get? k = some v := by
  have hentries : m.entries ≠ [] := fun hnil => h (eq_of_entries hnil)
  obtain ⟨e, he⟩ := List.exists_mem_of_ne_nil _ hentries
  exact ⟨e.1, e.2, get?_eq_some_of_mem he⟩

end KeyMap

namespace Predicate

inductive Weakens : Predicate → Predicate → Prop
  | displayName {text part : String} (hpart : part.toList <:+: text.toList) :
    Weakens (displayNameEquals text) (displayNameContains part)
  | lore (lines : List String) : Weakens (loreEquals lines) (loreContains lines)
  | loreLine {lines : List String} {line part : String} (hline : line ∈ lines)
    (hpart : part.toList <:+: line.toList) : Weakens (loreEquals lines) (loreLineContains part)
  /-- no requirements are met by a stack without enchantments, but then none of them is there -/
  | someEnchantment {levels : EnchantmentLevels} (hlevels : levels ≠ ∅) :
    Weakens (enchantmentEquals levels) (enchantmentContains levels)
  | someEffect {levels : EffectLevels} (hlevels : levels ≠ ∅) : Weakens (potionEquals levels) (potion levels)
  | wideEnchantmentEquals (levels : EnchantmentLevels) (chosen : Enchantment → Bool) :
    Weakens (enchantmentEquals levels) (enchantmentEquals (levels.widen chosen))
  | wideEnchantmentContains (levels : EnchantmentLevels) (chosen : Enchantment → Bool) :
    Weakens (enchantmentContains levels) (enchantmentContains (levels.widen chosen))
  | widePotionEquals (levels : EffectLevels) (chosen : PotionEffect → Bool) :
    Weakens (potionEquals levels) (potionEquals (levels.widen chosen))
  | widePotion (levels : EffectLevels) (chosen : PotionEffect → Bool) :
    Weakens (potion levels) (potion (levels.widen chosen))

variable {s : Stack}

theorem contains_iff {text part : String} :
    contains text part = true ↔ part.toList <:+: text.toList :=
  Text.occursIn_iff

theorem holds_enchantmentContains_iff {levels : EnchantmentLevels} :
    (enchantmentContains levels).holds s = true ↔
      ∃ e level, levels.get? e = some level ∧ ∃ n, s.level? e = some n ∧ level.accepts n = true := by
  unfold holds
  simp only [List.any_eq_true, hasEnchantment_iff]
  constructor
  · rintro ⟨e, he, hhas⟩
    exact ⟨e.1, e.2, KeyMap.get?_eq_some_of_mem he, hhas⟩
  · rintro ⟨e, level, hlevel, hhas⟩
    exact ⟨(e, level), KeyMap.mem_of_get?_eq_some hlevel, hhas⟩

theorem holds_potion_iff {levels : EffectLevels} :
    (potion levels).holds s = true ↔
      ∃ e level, levels.get? e = some level
        ∧ ∃ a ∈ s.effects, a.effect = e ∧ level.accepts a.level = true := by
  unfold holds Stack.effects
  dsimp only
  cases s.potion? with
  | none => simp
  | some p =>
    simp only [Option.any_some, Option.elim_some, List.any_eq_true, hasEffect_iff]
    constructor
    · rintro ⟨e, he, hhas⟩
      exact ⟨e.1, e.2, KeyMap.get?_eq_some_of_mem he, hhas⟩
    · rintro ⟨e, level, hlevel, hhas⟩
      exact ⟨(e, level), KeyMap.mem_of_get?_eq_some hlevel, hhas⟩

/--
A stack that satisfies a condition satisfies each one that asks for no more.
-/
theorem holds_of_weakens {p q : Predicate} (h : p.Weakens q) (hp : p.holds s = true) :
    q.holds s = true := by
  cases h with
  | displayName hpart =>
    simp only [holds, beq_iff_eq] at hp
    simpa only [holds, hp, Option.any_some] using contains_iff.2 hpart
  | lore lines =>
    simp only [holds, beq_iff_eq] at hp
    simp [holds, hp]
  | loreLine hline hpart =>
    simp only [holds, beq_iff_eq] at hp
    simp only [holds, hp, List.any_eq_true]
    exact ⟨_, hline, contains_iff.2 hpart⟩
  | someEnchantment hlevels =>
    -- some name is required, and it has to be there at an accepted level
    obtain ⟨hnames, haccepts⟩ := holds_enchantmentEquals_iff.1 hp
    obtain ⟨e, level, hlevel⟩ := KeyMap.exists_get?_of_ne_empty hlevels
    have hthere : e ∈ s.enchantments.keys := (hnames e).2 (KeyMap.mem_keys_iff.2 ⟨level, hlevel⟩)
    obtain ⟨n, hn⟩ := KeyMap.mem_keys_iff.1 hthere
    exact holds_enchantmentContains_iff.2 ⟨e, level, hlevel, n, hn, haccepts e level hlevel n hn⟩
  | someEffect hlevels =>
    obtain ⟨-, haccepts⟩ := holds_potionEquals_iff.1 hp
    obtain ⟨e, level, hlevel⟩ := KeyMap.exists_get?_of_ne_empty hlevels
    exact holds_potion_iff.2 ⟨e, level, hlevel, haccepts e level hlevel⟩
  | wideEnchantmentEquals levels chosen =>
    obtain ⟨hnames, haccepts⟩ := holds_enchantmentEquals_iff.1 hp
    rw [holds_enchantmentEquals_iff, KeyMap.keys_widen]
    refine ⟨hnames, fun e wide hwide n hn => ?_⟩
    obtain ⟨level, hlevel, hwider⟩ := KeyMap.exists_of_get?_widen hwide
    exact hwider n (haccepts e level hlevel n hn)
  | wideEnchantmentContains levels chosen =>
    obtain ⟨e, level, hlevel, n, hn, haccepts⟩ := holds_enchantmentContains_iff.1 hp
    obtain ⟨wide, hwide, hwider⟩ := KeyMap.exists_get?_widen chosen hlevel
    exact holds_enchantmentContains_iff.2 ⟨e, wide, hwide, n, hn, hwider n haccepts⟩
  | widePotionEquals levels chosen =>
    obtain ⟨hnames, haccepts⟩ := holds_potionEquals_iff.1 hp
    rw [holds_potionEquals_iff, KeyMap.keys_widen]
    refine ⟨hnames, fun e wide hwide => ?_⟩
    obtain ⟨level, hlevel, hwider⟩ := KeyMap.exists_of_get?_widen hwide
    obtain ⟨a, ha, he, hlevel⟩ := haccepts e level hlevel
    exact ⟨a, ha, he, hwider a.level hlevel⟩
  | widePotion levels chosen =>
    obtain ⟨e, level, hlevel, a, ha, he, haccepts⟩ := holds_potion_iff.1 hp
    obtain ⟨wide, hwide, hwider⟩ := KeyMap.exists_get?_widen chosen hlevel
    exact holds_potion_iff.2 ⟨e, wide, hwide, a, ha, he, hwider a.level haccepts⟩

theorem holds_of_weakens_doubled :
    let levels : EffectLevels := .ofList [(⟨"haste"⟩, .any), (⟨"speed"⟩, .exact 2)]
    let effects : Potion := { base := some ⟨⟨"speed"⟩, 1⟩, extra := [⟨⟨"speed"⟩, 2⟩, ⟨⟨"haste"⟩, 1⟩] }
    let s : Stack := { material := ⟨"potion"⟩, metadata := some { potion := some effects } }
    (potionEquals levels).holds s = true
      ∧ (potionEquals levels).Weakens (potion levels) ∧ (potion levels).holds s = true
      ∧ (potionEquals (levels.widen (·.name == "speed"))).holds s = true := by
  intro levels effects s
  have hequals : (potionEquals levels).holds s = true := by decide +kernel
  have hsome : (potionEquals levels).Weakens (potion levels) := .someEffect (by decide +kernel)
  refine ⟨hequals, hsome, holds_of_weakens hsome hequals, ?_⟩
  exact holds_of_weakens (.widePotionEquals levels (·.name == "speed")) hequals

end Predicate

end Embargo
