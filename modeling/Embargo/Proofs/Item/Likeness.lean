import Embargo.Item.Identity
import Embargo.Proofs.Item.Requirements

/-!
This module contains which stacks the identity that is captured from a stack is about: those that show
every part of the metadata that it shows. A part that it does not have is not looked at.
-/

namespace Embargo

inductive Metadata.Part where
  | displayName
  | lore
  | enchantments
  | effects
  | modelData

theorem Metadata.Part.forall_iff {P : Metadata.Part → Prop} :
    (∀ part, P part) ↔ P .displayName ∧ P .lore ∧ P .enchantments ∧ P .effects ∧ P .modelData := by
  constructor
  · exact fun h => ⟨h _, h _, h _, h _, h _⟩
  · rintro ⟨hname, hlore, henchantments, heffects, hdata⟩ (_ | _)
    all_goals assumption

namespace Stack

open Metadata (Part)

def Has (s : Stack) : Part → Prop
  | .displayName => s.displayName?.isSome
  | .lore => s.lore ≠ []
  | .enchantments => s.enchantments.keys ≠ []
  | .effects => s.effects ≠ []
  | .modelData => s.modelData?.isSome

theorem has_effects_iff {s : Stack} :
    s.Has .effects ↔ ∃ p, s.potion? = some p ∧ p.effects ≠ [] := by
  unfold Has effects
  cases s.potion? <;> simp

def Agrees (t s : Stack) : Part → Prop
  | .displayName => t.displayName? = s.displayName?
  | .lore => t.lore = s.lore
  | .enchantments => ∀ e, e ∈ t.enchantments.keys ↔ e ∈ s.enchantments.keys
  | .effects => ∀ e, e ∈ t.effects.map AppliedEffect.effect ↔ e ∈ s.effects.map AppliedEffect.effect
  | .modelData => t.modelData? = s.modelData?

/--
The levels of a part are those of another stack, where zero stands for any level. Of an effect that the
other stack has several times the last one counts, and it may be any one of this stack.
-/
def FollowsLevels (t s : Stack) : Part → Prop
  | .enchantments => ∀ e n m, s.level? e = some n → t.level? e = some m → n = 0 ∨ m = n
  | .effects => ∀ a, Unrevoked (fun b => b.effect = a.effect) s.effects a →
      ∃ b ∈ t.effects, b.effect = a.effect ∧ (a.level = 0 ∨ b.level = a.level)
  | _ => True

structure Resembles (legacy : Bool) (t s : Stack) : Prop where
  material : t.material = s.material
  damage : legacy = true → t.damage = s.damage
  parts : ∀ part, s.Has part → t.Agrees s part ∧ t.FollowsLevels s part

def SameIn (t s : Stack) : Part → Prop
  | .displayName => t.displayName? = s.displayName?
  | .lore => t.lore = s.lore
  | .enchantments => t.enchantments = s.enchantments
  | .effects => t.effects = s.effects
  | .modelData => t.modelData? = s.modelData?

variable {s t : Stack} {legacy : Bool}

theorem SameIn.refl (s : Stack) (part : Part) : s.SameIn s part := by
  cases part <;> rfl

theorem SameIn.agrees {part : Part} (h : t.SameIn s part) : t.Agrees s part := by
  cases part with
  | displayName => exact h
  | lore => exact h
  | enchantments => exact fun e => by rw [show t.enchantments = s.enchantments from h]
  | effects => exact fun e => by rw [show t.effects = s.effects from h]
  | modelData => exact h

theorem SameIn.followsLevels {part : Part} (h : t.SameIn s part) : t.FollowsLevels s part := by
  cases part with
  | enchantments =>
    intro e n m hn hm
    have hlevel : t.level? e = s.level? e := congrArg (KeyMap.get? · e) h
    exact .inr (Option.some.inj (hm.symm.trans (hlevel.trans hn)))
  | effects =>
    intro a ha
    have heffects : t.effects = s.effects := h
    exact ⟨a, heffects ▸ ha.mem, rfl, .inr rfl⟩
  | _ => trivial

theorem resembles_of_sameIn (hmaterial : t.material = s.material) (hdamage : t.damage = s.damage)
    (h : ∀ part, s.Has part → t.SameIn s part) : t.Resembles legacy s :=
  ⟨hmaterial, fun _ => hdamage, fun part hpart =>
    ⟨(h part hpart).agrees, (h part hpart).followsLevels⟩⟩

theorem enchantments_withEnchantment (s : Stack) (name : String) (level : UInt32) :
    (s.withEnchantment name level).enchantments = s.enchantments.insert (.ofText name) level := by
  obtain ⟨material, amount, damage, _ | m⟩ := s <;> rfl

theorem effects_withPotionEffect (s : Stack) (name : String) (level : UInt32) :
    (s.withPotionEffect name level).effects = s.effects ++ [⟨.ofText name, level⟩] := by
  obtain ⟨material, amount, damage, _ | ⟨displayName, lore, enchantments, _ | p, modelData⟩⟩ := s
  · rfl
  · rfl
  · exact (List.append_assoc _ _ _).symm

def adorn (s : Stack) : Part → Stack
  | .displayName => s.withDisplayName ""
  | .lore => s.withLore [""]
  | .enchantments => s.withEnchantment "" 1
  | .effects => s.withPotionEffect "" 1
  | .modelData => s.withModelData 0

theorem material_adorn (s : Stack) (part : Part) : (s.adorn part).material = s.material := by
  cases part <;> rfl

theorem damage_adorn (s : Stack) (part : Part) : (s.adorn part).damage = s.damage := by
  cases part <;> rfl

theorem sameIn_adorn {part other : Part} (h : other ≠ part) : (s.adorn part).SameIn s other := by
  obtain ⟨material, amount, damage, _ | m⟩ := s
  all_goals
    cases part <;> cases other
    all_goals first | rfl | exact absurd rfl h

theorem not_agrees_adorn {part : Part} (h : ¬ s.Has part) : ¬ (s.adorn part).Agrees s part := by
  intro hagrees
  apply h
  cases part with
  | displayName => exact Option.isSome_iff_exists.2 ⟨"", hagrees.symm⟩
  | lore =>
    have hlore : [""] = s.lore := hagrees
    exact List.ne_nil_of_mem (hlore ▸ List.mem_singleton_self "")
  | enchantments =>
    have hkey : .ofText "" ∈ (s.withEnchantment "" 1).enchantments.keys := by
      rw [enchantments_withEnchantment, KeyMap.mem_keys_iff]
      exact ⟨1, by rw [KeyMap.get?_insert, if_pos rfl]⟩
    exact List.ne_nil_of_mem ((hagrees _).1 hkey)
  | effects =>
    have heffect : .ofText "" ∈ (s.withPotionEffect "" 1).effects.map AppliedEffect.effect := by
      rw [effects_withPotionEffect, List.map_append]
      exact List.mem_append_right _ (List.mem_singleton_self _)
    have hnames := List.ne_nil_of_mem ((hagrees _).1 heffect)
    exact fun hnil => hnames (List.map_eq_nil_iff.2 hnil)
  | modelData => exact Option.isSome_iff_exists.2 ⟨0, hagrees.symm⟩

end Stack

namespace Specimen

variable {s t : Stack} {legacy : Bool}

def captured (s : Stack) (legacy : Bool) : List Predicate :=
  (if legacy then [.durability s.damage] else []) ++ s.metadata.elim [] conditions

theorem identity_capture (s : Stack) (legacy : Bool) :
    (capture s legacy).identity = (captured s legacy).foldl Identity.withPredicate (.plain s.material) := by
  cases legacy <;> rfl

theorem material_capture (s : Stack) (legacy : Bool) :
    (capture s legacy).identity.material = s.material := by
  rw [identity_capture, Identity.foldl_withPredicate]
  rfl

theorem sublist_kinds_captured (s : Stack) (legacy : Bool) :
    ((captured s legacy).map Predicate.kind).Sublist
      ([.durability] ++ ([.displayNameEquals] ++ [.loreEquals] ++ [.enchantmentEquals]
        ++ [.potionEquals] ++ [.modelDataEquals])) := by
  unfold captured
  rw [List.map_append]
  apply List.Sublist.append
  · cases legacy <;> simp [Predicate.kind]
  · cases s.metadata with
    | none => exact List.nil_sublist _
    | some m =>
      rw [Option.elim_some, conditions, List.map_append, List.map_append, List.map_append,
        List.map_append]
      refine .append (.append (.append (.append ?_ ?_) ?_) ?_) ?_
      · cases m.displayName <;> simp [Predicate.kind]
      · split <;> simp [Predicate.kind]
      · split <;> simp [Predicate.kind]
      · cases m.potion with
        | none => exact List.nil_sublist _
        | some p =>
          rw [Option.elim_some]
          split <;> simp [Predicate.kind]
      · cases m.modelData <;> simp [Predicate.kind]

theorem mem_identity_iff_mem_captured {p : Predicate} :
    p ∈ (capture s legacy).identity.predicates.toList ↔ p ∈ captured s legacy := by
  have hnodup : ((captured s legacy).map Predicate.kind).Nodup :=
    List.Nodup.sublist (sublist_kinds_captured s legacy) (by decide)
  rw [identity_capture, Identity.foldl_withPredicate]
  exact ⟨Predicates.mem_of_mem_toList_foldl_insert, Predicates.mem_toList_foldl_insert hnodup⟩

theorem mem_keys_effectLevels {p : Potion} {e : PotionEffect} :
    e ∈ (effectLevels p).keys ↔ e ∈ p.effects.map AppliedEffect.effect := by
  rw [← KeyMap.contains_iff, effectLevels, KeyMap.contains_ofList]
  simp

theorem isEmpty_effectLevels_iff {p : Potion} : (effectLevels p).isEmpty = true ↔ p.effects = [] := by
  rw [KeyMap.isEmpty_iff, List.eq_nil_iff_forall_not_mem]
  simp only [mem_keys_effectLevels, ← List.eq_nil_iff_forall_not_mem, List.map_eq_nil_iff]

theorem get?_effectLevels_eq_some_iff {p : Potion} {e : PotionEffect} {level : Level} :
    (effectLevels p).get? e = some level ↔
      ∃ a, Unrevoked (fun b => b.effect = e) p.effects a ∧ a.effect = e ∧ .ofNumber a.level = level := by
  rw [effectLevels, KeyMap.get?_ofList_eq_some_iff, unrevoked_map]
  simp only [Prod.mk.injEq]
  exact exists_congr fun a => and_comm

theorem forall_mem_captured {P : Predicate → Prop} :
    (∀ p ∈ captured s legacy, P p) ↔
      (legacy = true → P (.durability s.damage))
        ∧ (∀ name, s.displayName? = some name → P (.displayNameEquals name))
        ∧ (s.lore ≠ [] → P (.loreEquals s.lore))
        ∧ (s.enchantments.keys ≠ [] →
            P (.enchantmentEquals (s.enchantments.mapValues .ofNumber)))
        ∧ (∀ p, s.potion? = some p → p.effects ≠ [] → P (.potionEquals (effectLevels p)))
        ∧ ∀ data, s.modelData? = some data → P (.modelDataEquals data) := by
  have hdamage : (∀ p ∈ if legacy then [Predicate.durability s.damage] else [], P p) ↔
      (legacy = true → P (.durability s.damage)) := by
    cases legacy <;> simp
  unfold captured
  rw [List.forall_mem_append, hdamage]
  refine and_congr_right' ?_
  unfold Stack.displayName? Stack.lore Stack.enchantments Stack.potion? Stack.modelData?
  cases s.metadata with
  | none => simp [KeyMap.keys, EmptyCollection.emptyCollection, KeyMap.empty]
  | some m =>
    simp only [Option.elim_some, Option.bind_some, conditions, List.forall_mem_append, and_assoc]
    refine and_congr ?_ (and_congr ?_ (and_congr ?_ (and_congr ?_ ?_)))
    · simp
    · simp
    · simp [KeyMap.isEmpty, KeyMap.keys]
    · cases m.potion with
      | none => simp
      | some p => by_cases heffects : p.effects = [] <;> simp [heffects, isEmpty_effectLevels_iff]
    · simp

theorem holds_enchantments_iff :
    (Predicate.enchantmentEquals (s.enchantments.mapValues .ofNumber)).holds t = true ↔
      t.Agrees s .enchantments ∧ t.FollowsLevels s .enchantments := by
  rw [Predicate.holds_enchantmentEquals_iff, KeyMap.keys_mapValues]
  refine and_congr_right' (forall_congr' fun e => ?_)
  simp only [KeyMap.get?_mapValues, Option.map_eq_some_iff]
  constructor
  · intro h n m hn
    exact fun hm => Level.accepts_ofNumber_iff.1 (h _ ⟨n, hn, rfl⟩ m hm)
  · rintro h _ ⟨n, hn, rfl⟩ m hm
    exact Level.accepts_ofNumber_iff.2 (h n m hn hm)

theorem holds_effects_iff {p : Potion} (hp : s.potion? = some p) :
    (Predicate.potionEquals (effectLevels p)).holds t = true ↔
      t.Agrees s .effects ∧ t.FollowsLevels s .effects := by
  have heffects : s.effects = p.effects := by simp [Stack.effects, hp]
  unfold Stack.Agrees Stack.FollowsLevels
  simp only [Predicate.holds_potionEquals_iff, mem_keys_effectLevels, get?_effectLevels_eq_some_iff,
    heffects]
  refine and_congr_right' ?_
  constructor
  · intro h a ha
    obtain ⟨b, hb, hname, haccepts⟩ := h a.effect _ ⟨a, ha, rfl, rfl⟩
    exact ⟨b, hb, hname, Level.accepts_ofNumber_iff.1 haccepts⟩
  · rintro h _ _ ⟨a, ha, rfl, rfl⟩
    obtain ⟨b, hb, hname, hlevel⟩ := h a ha
    exact ⟨b, hb, hname, Level.accepts_ofNumber_iff.2 hlevel⟩

theorem holds_conditions_iff :
    (∀ p ∈ captured s legacy, p.holds t = true) ↔
      (legacy = true → t.damage = s.damage)
        ∧ ∀ part, s.Has part → t.Agrees s part ∧ t.FollowsLevels s part := by
  rw [forall_mem_captured, Metadata.Part.forall_iff]
  refine and_congr ?damage (and_congr ?displayName (and_congr ?lore (and_congr ?enchantments
    (and_congr ?effects ?modelData))))
  case damage => exact imp_congr_right fun _ => beq_iff_eq
  case displayName =>
    simp only [Stack.Has, Option.isSome_iff_exists, forall_exists_index]
    refine forall₂_congr fun name hname => ?_
    simp [Predicate.holds, Stack.Agrees, Stack.FollowsLevels, hname]
  case lore => simp [Predicate.holds, Stack.Has, Stack.Agrees, Stack.FollowsLevels]
  case enchantments => exact imp_congr_right fun _ => holds_enchantments_iff
  case effects =>
    rw [Stack.has_effects_iff]
    simp only [forall_exists_index, and_imp]
    exact forall₂_congr fun p hp => imp_congr_right fun _ => holds_effects_iff hp
  case modelData =>
    simp only [Stack.Has, Option.isSome_iff_exists, forall_exists_index]
    refine forall₂_congr fun data hdata => ?_
    simp [Predicate.holds, Stack.Agrees, Stack.FollowsLevels, hdata]

theorem holds_capture_iff : (capture s legacy).identity.holds t = true ↔ t.Resembles legacy s := by
  unfold Identity.holds
  rw [material_capture, Bool.and_eq_true, beq_iff_eq, List.all_eq_true]
  simp only [mem_identity_iff_mem_captured]
  rw [holds_conditions_iff]
  constructor
  · rintro ⟨hmaterial, hdamage, hparts⟩
    exact ⟨hmaterial, hdamage, hparts⟩
  · rintro ⟨hmaterial, hdamage, hparts⟩
    exact ⟨hmaterial, hdamage, hparts⟩

theorem holds_capture (s : Stack) (legacy : Bool) : (capture s legacy).identity.holds s = true :=
  holds_capture_iff.2 (Stack.resembles_of_sameIn rfl rfl fun part _ => .refl s part)

/--
A captured identity is about exactly the stacks that show everything that the captured one shows, of which
it is one.
-/
theorem holds_capture_iff_resembles (s t : Stack) (legacy : Bool) :
    ((capture s legacy).identity.holds t = true ↔ t.Resembles legacy s)
      ∧ (capture s legacy).identity.holds s = true :=
  ⟨holds_capture_iff, holds_capture s legacy⟩

/--
A captured identity fixes the parts of the metadata that the captured stack has, and leaves those open that
it does not have: the stacks that it is about are alike in a part if and only if the captured one has it.
-/
theorem capture_fixes_iff (s : Stack) (legacy : Bool) (part : Metadata.Part) :
    (∀ t, (capture s legacy).identity.holds t = true → t.Agrees s part) ↔ s.Has part := by
  constructor
  · intro hfixed
    by_contra hmissing
    have hadorned : (s.adorn part).Resembles legacy s := by
      apply Stack.resembles_of_sameIn (s.material_adorn part) (s.damage_adorn part)
      intro other hother
      apply Stack.sameIn_adorn
      rintro rfl
      exact hmissing hother
    exact Stack.not_agrees_adorn hmissing (hfixed _ (holds_capture_iff.2 hadorned))
  · intro hpart t ht
    exact ((holds_capture_iff.1 ht).parts part hpart).1

/--
What is captured from a sword without metadata is also about a sword with a name and an enchantment.
-/
theorem capture_plain_sword :
    let sword : Stack := { material := ⟨"diamond_sword"⟩ }
    let excalibur := (sword.withDisplayName "Excalibur").withEnchantment "sharpness" 5
    (capture sword false).identity.holds excalibur = true
      ∧ ¬ excalibur.Agrees sword .displayName ∧ ¬ excalibur.Agrees sword .enchantments := by
  intro sword excalibur
  refine ⟨by decide, Option.some_ne_none "Excalibur", fun hagrees => ?_⟩
  have hkey : ⟨"sharpness"⟩ ∈ excalibur.enchantments.keys := by decide
  exact List.not_mem_nil ((hagrees _).1 hkey)

end Specimen

end Embargo
