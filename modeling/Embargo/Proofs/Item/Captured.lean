import Embargo.Proofs.Item.Conditions
import Embargo.Proofs.Item.Likeness

/-!
This module contains what becomes of the identity that is captured from a stack when it is read back from
its entry: it is about the stack if and only if all names in the stack stand for themselves.
-/

namespace Embargo

open Yaml (Value)

structure Stack.Known (scope : Scope) (s : Stack) : Prop where
  material : scope.Knows s.material
  enchantments : ∀ k ∈ s.enchantments.keys, scope.Knows k
  effects : ∀ p, s.potion? = some p → ∀ a ∈ p.effects, scope.Knows a.effect

namespace Specimen

variable {scope : Scope} {s : Stack}

theorem readable_capture (h : s.Known scope) (legacy : Bool) :
    (capture s legacy).identity.Readable scope where
  material := by
    rw [material_capture]
    exact h.material
  conditions p hp := by
    revert p
    simp only [mem_identity_iff_mem_captured]
    refine forall_mem_captured.2 ⟨fun _ => trivial, fun _ _ => trivial, fun _ => trivial, ?_, ?_,
      fun _ _ => trivial⟩
    · intro hne
      refine ⟨?_, ?_, ?_⟩
      · simpa [KeyMap.mapValues, KeyMap.keys] using hne
      · intro e he
        obtain ⟨d, hd, rfl⟩ := List.mem_map.1 he
        exact h.enchantments d.1 (List.mem_map_of_mem hd)
      · -- a level of zero is captured as any level, which is what it is read back as
        intro e he
        obtain ⟨d, hd, rfl⟩ := List.mem_map.1 he
        apply Level.ofNumber_ne_exact_zero
    · intro p hp hne
      refine ⟨?_, ?_, ?_⟩
      · exact fun hnil => hne (isEmpty_effectLevels_iff.1 (List.isEmpty_iff.2 hnil))
      · intro e he
        obtain ⟨a, ha, rfl⟩ := List.mem_map.1 (KeyMap.mem_of_mem_entries_ofList he)
        exact h.effects p hp a ha
      · intro e he
        obtain ⟨a, ha, rfl⟩ := List.mem_map.1 (KeyMap.mem_of_mem_entries_ofList he)
        apply Level.ofNumber_ne_exact_zero

end Specimen

namespace Identity

variable {scope : Scope}

theorem exists_of_readConditions {path : Path} {ps qs : List Predicate}
    (h : (readConditions scope path (ps.map fun p => (p.kind.key, p.toValue))).value = some qs) :
    qs.map Predicate.kind = ps.map Predicate.kind ∧ ∀ p ∈ ps, ∃ q ∈ qs,
      (Predicate.ofPayload? scope (path.push p.kind.key) p.toValue p.kind).value = some q := by
  induction ps generalizing qs with
  | nil =>
    cases h
    exact ⟨rfl, fun p hp => nomatch hp⟩
  | cons p ps ih =>
    obtain ⟨q, others, hq, hothers, rfl⟩ := readConditions_cons_eq_some h
    dsimp only at hq
    unfold readCondition at hq
    rw [PredicateKind.ofText?_key] at hq
    dsimp only at hq
    rw [Predicate.value_read] at hq
    obtain ⟨hkinds, hps⟩ := ih hothers
    constructor
    · rw [List.map_cons, List.map_cons, hkinds, Predicate.kind_of_ofPayload? hq]
    · refine List.forall_mem_cons.2 ⟨⟨q, List.mem_cons_self, hq⟩, fun p hp => ?_⟩
      obtain ⟨d, hd, hread⟩ := hps p hp
      exact ⟨d, List.mem_cons_of_mem q hd, hread⟩

theorem exists_of_read_fields {path : Path} {i again : Identity}
    (h : (read scope path (i.fields.map fun f => (.text f.1, f.2))).value = some again) :
    scope.key? .material i.material.name = some again.material
      ∧ ∀ p ∈ i.predicates.toList, ∃ q ∈ again.predicates.toList,
        (Predicate.ofPayload? scope (path.push p.kind.key) p.toValue p.kind).value = some q := by
  rw [read_fields_eq] at h
  split at h
  · cases h
  · next m hm =>
    rw [Load.value_bind_pure] at h
    obtain ⟨qs, hqs, rfl⟩ := Option.map_eq_some_iff.1 h
    obtain ⟨hkinds, hps⟩ := exists_of_readConditions hqs
    have hnodup : (qs.map Predicate.kind).Nodup := by
      rw [hkinds]
      exact i.predicates.nodup_kinds_toList
    rw [foldl_withPredicate]
    refine ⟨hm, fun p hp => ?_⟩
    obtain ⟨q, hq, hread⟩ := hps p hp
    exact ⟨q, Predicates.mem_toList_foldl_insert hnodup hq, hread⟩

end Identity

namespace Specimen

variable {scope : Scope} {s : Stack} {legacy : Bool}

theorem known_of_holds (hroster : scope.roster.Canonical) {path : Path} {again : Identity}
    (h : (Identity.read scope path ((capture s legacy).identity.fields.map fun f =>
      (.text f.1, f.2))).value = some again)
    (hholds : again.holds s = true) : s.Known scope := by
  obtain ⟨hmaterial, hpayloads⟩ := Identity.exists_of_read_fields h
  unfold Identity.holds at hholds
  rw [Bool.and_eq_true, beq_iff_eq, List.all_eq_true] at hholds
  obtain ⟨hsame, hall⟩ := hholds
  rw [material_capture, ← hsame] at hmaterial
  -- each condition is read back as one of its kind that the stack satisfies as well
  have hconditions : ∀ p ∈ captured s legacy,
      ∃ q : Predicate, q.kind = p.kind ∧ q.Readable scope ∧ q.holds s = true := by
    intro p hp
    obtain ⟨q, hq, hpayload⟩ := hpayloads p (mem_identity_iff_mem_captured.2 hp)
    exact ⟨q, Predicate.kind_of_ofPayload? hpayload,
      Predicate.readable_of_ofPayload? hroster hpayload, hall q hq⟩
  obtain ⟨-, -, -, henchantments, heffects, -⟩ := forall_mem_captured.1 hconditions
  refine ⟨hmaterial, ?_, ?_⟩
  · intro k hk
    obtain ⟨q, hkind, hreadable, hq⟩ := henchantments (List.ne_nil_of_mem hk)
    cases q <;> cases hkind
    exact hreadable.knows_of_mem_keys (((Predicate.holds_enchantmentEquals_iff.1 hq).1 k).1 hk)
  · intro p hp a ha
    obtain ⟨q, hkind, hreadable, hq⟩ := heffects p hp (List.ne_nil_of_mem ha)
    have hname : a.effect ∈ s.effects.map AppliedEffect.effect := by
      simpa [Stack.effects, hp] using ⟨a, ha, rfl⟩
    cases q <;> cases hkind
    exact hreadable.knows_of_mem_keys (((Predicate.holds_potionEquals_iff.1 hq).1 a.effect).1 hname)

end Specimen

end Embargo
