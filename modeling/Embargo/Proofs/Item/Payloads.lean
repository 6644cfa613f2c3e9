import Embargo.Proofs.Expression.Membership
import Embargo.Proofs.Load.Readers

namespace Embargo

open Yaml (Value)

section Levels

variable {scope : Scope} {r : Registry}

structure KeyMap.Offered (scope : Scope) (levels : KeyMap r Level) : Prop where
  ne_nil : levels.entries ≠ []
  offers : ∀ e ∈ levels.entries, scope.OffersLevel ⟨e.1, e.2⟩

theorem offersLevel_of_readLevelEntries {path : Path} {entries : List (Value × Value)}
    {levels : List (Leveled r)} (h : (readLevelEntries scope r path entries).value = some levels) :
    ∀ a ∈ levels, scope.OffersLevel a := by
  induction entries generalizing levels with
  | nil =>
    cases h
    intro a ha
    cases ha
  | cons e entries ih =>
    unfold readLevelEntries at h
    split at h
    · next name n _ _ =>
      split at h
      · next key hkey =>
        rw [Load.value_bind_pure] at h
        obtain ⟨others, hothers, rfl⟩ := Option.map_eq_some_iff.1 h
        intro a ha
        rcases List.mem_cons.1 ha with rfl | ha
        · exact ⟨Scope.mem_of_key? hkey, Level.ofNumber_ne_exact_zero n⟩
        · exact ih hothers a ha
      · -- an entry whose name stands for nothing is left out
        have hadditive : (readLevelEntries scope r path entries).Additive :=
          (reports_readLevelEntries scope (path.into_self .null) r entries).additive
        rw [Load.value_bind fun _ => hadditive] at h
        exact ih h
    · cases h

theorem offersLevel_of_mentionedLevels {path : Path} {v : Value} {levels : List (Leveled r)}
    (h : (mentionedLevels scope r path v).value = some levels) :
    ∀ a ∈ levels, scope.OffersLevel a := by
  unfold mentionedLevels at h
  split at h
  · exact offersLevel_of_readLevelEntries h
  · split at h
    · rw [Load.value_bind_pure] at h
      cases h
      exact Scope.offersLevel_of_mem_evaluate
    · cases h

theorem offered_of_collectLevels? {levels : List (Leveled r)} {m : KeyMap r Level}
    (hlevels : ∀ a ∈ levels, scope.OffersLevel a) (h : collectLevels? levels = some m) :
    m.Offered scope := by
  unfold collectLevels? at h
  split at h
  · cases h
  · next hrefused =>
    cases h
    constructor
    · refine KeyMap.entries_ofList_ne_nil ?_
      intro hnil
      rw [List.map_eq_nil_iff.1 hnil] at hrefused
      exact hrefused rfl
    · intro e he
      obtain ⟨a, ha, rfl⟩ := List.mem_map.1 (KeyMap.mem_of_mem_entries_ofList he)
      exact hlevels a ha

variable (scope r) in
theorem value_readLevels (path : Path) (v : Value) :
    (readLevels scope r path v).value =
      if (mentionedLevels scope r path v).problems.isEmpty then
        (mentionedLevels scope r path v).value.bind collectLevels?
      else
        none := by
  unfold readLevels
  rw [Load.value_bind_pure, Load.value_watch]
  cases (mentionedLevels scope r path v).problems with
  | nil => rfl
  | cons e problems => rfl

variable (scope r) in
theorem problems_readLevels (path : Path) (v : Value) :
    (readLevels scope r path v).problems = (mentionedLevels scope r path v).problems := by
  unfold readLevels
  rw [Load.problems_bind_pure, Load.problems_watch]

theorem readLevels_eq_some {path : Path} {v : Value} {m : KeyMap r Level}
    (h : (readLevels scope r path v).value = some m) :
    (readLevels scope r path v).problems = [] ∧ m.Offered scope := by
  rw [value_readLevels] at h
  split at h
  · next hquiet =>
    obtain ⟨levels, hlevels, hm⟩ := Option.bind_eq_some_iff.1 h
    refine ⟨?_, offered_of_collectLevels? (offersLevel_of_mentionedLevels hlevels) hm⟩
    rw [problems_readLevels, List.isEmpty_iff.1 hquiet]
  · cases h

end Levels

namespace Predicate

variable {scope : Scope}

def Offered (scope : Scope) : Predicate → Prop
  | enchantmentEquals levels | enchantmentContains levels => levels.Offered scope
  | potion levels | potionEquals levels => levels.Offered scope
  | _ => True

theorem ofPayload?_eq_some {path : Path} {v : Value} {kind : PredicateKind} {p : Predicate}
    (h : (ofPayload? scope path v kind).value = some p) :
    (ofPayload? scope path v kind).problems = [] ∧ p.kind = kind ∧ p.Offered scope := by
  have hlevels {r : Registry} (make : KeyMap r Level → Predicate)
      (hkind : ∀ m : KeyMap r Level, (make m).kind = kind)
      (hmake : ∀ m : KeyMap r Level, m.Offered scope → (make m).Offered scope)
      (h : (readLevels scope r path v >>= fun levels => pure (levels.map make)).value = some p) :
      (readLevels scope r path v >>= fun levels => pure (levels.map make)).problems = []
        ∧ p.kind = kind ∧ p.Offered scope := by
    rw [Load.value_bind_pure] at h
    obtain ⟨m, hm, rfl⟩ := Option.map_eq_some_iff.1 h
    obtain ⟨hquiet, hoffered⟩ := readLevels_eq_some hm
    exact ⟨hquiet, hkind m, hmake m hoffered⟩
  cases kind with
  | enchantmentEquals => exact hlevels .enchantmentEquals (fun _ => rfl) (fun _ hm => hm) h
  | enchantmentContains => exact hlevels .enchantmentContains (fun _ => rfl) (fun _ hm => hm) h
  | potion => exact hlevels .potion (fun _ => rfl) (fun _ hm => hm) h
  | potionEquals => exact hlevels .potionEquals (fun _ => rfl) (fun _ hm => hm) h
  | _ =>
    obtain ⟨payload, -, rfl⟩ := Option.map_eq_some_iff.1 h
    exact ⟨rfl, rfl, trivial⟩

theorem kind_of_ofPayload? {path : Path} {v : Value} {kind : PredicateKind} {p : Predicate}
    (h : (ofPayload? scope path v kind).value = some p) : p.kind = kind :=
  (ofPayload?_eq_some h).2.1

variable (scope) in
theorem start_read (kind : PredicateKind) (path : Path) (v : Value) :
    (read scope kind path v).start =
      ((ofPayload? scope path v kind).value, (ofPayload? scope path v kind).problems ++
        if (ofPayload? scope path v kind).value.isNone then
          [⟨path, .invalidPayload kind.key kind.shape⟩]
        else
          []) := by
  unfold read
  rw [Load.start_bind]
  cases (ofPayload? scope path v kind).value with
  | none => rfl
  | some p => exact Prod.ext rfl (List.append_nil _).symm

variable (scope) in
theorem value_read (kind : PredicateKind) (path : Path) (v : Value) :
    (read scope kind path v).value = (ofPayload? scope path v kind).value := by
  rw [Load.value, start_read]

variable (scope) in
theorem problems_read (kind : PredicateKind) (path : Path) (v : Value) :
    (read scope kind path v).problems =
      (ofPayload? scope path v kind).problems ++
        if (ofPayload? scope path v kind).value.isNone then
          [⟨path, .invalidPayload kind.key kind.shape⟩]
        else
          [] := by
  rw [Load.problems, start_read]

/--
A condition is read if and only if there is nothing to report.
-/
theorem run_read (scope : Scope) (kind : PredicateKind) (path : Path) (v : Value) (trail : Trail) :
    let answer := (read scope kind path v).value
    let added := (read scope kind path v).problems
    (read scope kind path v).run trail = (answer, trail ++ added)
      ∧ (answer.isSome = true ↔ added = [])
      ∧ (answer = none → added.getLast? = some ⟨path, .invalidPayload kind.key kind.shape⟩)
      ∧ ∀ p, answer = some p → p.kind = kind ∧ p.Offered scope := by
  intro answer added
  have hadded : added = _ := problems_read scope kind path v
  have hanswer : answer = _ := value_read scope kind path v
  have hrun : (read scope kind path v).run trail = (answer, trail ++ added) :=
    (reports_read scope (path.into_self v) kind v).additive trail
  refine ⟨hrun, ?_⟩
  cases hpayload : (ofPayload? scope path v kind).value with
  | none =>
    rw [hpayload] at hanswer
    have hlast : added = (ofPayload? scope path v kind).problems ++
        [⟨path, .invalidPayload kind.key kind.shape⟩] := by
      rw [hadded, hpayload]
      rfl
    simp [hanswer, hlast]
  | some p =>
    obtain ⟨hquiet, hkind, hoffered⟩ := ofPayload?_eq_some hpayload
    rw [hpayload] at hanswer
    have hnothing : added = [] := by
      rw [hadded, hpayload, hquiet]
      rfl
    simp [hanswer, hnothing, hkind, hoffered]

theorem run_read_levels :
    let scope : Scope := { roster := Roster.stock.add .potion ["speed", "haste"], aliases := ∅ }
    let path := Path.root.push "potion"
    let unknown : Value := .text "speed:2, flight"
    let known : Value := .tagged "levels" (.seq [.text "*, !speed", .text "speed:2"])
    (read scope .potion path unknown).value = none
      ∧ (read scope .potion path unknown).problems.getLast? =
        some ⟨path, .invalidPayload "potion" .effectLevels⟩
      ∧ ∃ p, (read scope .potion path known).value = some p
        ∧ (read scope .potion path known).problems = [] ∧ p.kind = .potion ∧ p.Offered scope := by
  intro scope path unknown known
  have hunknown : (read scope .potion path unknown).value = none := by decide +kernel
  obtain ⟨-, -, hlast, -⟩ := run_read scope .potion path unknown []
  have hsome : (read scope .potion path known).value.isSome = true := by decide +kernel
  obtain ⟨p, hp⟩ := Option.isSome_iff_exists.1 hsome
  obtain ⟨-, hquiet, -, hknown⟩ := run_read scope .potion path known []
  exact ⟨hunknown, hlast hunknown, p, hp, hquiet.1 hsome, hknown p hp⟩

end Predicate

end Embargo
