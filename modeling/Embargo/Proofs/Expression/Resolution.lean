import Embargo.Expression.Scope

/-!
This module contains what a name stands for in expressions of each kind. Whatever the kind is, it stands
for a known member or for a custom item.
-/

namespace Embargo

namespace Scope

variable {scope : Scope} {r : Registry}

theorem mem_of_key? {name : String} {k : Key r} (h : scope.key? r name = some k) :
    k ∈ scope.roster.members r := by
  unfold key? at h
  split at h
  · next hmem => exact Option.some.inj h ▸ hmem
  · exact OrderedSet.contains_iff.1 (Option.filter_eq_some_iff.1 h).2

theorem resolve_keys_eq_ok_iff {name : String} {k : Key r} :
    (scope.keys r).resolve name = .ok k ↔ scope.key? r name = some k := by
  dsimp only [keys]
  cases scope.key? r name with
  | none => simp
  | some j => simp

theorem resolve_actions_eq_ok_iff {name : String} {a : Action} :
    scope.actions.resolve name = .ok a ↔ scope.action? name = some a := by
  dsimp only [actions]
  cases scope.action? name with
  | none => simp
  | some b => simp

theorem resolve_leveled_eq_ok_iff {token : String} {a : Leveled r} :
    (scope.leveled r).resolve token = .ok a ↔
      ∃ name, splitLevel token = .ok (name, a.level) ∧ scope.key? r name = some a.key := by
  dsimp only [leveled]
  constructor
  · intro h
    split at h
    · cases h
    · next name level hsplit =>
      split at h
      · next k hkey =>
        cases h
        exact ⟨name, hsplit, hkey⟩
      · cases h
  · rintro ⟨name, hsplit, hkey⟩
    rw [hsplit]
    dsimp only
    rw [hkey]

theorem ne_zero_of_splitLevel {token name : String} {level : Level}
    (h : splitLevel token = .ok (name, level)) : level ≠ .exact 0 := by
  unfold splitLevel at h
  split at h
  · split at h
    · cases h
      exact Level.noConfusion
    · split at h
      · cases h
        exact Level.noConfusion
      · split at h
        · cases h
          apply Level.ofNumber_ne_exact_zero
        · cases h
  · cases h
    exact Level.noConfusion

variable (scope r) in
def requirement? (p : String × UInt32) : Option (Leveled r) :=
  (scope.key? r p.1).map (⟨·, .ofNumber p.2⟩)

variable (scope r) in
def requirements? (ps : List (String × UInt32)) : Option (List (Leveled r)) :=
  ps.mapM (scope.requirement? r)

theorem requirements?_cons (p : String × UInt32) (ps : List (String × UInt32)) :
    scope.requirements? r (p :: ps) =
      (scope.requirement? r p).bind fun a => (scope.requirements? r ps).map (a :: ·) := by
  unfold requirements?
  rw [List.mapM_cons]
  cases scope.requirement? r p with
  | none => rfl
  | some a => cases ps.mapM (scope.requirement? r) <;> rfl

theorem requirement?_eq_some_iff {p : String × UInt32} {a : Leveled r} :
    scope.requirement? r p = some a ↔ scope.key? r p.1 = some a.key ∧ a.level = .ofNumber p.2 := by
  unfold requirement?
  constructor
  · intro h
    obtain ⟨k, hk, rfl⟩ := Option.map_eq_some_iff.1 h
    exact ⟨hk, rfl⟩
  · rintro ⟨hkey, hlevel⟩
    rw [hkey, Option.map_some, ← hlevel]

theorem requirements?_eq_some_iff {ps : List (String × UInt32)} {as : List (Leveled r)} :
    scope.requirements? r ps = some as ↔ ps.map (scope.requirement? r) = as.map some := by
  induction ps generalizing as with
  | nil => cases as <;> simp [requirements?]
  | cons p ps ih =>
    rw [requirements?_cons, List.map_cons]
    simp only [Option.bind_eq_some_iff, Option.map_eq_some_iff, ih]
    cases as with
    | nil => simp
    | cons b bs => simp

theorem mem_iff_of_requirements? {ps : List (String × UInt32)} {as : List (Leveled r)}
    (h : scope.requirements? r ps = some as) {a : Leveled r} :
    a ∈ as ↔ ∃ p ∈ ps, scope.requirement? r p = some a := by
  have hmem : a ∈ as ↔ some a ∈ as.map some := by simp
  rw [hmem, ← requirements?_eq_some_iff.1 h, List.mem_map]

theorem exists_of_requirements? {ps : List (String × UInt32)} {as : List (Leveled r)}
    (h : scope.requirements? r ps = some as) {p : String × UInt32} (hp : p ∈ ps) :
    ∃ a ∈ as, scope.requirement? r p = some a := by
  have hmem : scope.requirement? r p ∈ as.map some :=
    requirements?_eq_some_iff.1 h ▸ List.mem_map_of_mem hp
  obtain ⟨a, ha, heq⟩ := List.mem_map.1 hmem
  exact ⟨a, ha, heq.symm⟩

theorem requirements?_eq_none_iff {ps : List (String × UInt32)} :
    scope.requirements? r ps = none ↔ ∃ p ∈ ps, scope.requirement? r p = none := by
  induction ps with
  | nil => simp [requirements?]
  | cons p ps ih =>
    rw [requirements?_cons]
    simp only [List.mem_cons, exists_eq_or_imp, ← ih]
    cases scope.requirement? r p with
    | none => simp
    | some a => simp

theorem legacyItem?_eq_ok_iff {name data : List Char} {i : Identity} :
    scope.legacyItem? name data = .ok i ↔
      ∃ n m, Text.readUInt32? data = some n ∧ scope.key? .material (String.ofList name) = some m
        ∧ (Identity.plain m).withPredicate (.durability n) = i := by
  unfold legacyItem?
  cases Text.readUInt32? data with
  | none => simp
  | some n =>
    cases scope.key? .material (String.ofList name) with
    | none => simp
    | some m => simp

/--
The item that a name stands for. A custom item comes first, and under the legacy model a colon makes a
data value of what is behind it.
-/
inductive NamesItem (scope : Scope) (token : String) : Identity → Prop where
  | custom {i : Identity} (hcustom : scope.catalogue.get? token = some i) : NamesItem scope token i
  | legacy {name data : List Char} {n : UInt32} {m : Material}
    (hnew : scope.catalogue.get? token = none) (hlegacy : scope.legacy = true)
    (hsplit : Text.splitLast? ':' (canonicalName token).toList = some (name, data))
    (hdata : Text.readUInt32? data = some n)
    (hkey : scope.key? .material (String.ofList name) = some m) :
    NamesItem scope token ((Identity.plain m).withPredicate (.durability n))
  | material {m : Material} (hnew : scope.catalogue.get? token = none)
    (hwhole : scope.legacy = true → ':' ∉ (canonicalName token).toList)
    (hkey : scope.key? .material token = some m) : NamesItem scope token (.plain m)

theorem resolve_items_eq_ok_iff {token : String} {i : Identity} :
    scope.items.resolve token = .ok i ↔ scope.NamesItem token i := by
  dsimp only [items, item]
  constructor
  · intro h
    split at h
    · next i hcustom => exact Except.ok.inj h ▸ .custom hcustom
    · next hnew =>
      split at h
      · next hlegacy =>
        split at h
        · next name data hsplit =>
          obtain ⟨n, m, hdata, hkey, rfl⟩ := legacyItem?_eq_ok_iff.1 h
          exact .legacy hnew hlegacy hsplit hdata hkey
        · next hsplit =>
          split at h
          · next m hkey =>
            cases h
            exact .material hnew (fun _ => Text.splitLast?_eq_none_iff.1 hsplit) hkey
          · cases h
      · next hlegacy =>
        split at h
        · next m hkey =>
          cases h
          exact .material hnew (fun h => absurd h hlegacy) hkey
        · cases h
  · intro h
    cases h with
    | custom hcustom => rw [hcustom]
    | legacy hnew hlegacy hsplit hdata hkey =>
      rw [hnew, if_pos hlegacy, hsplit]
      exact legacyItem?_eq_ok_iff.2 ⟨_, _, hdata, hkey, rfl⟩
    | material hnew hwhole hkey =>
      rw [hnew]
      by_cases hlegacy : scope.legacy = true
      · rw [if_pos hlegacy, Text.splitLast?_eq_none_iff.2 (hwhole hlegacy), hkey]
      · rw [if_neg hlegacy, hkey]

end Scope

end Embargo
