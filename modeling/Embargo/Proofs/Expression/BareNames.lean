import Embargo.Proofs.Expression.OneToken
import Embargo.Proofs.Name.Canonical

/-!
This module contains which members can be written by their names: all of them but for those with a colon
that is read as the beginning of a level or of a data value.
-/

namespace Embargo

/--
A canonical name that is one token of a text and that no mark gives another meaning.
-/
structure IsBareName (name : String) : Prop where
  nonempty : name ≠ ""
  canonical : canonicalName name = name
  oneToken : ',' ∉ name.toList
  notAll : name ≠ "*"
  notNegated : name.toList.head? ≠ some '!'
  notPattern : name.toList.head? ≠ some '#'

theorem Action.isBareName_name (a : Action) : IsBareName a.name := by
  cases a <;> exact ⟨by decide, by decide +kernel, by decide, by decide, by decide, by decide⟩

theorem Action.ofText?_name (a : Action) : ofText? a.name = some a := by
  cases a <;> decide +kernel

namespace Domain

variable {α : Type} [DecidableEq α] {d : Domain α} {name : String} {a : α}

variable (d) in
def Denotes (s : String) (a : α) : Prop :=
  ∀ path, d.evaluate path (.text s) = pure (.ofList [a])

theorem mem_of_denotes {s : String} (h : d.Denotes s a) (path : Path) :
    a ∈ (d.evaluate path (.text s)).value := by
  rw [h path]
  exact OrderedSet.mem_ofList.2 List.mem_cons_self

theorem denotes_text_iff {s : String} (hcomma : ',' ∉ s.toList) (hblank : Text.trim s ≠ "")
    (hall : Text.trim s ≠ "*") (hnegated : ∀ rest, Text.trim s ≠ "!" ++ rest)
    (hpattern : ∀ body, Text.trim s ≠ "#" ++ body) :
    d.Denotes s a ↔ d.resolve (Text.trim s) = .ok a := by
  constructor
  · intro hdenotes
    have hmem := mem_of_denotes hdenotes .root
    rw [evaluate_text hcomma hblank, evaluateTokens_singleton, applyToken_positive _ _ hblank hnegated,
      Load.value_bind_pure, OrderedSet.mem_insertAll, mem_mentioned, means_name hall hpattern] at hmem
    exact hmem.resolve_right OrderedSet.not_mem_empty
  · intro hresolve path
    rw [evaluate_text hcomma hblank]
    apply evaluateTokens_of_meaning hblank hnegated
    rw [meaning_name hall hpattern, hresolve]

theorem denotes_iff (h : IsBareName name) : d.Denotes name a ↔ d.resolve name = .ok a := by
  have htrim := trim_of_canonical h.canonical
  have hdenotes : d.Denotes name a ↔ d.resolve (Text.trim name) = .ok a := by
    apply denotes_text_iff h.oneToken
    · exact htrim.symm ▸ h.nonempty
    · exact htrim.symm ▸ h.notAll
    · intro rest hrest
      refine h.notNegated ?_
      rw [← htrim, hrest, toList_bang]
      rfl
    · intro body hbody
      refine h.notPattern ?_
      rw [← htrim, hbody, toList_hash]
      rfl
  rwa [htrim] at hdenotes

theorem denoted_bareName (h : IsBareName name) (hresolve : d.resolve name = .ok a) :
    d.denoted (.text name) = .ofList [a] := by
  rw [denoted, (denotes_iff h).2 hresolve, Load.value_pure]

end Domain

/--
A colon with something in front of it, which is read as the name that a level belongs to.
-/
def HasLevelColon (name : String) : Prop :=
  ∃ front back, name.toList = front ++ ':' :: back ∧ front ≠ []

namespace Scope

variable {scope : Scope} {r : Registry} {k : Key r} {name : String}

theorem ofText_of_canonical (h : canonicalName k.name = k.name) : Key.ofText k.name = k :=
  Key.ext h

theorem key?_of_mem (hmember : k ∈ scope.roster.members r) (h : canonicalName k.name = k.name) :
    scope.key? r k.name = some k := by
  unfold key?
  rw [ofText_of_canonical h, if_pos hmember]

theorem exists_alias_of_key? (hcanonical : canonicalName k.name = k.name) {front back : List Char}
    (hsplit : k.name.toList = front ++ ':' :: back)
    (h : scope.key? r (String.ofList front) = some k) :
    ∃ other current, scope.aliases.current? (.key r) other = some current ∧ .ofText current = k := by
  unfold key? at h
  split at h
  · -- a name in front of a colon is too short to be that of the member
    have hshort : (canonicalName (String.ofList front)).toList.length ≤ front.length := by
      have hfront : ∀ c ∈ (String.ofList front).toList, IsNameChar c := by
        rw [String.toList_ofList]
        intro c hc
        refine isNameChar_of_canonical hcanonical ?_
        rw [hsplit]
        exact List.mem_append_left _ hc
      simpa using length_canonicalName_le hfront
    have hname := congrArg (fun k : Key r => k.name.toList.length) (Option.some.inj h)
    simp only [Key.ofText, hsplit, List.length_append, List.length_cons] at hname
    omega
  · obtain ⟨halias, -⟩ := Option.filter_eq_some_iff.1 h
    obtain ⟨current, hcurrent, hk⟩ := Option.map_eq_some_iff.1 halias
    exact ⟨_, current, hcurrent, hk⟩

theorem splitLevel_of_not_hasLevelColon (h : ¬ HasLevelColon name) :
    splitLevel name = .ok (name, .any) := by
  unfold splitLevel
  split
  · next front back hsplit =>
    have hfront : front = [] := by
      by_contra hne
      exact h ⟨front, back, (Text.eq_of_splitLast? hsplit).1, hne⟩
    rw [if_pos]
    rw [hfront]
    rfl
  · rfl

theorem resolve_leveled_of_mem (hmember : k ∈ scope.roster.members r)
    (hcanonical : canonicalName k.name = k.name) (h : ¬ HasLevelColon k.name) :
    (scope.leveled r).resolve k.name = .ok ⟨k, .any⟩ := by
  simp only [leveled, splitLevel_of_not_hasLevelColon h, key?_of_mem hmember hcanonical]

theorem eq_of_splitLevel {token : String} {front back : List Char} {level : Level}
    (hsplit : Text.splitLast? ':' token.toList = some (front, back)) (hne : front ≠ [])
    (hstock : Text.equalIgnoringAsciiCase (String.ofList front) "minecraft" = false)
    (h : splitLevel token = .ok (name, level)) : name = String.ofList front := by
  have hcut : (front.isEmpty || Text.equalIgnoringAsciiCase (String.ofList front) "minecraft") = false := by
    simp [hne, hstock]
  simp only [splitLevel, hsplit, hcut, Bool.false_eq_true, if_false] at h
  split at h
  · cases h
    rfl
  · split at h
    · cases h
      rfl
    · cases h

theorem exists_splitLast?_of_hasLevelColon (h : HasLevelColon name) :
    ∃ front back, Text.splitLast? ':' name.toList = some (front, back) ∧ front ≠ [] := by
  obtain ⟨front, back, hfront, hne⟩ := h
  cases hsplit : Text.splitLast? ':' name.toList with
  | none =>
    rw [Text.splitLast?_eq_none_iff, hfront] at hsplit
    exact absurd (List.mem_append_right _ List.mem_cons_self) hsplit
  | some parts =>
    refine ⟨parts.1, parts.2, rfl, fun hnil => ?_⟩
    -- the last colon cannot be the first character, since there is one behind it
    obtain ⟨hlast, hno⟩ := Text.eq_of_splitLast? hsplit
    rw [hfront, hnil] at hlast
    obtain ⟨c, front, rfl⟩ := List.exists_cons_of_ne_nil hne
    obtain ⟨-, hback⟩ := List.cons.inj hlast
    rw [← hback] at hno
    exact hno (List.mem_append_right _ List.mem_cons_self)

theorem exists_alias_of_resolve_leveled (hcanonical : canonicalName k.name = k.name)
    (hcolon : HasLevelColon k.name) {level : Level} (h : (scope.leveled r).resolve k.name = .ok ⟨k, level⟩) :
    ∃ other current, scope.aliases.current? (.key r) other = some current ∧ .ofText current = k := by
  obtain ⟨front, back, hsplit, hne⟩ := exists_splitLast?_of_hasLevelColon hcolon
  have hname := (Text.eq_of_splitLast? hsplit).1
  simp only [leveled] at h
  split at h
  · cases h
  · next name level hlevel =>
    rw [eq_of_splitLevel hsplit hne (not_stockNamespace_of_canonical hcanonical hname) hlevel] at h
    split at h
    · next hkey =>
      cases h
      exact exists_alias_of_key? hcanonical hname hkey
    · cases h

theorem resolve_items_of_mem (hcatalogue : scope.catalogue = ∅) {m : Material}
    (hmember : m ∈ scope.roster.members .material) (hcanonical : canonicalName m.name = m.name) :
    scope.items.resolve m.name = .ok (.plain m) ↔ ¬ (scope.legacy = true ∧ ':' ∈ m.name.toList) := by
  have hnone : scope.catalogue.get? m.name = none := by
    rw [hcatalogue]
    rfl
  simp only [items, item, hnone, key?_of_mem hmember hcanonical, hcanonical]
  by_cases hlegacy : scope.legacy = true
  · simp only [hlegacy, if_true, true_and]
    cases hsplit : Text.splitLast? ':' m.name.toList with
    | none => simpa using hsplit
    | some parts =>
      have hcolon : ':' ∈ m.name.toList := by
        rw [(Text.eq_of_splitLast? hsplit).1]
        exact List.mem_append_right _ List.mem_cons_self
      refine iff_of_false (fun h => ?_) (not_not_intro hcolon)
      -- what is read from a data value has a condition
      simp only [legacyItem?] at h
      split at h
      · cases h
      · split at h
        · have hpredicates := congrArg (fun i : Identity => i.predicates.durability) (Except.ok.inj h)
          cases hpredicates
        · cases h
  · simp [hlegacy]

/--
Without custom items, every member that has a bare name is denoted by it. This holds for all kinds but
those where a colon in the name has a meaning: a name with a level colon denotes its member only if
another name of the member stands in front, and under the legacy model no name with a colon does.
-/
theorem denotes_name (roster : Roster) (aliases : Aliases) (legacy : Bool) (engine : Engine) :
    let scope : Scope := { roster, aliases, legacy, engine }
    (∀ r, ∀ k ∈ roster.members r, IsBareName k.name → (scope.keys r).Denotes k.name k)
      ∧ (∀ a ∈ scope.actions.members, scope.actions.Denotes a.name a)
      ∧ (∀ r, ∀ k ∈ roster.members r, IsBareName k.name →
          (¬ HasLevelColon k.name → (scope.leveled r).Denotes k.name ⟨k, .any⟩)
            ∧ (HasLevelColon k.name → (scope.leveled r).Denotes k.name ⟨k, .any⟩ →
                ∃ other current, aliases.current? (.key r) other = some current ∧ .ofText current = k))
      ∧ ∀ m ∈ roster.members .material, IsBareName m.name →
          (scope.items.Denotes m.name (.plain m) ↔ ¬ (legacy = true ∧ ':' ∈ m.name.toList)) := by
  intro scope
  refine ⟨fun r k hk hbare => ?_, fun a _ => ?_, fun r k hk hbare => ⟨fun hcolon => ?_, fun hcolon h => ?_⟩,
    fun m hm hbare => ?_⟩
  · have hkey : scope.key? r k.name = some k := key?_of_mem hk hbare.canonical
    rw [Domain.denotes_iff hbare]
    simp only [keys, hkey]
  · rw [Domain.denotes_iff a.isBareName_name]
    simp only [actions, action?, Action.ofText?_name, Option.some_or]
  · exact (Domain.denotes_iff hbare).2 (resolve_leveled_of_mem hk hbare.canonical hcolon)
  · exact exists_alias_of_resolve_leveled hbare.canonical hcolon ((Domain.denotes_iff hbare).1 h)
  · rw [Domain.denotes_iff hbare]
    exact resolve_items_of_mem rfl hm hbare.canonical

theorem denotes_name_colon :
    let roster := (Roster.stock.add .potion [":haste"]).add .material ["mod:wool"]
    let scope : Scope := { roster, aliases := ∅ }
    IsBareName ":haste" ∧ ¬ HasLevelColon ":haste"
      ∧ (scope.leveled .potion).Denotes ":haste" ⟨⟨":haste"⟩, .any⟩
      ∧ IsBareName "mod:wool" ∧ scope.items.Denotes "mod:wool" (.plain ⟨"mod:wool"⟩) := by
  intro roster scope
  have heffect : IsBareName ":haste" :=
    ⟨by decide, by decide +kernel, by decide, by decide, by decide, by decide⟩
  have hmaterial : IsBareName "mod:wool" :=
    ⟨by decide, by decide +kernel, by decide, by decide, by decide, by decide⟩
  have hcolon : ¬ HasLevelColon ":haste" := by
    rintro ⟨front, back, hsplit, hne⟩
    obtain ⟨c, front, rfl⟩ := List.exists_cons_of_ne_nil hne
    have hmem : ':' ∈ ":haste".toList.tail := by
      rw [hsplit]
      exact List.mem_append_right _ List.mem_cons_self
    exact absurd hmem (by decide)
  obtain ⟨-, -, hleveled, hitems⟩ := denotes_name roster ∅ false .builtIn
  refine ⟨heffect, hcolon, ?_, hmaterial, ?_⟩
  · exact (hleveled .potion ⟨":haste"⟩ (by decide +kernel) heffect).1 hcolon
  · exact (hitems ⟨"mod:wool"⟩ (by decide +kernel) hmaterial).2 (by decide)

/--
The name of a modded enchantment is read as a name with a level that is no number, and that of a modded
material under the legacy model as one with such a data value.
-/
theorem level_colon_hides_name :
    let roster := (Roster.stock.add .enchantment ["mod:frost"]).add .material ["mod:wool"]
    let scope : Scope := { roster, aliases := ∅, legacy := true }
    IsBareName "mod:frost" ∧ ⟨"mod:frost"⟩ ∈ roster.members .enchantment
      ∧ ¬ (scope.leveled .enchantment).Denotes "mod:frost" ⟨⟨"mod:frost"⟩, .any⟩
      ∧ IsBareName "mod:wool" ∧ ⟨"mod:wool"⟩ ∈ roster.members .material
      ∧ ¬ scope.items.Denotes "mod:wool" (.plain ⟨"mod:wool"⟩) := by
  intro roster scope
  have henchantment : IsBareName "mod:frost" :=
    ⟨by decide, by decide +kernel, by decide, by decide, by decide, by decide⟩
  have hmaterial : IsBareName "mod:wool" :=
    ⟨by decide, by decide +kernel, by decide, by decide, by decide, by decide⟩
  refine ⟨henchantment, by decide +kernel, ?_, hmaterial, by decide +kernel, ?_⟩
  · rw [Domain.denotes_iff henchantment]
    decide +kernel
  · rw [Domain.denotes_iff hmaterial]
    decide +kernel

end Scope

end Embargo
