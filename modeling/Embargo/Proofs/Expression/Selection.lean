import Embargo.Proofs.Expression.Anchoring
import Embargo.Proofs.Expression.Membership
import Embargo.Proofs.Expression.OneToken
import Embargo.Proofs.Item.Written

/-!
This module contains what a pattern selects among items. It is tested against identities and not against
names, but an identity is selected exactly if one of its names is matched: that of its material if it is
just a material, and those that it is registered under.
-/

namespace Embargo

open Yaml (Value)

theorem Identity.eq_plain_of_not_hasPredicates {i : Identity} (h : i.hasPredicates = false) :
    i = plain i.material := by
  have hnone : i.predicates.toList = [] := by
    simpa [hasPredicates, Predicates.isEmpty] using h
  have hempty : i.predicates = ∅ := by
    rw [← i.predicates.foldl_insert_toList, hnone]
    rfl
  cases i
  cases hempty
  rfl

theorem Catalogue.mem_members_of_mem_read (scope : Scope) (place : Path)
    (entries : List (String × Value)) {item : String × Identity}
    (h : item ∈ (read scope place entries).value.items) :
    item.2.material ∈ scope.roster.members .material := by
  obtain ⟨e, -, he⟩ := exists_entry_of_mem_read h
  obtain ⟨-, fields, -, hread⟩ := entryItem?_eq_some he
  obtain ⟨raw, -, hmaterial⟩ := (Identity.loadedFrom_of_read hread).material
  exact Scope.mem_of_key? hmaterial

namespace Scope

inductive NamedBy (scope : Scope) (p : Pattern) : Identity → Prop where
  | material {m : Material} (hmember : m ∈ scope.roster.members .material)
    (hmatch : p.isMatch m.name = true) : NamedBy scope p (.plain m)
  | custom {name : String} {i : Identity} (hitem : (name, i) ∈ scope.catalogue.items)
    (hmatch : p.isMatch name = true) : NamedBy scope p i

variable {scope : Scope} {p : Pattern} {i : Identity}

theorem selects_items :
    scope.items.selects p i = true ↔
      i.hasPredicates = false ∧ p.isMatch i.material.name = true
        ∨ ∃ name, (name, i) ∈ scope.catalogue.items ∧ p.isMatch name = true := by
  simp [items]

theorem mem_selected_iff (hcatalogue : ∀ e ∈ scope.catalogue.items,
      e.2.material ∈ scope.roster.members .material) :
    i ∈ scope.items.members.filter (scope.items.selects p) ↔ scope.NamedBy p i := by
  rw [List.mem_filter, mem_members_items, selects_items]
  constructor
  · rintro ⟨hmember, ⟨hbare, hmatch⟩ | ⟨name, hitem, hmatch⟩⟩
    · -- a custom item that is just a material is selected by the name of the material as well
      have hmaterial : i.material ∈ scope.roster.members .material := by
        rcases hmember with ⟨m, hm, rfl⟩ | ⟨name, hitem⟩
        · exact hm
        · exact hcatalogue (name, i) hitem
      rw [Identity.eq_plain_of_not_hasPredicates hbare]
      exact .material hmaterial hmatch
    · exact .custom hitem hmatch
  · rintro (⟨hmember, hmatch⟩ | ⟨hitem, hmatch⟩)
    · exact ⟨.inl ⟨_, hmember, rfl⟩, .inl ⟨rfl, hmatch⟩⟩
    · exact ⟨.inr ⟨_, hitem⟩, .inr ⟨_, hitem, hmatch⟩⟩

/--
A pattern token evaluates to the identities with a name that the pattern matches, whatever names and
identities the custom items share with each other and with the materials. In a text the token ends at the
first comma, so that only a pattern without one can be written there.
-/
theorem evaluate_pattern_iff_namedBy (scope : Scope) (place : Path) (entries : List (String × Value))
    {body : String} (hcompile : scope.engine.compile body = .ok p) (path : Path) :
    let loaded : Scope := { scope with catalogue := (Catalogue.read scope place entries).value }
    ∃ set : OrderedSet Identity, (∀ i, i ∈ set ↔ loaded.NamedBy p i)
      ∧ loaded.items.evaluateTokens path ["#" ++ body] = pure set
      ∧ (',' ∉ body.toList → loaded.items.evaluate path (.text ("#" ++ body)) = pure set) := by
  intro loaded
  have hcatalogue : ∀ e ∈ loaded.catalogue.items, e.2.material ∈ loaded.roster.members .material :=
    fun e he => Catalogue.mem_members_of_mem_read scope place entries he
  have htokens := Domain.evaluateTokens_pattern (d := loaded.items) hcompile path
  refine ⟨_, fun i => ?_, htokens, fun hcomma => ?_⟩
  · rw [OrderedSet.mem_ofList]
    exact mem_selected_iff hcatalogue
  · rw [Domain.evaluate_text _ _ path, htokens]
    · simpa [Domain.toList_hash] using hcomma
    · obtain ⟨trimmed, htrim, -⟩ := scope.engine.exists_trim_hash body
      rw [htrim]
      intro hnil
      simpa [Domain.toList_hash] using congrArg String.toList hnil

theorem evaluate_pattern_iff_namedBy_shared :
    let scope : Scope :=
      { roster := Roster.stock.add .material ["stone", "dirt"]
        aliases := ∅
        engine := .ofTable [("^(?:STONE|rock)$", [⟨true, true, "stone"⟩, ⟨true, true, "rock"⟩])] }
    let entries : List (String × Value) :=
      [("stone", .mapping [(.text "material", .text "dirt")]),
        ("pebble", .mapping [(.text "material", .text "stone")]),
        ("rock", .mapping [(.text "material", .text "stone"), (.text "display-name-equals", .text "Rock")])]
    let loaded : Scope := { scope with catalogue := (Catalogue.read scope .root entries).value }
    ∃ p, scope.engine.compile "STONE|rock" = .ok p
      ∧ ',' ∉ "STONE|rock".toList
      ∧ ∃ set : OrderedSet Identity, loaded.items.evaluate .root (.text "#STONE|rock") = pure set
        ∧ (∀ i, i ∈ set ↔ loaded.NamedBy p i) ∧ set.toList.length = 3 := by
  intro scope entries loaded
  obtain ⟨p, hp⟩ : ∃ p, scope.engine.compile "STONE|rock" = .ok p := ⟨_, rfl⟩
  have hcomma : ',' ∉ "STONE|rock".toList := by decide
  obtain ⟨set, hset, -, htext⟩ := evaluate_pattern_iff_namedBy scope .root entries hp .root
  have hlength : (loaded.items.evaluate .root (.text "#STONE|rock")).value.toList.length = 3 := by
    decide +kernel
  have hevaluate : loaded.items.evaluate .root (.text "#STONE|rock") = pure set := htext hcomma
  rw [hevaluate] at hlength
  exact ⟨p, hp, hcomma, set, hevaluate, hset, hlength⟩

/--
A comma in a pattern ends the token, also one between the bounds of a repetition.
-/
theorem comma_ends_pattern :
    let scope : Scope :=
      { roster := Roster.stock.add .material ["stone"]
        aliases := ∅
        engine := .ofTable [("^(?:stone\x7b1,1\x7d)$", [⟨true, true, "stone"⟩])] }
    let loaded : Scope := { scope with catalogue := (Catalogue.read scope .root []).value }
    ∃ p, scope.engine.compile "stone\x7b1,1\x7d" = .ok p ∧ loaded.NamedBy p (.plain ⟨"stone"⟩)
      ∧ .plain ⟨"stone"⟩ ∉ (loaded.items.evaluate .root (.text "#stone\x7b1,1\x7d")).value
      ∧ ∃ reason, (loaded.items.evaluate .root (.text "#stone\x7b1,1\x7d")).problems =
        [⟨.root, @Problem.invalidPattern "stone\x7b1" reason⟩, ⟨.root, .unknownToken .item "1\x7d"⟩] := by
  intro scope loaded
  obtain ⟨p, hp, hmatch⟩ : ∃ p, scope.engine.compile "stone\x7b1,1\x7d" = .ok p ∧ p.isMatch "stone" = true :=
    ⟨_, rfl, by decide⟩
  exact ⟨p, hp, .material (by decide +kernel) hmatch, by decide +kernel, "unknown pattern", by decide +kernel⟩

end Scope

end Embargo
