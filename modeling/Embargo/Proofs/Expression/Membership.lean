import Embargo.Proofs.Expression.Denoted
import Embargo.Proofs.Expression.Resolution

namespace Embargo

namespace Scope

variable {scope : Scope} {r : Registry}

structure OffersLevel (scope : Scope) (a : Leveled r) : Prop where
  member : a.key ∈ scope.roster.members r
  ne_zero : a.level ≠ .exact 0

inductive OffersItem (scope : Scope) : Identity → Prop where
  | custom {name : String} {i : Identity} (hitem : (name, i) ∈ scope.catalogue.items) : OffersItem scope i
  | material {m : Material} (hmember : m ∈ scope.roster.members .material) : OffersItem scope (.plain m)
  | legacy {i : Identity} {n : UInt32} (hlegacy : scope.legacy = true)
    (hmember : i.material ∈ scope.roster.members .material)
    (honly : i.predicates.toList = [.durability n]) : OffersItem scope i

theorem NamesItem.offersItem {token : String} {i : Identity} (h : scope.NamesItem token i) :
    scope.OffersItem i := by
  cases h with
  | custom hcustom => exact .custom (Table.get?_eq_some_iff_mem.1 hcustom)
  | legacy _ hlegacy _ _ hkey => exact .legacy hlegacy (mem_of_key? hkey) rfl
  | material _ _ hkey => exact .material (mem_of_key? hkey)

theorem mem_members_items {i : Identity} :
    i ∈ scope.items.members ↔
      (∃ m ∈ scope.roster.members .material, .plain m = i) ∨ ∃ name, (name, i) ∈ scope.catalogue.items := by
  simp [items, OrderedSet.mem_toList]

theorem mem_of_mem_evaluate_keys {path : Path} {e : Expression} :
    ∀ k ∈ ((scope.keys r).evaluate path e).value, k ∈ scope.roster.members r := by
  apply Domain.forall_mem_evaluateTokens
  · exact fun k hk => hk
  · exact fun name k h => mem_of_key? (resolve_keys_eq_ok_iff.1 h)

theorem offersLevel_of_mem_evaluate {path : Path} {e : Expression} :
    ∀ a ∈ ((scope.leveled r).evaluate path e).value, scope.OffersLevel a := by
  apply Domain.forall_mem_evaluateTokens
  · intro a ha
    obtain ⟨k, hk, rfl⟩ := List.mem_map.1 ha
    exact ⟨hk, Level.noConfusion⟩
  · intro token a h
    obtain ⟨name, hsplit, hkey⟩ := resolve_leveled_eq_ok_iff.1 h
    exact ⟨mem_of_key? hkey, ne_zero_of_splitLevel hsplit⟩

theorem offersItem_of_mem_evaluate {path : Path} {e : Expression} :
    ∀ i ∈ (scope.items.evaluate path e).value, scope.OffersItem i := by
  apply Domain.forall_mem_evaluateTokens
  · intro i hi
    rcases mem_members_items.1 hi with ⟨m, hm, rfl⟩ | ⟨name, hitem⟩
    · exact .material hm
    · exact .custom hitem
  · exact fun token i h => (resolve_items_eq_ok_iff.1 h).offersItem

/--
Expressions of all kinds have known members only, whatever their names and patterns are.
-/
theorem evaluate_offered (scope : Scope) (path : Path) (e : Expression) :
    (∀ r, ∀ k ∈ ((scope.keys r).evaluate path e).value, k ∈ scope.roster.members r)
      ∧ (∀ a ∈ (scope.actions.evaluate path e).value, a ∈ Action.all)
      ∧ (∀ r, ∀ a ∈ ((scope.leveled r).evaluate path e).value, scope.OffersLevel a)
      ∧ ∀ i ∈ (scope.items.evaluate path e).value, scope.OffersItem i :=
  ⟨fun _ => mem_of_mem_evaluate_keys, fun a _ => a.mem_all, fun _ => offersLevel_of_mem_evaluate,
    offersItem_of_mem_evaluate⟩

theorem evaluate_offered_former :
    let roster := ((Roster.stock.add .world ["town"]).add .potion ["speed"]).add .material ["wool"]
    let relic := (Identity.plain ⟨"amber"⟩).withPredicate (.durability 1)
    let scope : Scope :=
      { roster
        aliases := (∅ : Aliases).insertAll (.key .world) [("village", "town"), ("nether", "hell")]
        catalogue := (∅ : Catalogue).insert "relic" relic
        legacy := true }
    let worlds := ((scope.keys .world).evaluate .root (.text "village, nether")).value
    let levels := ((scope.leveled .potion).evaluate .root (.text "speed:0")).value
    let items := (scope.items.evaluate .root (.text "wool:14, relic")).value
    ⟨"town"⟩ ∈ worlds ∧ ⟨"town"⟩ ∈ roster.members .world
      ∧ ⟨⟨"speed"⟩, .any⟩ ∈ levels ∧ scope.OffersLevel (r := .potion) ⟨⟨"speed"⟩, .any⟩
      ∧ (Identity.plain ⟨"wool"⟩).withPredicate (.durability 14) ∈ items
      ∧ scope.OffersItem ((Identity.plain ⟨"wool"⟩).withPredicate (.durability 14))
      ∧ relic ∈ items ∧ scope.OffersItem relic := by
  intro roster relic scope worlds levels items
  obtain ⟨hkeys, -, -, -⟩ := evaluate_offered scope .root (.text "village, nether")
  obtain ⟨-, -, hleveled, -⟩ := evaluate_offered scope .root (.text "speed:0")
  obtain ⟨-, -, -, hitems⟩ := evaluate_offered scope .root (.text "wool:14, relic")
  have hworld : ⟨"town"⟩ ∈ worlds := by decide +kernel
  have hlevel : ⟨⟨"speed"⟩, .any⟩ ∈ levels := by decide +kernel
  have hdata : (Identity.plain ⟨"wool"⟩).withPredicate (.durability 14) ∈ items := by decide +kernel
  have hrelic : relic ∈ items := by decide +kernel
  exact ⟨hworld, hkeys .world _ hworld, hlevel, hleveled .potion _ hlevel, hdata, hitems _ hdata, hrelic,
    hitems _ hrelic⟩

end Scope

end Embargo
