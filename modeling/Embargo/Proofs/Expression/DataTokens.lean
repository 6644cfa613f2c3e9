import Embargo.Proofs.Expression.BareNames
import Embargo.Proofs.Expression.LevelTokens

/-!
This module contains the tokens that are the name of a material with a data value. They are canonical if
the name is, and under the legacy model each of them names a legacy item.
-/

namespace Embargo

theorem isNameChar_of_isDigit {c : Char} (h : c.isDigit = true) : IsNameChar c := by
  simp only [Char.isDigit, Bool.and_eq_true, decide_eq_true_eq, UInt32.le_iff_toNat_le] at h
  have hhigh : c.toNat ≤ 57 := h.2
  refine ⟨Text.isLowercase_of_ascii (by omega) (by omega), ?_⟩
  rintro rfl
  exact absurd h (by decide)

structure TakesData (name : String) : Prop where
  nonempty : name ≠ ""
  canonical : canonicalName name = name
  noColon : ':' ∉ name.toList
  notStock : name ≠ "minecraft"

namespace TakesData

variable {name : String} (h : TakesData name)
include h

theorem not_stockNamespace (back : List Char) :
    ¬ stockNamespace <+: name.toList ++ ':' :: back := by
  rintro ⟨rest, hrest⟩
  -- both names end at the first colon
  have hcolon : ':' ∉ "minecraft".toList := by decide
  have hsplit : "minecraft".toList ++ ':' :: rest = name.toList ++ ':' :: back := hrest
  have hcut := congrArg (List.takeWhile (· != ':')) hsplit
  rw [Text.takeWhile_cut hcolon, Text.takeWhile_cut h.noColon] at hcut
  exact h.notStock (String.toList_inj.1 hcut.symm)

theorem isNameChar_levelToken (d : UInt32) {c : Char} (hc : c ∈ (levelToken (name, d)).toList) :
    IsNameChar c := by
  rw [toList_levelToken, List.mem_append, List.mem_cons] at hc
  rcases hc with hname | rfl | hdigit
  · exact isNameChar_of_canonical h.canonical hname
  · exact ⟨Text.isLowercase_of_ascii (by decide) (by decide), by decide⟩
  · exact isNameChar_of_isDigit (Text.isDigit_of_mem_showNat hdigit)

theorem canonicalName_levelToken (d : UInt32) :
    canonicalName (levelToken (name, d)) = levelToken (name, d) := by
  have htrim := Text.trim_levelToken (p := (name, d)) h.nonempty (trim_of_canonical h.canonical)
  refine (canonicalName_eq_self_iff fun _ => h.isNameChar_levelToken d).2 ⟨?_, ?_⟩
  · rw [← Text.toList_trim, htrim]
  · rw [toList_levelToken]
    exact h.not_stockNamespace _

end TakesData

structure IsPlainToken (name : String) : Prop where
  oneToken : ',' ∉ name.toList
  notNegated : name.toList.head? ≠ some '!'
  notPattern : name.toList.head? ≠ some '#'

theorem TakesData.isBareName {name : String} (h : TakesData name) (htoken : IsPlainToken name)
    (hall : name ≠ "*") : IsBareName name :=
  ⟨h.nonempty, h.canonical, htoken.oneToken, hall, htoken.notNegated, htoken.notPattern⟩

theorem TakesData.isBareName_levelToken {name : String} (h : TakesData name)
    (htoken : IsPlainToken name) (d : UInt32) : IsBareName (levelToken (name, d)) where
  nonempty := levelToken_ne_blank _
  canonical := h.canonicalName_levelToken d
  oneToken := by
    rw [toList_levelToken, List.mem_append, List.mem_cons, not_or, not_or]
    exact ⟨htoken.oneToken, by decide, not_mem_showNat (by decide) _⟩
  notAll := by
    intro hall
    have hcolon : ':' ∈ (levelToken (name, d)).toList := by
      rw [toList_levelToken]
      exact List.mem_append_right _ List.mem_cons_self
    rw [hall] at hcolon
    exact absurd hcolon (by decide)
  notNegated := by
    rw [head?_levelToken h.nonempty]
    exact htoken.notNegated
  notPattern := by
    rw [head?_levelToken h.nonempty]
    exact htoken.notPattern

namespace Scope

variable {scope : Scope} {m : Material}

theorem get?_catalogue_of_notMem {name : String} (hcanonical : canonicalName name = name)
    (h : name ∉ scope.catalogue.names) : scope.catalogue.get? name = none := by
  unfold Catalogue.get?
  rw [hcanonical]
  exact Table.find?_eq_none_of_notMem h

theorem item_levelToken (hlegacy : scope.legacy = true) (hm : m ∈ scope.roster.members .material)
    (h : TakesData m.name) {d : UInt32} (hnew : levelToken (m.name, d) ∉ scope.catalogue.names) :
    scope.item (levelToken (m.name, d)) = .ok ((Identity.plain m).withPredicate (.durability d)) := by
  have hcanonical := h.canonicalName_levelToken d
  have hsplit : Text.splitLast? ':' (canonicalName (levelToken (m.name, d))).toList =
      some (m.name.toList, (Text.showNat d.toNat).toList) := by
    rw [hcanonical, toList_levelToken]
    exact Text.splitLast?_append (not_mem_showNat (by decide) _) _
  have hkey : scope.key? .material (String.ofList m.name.toList) = some m := by
    rw [String.ofList_toList]
    exact key?_of_mem hm h.canonical
  have hnamed : scope.NamesItem (levelToken (m.name, d)) _ :=
    .legacy (get?_catalogue_of_notMem hcanonical hnew) hlegacy hsplit (Text.readUInt32?_showNat d) hkey
  exact resolve_items_eq_ok_iff.2 hnamed

theorem item_name (hm : m ∈ scope.roster.members .material) (h : TakesData m.name)
    (hnew : m.name ∉ scope.catalogue.names) : scope.item m.name = .ok (.plain m) := by
  have hwhole : ':' ∉ (canonicalName m.name).toList := by
    rw [h.canonical]
    exact h.noColon
  have hnamed : scope.NamesItem m.name (.plain m) :=
    .material (get?_catalogue_of_notMem h.canonical hnew) (fun _ => hwhole) (key?_of_mem hm h.canonical)
  exact resolve_items_eq_ok_iff.2 hnamed

end Scope

end Embargo
