import Embargo.Proofs.Expression.BareNames
import Embargo.Proofs.Expression.Resolution
import Embargo.Proofs.Item.Names

/-!
This module contains what the names of custom items denote. A valid name denotes its item as it was
given. The canonical form that it is stored under does so too, unless it is empty or still has the stock
namespace in front of it, which is dropped once more when the form is looked up.
-/

namespace Embargo

namespace Domain

variable {α : Type} [DecidableEq α] {d : Domain α} {a : α}

theorem denotes_iff_of_not_reserved {s : String} (hblank : Text.trim s ≠ "")
    (h : ∀ c ∈ (Text.trim s).toList, isReserved c = false) :
    d.Denotes s a ↔ d.resolve (Text.trim s) = .ok a := by
  have hfirst (c : Char) (rest : List Char) (hc : isReserved c = true) :
      (Text.trim s).toList ≠ c :: rest := by
    intro hcons
    have hallowed := h c (hcons ▸ List.mem_cons_self)
    rw [hc] at hallowed
    cases hallowed
  apply denotes_text_iff (notMem_of_trim_not_reserved h (by decide) (by decide)) hblank
  · intro hall
    apply hfirst '*' [] (by decide)
    rw [hall]
    rfl
  · intro rest hbang
    apply hfirst '!' rest.toList (by decide)
    rw [hbang, toList_bang]
  · intro body hhash
    apply hfirst '#' body.toList (by decide)
    rw [hhash, toList_hash]

theorem denotes_iff_of_validateName {raw name : String} (h : validateName raw = .ok name)
    (hname : name ≠ "") : d.Denotes name a ↔ d.resolve name = .ok a := by
  have hallowed := (isReserved_of_validateName h).2
  have htrim := trim_of_not_reserved hallowed
  have hdenotes : d.Denotes name a ↔ d.resolve (Text.trim name) = .ok a :=
    denotes_iff_of_not_reserved (by rwa [htrim]) (by rwa [htrim])
  rwa [htrim] at hdenotes

theorem not_denotes_empty : ¬ d.Denotes "" a := fun h =>
  -- there is no token in an empty text
  OrderedSet.not_mem_empty (mem_of_denotes h .root)

end Domain

namespace Scope

variable {scope : Scope} {raw name : String} {i : Identity}

theorem denotes_raw_of_validateName (h : validateName raw = .ok name)
    (hitem : scope.catalogue.byName.get? name = some i) : scope.items.Denotes raw i := by
  obtain ⟨hblank, hallowed, rfl⟩ := validateName_eq_ok_iff.1 h
  rw [Domain.denotes_iff_of_not_reserved hblank hallowed, resolve_items_eq_ok_iff]
  apply NamesItem.custom
  rwa [Catalogue.get?, canonicalName_trim]

theorem denotes_of_validateName (h : validateName raw = .ok name) (hname : name ≠ "")
    (hstock : ¬ stockNamespace <+: name.toList) (hitem : scope.catalogue.byName.get? name = some i) :
    scope.items.Denotes name i := by
  rw [Domain.denotes_iff_of_validateName h hname, resolve_items_eq_ok_iff]
  apply NamesItem.custom
  rwa [Catalogue.get?, (canonicalName_eq_self_iff_of_validateName h).2 hstock]

def only (raw : String) (i : Identity) (legacy : Bool) : Scope where
  roster := .stock
  aliases := ∅
  catalogue := (∅ : Catalogue).insert raw i
  legacy := legacy
  engine := default

theorem canonicalName_eq_of_namesItem_only {legacy : Bool} {token : String} {j : Identity}
    (h : (only raw i legacy).NamesItem token j) : canonicalName token = canonicalName raw := by
  -- no name leads to a material, with a data value or without one
  have hmaterial (other : String) (m : Material) :
      (only raw i legacy).key? .material other ≠ some m := fun hkey =>
    OrderedSet.not_mem_empty (mem_of_key? hkey)
  cases h with
  | custom hcustom =>
    by_contra hother
    rw [only, Catalogue.get?_insert, if_neg (Ne.symm hother)] at hcustom
    cases hcustom
  | legacy _ _ _ _ hkey => exact absurd hkey (hmaterial _ _)
  | material _ _ hkey => exact absurd hkey (hmaterial _ _)

/--
A custom item that is registered under a valid name is denoted by the name as it was given. Under either
item model, all scopes that have it registered have it denoted by the canonical form of the name if and
only if that form is not empty and does not begin with the stock namespace.
-/
theorem denotes_validName (h : validateName raw = .ok name) (i : Identity) (legacy : Bool) :
    (∀ scope : Scope, scope.catalogue.byName.get? name = some i → scope.items.Denotes raw i)
      ∧ ((∀ scope : Scope, scope.legacy = legacy → scope.catalogue.byName.get? name = some i →
          scope.items.Denotes name i) ↔
        name ≠ "" ∧ ¬ stockNamespace <+: name.toList) := by
  refine ⟨fun scope hitem => denotes_raw_of_validateName h hitem, fun hdenotes => ?_, ?_⟩
  · have hitem : (only raw i legacy).catalogue.byName.get? name = some i := by
      rw [validateName_eq_ok h, only, Catalogue.insert, Catalogue.get?_byName_register, if_pos rfl]
    have honly := hdenotes (only raw i legacy) rfl hitem
    have hname : name ≠ "" := by
      rintro rfl
      exact Domain.not_denotes_empty honly
    rw [Domain.denotes_iff_of_validateName h hname, resolve_items_eq_ok_iff] at honly
    rw [← canonicalName_eq_self_iff_of_validateName h]
    exact ⟨hname, (canonicalName_eq_of_namesItem_only honly).trans (validateName_eq_ok h).symm⟩
  · rintro ⟨hname, hstock⟩ scope - hitem
    exact denotes_of_validateName h hname hstock hitem

theorem denotes_validName_data :
    let relic := (Identity.plain ⟨"stone"⟩).withPredicate (.displayNameEquals "Relic")
    let scope : Scope :=
      { roster := Roster.stock.add .material ["stone", "épée"]
        aliases := ∅
        catalogue := (∅ : Catalogue).insert "Minecraft:ÉPÉE:5" relic
        legacy := true }
    validateName " Minecraft:ÉPÉE:5 " = .ok "épée:5"
      ∧ scope.catalogue.byName.get? "épée:5" = some relic
      ∧ ("épée:5" ≠ "" ∧ ¬ stockNamespace <+: "épée:5".toList)
      ∧ scope.items.Denotes " Minecraft:ÉPÉE:5 " relic ∧ scope.items.Denotes "épée:5" relic := by
  intro relic scope
  have hvalid : validateName " Minecraft:ÉPÉE:5 " = .ok "épée:5" := by decide +kernel
  have hitem : scope.catalogue.byName.get? "épée:5" = some relic := by decide +kernel
  have hname : "épée:5" ≠ "" ∧ ¬ stockNamespace <+: "épée:5".toList := by decide +kernel
  obtain ⟨hraw, hcanonical⟩ := denotes_validName hvalid relic true
  exact ⟨hvalid, hitem, hname, hraw scope hitem, hcanonical.2 hname scope rfl hitem⟩

/--
A name that is nothing but the stock namespace, and one that has this namespace twice: the first is passed
over without a report, and the second is unknown.
-/
theorem validName_not_denoted :
    let relic := (Identity.plain ⟨"stone"⟩).withPredicate (.displayNameEquals "Relic")
    let scope : Scope :=
      { roster := Roster.stock.add .material ["stone"]
        aliases := ∅
        catalogue := ((∅ : Catalogue).insert "minecraft:" relic).insert "minecraft:minecraft:relic" relic }
    let problems (s : String) := (scope.items.evaluate .root (.text s)).problems
    (validateName "minecraft:" = .ok "" ∧ scope.catalogue.byName.get? "" = some relic
      ∧ ¬ scope.items.Denotes "" relic ∧ problems "" = [])
      ∧ validateName "minecraft:minecraft:relic" = .ok "minecraft:relic"
      ∧ scope.catalogue.byName.get? "minecraft:relic" = some relic
      ∧ ¬ scope.items.Denotes "minecraft:relic" relic
      ∧ problems "minecraft:relic" = [⟨.root, .unknownToken .item "minecraft:relic"⟩] := by
  intro relic scope problems
  have hvalid : validateName "minecraft:minecraft:relic" = .ok "minecraft:relic" := by decide +kernel
  refine ⟨⟨by decide +kernel, by decide +kernel, Domain.not_denotes_empty, by decide +kernel⟩, hvalid,
    by decide +kernel, ?_, by decide +kernel⟩
  rw [Domain.denotes_iff_of_validateName hvalid (by decide)]
  decide +kernel

end Scope

end Embargo
