import Embargo.Proofs.Item.Captured
import Embargo.Proofs.Item.RoundTrip
import Embargo.Proofs.Store.Edits
import Embargo.Warden

/-!
This module contains what is registered when a stack is added as a custom item. Its identity is written to
an entry, and what counts is how that entry is read back.
-/

namespace Embargo

open Yaml (Value)

namespace Store

theorem mem_entries_insert (s : Section) (name : String) (v : Value) :
    (name, v) ∈ (s.insert name v).entries := by
  apply Table.get?_eq_some_iff_mem.1
  simp

theorem exists_get?_of_addItem {store after : Store} {name : String} {i : Identity} {overwrite : Bool}
    (h : store.addItem name i overwrite = .ok after) :
    ∃ key j, validateName name = .ok key ∧ after.catalogue.get? key = some j
      ∧ ((key ∈ store.source.customItems.keys → canonicalName key = key) →
        (Identity.read store.itemScope (itemsPath.push key)
          (i.fields.map fun f => (.text f.1, f.2))).value = some j) := by
  obtain ⟨key, hvalid, -, hloads, rfl⟩ := addItem_eq_ok_iff.1 h
  rw [loads_eq, Option.isSome_iff_exists] at hloads
  obtain ⟨item, hitem⟩ := hloads
  -- whatever loads under the name afterwards, something does
  have hsome := isSome_get?_withItems store
    (mem_entries_insert (without store.source.customItems key) key i.toValue) hitem
  obtain ⟨j, hj⟩ := Option.isSome_iff_exists.1 hsome
  refine ⟨key, j, hvalid, hj, fun hkey => ?_⟩
  obtain ⟨-, fields, hfields, hread⟩ := Catalogue.entryItem?_eq_some hitem
  obtain rfl : i.fields.map (fun f => (.text f.1, f.2)) = fields := Value.mapping.inj hfields
  rw [get?_catalogue_withItems store hkey hitem] at hj
  exact hread.trans hj

end Store

namespace Warden

theorem addSpecimen_eq_ok_iff {w after : Warden} {name : String} {s : Stack} {overwrite : Bool} :
    w.addSpecimen name s overwrite = .ok after ↔
      ∃ store, w.store.addItem name (Specimen.capture s w.store.legacy).identity overwrite = .ok store
        ∧ after = w.withStore store := by
  unfold addSpecimen addItem
  cases w.store.addItem name (Specimen.capture s w.store.legacy).identity overwrite with
  | error e => simp [Except.map]
  | ok store => simp [Except.map, eq_comm]

/--
What was added as a custom item is found under its name. A stack is registered as it looks if all names in
it stand for themselves, and if the roster is canonical, what is registered is about the stack in no other
case; both unless the name is not canonical and an entry that is written like it was there before.
-/
theorem addSpecimen_registers {w after : Warden} {name : String} {s : Stack} {overwrite : Bool}
    (h : w.addSpecimen name s overwrite = .ok after) :
    ∃ key i, validateName name = .ok key ∧ after.store.catalogue.get? key = some i
      ∧ ((key ∈ w.store.source.customItems.keys → canonicalName key = key) →
        (s.Known w.store.itemScope →
          i = (Specimen.capture s w.store.legacy).identity ∧ i.holds s = true)
        ∧ (w.store.roster.Canonical → i.holds s = true → s.Known w.store.itemScope)) := by
  obtain ⟨store, hadd, rfl⟩ := addSpecimen_eq_ok_iff.1 h
  obtain ⟨key, i, hvalid, hget, hread⟩ := Store.exists_get?_of_addItem hadd
  refine ⟨key, i, hvalid, hget, fun hkey => ⟨fun hknown => ?_, fun hroster hholds => ?_⟩⟩
  · have hback := hread hkey
    rw [Identity.read_fields _ (Specimen.readable_capture hknown w.store.legacy)] at hback
    obtain rfl := Option.some.inj hback
    exact ⟨rfl, Specimen.holds_capture s w.store.legacy⟩
  · exact Specimen.known_of_holds hroster (hread hkey) hholds

theorem addSpecimen_registers_enchanted :
    let roster := (Roster.stock.add .material ["diamond_sword"]).add .enchantment ["sharpness"]
    let w := new {} roster ∅ none
    let sword := (Stack.mk ⟨"diamond_sword"⟩ 1 0 none).withEnchantment "sharpness" 5
    ∃ after, w.addSpecimen " Sword" sword false = .ok after
      ∧ ∃ i, after.store.catalogue.get? "sword" = some i
        ∧ i = (Specimen.capture sword w.store.legacy).identity ∧ i.holds sword = true := by
  intro roster w sword
  let i := (Specimen.capture sword w.store.legacy).identity
  have hfree : w.store.isTaken "sword" = true → false = true := by decide +revert
  have hloads : w.store.loads "sword" i.toValue = true := by
    clear hfree
    decide +revert
  have hscope : w.store.itemScope = { roster, aliases := ∅ } := rfl
  have hmaterial : w.store.itemScope.Knows sword.material := by
    rw [hscope]
    clear hfree hloads hscope
    decide +revert
  have henchantments : ∀ k ∈ sword.enchantments.keys, w.store.itemScope.Knows k := by
    rw [hscope]
    clear hfree hloads hscope hmaterial
    decide +revert
  have hknown : sword.Known w.store.itemScope :=
    ⟨hmaterial, henchantments, fun p hp => nomatch hp⟩
  have hadd : w.store.addItem " Sword" i false = .ok _ :=
    Store.addItem_eq_ok_iff.2 ⟨"sword", rfl, hfree, hloads, rfl⟩
  have hspecimen : w.addSpecimen " Sword" sword false = .ok _ :=
    addSpecimen_eq_ok_iff.2 ⟨_, hadd, rfl⟩
  obtain ⟨key, j, hvalid, hget, hregisters⟩ := addSpecimen_registers hspecimen
  obtain rfl : "sword" = key := Except.ok.inj hvalid
  have hcanonical : canonicalName "sword" = "sword" := by decide
  exact ⟨_, hspecimen, j, hget, (hregisters fun _ => hcanonical).1 hknown⟩

/--
A stack under the former name of a material, where the roster has the current one. What is registered is
about the current material and not about the stack.
-/
theorem addSpecimen_former_material :
    let aliases := (∅ : Aliases).insert (.key .material) "grass_path" "dirt_path"
    let w := new {} (Roster.stock.add .material ["dirt_path"]) aliases none
    let block := (Stack.mk ⟨"grass_path"⟩ 1 0 none).withDisplayName "Trail"
    ∃ after, w.addSpecimen "trail" block false = .ok after
      ∧ ∃ i, after.store.catalogue.get? "trail" = some i ∧ i.holds block = false := by
  intro aliases w block
  let i := (Specimen.capture block w.store.legacy).identity
  have hfree : w.store.isTaken "trail" = true → false = true := by decide +revert
  have hloads : w.store.loads "trail" i.toValue = true := by
    clear hfree
    decide +revert
  have hscope : w.store.itemScope =
      { roster := Roster.stock.add .material ["dirt_path"], aliases } := rfl
  have hadd : w.store.addItem "trail" i false = .ok _ :=
    Store.addItem_eq_ok_iff.2 ⟨"trail", rfl, hfree, hloads, rfl⟩
  obtain ⟨key, j, hvalid, hget, hread⟩ := Store.exists_get?_of_addItem hadd
  obtain rfl : "trail" = key := Except.ok.inj hvalid
  have hcanonical : canonicalName "trail" = "trail" := by decide
  refine ⟨_, addSpecimen_eq_ok_iff.2 ⟨_, hadd, rfl⟩, j, hget, ?_⟩
  have hmaterial := (Identity.exists_of_read_fields (hread fun _ => hcanonical)).1
  have hcurrent : w.store.itemScope.key? .material block.material.name = some ⟨"dirt_path"⟩ := by
    rw [hscope]
    clear hfree hloads hscope hadd hget hread hmaterial
    decide +revert
  obtain hj : ⟨"dirt_path"⟩ = j.material :=
    Option.some.inj (hcurrent.symm.trans (Specimen.material_capture block _ ▸ hmaterial))
  have hother : (block.material == j.material) = false := by
    rw [← hj]
    rfl
  unfold Identity.holds
  rw [hother, Bool.false_and]

end Warden

end Embargo
