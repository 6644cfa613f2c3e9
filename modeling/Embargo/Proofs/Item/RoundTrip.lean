import Embargo.Proofs.Item.Conditions
import Embargo.Proofs.Item.Index
import Embargo.Proofs.Item.Names

namespace Embargo

open Yaml (Value)

namespace Catalogue

theorem mem_items_registerAll {c : Catalogue} {items : List (String × Identity)}
    {e : String × Identity} (h : e ∈ (c.registerAll items).items) : e ∈ c.items ∨ e ∈ items := by
  unfold registerAll at h
  induction items generalizing c with
  | nil => exact .inl h
  | cons d items ih =>
    rcases ih h with hc | hitems
    · rw [items_register, items_forget] at hc
      rcases List.mem_append.1 hc with hc | hd
      · exact .inl (List.mem_filter.1 hc).1
      · exact .inr (List.mem_singleton.1 hd ▸ List.mem_cons_self)
    · exact .inr (List.mem_cons_of_mem d hitems)

variable {scope : Scope} {path : Path}

theorem entryItem?_eq_some {e : String × Value} {item : String × Identity}
    (h : entryItem? scope path e = some item) :
    validateName e.1 = .ok item.1 ∧ ∃ fields, e.2 = .mapping fields
      ∧ (Identity.read scope (path.push e.1) fields).value = some item.2 := by
  unfold entryItem? readEntry at h
  dsimp only at h
  split at h
  · cases h
  · next name hname =>
    split at h
    · next fields hfields =>
      rw [Load.value_bind_pure] at h
      obtain ⟨i, hi, rfl⟩ := Option.map_eq_some_iff.1 h
      exact ⟨hname, fields, hfields, hi⟩
    · cases h

theorem exists_entry_of_mem_read {entries : List (String × Value)} {item : String × Identity}
    (h : item ∈ (read scope path entries).value.items) :
    ∃ e ∈ entries, entryItem? scope path e = some item := by
  rw [value_read] at h
  rcases mem_items_registerAll h with hempty | hitem
  · cases hempty
  · exact List.mem_filterMap.1 hitem

theorem read_of_readable (path : Path) {c : Catalogue}
    (hnames : ∀ e ∈ c.items, validateName e.1 = .ok e.1) (hitems : ∀ e ∈ c.items, e.2.Readable scope) :
    (read scope path c.toEntries).problems = []
      ∧ (read scope path c.toEntries).value.items = c.items := by
  have hentry : ∀ e ∈ c.items, readEntry scope path e.1 e.2.toValue = pure (some e) := fun e he =>
    readEntry_toValue path (hnames e he) (hitems e he)
  constructor
  · rw [problems_read, List.flatMap_eq_nil_iff]
    intro f hf
    obtain ⟨e, he, rfl⟩ := List.mem_map.1 hf
    unfold entryProblems
    rw [hentry e he]
    rfl
  · have hitem : ∀ e ∈ c.items, entryItem? scope path (e.1, e.2.toValue) = some e := by
      intro e he
      unfold entryItem?
      rw [hentry e he]
      rfl
    have hread : c.toEntries.filterMap (entryItem? scope path) = c.items := by
      -- each entry gives the item that it was written from, so none is dropped and the order stays
      unfold toEntries
      generalize c.items = items at hitem
      induction items with
      | nil => rfl
      | cons e items ih =>
        obtain ⟨he, hitems⟩ := List.forall_mem_cons.1 hitem
        rw [List.map_cons, List.filterMap_cons_some he, ih hitems]
    rw [value_read, hread]
    exact items_registerAll (c := ∅) c.byName.nodup

/--
A catalogue that was read is read back from its own section without a problem, with the same items in
the same order, and every identity is known by the same name.
-/
theorem read_toEntries (scope : Scope) (path other : Path) (entries : List (String × Value))
    (hroster : scope.roster.Canonical)
    (hnames : ∀ n ∈ (read scope path entries).value.names, n ≠ "" ∧ canonicalName n = n) :
    let c := (read scope path entries).value
    let again := read scope other c.toEntries
    again.problems = [] ∧ again.value.names = c.names ∧ again.value.items = c.items
      ∧ ∀ i, again.value.nameOf? i = c.nameOf? i := by
  intro c again
  have hvalid : ∀ e ∈ c.items, validateName e.1 = .ok e.1 := by
    intro item hitem
    obtain ⟨hne, hcanonical⟩ := hnames item.1 (List.mem_map_of_mem hitem)
    obtain ⟨e, -, he⟩ := exists_entry_of_mem_read hitem
    exact validateName_of_canonical (entryItem?_eq_some he).1 hne hcanonical
  have hreadable : ∀ e ∈ c.items, e.2.Readable scope := by
    intro item hitem
    obtain ⟨e, -, he⟩ := exists_entry_of_mem_read hitem
    obtain ⟨-, fields, -, hread⟩ := entryItem?_eq_some he
    exact Identity.readable_of_read hroster hread
  obtain ⟨hproblems, hitems⟩ := read_of_readable other hvalid hreadable
  have hindexed : ∀ i, again.value.nameOf? i = c.nameOf? i :=
    (indexed_read scope other _).nameOf?_eq (indexed_read scope path entries) hitems
  exact ⟨hproblems, congrArg (List.map Prod.fst) hitems, hitems, hindexed⟩

theorem read_toEntries_levels :
    let roster := (Roster.stock.add .material ["stone", "dirt"]).add .enchantment ["sharpness"]
    let scope : Scope := { roster, aliases := ∅ }
    let entries : List (String × Value) :=
      [("Relic", .mapping [(.text "material", .text "Stone"),
          (.text "enchantment_contains", .text "sharpness:5")]),
        ("minecraft:gem", .mapping [(.text "material", .text "dirt"),
          (.text "enchantment-equals", .mapping [(.text "Sharpness", .number (.int 0))])])]
    let c := (read scope .root entries).value
    let again := read scope .root c.toEntries
    c.names = ["relic", "gem"] ∧ again.problems = [] ∧ again.value.items = c.items := by
  intro roster scope entries c again
  have hroster : scope.roster.Canonical := by
    intro r
    cases r <;> decide +kernel
  have hnames : c.names = ["relic", "gem"] := by
    decide +kernel
  have hcanonical : ∀ n ∈ c.names, n ≠ "" ∧ canonicalName n = n := by
    rw [hnames]
    decide +kernel
  have hagain := read_toEntries scope .root .root entries hroster hcanonical
  exact ⟨hnames, hagain.1, hagain.2.2.1⟩

end Catalogue

end Embargo
