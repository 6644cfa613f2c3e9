import Embargo.Proofs.Item.Entries
import Embargo.Proofs.Rule.Compilation
import Embargo.Proofs.Store.Coherence

/-!
This module contains what an edit of a custom item leaves as it is: everything about the other items, and
after its reversal the whole store.
-/

namespace Embargo

open Yaml (Value)

def LoadError.itemKey? (e : LoadError) : Option String :=
  match e.path.segments with
  | "custom-items" :: key :: _ => some key
  | _ => none

def LoadError.isAboutOther (name : String) (e : LoadError) : Bool :=
  e.itemKey?.any fun key => canonicalName key != name

namespace Store

def itemsPath : Path :=
  Path.root.push "custom-items"

theorem itemKey?_of_into {e : LoadError} {key : String} {v : Value}
    (h : (itemsPath.push key).Into v e.path) : e.itemKey? = some key := by
  obtain ⟨keys, -, hplace⟩ := h
  unfold LoadError.itemKey?
  rw [hplace]
  rfl

theorem itemKey?_of_rules {source : RuleSource} {scope : Scope} {e : LoadError}
    (h : e ∈ (source.rules scope).problems) : e.itemKey? = none := by
  unfold LoadError.itemKey?
  rcases (source.reports_rules scope).places e h with ⟨_, -, keys, -, hplace⟩ | ⟨_, -, keys, -, hplace⟩
  · rw [hplace]
    rfl
  · rw [hplace]
    rfl

theorem filter_entryProblems (scope : Scope) (name : String) (e : String × Value) :
    (Catalogue.entryProblems scope itemsPath e).filter (LoadError.isAboutOther name) =
      if canonicalName e.1 != name then Catalogue.entryProblems scope itemsPath e else [] := by
  have hkey (problem : LoadError) (h : problem ∈ Catalogue.entryProblems scope itemsPath e) :
      problem.isAboutOther name = (canonicalName e.1 != name) := by
    unfold LoadError.isAboutOther
    rw [itemKey?_of_into ((Catalogue.reports_readEntry scope itemsPath e.1 e.2).places problem h),
      Option.any_some]
  split
  · next hother =>
    rw [List.filter_eq_self]
    exact fun problem h => (hkey problem h).trans hother
  · next hsame =>
    rw [List.filter_eq_nil_iff]
    exact fun problem h => by rw [hkey problem h]; exact hsame

theorem filter_problems (scope : Scope) (name : String) (entries : List (String × Value)) :
    (entries.flatMap (Catalogue.entryProblems scope itemsPath)).filter
        (LoadError.isAboutOther name) =
      (entries.filter fun e => canonicalName e.1 != name).flatMap
        (Catalogue.entryProblems scope itemsPath) := by
  induction entries with
  | nil => rfl
  | cons e entries ih =>
    rw [List.flatMap_cons, List.filter_append, filter_entryProblems, ih]
    by_cases hother : (canonicalName e.1 != name) = true
    · rw [if_pos hother, List.filter_cons_of_pos (by exact hother), List.flatMap_cons]
    · rw [if_neg hother, List.filter_cons_of_neg (by exact hother), List.nil_append]

variable {store : Store}

theorem Coherent.get?_catalogue (h : store.Coherent) (name : String) :
    store.catalogue.get? name =
      Catalogue.last? (store.source.customItems.entries.filterMap
        (Catalogue.entryItem? store.itemScope itemsPath)) (canonicalName name) := by
  have hread : store.catalogue = (Catalogue.read store.itemScope itemsPath
      store.source.customItems.entries).value := by
    rw [h.catalogue, h.book]
    rfl
  rw [hread, Catalogue.value_read]
  unfold Catalogue.get?
  rw [Catalogue.get?_byName_registerAll]
  exact Option.or_none

theorem Coherent.filter_problems (h : store.Coherent) (name : String) :
    store.book.problems.filter (LoadError.isAboutOther name) =
      (without store.source.customItems name).entries.flatMap
        (Catalogue.entryProblems store.itemScope itemsPath) := by
  let items := store.source.catalogue store.itemScope
  let scope : Scope := { store.itemScope with catalogue := items.value }
  have hproblems : store.book.problems = items.problems ++ (store.source.rules scope).problems := by
    rw [h.book, ← RuleSource.problems_bookAfter]
    rfl
  have hrules : (store.source.rules scope).problems.filter (LoadError.isAboutOther name) = [] := by
    rw [List.filter_eq_nil_iff]
    intro e he
    unfold LoadError.isAboutOther
    rw [itemKey?_of_rules he]
    exact Bool.false_ne_true
  have hitems : items.problems = store.source.customItems.entries.flatMap
      (Catalogue.entryProblems store.itemScope itemsPath) :=
    Catalogue.problems_read _ _ _
  rw [hproblems, List.filter_append, hrules, List.append_nil, hitems, Store.filter_problems]
  rfl

/--
What an edit of the item `name` leaves as it was. The problems of the other items keep their order.
-/
structure KeepsOthers (name : String) (before after : Store) : Prop where
  blacklist : after.source.blacklist = before.source.blacklist
  whitelist : after.source.whitelist = before.source.whitelist
  roster : after.roster = before.roster
  lookups : ∀ other, canonicalName other ≠ name →
    after.catalogue.get? other = before.catalogue.get? other
  problems : after.book.problems.filter (LoadError.isAboutOther name) =
    before.book.problems.filter (LoadError.isAboutOther name)

theorem Coherent.keepsOthers (h : store.Coherent) {items : Section} {name : String}
    (hothers : without items name = without store.source.customItems name) :
    KeepsOthers name store (store.withItems items) where
  blacklist := rfl
  whitelist := rfl
  roster := rfl
  lookups other hother := by
    have hafter : (store.withItems items).Coherent := coherent_rebuild _
    -- both look-ups are decided by the entries with other names, and those are the same
    have hpart (e : String × Value) (he : canonicalName e.1 = canonicalName other) :
        (canonicalName e.1 != name) = true := by
      rw [he]
      exact bne_iff_ne.2 hother
    rw [h.get?_catalogue, hafter.get?_catalogue, ← Catalogue.last?_filter _ _ _ hpart,
      ← Catalogue.last?_filter _ _ store.source.customItems.entries hpart]
    exact congrArg (fun s : Section => Catalogue.last? (s.entries.filterMap
      (Catalogue.entryItem? store.itemScope itemsPath)) (canonicalName other)) hothers
  problems := by
    have hafter : (store.withItems items).Coherent := coherent_rebuild _
    rw [h.filter_problems, hafter.filter_problems]
    exact congrArg (fun s : Section => s.entries.flatMap
      (Catalogue.entryProblems store.itemScope itemsPath)) hothers

theorem entries_without (s : Section) (name : String) :
    (without s name).entries = s.entries.filter fun e => canonicalName e.1 != name := rfl

theorem without_without (s : Section) (name : String) :
    without (without s name) name = without s name := by
  apply Table.ext
  simp only [entries_without, List.filter_filter, Bool.and_self]

theorem without_insert (s : Section) {name : String} (v : Value)
    (hname : canonicalName name = name) : without (s.insert name v) name = without s name := by
  apply Table.filter_upsert
  intro _
  simp [hname]

theorem entries_insert_without (s : Section) {name : String} (v : Value)
    (hname : name ∈ s.keys → canonicalName name = name) :
    ((without s name).insert name v).entries =
      (s.entries.filter fun e => canonicalName e.1 != name) ++ [(name, v)] := by
  apply Table.entries_insert_of_notMem
  intro hmem
  obtain ⟨e, he, rfl⟩ := List.mem_map.1 hmem
  obtain ⟨hentry, hother⟩ := List.mem_filter.1 he
  simp [hname (List.mem_map_of_mem hentry)] at hother

/--
A refused edit of a custom item changes nothing. Otherwise the entries with other names are kept as they
are written, in their order, and nothing changes about what they load to or what is wrong with them; the
entries under the name are gone, and an added one comes last.
-/
theorem edit_keepsOthers (h : store.Reachable) {name key : String} (hkey : canonicalName name = key)
    (hcanonical : canonicalName key = key) :
    let others := store.source.customItems.entries.filter fun e => canonicalName e.1 != key
    (∀ i overwrite e, store.addItem name i overwrite = .error e →
        store.edit (.addItem name i overwrite) = store)
      ∧ (∀ e, store.removeItem name = .error e → store.edit (.removeItem name) = store)
      ∧ (∀ i overwrite after, store.addItem name i overwrite = .ok after →
        KeepsOthers key store after
          ∧ after.source.customItems.entries = others ++ [(key, i.toValue)])
      ∧ ∀ i after, store.removeItem name = .ok (i, after) →
        KeepsOthers key store after ∧ after.source.customItems.entries = others := by
  intro others
  subst hkey
  refine ⟨?_, ?_, ?_, ?_⟩
  · intro i overwrite e hadd
    unfold edit
    simp only [hadd]
  · intro e hremove
    unfold edit
    simp only [hremove]
  · intro i overwrite after hadd
    obtain ⟨n, hn, -, -, rfl⟩ := addItem_eq_ok_iff.1 hadd
    obtain rfl := validateName_eq_ok hn
    refine ⟨h.coherent.keepsOthers ?_, entries_insert_without _ _ fun _ => hcanonical⟩
    rw [without_insert _ _ hcanonical, without_without]
  · intro i after hremove
    obtain ⟨-, rfl⟩ := removeItem_eq_ok_iff.1 hremove
    exact ⟨h.coherent.keepsOthers (without_without _ _), rfl⟩

theorem edit_keepsOthers_overwritten :
    let roster := Roster.stock.add .material ["diamond_sword"]
    let source : RuleSource :=
      { customItems := .ofList
          [("SWORD", .mapping [(.text "material", .text "diamond_sword")]),
            ("wand", .mapping [(.text "material", .text "stick")])] }
    let store := (new roster ∅ false).editAll [.reload source]
    let sword := (Identity.plain ⟨"diamond_sword"⟩).withPredicate (.displayNameEquals "Excalibur")
    store.Reachable ∧ canonicalName "Sword" = "sword" ∧ canonicalName "sword" = "sword"
      ∧ ∃ after, store.addItem "Sword" sword true = .ok after
        ∧ KeepsOthers "sword" store after
        ∧ after.source.customItems.keys = ["wand", "sword"] := by
  intro roster source store sword
  let after := store.withItems
    ((without store.source.customItems "sword").insert "sword" sword.toValue)
  have hkeys : after.source.customItems.keys = ["wand", "sword"] := by decide +revert
  have hloads : store.loads "sword" sword.toValue = true := by
    clear hkeys
    decide +revert
  have hkey : canonicalName "Sword" = "sword" := by decide
  have hcanonical : canonicalName "sword" = "sword" := by decide
  have hreach : store.Reachable := ⟨roster, ∅, false, _, [.reload source], rfl⟩
  have hadd : store.addItem "Sword" sword true = .ok after :=
    addItem_eq_ok_iff.2 ⟨"sword", rfl, fun _ => rfl, hloads, rfl⟩
  obtain ⟨-, -, hadded, -⟩ := edit_keepsOthers hreach hkey hcanonical
  exact ⟨hreach, hkey, hcanonical, after, hadd, (hadded sword true after hadd).1, hkeys⟩

theorem loads_eq (store : Store) (name : String) (entry : Value) :
    store.loads name entry =
      (Catalogue.entryItem? store.itemScope itemsPath (name, entry)).isSome := by
  have hread : store.loads name entry =
      !(Catalogue.read store.itemScope itemsPath [(name, entry)]).value.isEmpty := rfl
  rw [hread, Catalogue.isEmpty_value_read, Option.not_isNone]

theorem Coherent.rebuild_eq (h : store.Coherent) : store.rebuild = store := by
  have hbook : store.rebuild.book = store.book := h.book.symm
  have hcatalogue : store.rebuild.catalogue = store.catalogue := by
    rw [h.catalogue, h.book]
    rfl
  calc store.rebuild
    _ = { store with catalogue := store.rebuild.catalogue, book := store.rebuild.book } := rfl
    _ = store := by rw [hbook, hcatalogue]

theorem without_of_not_isTaken {name : String} (h : ¬ store.isTaken name = true) :
    without store.source.customItems name = store.source.customItems := by
  unfold isTaken at h
  rw [Bool.or_eq_true, not_or, Bool.not_eq_true, Bool.not_eq_true, List.any_eq_false] at h
  apply Table.ext
  rw [entries_without, List.filter_eq_self]
  intro e he
  exact bne_iff_ne.2 fun hname => h.2 e.1 (List.mem_map_of_mem he) (beq_iff_eq.2 hname)

theorem isSome_get?_withItems (store : Store) {items : Section} {e : String × Value}
    {item : String × Identity} (he : e ∈ items.entries)
    (hitem : Catalogue.entryItem? store.itemScope itemsPath e = some item) :
    ((store.withItems items).catalogue.get? e.1).isSome = true := by
  have hafter : (store.withItems items).Coherent := coherent_rebuild _
  rw [hafter.get?_catalogue, ← Catalogue.name_of_entryItem? store.itemScope itemsPath hitem]
  exact Catalogue.isSome_last? (List.mem_filterMap.2 ⟨e, he, hitem⟩)

theorem get?_catalogue_withItems (store : Store) {name : String} {v : Value}
    {item : String × Identity}
    (hname : name ∈ store.source.customItems.keys → canonicalName name = name)
    (hitem : Catalogue.entryItem? store.itemScope itemsPath (name, v) = some item) :
    (store.withItems ((without store.source.customItems name).insert name v)).catalogue.get? name =
      some item.2 := by
  let items := (without store.source.customItems name).insert name v
  let others := store.source.customItems.entries.filter fun e => canonicalName e.1 != name
  let item? := Catalogue.entryItem? store.itemScope itemsPath
  have hafter : (store.withItems items).Coherent := coherent_rebuild _
  have hitemName : item.1 = canonicalName name :=
    Catalogue.name_of_entryItem? (e := (name, v)) store.itemScope itemsPath hitem
  have hread : items.entries.filterMap item? = others.filterMap item? ++ [item] := by
    rw [entries_insert_without _ _ hname, List.filterMap_append, List.filterMap_cons_some hitem]
    rfl
  calc (store.withItems items).catalogue.get? name
    _ = Catalogue.last? (items.entries.filterMap item?) (canonicalName name) :=
      hafter.get?_catalogue name
    _ = Catalogue.last? (others.filterMap item? ++ [item]) item.1 := by rw [hread, hitemName]
    _ = some item.2 := Catalogue.last?_concat _ item

/--
An item that was added under a free name can be removed again, and then the store is what it was. The
removal answers with what was registered under the name.
-/
theorem removeItem_addItem (h : store.Reachable) {name key : String} {i : Identity} {after : Store}
    (hvalid : validateName name = .ok key) (hcanonical : canonicalName key = key)
    (hadd : store.addItem name i false = .ok after) :
    ∃ j, after.catalogue.get? key = some j ∧ after.removeItem name = .ok (j, store) := by
  obtain ⟨n, hn, hfree, hloads, rfl⟩ := addItem_eq_ok_iff.1 hadd
  obtain rfl : key = n := Except.ok.inj (hvalid.symm.trans hn)
  -- in the section the entry loads as it did on its own
  rw [loads_eq, Option.isSome_iff_exists] at hloads
  obtain ⟨item, hitem⟩ := hloads
  have hget := get?_catalogue_withItems store (fun _ => hcanonical) hitem
  refine ⟨item.2, hget, removeItem_eq_ok_iff.2 ?_⟩
  rw [← validateName_eq_ok hvalid]
  refine ⟨hget, ?_⟩
  have hothers : without store.source.customItems key = store.source.customItems :=
    without_of_not_isTaken fun htaken => Bool.false_ne_true (hfree htaken)
  have hback : without ((without store.source.customItems key).insert key i.toValue) key =
      store.source.customItems := by
    rw [without_insert _ _ hcanonical, without_without, hothers]
  calc store
    _ = store.withItems store.source.customItems := h.coherent.rebuild_eq.symm
    _ = store.withItems (without ((without store.source.customItems key).insert key i.toValue) key) := by
      rw [hback]

theorem removeItem_addItem_unloaded :
    let roster := Roster.stock.add .material ["diamond_sword"]
    let source : RuleSource :=
      { customItems := .ofList [("Wand", .mapping [(.text "material", .text "stick")])] }
    let store := (new roster ∅ false).editAll [.reload source]
    let sword := (Identity.plain ⟨"diamond_sword"⟩).withPredicate (.displayNameEquals "Excalibur")
    store.Reachable ∧ validateName " Sword" = .ok "sword" ∧ canonicalName "sword" = "sword"
      ∧ ∃ after, store.addItem " Sword" sword false = .ok after
        ∧ after.source.customItems.keys = ["Wand", "sword"]
        ∧ ∃ j, after.catalogue.get? "sword" = some j ∧ after.removeItem " Sword" = .ok (j, store) := by
  intro roster source store sword
  let after := store.withItems
    ((without store.source.customItems "sword").insert "sword" sword.toValue)
  have hkeys : after.source.customItems.keys = ["Wand", "sword"] := by decide +revert
  have hloads : store.loads "sword" sword.toValue = true := by
    clear hkeys
    decide +revert
  have hfree : store.isTaken "sword" = true → false = true := by
    clear hkeys hloads
    decide +revert
  have hvalid : validateName " Sword" = .ok "sword" := rfl
  have hcanonical : canonicalName "sword" = "sword" := by decide
  have hreach : store.Reachable := ⟨roster, ∅, false, _, [.reload source], rfl⟩
  have hadd : store.addItem " Sword" sword false = .ok after :=
    addItem_eq_ok_iff.2 ⟨"sword", hvalid, hfree, hloads, rfl⟩
  exact ⟨hreach, hvalid, hcanonical, after, hadd, hkeys,
    removeItem_addItem hreach hvalid hcanonical hadd⟩

end Store

end Embargo
