import Embargo.Proofs.Item.Index
import Embargo.Proofs.Store.Edits
import Mathlib.Data.List.Basic
import Mathlib.Data.List.Induction

/-!
This module contains the proof that entries of custom items load independently: behind whatever other
entries, an entry comes to the same item and the same problems as without them.
-/

namespace Embargo

open Yaml (Value)

namespace Catalogue

def lasts : List (String × Identity) → List (String × Identity)
  | [] => []
  | item :: items => if items.any (·.1 = item.1) then lasts items else item :: lasts items

theorem lasts_concat (items : List (String × Identity)) (item : String × Identity) :
    lasts (items ++ [item]) = (lasts items).filter (fun e => e.1 ≠ item.1) ++ [item] := by
  induction items with
  | nil => rfl
  | cons e items ih =>
    rw [List.cons_append, lasts, lasts, ih, List.any_append, List.any_cons, List.any_nil, Bool.or_false]
    by_cases hlater : items.any (·.1 = e.1) = true
    · rw [hlater, Bool.true_or, if_pos rfl, if_pos rfl]
    · rw [Bool.not_eq_true] at hlater
      rw [hlater, Bool.false_or, if_neg Bool.false_ne_true]
      by_cases hname : item.1 = e.1
      · rw [if_pos (decide_eq_true hname), List.filter_cons_of_neg (by simp [hname])]
      · rw [if_neg (by simp [hname]), List.filter_cons_of_pos (by simp [Ne.symm hname]),
          List.cons_append]

theorem registerAll_append (c : Catalogue) (items others : List (String × Identity)) :
    c.registerAll (items ++ others) = (c.registerAll items).registerAll others :=
  List.foldl_append

theorem items_registerAll_empty (items : List (String × Identity)) :
    (registerAll ∅ items).items = lasts items := by
  induction items using List.reverseRecOn with
  | nil => rfl
  | append_singleton items item ih =>
    have hstep : registerAll ∅ (items ++ [item]) = (registerAll ∅ items).register item.1 item.2 :=
      registerAll_append ∅ items [item]
    rw [hstep, items_register, items_forget, ih, lasts_concat]

theorem mem_of_last? {items : List (String × Identity)} {name : String} {i : Identity}
    (h : last? items name = some i) : (name, i) ∈ items := by
  unfold last? at h
  obtain ⟨item, hitem, rfl⟩ := Option.map_eq_some_iff.1 h
  obtain ⟨hmem, hname⟩ := List.mem_filter.1 (List.mem_of_getLast? hitem)
  obtain rfl := of_decide_eq_true hname
  exact hmem

section Alone

variable (scope : Scope) (path : Path)

def alone (e : String × Value) : Load Catalogue :=
  read scope path [e]

def loaded (entries : List (String × Value)) : List (String × Identity) :=
  entries.flatMap fun e => (alone scope path e).value.items

theorem items_alone (e : String × Value) :
    (alone scope path e).value.items = (entryItem? scope path e).toList := by
  unfold alone
  rw [value_read]
  cases hitem : entryItem? scope path e with
  | none =>
    rw [List.filterMap_cons_none hitem]
    rfl
  | some item =>
    rw [List.filterMap_cons_some hitem]
    rfl

theorem problems_alone (e : String × Value) :
    (alone scope path e).problems = entryProblems scope path e := by
  unfold alone
  rw [problems_read, List.flatMap_singleton]

theorem loaded_eq_filterMap (entries : List (String × Value)) :
    loaded scope path entries = entries.filterMap (entryItem? scope path) := by
  unfold loaded
  rw [List.filterMap_eq_flatMap_toList]
  exact congrArg (fun f => entries.flatMap f) (funext (items_alone scope path))

theorem get?_alone (e : String × Value) :
    (alone scope path e).value.get? e.1 = (entryItem? scope path e).map Prod.snd := by
  have hvalue : (alone scope path e).value = registerAll ∅ ([e].filterMap (entryItem? scope path)) :=
    value_read scope path [e]
  unfold Catalogue.get?
  rw [hvalue, get?_byName_registerAll]
  cases hitem : entryItem? scope path e with
  | none =>
    rw [List.filterMap_cons_none hitem]
    rfl
  | some item =>
    rw [List.filterMap_cons_some hitem, ← name_of_entryItem? scope path hitem, List.filterMap_nil,
      ← List.nil_append [item], last?_concat]
    rfl

theorem items_alone_cases (e : String × Value) :
    (alone scope path e).value.items = []
      ∨ ∃ i, (alone scope path e).value.items = [(canonicalName e.1, i)] := by
  rw [items_alone]
  cases hitem : entryItem? scope path e with
  | none => exact .inl rfl
  | some item => exact .inr ⟨item.2, by rw [← name_of_entryItem? scope path hitem]; rfl⟩

theorem run_readEntry (e : String × Value) (trail : Trail) :
    (readEntry scope path e.1 e.2).run trail =
      ((alone scope path e).value.items.head?, trail ++ (alone scope path e).problems) := by
  rw [(reports_readEntry scope path e.1 e.2).additive trail, items_alone, problems_alone,
    Option.head?_toList]
  rfl

end Alone

section Sections

variable (scope : Scope) (path : Path)

theorem value_read_eq_registerAll (entries : List (String × Value)) :
    (read scope path entries).value = registerAll ∅ (loaded scope path entries) := by
  rw [value_read, loaded_eq_filterMap]

theorem value_read_split (front : List (String × Value)) (e : String × Value)
    (back : List (String × Value)) :
    (read scope path (front ++ e :: back)).value =
      ((read scope path front).value.registerAll (alone scope path e).value.items).registerAll
        (loaded scope path back) := by
  have hloaded : loaded scope path (front ++ e :: back) =
      loaded scope path front ++ ((alone scope path e).value.items ++ loaded scope path back) := by
    unfold loaded
    rw [List.flatMap_append, List.flatMap_cons]
  rw [value_read_eq_registerAll, value_read_eq_registerAll, hloaded, registerAll_append,
    registerAll_append]

theorem items_read (entries : List (String × Value)) :
    (read scope path entries).value.items = lasts (loaded scope path entries) := by
  rw [value_read_eq_registerAll, items_registerAll_empty]

theorem get?_byName_read (entries : List (String × Value)) (name : String) :
    (read scope path entries).value.byName.get? name = last? (loaded scope path entries) name := by
  rw [value_read_eq_registerAll, get?_byName_registerAll]
  exact Option.or_none

theorem run_read_entries (entries : List (String × Value)) (trail : Trail) :
    (read scope path entries).run trail =
      ((read scope path entries).value,
        trail ++ entries.flatMap fun e => (alone scope path e).problems) := by
  have hadditive : (read scope path entries).Additive := by
    rw [read_eq]
    exact Load.additive_foldlM (additive_enter scope path) ∅ entries
  have hproblems : (read scope path entries).problems =
      entries.flatMap fun e => (alone scope path e).problems := by
    rw [problems_read]
    exact congrArg (fun f => entries.flatMap f) (funext fun e => (problems_alone scope path e).symm)
  rw [← hproblems]
  exact hadditive trail

theorem last?_loaded_of_only {entries : List (String × Value)} {e : String × Value} (he : e ∈ entries)
    (honly : ∀ d ∈ entries, canonicalName d.1 = canonicalName e.1 → d = e) :
    last? (loaded scope path entries) (canonicalName e.1) = (alone scope path e).value.get? e.1 := by
  -- whatever is last under the name comes from the only entry that has it
  have hfrom {i : Identity} (h : last? (loaded scope path entries) (canonicalName e.1) = some i) :
      entryItem? scope path e = some (canonicalName e.1, i) := by
    have hmem := mem_of_last? h
    rw [loaded_eq_filterMap] at hmem
    obtain ⟨d, hd, hitem⟩ := List.mem_filterMap.1 hmem
    obtain rfl := honly d hd (name_of_entryItem? scope path hitem).symm
    exact hitem
  rw [get?_alone]
  cases hitem : entryItem? scope path e with
  | none =>
    rw [Option.map_none, Option.eq_none_iff_forall_ne_some]
    intro i hi
    rw [hfrom hi] at hitem
    cases hitem
  | some item =>
    have hmem : item ∈ loaded scope path entries := by
      rw [loaded_eq_filterMap]
      exact List.mem_filterMap.2 ⟨e, he, hitem⟩
    have hsome := isSome_last? hmem
    rw [name_of_entryItem? scope path hitem] at hsome
    obtain ⟨i, hi⟩ := Option.isSome_iff_exists.1 hsome
    have hsame := hfrom hi
    rw [hitem] at hsame
    cases hsame
    exact hi

end Sections

/--
An entry loads to at most one item, which is under its canonical name, and behind any entries and any
problems it comes to the same item and the same problems as alone. Each name has what the last entry under
it loads to, names are ordered by that entry, and problems come in the order of the entries. What a store
tries out is what it compiles then: under a name that only one entry has, there is what this entry loads
to alone.
-/
theorem read_independently (scope : Scope) (path : Path) (entries : List (String × Value)) :
    let whole := read scope path entries
    (∀ e, (alone scope path e).value.items = []
        ∨ ∃ i, (alone scope path e).value.items = [(canonicalName e.1, i)])
      ∧ (∀ e trail, (readEntry scope path e.1 e.2).run trail =
          ((alone scope path e).value.items.head?, trail ++ (alone scope path e).problems))
      ∧ (∀ front e back, entries = front ++ e :: back →
          whole.value = ((read scope path front).value.registerAll
            (alone scope path e).value.items).registerAll (loaded scope path back))
      ∧ whole.value.items = lasts (loaded scope path entries)
      ∧ (∀ name, whole.value.byName.get? name = last? (loaded scope path entries) name)
      ∧ (∀ trail, whole.run trail =
          (whole.value, trail ++ entries.flatMap fun e => (alone scope path e).problems))
      ∧ ∀ (store : Store) (items : Section),
          let trial := fun e => (alone store.itemScope Store.itemsPath e).value
          let rebuilt := (store.withItems items).catalogue
          (∀ e : String × Value, store.loads e.1 e.2 = !(trial e).isEmpty)
            ∧ rebuilt.items = lasts (items.entries.flatMap fun e => (trial e).items)
            ∧ ∀ e ∈ items.entries,
                (∀ d ∈ items.entries, canonicalName d.1 = canonicalName e.1 → d = e) →
                rebuilt.get? e.1 = (trial e).get? e.1
                  ∧ store.loads e.1 e.2 = (rebuilt.get? e.1).isSome := by
  intro whole
  refine ⟨items_alone_cases scope path, run_readEntry scope path, ?_, items_read scope path entries,
    get?_byName_read scope path entries, run_read_entries scope path entries, fun store items => ?_⟩
  · rintro front e back rfl
    exact value_read_split scope path front e back
  · intro trial rebuilt
    have hrebuilt : rebuilt = (read store.itemScope Store.itemsPath items.entries).value := rfl
    refine ⟨fun e => rfl, ?_, fun e he honly => ?_⟩
    · rw [hrebuilt]
      exact items_read store.itemScope Store.itemsPath items.entries
    · have hget : rebuilt.get? e.1 = (trial e).get? e.1 := by
        rw [hrebuilt, Catalogue.get?, get?_byName_read]
        exact last?_loaded_of_only store.itemScope Store.itemsPath he honly
      refine ⟨hget, ?_⟩
      rw [hget, get?_alone, Option.isSome_map]
      exact store.loads_eq e.1 e.2

theorem read_independently_sword :
    let store := Store.new (Roster.stock.add .material ["diamond_sword"]) ∅ false
    let wand : Value := .mapping [(.text "material", .text "stick")]
    let sword : Value := .mapping [(.text "material", .text "diamond_sword")]
    let items : Section := .ofList [("SWORD", wand), ("Sword", sword), ("blade", sword)]
    let loads := alone store.itemScope Store.itemsPath
    let whole := read store.itemScope Store.itemsPath items.entries
    items.entries = [("SWORD", wand)] ++ ("Sword", sword) :: [("blade", sword)]
      ∧ (loads ("Sword", sword)).value.items = [("sword", .plain ⟨"diamond_sword"⟩)]
      ∧ whole.value = ((read store.itemScope Store.itemsPath [("SWORD", wand)]).value.registerAll
          (loads ("Sword", sword)).value.items).registerAll
            (loaded store.itemScope Store.itemsPath [("blade", sword)])
      ∧ ("blade", sword) ∈ items.entries
      ∧ (∀ d ∈ items.entries, canonicalName d.1 = canonicalName "blade" → d = ("blade", sword))
      ∧ store.loads "blade" sword = ((store.withItems items).catalogue.get? "blade").isSome := by
  intro store wand sword items loads whole
  have hsplit : items.entries = [("SWORD", wand)] ++ ("Sword", sword) :: [("blade", sword)] := rfl
  have hmem : ("blade", sword) ∈ items.entries := by
    rw [hsplit]
    simp
  have honly : ∀ d ∈ items.entries, canonicalName d.1 = canonicalName "blade" →
      d = ("blade", sword) := by
    have hother : canonicalName "SWORD" ≠ canonicalName "blade" := by decide
    have hsword : canonicalName "Sword" ≠ canonicalName "blade" := by decide
    rw [hsplit]
    simp [hother, hsword]
  have hitem : (loads ("Sword", sword)).value.items = [("sword", .plain ⟨"diamond_sword"⟩)] := by
    decide +kernel
  obtain ⟨-, -, hregister, -, -, -, hstore⟩ :=
    read_independently store.itemScope Store.itemsPath items.entries
  obtain ⟨-, -, hagree⟩ := hstore store items
  have hvalue := hregister _ _ _ hsplit
  have hloads := (hagree _ hmem honly).2
  exact ⟨hsplit, hitem, hvalue, hmem, honly, hloads⟩

end Catalogue

end Embargo
