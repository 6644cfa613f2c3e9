import Embargo.Proofs.Item.Index

/-!
This module contains the registrations of a catalogue and what they come to: a list of items, in which
a name that is registered anew goes to the end, and the index that follows from it.
-/

namespace Embargo

namespace Catalogue

inductive Step where
  | insert (name : String) (i : Identity)
  | remove (name : String)
  | read (scope : Scope) (path : Path) (entries : List (String × Yaml.Value))

def step (c : Catalogue) : Step → Catalogue
  | .insert name i => c.insert name i
  | .remove name => c.forget (canonicalName name)
  | .read scope path entries => (Catalogue.read scope path entries).value

def run (steps : List Step) : Catalogue :=
  steps.foldl step ∅

def enlist (items : List (String × Identity)) (e : String × Identity) : List (String × Identity) :=
  items.filter (·.1 ≠ e.1) ++ [e]

def listStep (items : List (String × Identity)) : Step → List (String × Identity)
  | .insert name i => enlist items (canonicalName name, i)
  | .remove name => items.filter (·.1 ≠ canonicalName name)
  | .read scope path entries => (entries.filterMap (entryItem? scope path)).foldl enlist []

def listed (steps : List Step) : List (String × Identity) :=
  steps.foldl listStep []

theorem items_register_eq_enlist (c : Catalogue) (e : String × Identity) :
    (c.register e.1 e.2).items = enlist c.items e := by
  rw [items_register, items_forget]
  rfl

theorem items_registerAll_eq_foldl (c : Catalogue) (items : List (String × Identity)) :
    (c.registerAll items).items = items.foldl enlist c.items := by
  unfold registerAll
  induction items generalizing c with
  | nil => rfl
  | cons e items ih => rw [List.foldl_cons, List.foldl_cons, ih, items_register_eq_enlist]

theorem items_step (c : Catalogue) (s : Step) : (c.step s).items = listStep c.items s := by
  cases s with
  | insert name i => exact items_register_eq_enlist c (canonicalName name, i)
  | remove name => exact items_forget c (canonicalName name)
  | read scope path entries =>
    simp only [step, listStep, value_read]
    apply items_registerAll_eq_foldl

theorem items_run (steps : List Step) : (run steps).items = listed steps := by
  -- from any catalogue on, not just from the empty one
  have hfold (c : Catalogue) : (steps.foldl step c).items = steps.foldl listStep c.items := by
    induction steps generalizing c with
    | nil => rfl
    | cons s steps ih => rw [List.foldl_cons, List.foldl_cons, ih, items_step]
  apply hfold

theorem Indexed.step {c : Catalogue} (h : c.Indexed) (s : Step) : (c.step s).Indexed := by
  cases s with
  | insert name i => apply h.register
  | remove name => apply h.forget
  | read scope path entries => apply indexed_read

theorem indexed_run (steps : List Step) : (run steps).Indexed := by
  have hfold {c : Catalogue} (h : c.Indexed) : (steps.foldl Catalogue.step c).Indexed := by
    induction steps generalizing c with
    | nil => exact h
    | cons s steps ih => exact ih (h.step s)
  exact hfold indexed_empty

def FirstName (items : List (String × Identity)) (i : Identity) (name : String) : Prop :=
  ∃ front back, items = front ++ (name, i) :: back ∧ ∀ e ∈ front, e.2 ≠ i

theorem firstName?_eq_some_iff {items : List (String × Identity)} {i : Identity} {name : String} :
    firstName? items i = some name ↔ FirstName items i name := by
  unfold firstName? FirstName
  simp only [Option.map_eq_some_iff, List.find?_eq_some_iff_append]
  constructor
  · rintro ⟨⟨k, j⟩, ⟨hj, front, back, hitems, hfront⟩, rfl⟩
    obtain rfl : j = i := by simpa using hj
    exact ⟨front, back, hitems, by simpa using hfront⟩
  · rintro ⟨front, back, hitems, hfront⟩
    exact ⟨(name, i), ⟨by simp, front, back, hitems, by simpa using hfront⟩, rfl⟩

theorem firstName?_eq_none_iff {items : List (String × Identity)} {i : Identity} :
    firstName? items i = none ↔ ∀ e ∈ items, e.2 ≠ i := by
  simp [firstName?]

/--
Whatever was registered and removed, a catalogue lists what is left of it, and it knows an identity with
conditions by its first name in that list.
-/
theorem nameOf?_run (steps : List Step) (i : Identity) :
    (run steps).items = listed steps
      ∧ (∀ name, (run steps).nameOf? i = some name ↔
          i.hasPredicates = true ∧ FirstName (listed steps) i name)
      ∧ ((run steps).nameOf? i = none ↔
          i.hasPredicates = false ∨ ∀ e ∈ listed steps, e.2 ≠ i) := by
  have hindexed := indexed_run steps i
  rw [items_run] at hindexed
  refine ⟨items_run steps, fun name => ?_, ?_⟩
  · rw [hindexed, ← firstName?_eq_some_iff]
    split <;> simp [*]
  · rw [hindexed, ← firstName?_eq_none_iff]
    split <;> simp [*]

end Catalogue

end Embargo
