import Embargo.Rule.Store

/-!
This module contains the edits of a store and their main property: what a store publishes is what its
source and its roster compile to, in whatever way the store came to them.
-/

namespace Embargo

namespace Store

inductive Edit where
  | reload (source : RuleSource)
  | setRoster (roster : Roster)
  | addItem (name : String) (item : Identity) (overwrite : Bool)
  | removeItem (name : String)

def edit (store : Store) : Edit → Store
  | .reload source => store.reload source
  | .setRoster roster => store.setRoster roster
  | .addItem name i overwrite =>
    match store.addItem name i overwrite with
    | .ok after => after
    | .error _ => store
  | .removeItem name =>
    match store.removeItem name with
    | .ok (_, after) => after
    | .error _ => store

def editAll (store : Store) (edits : List Edit) : Store :=
  edits.foldl edit store

theorem addItem_eq_ok_iff {store after : Store} {name : String} {i : Identity} {overwrite : Bool} :
    store.addItem name i overwrite = .ok after ↔
      ∃ key, validateName name = .ok key
        ∧ (store.isTaken key = true → overwrite = true)
        ∧ store.loads key i.toValue = true
        ∧ after = store.withItems
            ((without store.source.customItems key).insert key i.toValue) := by
  unfold addItem
  cases validateName name with
  | error e => simp [bind, Except.bind]
  | ok key =>
    by_cases htaken : (store.isTaken key && !overwrite) = true
    · have hrefused : ¬ (store.isTaken key = true → overwrite = true) := by
        simpa using htaken
      simp [bind, Except.bind, throw, throwThe, MonadExceptOf.throw, htaken, hrefused]
    · have hfree : store.isTaken key = true → overwrite = true := by
        simpa using htaken
      by_cases hload : store.loads key i.toValue = true
      · simp only [bind, Except.bind, pure, Except.pure, htaken, hload, Bool.not_true,
          Bool.false_eq_true, if_false, Except.ok.injEq, exists_eq_left', true_and]
        exact ⟨fun h => ⟨hfree, h.symm⟩, fun h => h.2.symm⟩
      · simp [bind, Except.bind, throw, throwThe, MonadExceptOf.throw, htaken, hload]

theorem removeItem_eq_ok_iff {store after : Store} {name : String} {i : Identity} :
    store.removeItem name = .ok (i, after) ↔
      store.catalogue.get? (canonicalName name) = some i
        ∧ after = store.withItems (without store.source.customItems (canonicalName name)) := by
  simp only [removeItem]
  split
  · next j hget => simp [hget, eq_comm]
  · next hget => simp [hget]

theorem edit_cases (store : Store) (e : Edit) :
    store.edit e = store
      ∨ ∃ source roster, store.edit e = rebuild { store with source := source, roster := roster } := by
  cases e with
  | reload source => exact .inr ⟨source, store.roster, rfl⟩
  | setRoster roster => exact .inr ⟨store.source, roster, rfl⟩
  | addItem name i overwrite =>
    simp only [edit]
    split
    · next after h =>
      obtain ⟨key, -, -, -, rfl⟩ := addItem_eq_ok_iff.1 h
      exact .inr ⟨_, store.roster, rfl⟩
    · exact .inl rfl
  | removeItem name =>
    simp only [edit]
    split
    · next i after h =>
      obtain ⟨-, rfl⟩ := removeItem_eq_ok_iff.1 h
      exact .inr ⟨_, store.roster, rfl⟩
    · exact .inl rfl

structure Coherent (store : Store) : Prop where
  book : store.book = store.source.compile store.roster store.aliases store.legacy store.engine
  catalogue : store.catalogue = store.book.catalogue

theorem coherent_rebuild (store : Store) : store.rebuild.Coherent where
  book := rfl
  catalogue := rfl

theorem Coherent.edit {store : Store} (h : store.Coherent) (e : Edit) : (store.edit e).Coherent := by
  obtain hsame | ⟨source, roster, hnew⟩ := edit_cases store e
  · rw [hsame]
    exact h
  · rw [hnew]
    apply coherent_rebuild

theorem Coherent.editAll {store : Store} (h : store.Coherent) (edits : List Edit) :
    (store.editAll edits).Coherent := by
  induction edits generalizing store with
  | nil => exact h
  | cons e edits ih => exact ih (h.edit e)

theorem coherent_new (roster : Roster) (aliases : Aliases) (legacy : Bool)
    (engine : Engine) : (new roster aliases legacy engine).Coherent := by
  apply coherent_rebuild

def Reachable (store : Store) : Prop :=
  ∃ roster aliases legacy engine edits, store = (new roster aliases legacy engine).editAll edits

theorem Reachable.coherent {store : Store} (h : store.Reachable) : store.Coherent := by
  obtain ⟨roster, aliases, legacy, engine, edits, rfl⟩ := h
  exact (coherent_new roster aliases legacy engine).editAll edits

theorem fixed_edit (store : Store) (e : Edit) :
    (store.edit e).aliases = store.aliases ∧ (store.edit e).legacy = store.legacy
      ∧ (store.edit e).engine = store.engine := by
  obtain hsame | ⟨source, roster, hnew⟩ := edit_cases store e
  · rw [hsame]
    exact ⟨rfl, rfl, rfl⟩
  · rw [hnew]
    exact ⟨rfl, rfl, rfl⟩

theorem fixed_editAll (store : Store) (edits : List Edit) :
    (store.editAll edits).aliases = store.aliases ∧ (store.editAll edits).legacy = store.legacy
      ∧ (store.editAll edits).engine = store.engine := by
  induction edits generalizing store with
  | nil => exact ⟨rfl, rfl, rfl⟩
  | cons e edits ih =>
    have hstep := fixed_edit store e
    have hrest := ih (store.edit e)
    exact ⟨hrest.1.trans hstep.1, hrest.2.1.trans hstep.2.1, hrest.2.2.trans hstep.2.2⟩

theorem book_editAll_new (roster : Roster) (aliases : Aliases) (legacy : Bool)
    (engine : Engine) (edits : List Edit) :
    let store := (new roster aliases legacy engine).editAll edits
    store.book = store.source.compile store.roster aliases legacy engine
      ∧ store.catalogue = store.book.catalogue := by
  intro store
  have hcoherent : store.Coherent := (coherent_new roster aliases legacy engine).editAll edits
  obtain ⟨haliases, hlegacy, hengine⟩ := fixed_editAll (new roster aliases legacy engine) edits
  have hbook := hcoherent.book
  rw [haliases, hlegacy, hengine] at hbook
  exact ⟨hbook, hcoherent.catalogue⟩

/--
After any edits a store publishes what its source and its roster compile to, together with the custom
items of the book that it publishes. A history that ends with the same source and roster publishes the
same.
-/
theorem published_editAll (roster : Roster) (aliases : Aliases) (legacy : Bool)
    (engine : Engine) (edits : List Edit) :
    let store := (new roster aliases legacy engine).editAll edits
    store.book = store.source.compile store.roster aliases legacy engine
      ∧ store.catalogue = store.book.catalogue
      ∧ ∀ (roster' : Roster) (edits' : List Edit),
          let other := (new roster' aliases legacy engine).editAll edits'
          other.source = store.source → other.roster = store.roster →
            other.book = store.book ∧ other.catalogue = store.catalogue := by
  intro store
  obtain ⟨hbook, hcatalogue⟩ := book_editAll_new roster aliases legacy engine edits
  refine ⟨hbook, hcatalogue, ?_⟩
  intro roster' edits' other hsource hroster
  obtain ⟨hbook', hcatalogue'⟩ := book_editAll_new roster' aliases legacy engine edits'
  have hsame : other.book = store.book := by
    rw [hbook', hbook, hsource, hroster]
  exact ⟨hsame, by rw [hcatalogue', hcatalogue, hsame]⟩

theorem published_editAll_dropped :
    let roster := Roster.stock.add .world ["world"]
    let rules : RuleSource := { whitelist := .ofList [("world", .null)] }
    let store := (new roster ∅ false).editAll []
    let other := (new .stock ∅ false).editAll [.reload rules, .setRoster roster, .reload {}]
    other.source = store.source ∧ other.roster = store.roster
      ∧ other.book = store.book ∧ other.catalogue = store.catalogue := by
  intro roster rules store other
  have hsource : other.source = store.source := rfl
  have hroster : other.roster = store.roster := rfl
  exact ⟨hsource, hroster,
    (published_editAll roster ∅ false .builtIn []).2.2 .stock
      [.reload rules, .setRoster roster, .reload {}] hsource hroster⟩

end Store

end Embargo
