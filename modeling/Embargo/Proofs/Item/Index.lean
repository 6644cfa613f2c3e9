import Embargo.Proofs.Item.Entries

/-!
This module contains the proof that a catalogue knows each identity by the first of its names: the index
follows from the items and their order.
-/

namespace Embargo

namespace Catalogue

def firstName? (items : List (String × Identity)) (i : Identity) : Option String :=
  (items.find? (·.2 = i)).map Prod.fst

theorem firstName?_append (items others : List (String × Identity)) (i : Identity) :
    firstName? (items ++ others) i = (firstName? items i).or (firstName? others i) := by
  unfold firstName?
  rw [List.find?_append, Option.map_or]

theorem firstName?_filter {items : List (String × Identity)} {p : String × Identity → Bool}
    {i : Identity} (h : ∀ e ∈ items, e.2 = i → p e = true) :
    firstName? (items.filter p) i = firstName? items i := by
  -- only items of other identities are left out
  unfold firstName?
  congr 1
  induction items with
  | nil => rfl
  | cons e items ih =>
    obtain ⟨he, hitems⟩ := List.forall_mem_cons.1 h
    by_cases hp : p e = true
    · rw [List.filter_cons_of_pos hp, List.find?_cons, List.find?_cons, ih hitems]
    · have hne : e.2 ≠ i := fun hi => hp (he hi)
      rw [List.filter_cons_of_neg hp, ih hitems, List.find?_cons_of_neg (by simpa using hne)]

theorem firstName?_filter_of_first {items : List (String × Identity)} {name : String} {i : Identity}
    (h : firstName? items i ≠ some name) :
    firstName? (items.filter fun e => e.1 ≠ name) i = firstName? items i := by
  unfold firstName? at h ⊢
  induction items with
  | nil => rfl
  | cons e items ih =>
    by_cases hi : e.2 = i
    · rw [List.find?_cons_of_pos (by simpa using hi)] at h ⊢
      have hname : e.1 ≠ name := fun he => h (congrArg some he)
      rw [List.filter_cons_of_pos (by simpa using hname), List.find?_cons_of_pos (by simpa using hi)]
    · rw [List.find?_cons_of_neg (by simpa using hi)] at h ⊢
      by_cases hname : e.1 = name
      · rw [List.filter_cons_of_neg (by simpa using hname), ih h]
      · rw [List.filter_cons_of_pos (by simpa using hname),
          List.find?_cons_of_neg (by simpa using hi), ih h]

/--
The name of an identity is the first one that it is registered under. An identity without conditions has
none.
-/
def Indexed (c : Catalogue) : Prop :=
  ∀ i, c.nameOf? i = if i.hasPredicates then firstName? c.items i else none

theorem indexed_empty : Indexed ∅ := by
  intro i
  split
  · rfl
  · rfl

theorem forget_of_notMem {c : Catalogue} {name : String} (h : name ∉ c.names) : c.forget name = c := by
  have hnone : c.byName.get? name = none := Table.find?_eq_none_of_notMem h
  unfold forget
  rw [hnone]

theorem items_forget (c : Catalogue) (name : String) :
    (c.forget name).items = c.items.filter fun e => e.1 ≠ name := by
  have herase : (c.forget name).byName = c.byName.erase name := by
    unfold forget
    split
    · next hnone => exact (Table.erase_of_notMem (Table.get?_eq_none_iff.1 hnone)).symm
    · dsimp only
      split
      · split
        · rfl
        · rfl
      · rfl
  unfold items
  rw [herase]
  rfl

theorem nameOf?_forget {c : Catalogue} {name : String} {i : Identity}
    (hname : c.byName.get? name = some i) (j : Identity) :
    (c.forget name).nameOf? j =
      if c.nameOf? i = some name ∧ j = i then firstName? (c.items.filter fun e => e.1 ≠ name) i
      else c.nameOf? j := by
  have hitems : (c.items.filter fun e => e.1 ≠ name) = (c.byName.erase name).entries := rfl
  unfold forget nameOf?
  rw [hname, hitems]
  dsimp only
  by_cases hknown : c.nameIndex.get? i = some name
  · rw [if_pos hknown]
    unfold firstName?
    by_cases hj : j = i
    · subst hj
      rw [if_pos ⟨hknown, rfl⟩]
      cases (c.byName.erase name).entries.find? (·.2 = j) with
      | none => simp
      | some e => simp
    · rw [if_neg fun h => hj h.2]
      cases (c.byName.erase name).entries.find? (·.2 = i) with
      | none => simp [Ne.symm hj]
      | some e => simp [Ne.symm hj]
  · rw [if_neg hknown, if_neg fun h => hknown h.1]

theorem Indexed.forget {c : Catalogue} (h : c.Indexed) (name : String) : (c.forget name).Indexed := by
  cases hname : c.byName.get? name with
  | none =>
    rw [forget_of_notMem (Table.get?_eq_none_iff.1 hname)]
    exact h
  | some i =>
    intro j
    rw [nameOf?_forget hname, items_forget]
    split
    · next hj =>
      obtain ⟨hknown, rfl⟩ := hj
      rw [h j] at hknown
      split at hknown
      · next hpredicates => rw [if_pos hpredicates]
      · cases hknown
    · next hj =>
      rw [h j]
      split
      · next hpredicates =>
        -- the identity keeps its first name, which is another one or that of another identity
        by_cases hsame : j = i
        · subst hsame
          have hfirst : firstName? c.items j ≠ some name := by
            intro hfirst
            exact hj ⟨by rw [h j, if_pos hpredicates, hfirst], rfl⟩
          exact (firstName?_filter_of_first hfirst).symm
        · have hstays : ∀ e ∈ c.items, e.2 = j → e.1 ≠ name := by
            rintro e he rfl rfl
            have hentry : c.byName.get? e.1 = some e.2 := Table.get?_eq_some_iff_mem.2 he
            rw [hname] at hentry
            exact hsame (Option.some.inj hentry).symm
          exact (firstName?_filter fun e he hi => decide_eq_true (hstays e he hi)).symm
      · rfl

theorem items_register (c : Catalogue) (name : String) (i : Identity) :
    (c.register name i).items = (c.forget name).items ++ [(name, i)] := by
  have hforgot : name ∉ (c.forget name).byName.keys := by
    rw [← Table.get?_eq_none_iff, get?_byName_forget, if_pos rfl]
  exact Table.entries_insert_of_notMem hforgot

theorem Indexed.register {c : Catalogue} (h : c.Indexed) (name : String) (i : Identity) :
    (c.register name i).Indexed := by
  have hforgot := h.forget name
  intro j
  rw [items_register, firstName?_append]
  have hsingle : firstName? [(name, i)] j = if j = i then some name else none := by
    by_cases hj : j = i
    · subst hj
      simp [firstName?]
    · simp [firstName?, hj, Ne.symm hj]
  -- an identity that has a name under which it stays registered keeps it
  have hname : (c.register name i).nameOf? j =
      if i.hasPredicates ∧ j = i then some (((c.forget name).nameOf? i).getD name)
      else (c.forget name).nameOf? j := by
    unfold Catalogue.register nameOf?
    dsimp only
    by_cases hi : i.hasPredicates = true
    · rw [if_pos hi, Table.get?_upsert]
      by_cases hj : j = i
      · subst hj
        rw [if_pos rfl, if_pos ⟨hi, rfl⟩]
      · rw [if_neg (Ne.symm hj), if_neg fun h => hj h.2]
    · rw [if_neg hi, if_neg fun h => hi h.1]
  rw [hname, hsingle]
  by_cases hj : j = i
  · subst hj
    by_cases hpredicates : j.hasPredicates = true
    · rw [if_pos ⟨hpredicates, rfl⟩, if_pos hpredicates, if_pos rfl, hforgot j, if_pos hpredicates]
      cases firstName? (c.forget name).items j <;> rfl
    · rw [if_neg fun h => hpredicates h.1, if_neg hpredicates, hforgot j, if_neg hpredicates]
  · rw [if_neg fun h => hj h.2, if_neg hj, Option.or_none, hforgot j]

theorem Indexed.registerAll {c : Catalogue} (h : c.Indexed) (items : List (String × Identity)) :
    (c.registerAll items).Indexed := by
  induction items generalizing c with
  | nil => exact h
  | cons e items ih => exact ih (h.register e.1 e.2)

theorem items_registerAll {c : Catalogue} {items : List (String × Identity)}
    (h : ((c.items ++ items).map Prod.fst).Nodup) : (c.registerAll items).items = c.items ++ items := by
  unfold registerAll
  induction items generalizing c with
  | nil => exact (List.append_nil _).symm
  | cons e items ih =>
    have hnew : e.1 ∉ c.names := by
      rw [List.map_append, List.map_cons] at h
      exact fun he => (List.nodup_append.1 h).2.2 e.1 he e.1 List.mem_cons_self rfl
    have hregister : (c.register e.1 e.2).items = c.items ++ [e] := by
      rw [items_register, forget_of_notMem hnew]
    rw [List.append_cons, ← hregister] at h
    rw [List.foldl_cons, ih h, hregister, ← List.append_cons]

theorem indexed_read (scope : Scope) (path : Path) (entries : List (String × Yaml.Value)) :
    (read scope path entries).value.Indexed := by
  rw [value_read]
  exact indexed_empty.registerAll _

theorem Indexed.nameOf?_eq {c d : Catalogue} (hc : c.Indexed) (hd : d.Indexed) (h : c.items = d.items)
    (i : Identity) : c.nameOf? i = d.nameOf? i := by
  rw [hc, hd, h]

end Catalogue

end Embargo
