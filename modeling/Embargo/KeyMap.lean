import Embargo.Collection.Unrevoked
import Embargo.Registry

/-!
This module contains maps from keys to values. Their entries are sorted by name, such that maps with
the same entries are equal.
-/

namespace Embargo

structure KeyMap (r : Registry) (υ : Type) where
  entries : List (Key r × υ)
  sorted : entries.Pairwise fun a b => a.1 < b.1

namespace KeyMap

variable {r : Registry} {υ : Type}

theorem eq_of_entries {m n : KeyMap r υ} (h : m.entries = n.entries) : m = n := by
  cases m
  cases n
  simp_all

instance [DecidableEq υ] : DecidableEq (KeyMap r υ) := fun m n =>
  decidable_of_iff (m.entries = n.entries) ⟨eq_of_entries, fun h => h ▸ rfl⟩

instance [Repr υ] : Repr (KeyMap r υ) := ⟨fun m n => reprPrec m.entries n⟩

def empty : KeyMap r υ :=
  ⟨[], .nil⟩

instance : EmptyCollection (KeyMap r υ) := ⟨empty⟩

instance : Inhabited (KeyMap r υ) := ⟨∅⟩

def keys (m : KeyMap r υ) : List (Key r) :=
  m.entries.map Prod.fst

def size (m : KeyMap r υ) : Nat :=
  m.entries.length

def isEmpty (m : KeyMap r υ) : Bool :=
  m.entries.isEmpty

def find? (k : Key r) : List (Key r × υ) → Option υ
  | [] => none
  | e :: es => if e.1 = k then some e.2 else find? k es

def get? (m : KeyMap r υ) (k : Key r) : Option υ :=
  find? k m.entries

def contains (m : KeyMap r υ) (k : Key r) : Bool :=
  (m.get? k).isSome

def place (k : Key r) (v : υ) : List (Key r × υ) → List (Key r × υ)
  | [] => [(k, v)]
  | e :: es =>
    if e.1 = k then (k, v) :: es
    else if k < e.1 then (k, v) :: e :: es
    else e :: place k v es

theorem mem_place {k : Key r} {v : υ} {es : List (Key r × υ)} {e : Key r × υ}
    (h : e ∈ place k v es) : e = (k, v) ∨ e ∈ es := by
  induction es with
  | nil => exact .inl (List.mem_singleton.1 h)
  | cons d es ih =>
    unfold place at h
    split at h
    · exact (List.mem_cons.1 h).imp_right (List.mem_cons_of_mem _)
    · split at h
      · exact List.mem_cons.1 h
      · rcases List.mem_cons.1 h with h | h
        · exact .inr (h ▸ List.mem_cons_self)
        · exact (ih h).imp_right (List.mem_cons_of_mem _)

theorem sorted_place {k : Key r} {v : υ} {es : List (Key r × υ)}
    (h : es.Pairwise fun a b => a.1 < b.1) :
    (place k v es).Pairwise fun a b => a.1 < b.1 := by
  induction es with
  | nil => exact List.pairwise_singleton _ _
  | cons d es ih =>
    have hd := List.pairwise_cons.1 h
    unfold place
    split
    · next he => exact List.pairwise_cons.2 ⟨fun e hm => he ▸ hd.1 e hm, hd.2⟩
    · next hne =>
      split
      · next hlt =>
        refine List.pairwise_cons.2 ⟨fun e hm => ?_, h⟩
        rcases List.mem_cons.1 hm with rfl | hm
        · exact hlt
        · exact Key.lt_trans hlt (hd.1 e hm)
      · next hlt =>
        refine List.pairwise_cons.2 ⟨fun e hm => ?_, ih hd.2⟩
        rcases mem_place hm with rfl | hm
        · exact Key.lt_of_not_lt hlt hne
        · exact hd.1 e hm

def insert (m : KeyMap r υ) (k : Key r) (v : υ) : KeyMap r υ :=
  ⟨place k v m.entries, sorted_place m.sorted⟩

def ofList (es : List (Key r × υ)) : KeyMap r υ :=
  es.foldl (fun m e => m.insert e.1 e.2) ∅

def mapValues {ω : Type} (m : KeyMap r υ) (f : υ → ω) : KeyMap r ω where
  entries := m.entries.map fun e => (e.1, f e.2)
  sorted := List.pairwise_map.2 m.sorted

theorem find?_place {k j : Key r} {v : υ} {es : List (Key r × υ)} :
    find? j (place k v es) = if k = j then some v else find? j es := by
  induction es with
  | nil => rfl
  | cons e es ih =>
    unfold place
    split
    · next he => by_cases hj : k = j <;> simp [find?, he, hj]
    · next hne =>
      split
      · rfl
      · by_cases hj : e.1 = j
        · rw [find?, if_pos hj, if_neg fun hk => hne (hj.trans hk.symm), find?, if_pos hj]
        · rw [find?, if_neg hj, ih, find?, if_neg hj]

@[simp]
theorem get?_insert {m : KeyMap r υ} {k j : Key r} {v : υ} :
    (m.insert k v).get? j = if k = j then some v else m.get? j :=
  find?_place

theorem nodup_keys (m : KeyMap r υ) : m.keys.Nodup := by
  have hne : m.keys.Pairwise fun a b => a < b := List.pairwise_map.2 m.sorted
  refine hne.imp ?_
  rintro a b hlt rfl
  exact Key.lt_irrefl a hlt

theorem place_of_lt {k : Key r} {v : υ} {es : List (Key r × υ)} (h : ∀ e ∈ es, e.1 < k) :
    place k v es = es ++ [(k, v)] := by
  induction es with
  | nil => rfl
  | cons e es ih =>
    have he : e.1 < k := h e List.mem_cons_self
    have hne : e.1 ≠ k := fun heq => Key.lt_irrefl k (heq ▸ he)
    have hlt : ¬ k < e.1 := fun hlt => Key.lt_irrefl k (Key.lt_trans hlt he)
    rw [place, if_neg hne, if_neg hlt, ih fun d hd => h d (List.mem_cons_of_mem e hd),
      List.cons_append]

theorem entries_foldl_insert {m : KeyMap r υ} {es : List (Key r × υ)}
    (h : (m.entries ++ es).Pairwise fun a b => a.1 < b.1) :
    (es.foldl (fun m e => m.insert e.1 e.2) m).entries = m.entries ++ es := by
  induction es generalizing m with
  | nil => exact (List.append_nil _).symm
  | cons e es ih =>
    have hlt : ∀ d ∈ m.entries, d.1 < e.1 := fun d hd =>
      (List.pairwise_append.1 h).2.2 d hd e List.mem_cons_self
    have hinsert : (m.insert e.1 e.2).entries = m.entries ++ [e] := place_of_lt hlt
    rw [List.append_cons, ← hinsert] at h
    rw [List.foldl_cons, ih h, hinsert, ← List.append_cons]

@[simp]
theorem ofList_entries (m : KeyMap r υ) : ofList m.entries = m :=
  eq_of_entries (entries_foldl_insert m.sorted)

theorem mem_of_mem_entries_ofList {es : List (Key r × υ)} {e : Key r × υ}
    (h : e ∈ (ofList es).entries) : e ∈ es := by
  have hfold (es : List (Key r × υ)) (m : KeyMap r υ)
      (h : e ∈ (es.foldl (fun m e => m.insert e.1 e.2) m).entries) : e ∈ m.entries ∨ e ∈ es := by
    induction es generalizing m with
    | nil => exact .inl h
    | cons d es ih =>
      rcases ih _ h with hm | hes
      · rcases mem_place hm with rfl | hm
        · exact .inr List.mem_cons_self
        · exact .inl hm
      · exact .inr (List.mem_cons_of_mem d hes)
  exact (hfold es ∅ h).resolve_left List.not_mem_nil

theorem place_ne_nil {k : Key r} {v : υ} {es : List (Key r × υ)} : place k v es ≠ [] := by
  cases es with
  | nil => exact List.cons_ne_nil _ _
  | cons e es =>
    unfold place
    split
    · exact List.cons_ne_nil _ _
    · split
      · exact List.cons_ne_nil _ _
      · exact List.cons_ne_nil _ _

theorem entries_ofList_ne_nil {es : List (Key r × υ)} (h : es ≠ []) : (ofList es).entries ≠ [] := by
  have hfold (es : List (Key r × υ)) {m : KeyMap r υ} (hm : m.entries ≠ []) :
      (es.foldl (fun m e => m.insert e.1 e.2) m).entries ≠ [] := by
    induction es generalizing m with
    | nil => exact hm
    | cons e es ih => exact ih place_ne_nil
  cases es with
  | nil => exact absurd rfl h
  | cons e es => exact hfold es place_ne_nil

theorem get?_eq_some_of_mem {m : KeyMap r υ} {k : Key r} {v : υ} (h : (k, v) ∈ m.entries) :
    m.get? k = some v := by
  have hfind (es : List (Key r × υ)) (hsorted : es.Pairwise fun a b => a.1 < b.1)
      (h : (k, v) ∈ es) : find? k es = some v := by
    induction es with
    | nil => cases h
    | cons e es ih =>
      obtain ⟨he, hes⟩ := List.pairwise_cons.1 hsorted
      rcases List.mem_cons.1 h with rfl | h
      · exact if_pos rfl
      · have hne : e.1 ≠ k := fun heq => Key.lt_irrefl k (heq ▸ he (k, v) h)
        rw [find?, if_neg hne, ih hes h]
  exact hfind m.entries m.sorted h

theorem mem_of_get?_eq_some {m : KeyMap r υ} {k : Key r} {v : υ} (h : m.get? k = some v) :
    (k, v) ∈ m.entries := by
  have hfind (es : List (Key r × υ)) (h : find? k es = some v) : (k, v) ∈ es := by
    induction es with
    | nil => cases h
    | cons e es ih =>
      unfold find? at h
      split at h
      · next hk =>
        cases h
        cases hk
        exact List.mem_cons_self
      · exact List.mem_cons_of_mem e (ih h)
  exact hfind m.entries h

theorem contains_ofList {es : List (Key r × υ)} {k : Key r} :
    (ofList es).contains k = es.any fun e => e.1 = k := by
  have hfold (es : List (Key r × υ)) (m : KeyMap r υ) :
      (es.foldl (fun m e => m.insert e.1 e.2) m).contains k =
        (m.contains k || es.any fun e => e.1 = k) := by
    induction es generalizing m with
    | nil => exact (Bool.or_false _).symm
    | cons e es ih =>
      rw [List.foldl_cons, ih, contains, get?_insert, List.any_cons]
      by_cases hk : e.1 = k <;> simp [hk, contains]
  exact hfold es ∅

theorem mem_keys_iff {m : KeyMap r υ} {k : Key r} : k ∈ m.keys ↔ ∃ v, m.get? k = some v := by
  constructor
  · intro h
    obtain ⟨⟨_, v⟩, hv, rfl⟩ := List.mem_map.1 h
    exact ⟨v, get?_eq_some_of_mem hv⟩
  · rintro ⟨v, hv⟩
    exact List.mem_map_of_mem (mem_of_get?_eq_some hv)

theorem contains_iff {m : KeyMap r υ} {k : Key r} : m.contains k = true ↔ k ∈ m.keys := by
  rw [contains, Option.isSome_iff_exists, mem_keys_iff]

theorem isEmpty_iff {m : KeyMap r υ} : m.isEmpty = true ↔ m.keys = [] := by
  rw [isEmpty, List.isEmpty_iff, keys, List.map_eq_nil_iff]

@[simp]
theorem keys_mapValues {ω : Type} {m : KeyMap r υ} {f : υ → ω} : (m.mapValues f).keys = m.keys := by
  simp [keys, mapValues]

@[simp]
theorem get?_mapValues {ω : Type} {m : KeyMap r υ} {f : υ → ω} {k : Key r} :
    (m.mapValues f).get? k = (m.get? k).map f := by
  have hfind (es : List (Key r × υ)) : find? k (es.map fun e => (e.1, f e.2)) = (find? k es).map f := by
    induction es with
    | nil => rfl
    | cons e es ih => by_cases hk : e.1 = k <;> simp [find?, hk, ih]
  exact hfind m.entries

theorem get?_ofList_eq_some_iff {es : List (Key r × υ)} {k : Key r} {v : υ} :
    (ofList es).get? k = some v ↔ Unrevoked (fun e => e.1 = k) es (k, v) := by
  have hreverse (es : List (Key r × υ)) :
      (ofList es.reverse).get? k = some v ↔ Unrevoked (fun e => e.1 = k) es.reverse (k, v) := by
    induction es with
    | nil => exact iff_of_false nofun not_unrevoked_nil
    | cons e es ih =>
      rw [List.reverse_cons, unrevoked_concat, ← ih, ofList, List.foldl_append, List.foldl_cons,
        List.foldl_nil, get?_insert]
      by_cases hk : e.1 = k
      · simp [hk, Prod.ext_iff, eq_comm]
      · simp [hk, Prod.ext_iff, eq_comm, ofList]
  simpa using hreverse es.reverse

end KeyMap

end Embargo
