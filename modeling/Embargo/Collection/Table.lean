/-!
This module contains tables with unique keys, which keep the order in which the keys first came in.
-/

namespace Embargo

structure Table (κ υ : Type) where
  entries : List (κ × υ)
  nodup : (entries.map Prod.fst).Nodup

namespace Table

variable {κ υ : Type}

@[ext]
theorem ext {s t : Table κ υ} (h : s.entries = t.entries) : s = t := by
  cases s
  cases t
  simp_all

instance [DecidableEq κ] [DecidableEq υ] : DecidableEq (Table κ υ) := fun s t =>
  decidable_of_iff (s.entries = t.entries) ⟨ext, fun h => h ▸ rfl⟩

def empty : Table κ υ :=
  ⟨[], List.nodup_nil⟩

instance : EmptyCollection (Table κ υ) := ⟨empty⟩

instance : Inhabited (Table κ υ) := ⟨∅⟩

def keys (t : Table κ υ) : List κ :=
  t.entries.map Prod.fst

def values (t : Table κ υ) : List υ :=
  t.entries.map Prod.snd

def size (t : Table κ υ) : Nat :=
  t.entries.length

def isEmpty (t : Table κ υ) : Bool :=
  t.entries.isEmpty

def filter (t : Table κ υ) (p : κ → υ → Bool) : Table κ υ where
  entries := t.entries.filter fun e => p e.1 e.2
  nodup := t.nodup.sublist (List.filter_sublist.map Prod.fst)

variable [DecidableEq κ]

def find? (k : κ) : List (κ × υ) → Option υ
  | [] => none
  | e :: es => if e.1 = k then some e.2 else find? k es

def get? (t : Table κ υ) (k : κ) : Option υ :=
  find? k t.entries

def contains (t : Table κ υ) (k : κ) : Bool :=
  t.entries.any fun e => e.1 = k

def change (k : κ) (f : Option υ → υ) : List (κ × υ) → List (κ × υ)
  | [] => [(k, f none)]
  | e :: es => if e.1 = k then (k, f (some e.2)) :: es else e :: change k f es

theorem mem_keys_change {k j : κ} {f : Option υ → υ} {es : List (κ × υ)} :
    j ∈ (change k f es).map Prod.fst ↔ j = k ∨ j ∈ es.map Prod.fst := by
  induction es with
  | nil => simp [change]
  | cons e es ih =>
    by_cases h : e.1 = k
    · simp only [change, h, if_true, List.map_cons, List.mem_cons]
      exact ⟨fun hj => .inr hj, fun hj => hj.elim .inl id⟩
    · simp only [change, h, if_false, List.map_cons, List.mem_cons, ih]
      exact or_left_comm

theorem nodup_change {k : κ} {f : Option υ → υ} {es : List (κ × υ)}
    (h : (es.map Prod.fst).Nodup) : ((change k f es).map Prod.fst).Nodup := by
  induction es with
  | nil => simp [change]
  | cons e es ih =>
    rw [List.map_cons, List.nodup_cons] at h
    by_cases hk : e.1 = k
    · simp only [change, hk, if_true, List.map_cons, List.nodup_cons]
      exact ⟨hk ▸ h.1, h.2⟩
    · rw [change, if_neg hk, List.map_cons, List.nodup_cons, mem_keys_change]
      exact ⟨fun hj => hj.elim hk h.1, ih h.2⟩

def upsert (t : Table κ υ) (k : κ) (f : Option υ → υ) : Table κ υ :=
  ⟨change k f t.entries, nodup_change t.nodup⟩

def insert (t : Table κ υ) (k : κ) (v : υ) : Table κ υ :=
  t.upsert k fun _ => v

def erase (t : Table κ υ) (k : κ) : Table κ υ :=
  t.filter fun j _ => j ≠ k

/--
The table of a list of entries. The last entry of a key sets its value and the first one its place.
-/
def ofList (es : List (κ × υ)) : Table κ υ :=
  es.foldl (fun t e => t.insert e.1 e.2) ∅

@[simp]
theorem get?_empty {k : κ} : (∅ : Table κ υ).get? k = none := rfl

theorem find?_change {k j : κ} {f : Option υ → υ} {es : List (κ × υ)} :
    find? j (change k f es) = if k = j then some (f (find? j es)) else find? j es := by
  induction es with
  | nil => simp [change, find?]
  | cons e es ih =>
    by_cases h : e.1 = k
    · by_cases hj : k = j <;> simp [change, find?, h, hj]
    · by_cases he : e.1 = j
      · rw [change, if_neg h, find?, if_pos he, if_neg fun hk => h (he.trans hk.symm), find?, if_pos he]
      · simp [change, find?, h, he, ih]

@[simp]
theorem get?_upsert {t : Table κ υ} {k j : κ} {f : Option υ → υ} :
    (t.upsert k f).get? j = if k = j then some (f (t.get? j)) else t.get? j :=
  find?_change

@[simp]
theorem get?_insert {t : Table κ υ} {k j : κ} {v : υ} :
    (t.insert k v).get? j = if k = j then some v else t.get? j :=
  get?_upsert

theorem upsert_eq_insert {t : Table κ υ} {k : κ} {f : Option υ → υ} :
    t.upsert k f = t.insert k (f (t.get? k)) := by
  have hchange (es : List (κ × υ)) : change k f es = change k (fun _ => f (find? k es)) es := by
    induction es with
    | nil => rfl
    | cons e es ih => by_cases h : e.1 = k <;> simp [change, find?, h, ih]
  exact ext (hchange t.entries)

theorem entries_insert_of_notMem {t : Table κ υ} {k : κ} {v : υ} (h : k ∉ t.keys) :
    (t.insert k v).entries = t.entries ++ [(k, v)] := by
  have hchange (es : List (κ × υ)) (hes : k ∉ es.map Prod.fst) :
      change k (fun _ => v) es = es ++ [(k, v)] := by
    induction es with
    | nil => rfl
    | cons e es ih =>
      rw [List.map_cons, List.mem_cons, not_or] at hes
      rw [change, if_neg fun he => hes.1 he.symm, ih hes.2]
      rfl
  exact hchange t.entries h

theorem filter_upsert {t : Table κ υ} {k : κ} {f : Option υ → υ} {p : κ → υ → Bool}
    (hp : ∀ v, p k v = false) : (t.upsert k f).filter p = t.filter p := by
  have hchange (es : List (κ × υ)) :
      (change k f es).filter (fun e => p e.1 e.2) = es.filter fun e => p e.1 e.2 := by
    induction es with
    | nil => simp [change, hp]
    | cons e es ih =>
      by_cases h : e.1 = k
      · simp [change, h, hp]
      · simp [change, h, List.filter_cons, ih]
  exact ext (hchange t.entries)

theorem find?_eq_none_of_notMem {k : κ} {es : List (κ × υ)} (h : k ∉ es.map Prod.fst) :
    find? k es = none := by
  induction es with
  | nil => rfl
  | cons e es ih =>
    rw [List.map_cons, List.mem_cons, not_or] at h
    rw [find?, if_neg fun he => h.1 he.symm, ih h.2]

theorem find?_filter {k : κ} {p : κ → υ → Bool} {es : List (κ × υ)} (h : (es.map Prod.fst).Nodup) :
    find? k (es.filter fun e => p e.1 e.2) = (find? k es).filter (p k) := by
  induction es with
  | nil => rfl
  | cons e es ih =>
    rw [List.map_cons, List.nodup_cons] at h
    by_cases he : e.1 = k
    · subst he
      have hnone := find?_eq_none_of_notMem h.1
      by_cases hp : p e.1 e.2 = true
      · simp [find?, Option.filter, hp]
      · simp [find?, Option.filter, hp, ih h.2, hnone]
    · by_cases hp : p e.1 e.2 = true
      · simp [find?, hp, he, ih h.2]
      · simp [find?, hp, he, ih h.2]

@[simp]
theorem get?_filter {t : Table κ υ} {p : κ → υ → Bool} {k : κ} :
    (t.filter p).get? k = (t.get? k).filter (p k) :=
  find?_filter t.nodup

theorem get?_filter_key {t : Table κ υ} (p : κ → Bool) {k : κ} :
    (t.filter fun j _ => p j).get? k = if p k then t.get? k else none := by
  rw [get?_filter]
  cases t.get? k with
  | none => simp
  | some v => rfl

@[simp]
theorem get?_erase {t : Table κ υ} {k j : κ} :
    (t.erase k).get? j = if k = j then none else t.get? j := by
  unfold erase
  rw [get?_filter_key fun j => decide (j ≠ k)]
  by_cases h : k = j
  · simp [h]
  · simp [h, Ne.symm h]

theorem find?_eq_some_iff_mem {k : κ} {v : υ} {es : List (κ × υ)} (h : (es.map Prod.fst).Nodup) :
    find? k es = some v ↔ (k, v) ∈ es := by
  induction es with
  | nil => simp [find?]
  | cons e es ih =>
    rw [List.map_cons, List.nodup_cons] at h
    by_cases he : e.1 = k
    · have hn : (k, v) ∉ es := fun hm => h.1 (he ▸ List.mem_map_of_mem (f := Prod.fst) hm)
      simp only [find?, he, if_true, Option.some.injEq, List.mem_cons, hn, or_false]
      constructor
      · rintro rfl
        exact Prod.ext he.symm rfl
      · intro hv
        rw [← hv]
    · simp only [find?, he, if_false, List.mem_cons, ih h.2]
      exact ⟨.inr, fun hm => hm.resolve_left fun hv => he (by rw [← hv])⟩

theorem get?_eq_some_iff_mem {t : Table κ υ} {k : κ} {v : υ} :
    t.get? k = some v ↔ (k, v) ∈ t.entries :=
  find?_eq_some_iff_mem t.nodup

theorem flatMap_key {ω : Type} (f : υ → List ω) {k : κ} {es : List (κ × υ)}
    (h : (es.map Prod.fst).Nodup) :
    (es.flatMap fun e => if e.1 = k then f e.2 else []) = (find? k es).elim [] f := by
  induction es with
  | nil => rfl
  | cons e es ih =>
    rw [List.map_cons, List.nodup_cons] at h
    rw [List.flatMap_cons, ih h.2, find?]
    by_cases hk : e.1 = k
    · have hnone : find? k es = none := find?_eq_none_of_notMem (hk ▸ h.1)
      rw [if_pos hk, if_pos hk, hnone]
      exact List.append_nil _
    · rw [if_neg hk, if_neg hk]
      rfl

theorem flatMap_entries_key {ω : Type} {t : Table κ υ} (f : υ → List ω) {k : κ} :
    (t.entries.flatMap fun e => if e.1 = k then f e.2 else []) = (t.get? k).elim [] f :=
  flatMap_key f t.nodup

theorem map_snd_filter_key {t : Table κ υ} {k : κ} :
    (t.entries.filter fun e => e.1 = k).map Prod.snd = (t.get? k).toList := by
  have hflat (es : List (κ × υ)) : (es.filter fun e => e.1 = k).map Prod.snd =
      es.flatMap fun e => if e.1 = k then [e.2] else [] := by
    induction es with
    | nil => rfl
    | cons e es ih => by_cases hk : e.1 = k <;> simp [hk, ih]
  rw [hflat, flatMap_entries_key (fun v => [v])]
  cases t.get? k <;> rfl

theorem exists_entries_erase {t : Table κ υ} {k : κ} {v : υ} (h : (k, v) ∈ t.entries) :
    ∃ front back, t.entries = front ++ (k, v) :: back ∧ (t.erase k).entries = front ++ back := by
  obtain ⟨front, back, hentries⟩ := List.append_of_mem h
  have hnodup := t.nodup
  rw [hentries, List.map_append, List.map_cons] at hnodup
  obtain ⟨-, htail, hfront⟩ := List.nodup_append.1 hnodup
  have hback : k ∉ back.map Prod.fst := (List.nodup_cons.1 htail).1
  have hkeepFront : front.filter (fun e => decide (e.1 ≠ k)) = front := by
    rw [List.filter_eq_self]
    exact fun e he => decide_eq_true (hfront e.1 (List.mem_map_of_mem he) k List.mem_cons_self)
  have hkeepBack : back.filter (fun e => decide (e.1 ≠ k)) = back := by
    rw [List.filter_eq_self]
    exact fun e he => decide_eq_true fun hk => hback (hk ▸ List.mem_map_of_mem he)
  refine ⟨front, back, hentries, ?_⟩
  calc (t.erase k).entries
    _ = t.entries.filter fun e => decide (e.1 ≠ k) := rfl
    _ = front ++ back := by
      rw [hentries, List.filter_append, List.filter_cons_of_neg (by simp), hkeepFront, hkeepBack]

theorem get?_eq_none_iff {t : Table κ υ} {k : κ} : t.get? k = none ↔ k ∉ t.keys := by
  constructor
  · intro hnone hmem
    obtain ⟨⟨_, v⟩, hentry, rfl⟩ := List.mem_map.1 hmem
    rw [get?_eq_some_iff_mem.2 hentry] at hnone
    cases hnone
  · exact find?_eq_none_of_notMem

theorem erase_of_notMem {t : Table κ υ} {k : κ} (h : k ∉ t.keys) : t.erase k = t := by
  refine ext (List.filter_eq_self.2 fun e he => decide_eq_true ?_)
  rintro rfl
  exact h (List.mem_map_of_mem he)

end Table

end Embargo
