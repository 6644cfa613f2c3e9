/-!
This module contains finite sets that list their members in the order in which they came in.
-/

namespace Embargo

structure OrderedSet (α : Type) where
  toList : List α
  nodup : toList.Nodup

namespace OrderedSet

variable {α : Type}

@[ext]
theorem ext {s t : OrderedSet α} (h : s.toList = t.toList) : s = t := by
  cases s
  cases t
  simp_all

instance [DecidableEq α] : DecidableEq (OrderedSet α) := fun s t =>
  decidable_of_iff (s.toList = t.toList) ⟨ext, fun h => h ▸ rfl⟩

def empty : OrderedSet α :=
  ⟨[], .nil⟩

instance : EmptyCollection (OrderedSet α) := ⟨empty⟩

instance : Inhabited (OrderedSet α) := ⟨∅⟩

instance : Membership α (OrderedSet α) := ⟨fun s a => a ∈ s.toList⟩

@[simp]
theorem mem_toList {s : OrderedSet α} {a : α} : a ∈ s.toList ↔ a ∈ s := .rfl

@[simp]
theorem not_mem_empty {a : α} : a ∉ (∅ : OrderedSet α) := List.not_mem_nil

def isEmpty (s : OrderedSet α) : Bool :=
  s.toList.isEmpty

def filter (s : OrderedSet α) (p : α → Bool) : OrderedSet α :=
  ⟨s.toList.filter p, s.nodup.filter p⟩

@[simp]
theorem mem_filter {s : OrderedSet α} {p : α → Bool} {a : α} : a ∈ s.filter p ↔ a ∈ s ∧ p a :=
  List.mem_filter

variable [DecidableEq α]

instance {s : OrderedSet α} {a : α} : Decidable (a ∈ s) :=
  inferInstanceAs (Decidable (a ∈ s.toList))

def contains (s : OrderedSet α) (a : α) : Bool :=
  decide (a ∈ s)

@[simp]
theorem contains_iff {s : OrderedSet α} {a : α} : s.contains a = true ↔ a ∈ s := by
  simp [contains]

def insert (s : OrderedSet α) (a : α) : OrderedSet α :=
  if h : a ∈ s.toList then
    s
  else
    ⟨s.toList ++ [a], List.nodup_append.2 ⟨s.nodup, by simp, by
      intro b hb c hc
      rw [List.mem_singleton] at hc
      exact hc ▸ fun he => h (he ▸ hb)⟩⟩

@[simp]
theorem mem_insert {s : OrderedSet α} {a b : α} : b ∈ s.insert a ↔ b = a ∨ b ∈ s := by
  unfold insert
  split
  · next h => exact ⟨.inr, fun hb => hb.elim (fun he => he ▸ h) id⟩
  · rw [← mem_toList, List.mem_append, List.mem_singleton, mem_toList]
    exact or_comm

def insertAll (s : OrderedSet α) (as : List α) : OrderedSet α :=
  as.foldl insert s

@[simp]
theorem mem_insertAll {s : OrderedSet α} {as : List α} {b : α} :
    b ∈ s.insertAll as ↔ b ∈ as ∨ b ∈ s := by
  unfold insertAll
  induction as generalizing s with
  | nil => simp
  | cons a as ih =>
    rw [List.foldl_cons, ih, mem_insert, List.mem_cons]
    exact ⟨fun h => h.elim (.inl ∘ .inr) (·.elim (.inl ∘ .inl) .inr),
      fun h => h.elim (·.elim (.inr ∘ .inl) .inl) (.inr ∘ .inr)⟩

def ofList (as : List α) : OrderedSet α :=
  insertAll ∅ as

@[simp]
theorem mem_ofList {as : List α} {b : α} : b ∈ ofList as ↔ b ∈ as := by
  simp [ofList]

def union (s t : OrderedSet α) : OrderedSet α :=
  s.insertAll t.toList

@[simp]
theorem mem_union {s t : OrderedSet α} {b : α} : b ∈ s.union t ↔ b ∈ t ∨ b ∈ s := by
  simp [union]

theorem toList_insertAll {s : OrderedSet α} {as : List α} (h : (s.toList ++ as).Nodup) :
    (s.insertAll as).toList = s.toList ++ as := by
  unfold insertAll
  induction as generalizing s with
  | nil => exact (List.append_nil _).symm
  | cons a as ih =>
    have hnew : a ∉ s.toList := fun ha => (List.nodup_append.1 h).2.2 a ha a List.mem_cons_self rfl
    have hinsert : (s.insert a).toList = s.toList ++ [a] := by
      unfold insert
      rw [dif_neg hnew]
    rw [List.append_cons, ← hinsert] at h
    rw [List.foldl_cons, ih h, hinsert, ← List.append_cons]

theorem toList_insert {s : OrderedSet α} {a : α} :
    (s.insert a).toList = if a ∈ s then s.toList else s.toList ++ [a] := by
  unfold insert
  split
  · next h => exact (if_pos (mem_toList.1 h)).symm
  · next h => exact (if_neg h).symm

theorem toList_insertAll_eq_append {s : OrderedSet α} {as : List α} :
    (s.insertAll as).toList = s.toList ++ (as.filter fun a => decide (a ∉ s)).eraseDups := by
  unfold insertAll
  induction as generalizing s with
  | nil => exact (List.append_nil _).symm
  | cons a as ih =>
    rw [List.foldl_cons, ih, toList_insert]
    by_cases h : a ∈ s
    · have hsame (b : α) : decide (b ∉ s.insert a) = decide (b ∉ s) := by
        simp only [mem_insert, not_or, decide_eq_decide]
        exact and_iff_right_of_imp fun hb he => hb (he ▸ h)
      simp only [if_pos h, hsame]
      rw [List.filter_cons_of_neg (by simpa using h)]
    · have hothers (b : α) : decide (b ∉ s.insert a) = (!b == a && decide (b ∉ s)) := by
        rw [Bool.eq_iff_iff]
        simp
      simp only [if_neg h, hothers]
      rw [List.filter_cons_of_pos (by simpa using h), List.eraseDups_cons, List.filter_filter,
        List.append_assoc, List.singleton_append]

theorem toList_ofList (as : List α) : (ofList as).toList = as.eraseDups := by
  rw [ofList, toList_insertAll_eq_append, List.filter_eq_self.2 (by simp)]
  rfl

@[simp]
theorem empty_union {s : OrderedSet α} : (∅ : OrderedSet α).union s = s :=
  ext (toList_insertAll s.nodup)

theorem flatMap_eq_of_perm {β : Type} {s : OrderedSet α} {l : List α} (h : l.Perm s.toList)
    (a : α) (bs : List β) :
    (l.flatMap fun b => if b = a then bs else []) = if a ∈ s then bs else [] := by
  have hnodup : l.Nodup := h.nodup_iff.2 s.nodup
  have hmem : a ∈ s ↔ a ∈ l := h.mem_iff.symm
  simp only [hmem]
  clear h hmem
  induction l with
  | nil => rfl
  | cons b l ih =>
    rw [List.nodup_cons] at hnodup
    rw [List.flatMap_cons, ih hnodup.2]
    by_cases hb : b = a
    · subst hb
      rw [if_pos rfl, if_neg hnodup.1, if_pos List.mem_cons_self, List.append_nil]
    · have hiff : a ∈ b :: l ↔ a ∈ l := by
        rw [List.mem_cons]
        exact or_iff_right fun ha => hb ha.symm
      simp only [hb, hiff, if_false, List.nil_append]

end OrderedSet

end Embargo
