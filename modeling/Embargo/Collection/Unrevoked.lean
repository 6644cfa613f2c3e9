/-!
This module contains the entries of a list that nothing after them revokes.
-/

namespace Embargo

variable {α : Type}

/--
`a` stands somewhere in a list, and no later entry revokes it.
-/
def Unrevoked (revokes : α → Prop) (l : List α) (a : α) : Prop :=
  ∃ front back, l = front ++ a :: back ∧ ∀ b ∈ back, ¬ revokes b

variable {revokes : α → Prop} {l : List α} {a b : α}

theorem Unrevoked.mem (h : Unrevoked revokes l a) : a ∈ l := by
  obtain ⟨front, back, rfl, -⟩ := h
  simp

@[simp]
theorem not_unrevoked_nil : ¬ Unrevoked revokes [] a := fun h => List.not_mem_nil h.mem

theorem unrevoked_cons :
    Unrevoked revokes (b :: l) a ↔ Unrevoked revokes l a ∨ a = b ∧ ∀ c ∈ l, ¬ revokes c := by
  constructor
  · rintro ⟨front, back, hsplit, hback⟩
    cases front with
    | nil =>
      obtain ⟨rfl, rfl⟩ := List.cons.inj hsplit
      exact .inr ⟨rfl, hback⟩
    | cons c front =>
      obtain ⟨rfl, rfl⟩ := List.cons.inj hsplit
      exact .inl ⟨front, back, rfl, hback⟩
  · rintro (⟨front, back, rfl, hback⟩ | ⟨rfl, hlater⟩)
    · exact ⟨b :: front, back, rfl, hback⟩
    · exact ⟨[], l, rfl, hlater⟩

theorem unrevoked_concat :
    Unrevoked revokes (l ++ [b]) a ↔ a = b ∨ Unrevoked revokes l a ∧ ¬ revokes b := by
  constructor
  · rintro ⟨front, back, hsplit, hback⟩
    rcases List.eq_nil_or_concat back with rfl | ⟨back, c, rfl⟩
    · obtain ⟨-, hlast⟩ := List.append_inj' hsplit rfl
      exact .inl (List.cons.inj hlast).1.symm
    · rw [List.concat_eq_append, ← List.cons_append, ← List.append_assoc] at hsplit
      obtain ⟨rfl, hlast⟩ := List.append_inj' hsplit rfl
      obtain rfl := (List.cons.inj hlast).1
      simp only [List.concat_eq_append, List.mem_append, List.mem_singleton] at hback
      exact .inr ⟨⟨front, back, rfl, fun c hc => hback c (.inl hc)⟩, hback b (.inr rfl)⟩
  · rintro (rfl | ⟨⟨front, back, rfl, hback⟩, hb⟩)
    · exact ⟨l, [], rfl, by simp⟩
    · refine ⟨front, back ++ [b], by simp, ?_⟩
      intro c hc
      rcases List.mem_append.1 hc with hc | hc
      · exact hback c hc
      · rwa [List.mem_singleton.1 hc]

theorem unrevoked_map {β : Type} {f : β → α} {l : List β} :
    Unrevoked revokes (l.map f) a ↔ ∃ b, f b = a ∧ Unrevoked (fun c => revokes (f c)) l b := by
  constructor
  · rintro ⟨front, back, hsplit, hback⟩
    obtain ⟨front, rest, rfl, rfl, hrest⟩ := List.map_eq_append_iff.1 hsplit
    obtain ⟨b, back, rfl, rfl, rfl⟩ := List.map_eq_cons_iff.1 hrest
    exact ⟨b, rfl, front, back, rfl, fun c hc => hback (f c) (List.mem_map_of_mem hc)⟩
  · rintro ⟨b, rfl, front, back, rfl, hback⟩
    exact ⟨front.map f, back.map f, by simp, by simpa using hback⟩

end Embargo
