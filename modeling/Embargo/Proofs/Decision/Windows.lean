import Embargo.Decision.Cooldown

/-!
This module contains the theory of cooldown windows: what each operation leaves of them, and that
windows which are too old to be open can be dropped at any time.
-/

namespace Embargo

namespace Cooldowns

variable {c : Cooldowns} {actor b : Nat} {i j : Identity} {length age now t : Nat}

@[simp]
theorem last?_empty : last? ∅ actor i = none := rfl

@[simp]
theorem last?_start :
    (c.start actor i now).last? b j = if actor = b ∧ i = j then some now else c.last? b j := by
  unfold last? start
  simp only [Table.get?_insert, Prod.mk.injEq]

@[simp]
theorem last?_forget :
    (c.forget actor).last? b j = if b = actor then none else c.last? b j := by
  unfold last? forget
  rw [Table.get?_filter_key fun k : Nat × Identity => k.1 != actor]
  by_cases h : b = actor
  · simp [h]
  · simp [h]

@[simp]
theorem last?_prune :
    (c.prune age now).last? b j = (c.last? b j).filter fun t => now - t < age := by
  unfold last? prune
  rw [Table.get?_filter]

theorem check_of_open (hlast : c.last? actor i = some t) (hopen : now - t < length) :
    c.check actor i length now = (.active (length - (now - t)), c) := by
  unfold check
  rw [hlast]
  exact if_pos hopen

theorem check_of_closed (h : ∀ t, c.last? actor i = some t → length ≤ now - t) :
    c.check actor i length now = (.triggered, c.start actor i now) := by
  unfold check
  cases hlast : c.last? actor i with
  | none => rfl
  | some t =>
    have hclosed : ¬ now - t < length := Nat.not_lt.2 (h t hlast)
    exact if_neg hclosed

theorem check_cases (c : Cooldowns) (actor : Nat) (i : Identity) (length now : Nat) :
    (∃ t, c.last? actor i = some t ∧ now - t < length
      ∧ c.check actor i length now = (.active (length - (now - t)), c))
    ∨ ((∀ t, c.last? actor i = some t → length ≤ now - t)
      ∧ c.check actor i length now = (.triggered, c.start actor i now)) := by
  by_cases h : ∃ t, c.last? actor i = some t ∧ now - t < length
  · obtain ⟨t, hlast, hopen⟩ := h
    exact .inl ⟨t, hlast, hopen, check_of_open hlast hopen⟩
  · have hclosed (t : Nat) (hlast : c.last? actor i = some t) : length ≤ now - t := by
      apply Nat.le_of_not_lt
      intro hopen
      exact h ⟨t, hlast, hopen⟩
    exact .inr ⟨hclosed, check_of_closed hclosed⟩

/--
The windows of `pruned` are those of `full`, except that some may lack whose start is `age` ago.
-/
def Pruned (age now : Nat) (full pruned : Cooldowns) : Prop :=
  ∀ actor i, pruned.last? actor i = full.last? actor i
    ∨ pruned.last? actor i = none ∧ ∃ t, full.last? actor i = some t ∧ age ≤ now - t

namespace Pruned

variable {full pruned : Cooldowns} {now' : Nat}

theorem refl (full : Cooldowns) : Pruned age now full full :=
  fun _ _ => .inl rfl

theorem later (h : Pruned age now full pruned) (hnow : now ≤ now') :
    Pruned age now' full pruned := by
  intro actor i
  apply (h actor i).imp_right
  rintro ⟨hnone, t, hlast, hold⟩
  exact ⟨hnone, t, hlast, by omega⟩

theorem start (h : Pruned age now full pruned) :
    Pruned age now (full.start actor i t) (pruned.start actor i t) := by
  intro b j
  simp only [last?_start]
  split
  · exact .inl rfl
  · exact h b j

theorem forget (h : Pruned age now full pruned) :
    Pruned age now (full.forget actor) (pruned.forget actor) := by
  intro b j
  simp only [last?_forget]
  split
  · exact .inl rfl
  · exact h b j

theorem prune (h : Pruned age now full pruned) : Pruned age now full (pruned.prune age now) := by
  intro actor i
  rw [last?_prune]
  rcases h actor i with hsame | ⟨hnone, hold⟩
  · rw [hsame]
    cases hlast : full.last? actor i with
    | none => exact .inl rfl
    | some t =>
      by_cases hopen : now - t < age
      · left
        simp [Option.filter, hopen]
      · right
        have hdropped : (some t).filter (fun t => decide (now - t < age)) = none := by
          simp [Option.filter, hopen]
        exact ⟨hdropped, t, rfl, Nat.le_of_not_lt hopen⟩
  · right
    rw [hnone]
    exact ⟨rfl, hold⟩

theorem check (h : Pruned age now full pruned) (actor : Nat) (i : Identity) (hlength : length ≤ age) :
    (pruned.check actor i length now).1 = (full.check actor i length now).1
      ∧ Pruned age now (full.check actor i length now).2 (pruned.check actor i length now).2 := by
  rcases full.check_cases actor i length now with ⟨t, hlast, hopen, hfull⟩ | ⟨hclosed, hfull⟩
  · -- an open window is younger than `age`, so it was not dropped
    have hkept : pruned.last? actor i = some t := by
      rcases h actor i with hsame | ⟨-, s, hs, hold⟩
      · rw [hsame, hlast]
      · have hst : s = t := Option.some.inj (hs.symm.trans hlast)
        omega
    rw [hfull, check_of_open hkept hopen]
    exact ⟨rfl, h⟩
  · have hpruned (t : Nat) (hlast : pruned.last? actor i = some t) : length ≤ now - t := by
      rcases h actor i with hsame | ⟨hnone, -⟩
      · exact hclosed t (hsame.symm.trans hlast)
      · rw [hnone] at hlast
        cases hlast
    rw [hfull, check_of_closed hpruned]
    exact ⟨rfl, h.start⟩

end Pruned

end Cooldowns

end Embargo
