import Embargo.Collection.Unrevoked
import Embargo.Proofs.Decision.Windows

/-!
This module contains what a table of windows owes to its history. A check depends on the latest window
of its actor and item, unless that one was dropped, and not on what was done about others.
-/

namespace Embargo

namespace Cooldowns

inductive Operation where
  | check (actor : Nat) (i : Identity) (length now : Nat)
  | forget (actor : Nat)
  | prune (age now : Nat)

inductive Event where
  | checked (actor : Nat) (i : Identity) (length now : Nat) (result : CooldownCheck)
  | forgotten (actor : Nat)
  | pruned (age now : Nat)

def step (c : Cooldowns) : Operation → Event × Cooldowns
  | .check actor i length now =>
    (.checked actor i length now (c.check actor i length now).1, (c.check actor i length now).2)
  | .forget actor => (.forgotten actor, c.forget actor)
  | .prune age now => (.pruned age now, c.prune age now)

def run (c : Cooldowns) : List Operation → Cooldowns
  | [] => c
  | o :: operations => (c.step o).2.run operations

def history (c : Cooldowns) : List Operation → List Event
  | [] => []
  | o :: operations => (c.step o).1 :: (c.step o).2.history operations

/--
What puts an end to the window that an actor has for an item since `t`: a new one, or that it is dropped.
-/
def Event.Ends (actor : Nat) (i : Identity) (t : Nat) : Event → Prop
  | .checked b j _ _ result => b = actor ∧ j = i ∧ result = .triggered
  | .forgotten b => b = actor
  | .pruned age now => age ≤ now - t

/--
`t` is the time of the latest check of an actor and an item that started a window, and the window was
not dropped after it.
-/
def Standing (events : List Event) (actor : Nat) (i : Identity) (t : Nat) : Prop :=
  ∃ length, Unrevoked (Event.Ends actor i t) events (.checked actor i length t .triggered)

def Remembers (c : Cooldowns) (events : List Event) : Prop :=
  ∀ actor i t, c.last? actor i = some t ↔ Standing events actor i t

variable {c d : Cooldowns} {events : List Event} {actor : Nat} {i : Identity} {length now t : Nat}

theorem not_standing_nil : ¬ Standing [] actor i t := by
  rintro ⟨length, h⟩
  exact not_unrevoked_nil h

theorem standing_concat {e : Event} :
    Standing (events ++ [e]) actor i t ↔
      (∃ length, e = .checked actor i length t .triggered)
      ∨ Standing events actor i t ∧ ¬ e.Ends actor i t := by
  unfold Standing
  simp only [unrevoked_concat, exists_or, exists_and_right, eq_comm]

namespace Remembers

theorem empty : Remembers ∅ [] := by
  intro actor i t
  rw [last?_empty]
  exact iff_of_false nofun not_standing_nil

theorem check (h : c.Remembers events) (actor : Nat) (i : Identity) (length now : Nat) :
    (c.check actor i length now).2.Remembers
      (events ++ [.checked actor i length now (c.check actor i length now).1]) := by
  intro b j t
  rw [standing_concat]
  rcases c.check_cases actor i length now with ⟨_, -, -, hcheck⟩ | ⟨-, hcheck⟩
  · rw [hcheck, h b j t]
    simp [Event.Ends]
  · rw [hcheck, last?_start, ← h b j t]
    by_cases hpair : actor = b ∧ i = j
    · obtain ⟨rfl, rfl⟩ := hpair
      simp [Event.Ends]
    · simp [Event.Ends, hpair, ← and_assoc]

theorem forget (h : c.Remembers events) (actor : Nat) :
    (c.forget actor).Remembers (events ++ [.forgotten actor]) := by
  intro b j t
  rw [standing_concat, last?_forget, ← h b j t]
  by_cases hb : b = actor
  · simp [Event.Ends, hb]
  · simp [Event.Ends, hb, Ne.symm hb]

theorem prune (h : c.Remembers events) (age now : Nat) :
    (c.prune age now).Remembers (events ++ [.pruned age now]) := by
  intro b j t
  rw [standing_concat, last?_prune, ← h b j t]
  simp [Event.Ends, Option.filter_eq_some_iff]

theorem step (h : c.Remembers events) (o : Operation) :
    (c.step o).2.Remembers (events ++ [(c.step o).1]) := by
  cases o with
  | check actor i length now => exact h.check actor i length now
  | forget actor => exact h.forget actor
  | prune age now => exact h.prune age now

theorem run (h : c.Remembers events) (operations : List Operation) :
    (c.run operations).Remembers (events ++ c.history operations) := by
  -- the history grows by one event with each operation
  induction operations generalizing c events with
  | nil => rwa [history, List.append_nil]
  | cons o operations ih =>
    rw [history, List.append_cons]
    exact ih (h.step o)

end Remembers

inductive Due (events : List Event) (actor : Nat) (i : Identity) (length now : Nat) :
    CooldownCheck → Prop where
  | unopened (h : ∀ t, ¬ Standing events actor i t) : Due events actor i length now .triggered
  | lapsed {t : Nat} (h : Standing events actor i t) (hover : length ≤ now - t) :
    Due events actor i length now .triggered
  | within {t : Nat} (h : Standing events actor i t) (hopen : now - t < length) :
    Due events actor i length now (.active (length - (now - t)))

theorem Remembers.check_eq_iff (h : c.Remembers events) {result : CooldownCheck} :
    (c.check actor i length now).1 = result ↔ Due events actor i length now result := by
  have hunique {t u : Nat} (hlast : c.last? actor i = some t) (hu : Standing events actor i u) :
      t = u := Option.some.inj (hlast.symm.trans ((h actor i u).2 hu))
  rcases c.check_cases actor i length now with ⟨t, hlast, hopen, hcheck⟩ | ⟨hclosed, hcheck⟩
  · -- only one window stands, so no other one can make the check due
    rw [hcheck]
    constructor
    · rintro rfl
      exact .within ((h actor i t).1 hlast) hopen
    · intro hdue
      cases hdue with
      | unopened hnone => exact absurd ((h actor i t).1 hlast) (hnone t)
      | lapsed hu hover =>
        obtain rfl := hunique hlast hu
        omega
      | within hu =>
        obtain rfl := hunique hlast hu
        rfl
  · rw [hcheck]
    constructor
    · rintro rfl
      cases hlast : c.last? actor i with
      | none =>
        refine .unopened fun t ht => ?_
        rw [(h actor i t).2 ht] at hlast
        cases hlast
      | some t => exact .lapsed ((h actor i t).1 hlast) (hclosed t hlast)
    · intro hdue
      cases hdue with
      | unopened => rfl
      | lapsed => rfl
      | within hu hopen =>
        have hover : length ≤ now - _ := hclosed _ ((h actor i _).2 hu)
        omega

def Operation.concerns (actor : Nat) (i : Identity) : Operation → Bool
  | .check b j _ _ => b = actor ∧ j = i
  | .forget b => b = actor
  | .prune _ _ => true

theorem last?_check_of_ne {b : Nat} {j : Identity} (h : ¬ (b = actor ∧ j = i)) :
    (c.check b j length now).2.last? actor i = c.last? actor i := by
  rcases c.check_cases b j length now with ⟨_, -, -, hcheck⟩ | ⟨-, hcheck⟩
  · rw [hcheck]
  · rw [hcheck, last?_start, if_neg h]

theorem last?_step_of_not_concerns {o : Operation} (h : o.concerns actor i = false) :
    (c.step o).2.last? actor i = c.last? actor i := by
  cases o with
  | check b j length now => exact last?_check_of_ne (of_decide_eq_false h)
  | forget b =>
    have hne : b ≠ actor := of_decide_eq_false h
    rw [step, last?_forget, if_neg hne.symm]
  | prune age now => cases h

theorem check_congr (h : c.last? actor i = d.last? actor i) :
    (c.check actor i length now).1 = (d.check actor i length now).1
      ∧ (c.check actor i length now).2.last? actor i = (d.check actor i length now).2.last? actor i := by
  rcases d.check_cases actor i length now with ⟨t, hlast, hopen, hd⟩ | ⟨hclosed, hd⟩
  · rw [hd, check_of_open (h.trans hlast) hopen]
    exact ⟨rfl, h⟩
  · rw [hd, check_of_closed fun t hlast => hclosed t (h.symm.trans hlast)]
    simp

theorem last?_step_congr (h : c.last? actor i = d.last? actor i) (o : Operation) :
    (c.step o).2.last? actor i = (d.step o).2.last? actor i := by
  cases o with
  | check b j length now =>
    simp only [step]
    by_cases hpair : b = actor ∧ j = i
    · obtain ⟨rfl, rfl⟩ := hpair
      exact (check_congr h).2
    · rw [last?_check_of_ne hpair, last?_check_of_ne hpair, h]
  | forget b => simp only [step, last?_forget, h]
  | prune age now => simp only [step, last?_prune, h]

theorem last?_run_filter (h : c.last? actor i = d.last? actor i) (operations : List Operation) :
    (c.run (operations.filter (·.concerns actor i))).last? actor i = (d.run operations).last? actor i := by
  -- the two tables may differ in all other windows
  induction operations generalizing c d with
  | nil => exact h
  | cons o operations ih =>
    cases hconcerns : o.concerns actor i with
    | true =>
      rw [List.filter_cons_of_pos hconcerns]
      exact ih (last?_step_congr h o)
    | false =>
      rw [List.filter_cons_of_neg (by simp [hconcerns])]
      exact ih (h.trans (last?_step_of_not_concerns hconcerns).symm)

/--
After any operations, the result of a check is what the events about its actor and item make it, and no
operation about another actor or another item counts.
-/
theorem check_run (operations : List Operation) (actor : Nat) (i : Identity) (length now : Nat) :
    (∀ result, ((run ∅ operations).check actor i length now).1 = result ↔
        Due (history ∅ operations) actor i length now result)
      ∧ ((run ∅ (operations.filter (·.concerns actor i))).check actor i length now).1 =
        ((run ∅ operations).check actor i length now).1 := by
  refine ⟨fun result => ?_, ?_⟩
  · exact (Remembers.empty.run operations).check_eq_iff
  · exact (check_congr (last?_run_filter rfl operations)).1

end Cooldowns

end Embargo
