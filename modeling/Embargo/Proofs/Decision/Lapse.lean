import Embargo.Proofs.Decision.History
import Mathlib.Data.List.Pairwise

/-!
This module contains the checks of one actor and item, of which all share one window whatever their
lengths, and when a window that one of them finds open is over for it.
-/

namespace Embargo

namespace Cooldowns

def checks (actor : Nat) (i : Identity) (asked : List (Nat × Nat)) : List Operation :=
  asked.map fun a => .check actor i a.1 a.2

def Event.start? : Event → Option Nat
  | .checked _ _ _ now .triggered => some now
  | _ => none

def starts (events : List Event) : List Nat :=
  events.filterMap Event.start?

variable {c : Cooldowns} {actor : Nat} {i : Identity} {a : Nat × Nat} {asked : List (Nat × Nat)}
  {length now opened : Nat} {result : CooldownCheck}

theorem run_checks_cons :
    c.run (checks actor i (a :: asked)) =
      (c.check actor i a.1 a.2).2.run (checks actor i asked) := rfl

theorem history_checks_cons :
    c.history (checks actor i (a :: asked)) =
      .checked actor i a.1 a.2 (c.check actor i a.1 a.2).1
        :: (c.check actor i a.1 a.2).2.history (checks actor i asked) := rfl

theorem last?_run_checks :
    (c.run (checks actor i asked)).last? actor i =
      ((c.last? actor i).toList ++ starts (c.history (checks actor i asked))).getLast? := by
  induction asked generalizing c with
  | nil => cases hlast : c.last? actor i <;> simp [checks, starts, run, history, hlast]
  | cons a asked ih =>
    rw [run_checks_cons, history_checks_cons, ih]
    rcases c.check_cases actor i a.1 a.2 with ⟨t, hlast, -, hcheck⟩ | ⟨-, hcheck⟩
    · rw [hcheck]
      simp [starts, Event.start?]
    · rw [hcheck]
      cases hlast : c.last? actor i <;> simp [starts, Event.start?, List.getLast?_cons]

theorem starts_sublist : (starts (c.history (checks actor i asked))).Sublist (asked.map Prod.snd) := by
  induction asked generalizing c with
  | nil => exact .slnil
  | cons a asked ih =>
    rw [history_checks_cons, List.map_cons, starts, List.filterMap_cons]
    cases hresult : (c.check actor i a.1 a.2).1 with
    | triggered => exact ih.cons_cons a.2
    | active left => exact ih.cons a.2

theorem exists_last?_run_checks (hlast : c.last? actor i = some opened)
    (htimes : (opened :: asked.map Prod.snd).Pairwise (· ≤ ·)) :
    ∃ latest, (c.run (checks actor i asked)).last? actor i = some latest
      ∧ latest ∈ opened :: starts (c.history (checks actor i asked))
      ∧ ∀ s ∈ opened :: starts (c.history (checks actor i asked)), s ≤ latest := by
  have hordered : (opened :: starts (c.history (checks actor i asked))).Pairwise (· ≤ ·) :=
    htimes.sublist (starts_sublist.cons_cons opened)
  have hne := List.cons_ne_nil opened (starts (c.history (checks actor i asked)))
  refine ⟨List.getLast _ hne, ?_, List.getLast_mem hne, fun s hs => hordered.rel_getLast hs⟩
  rw [last?_run_checks, hlast, Option.toList_some, List.singleton_append,
    List.getLast?_eq_some_getLast hne]

theorem check_run_checks_eq_triggered_iff (hlast : c.last? actor i = some opened)
    (htimes : (opened :: asked.map Prod.snd ++ [now]).Pairwise (· ≤ ·)) :
    ((c.run (checks actor i asked)).check actor i length now).1 = .triggered ↔
      ∀ s ∈ opened :: starts (c.history (checks actor i asked)), s + length ≤ now := by
  obtain ⟨hbefore, -, hnow⟩ := List.pairwise_append.1 htimes
  obtain ⟨latest, hlatest, hmem, hle⟩ := exists_last?_run_checks hlast hbefore
  have hpast : latest ≤ now :=
    hnow latest ((starts_sublist.cons_cons opened).mem hmem) now List.mem_cons_self
  rcases check_cases _ actor i length now with ⟨u, hu, hopen, hcheck⟩ | ⟨hclosed, hcheck⟩
  · obtain rfl : latest = u := Option.some.inj (hlatest.symm.trans hu)
    rw [hcheck]
    refine iff_of_false nofun fun hall => ?_
    have hover : latest + length ≤ now := hall latest hmem
    omega
  · rw [hcheck]
    refine iff_of_true rfl fun s hs => ?_
    have hover : length ≤ now - latest := hclosed latest hlatest
    have hearlier : s ≤ latest := hle s hs
    omega

theorem exists_of_history_checks {front back : List Event}
    (h : c.history (checks actor i asked) = front ++ .checked actor i length now result :: back) :
    ∃ earlier later, asked = earlier ++ (length, now) :: later
      ∧ c.history (checks actor i earlier) = front
      ∧ ((c.run (checks actor i earlier)).check actor i length now).1 = result
      ∧ ((c.run (checks actor i earlier)).check actor i length now).2.history
          (checks actor i later) = back := by
  induction front generalizing c asked with
  | nil =>
    cases asked with
    | nil => cases h
    | cons a asked =>
      obtain ⟨hevent, hback⟩ := List.cons.inj h
      obtain ⟨-, -, rfl, rfl, hresult⟩ := Event.checked.inj hevent
      exact ⟨[], asked, rfl, rfl, hresult, hback⟩
  | cons e front ih =>
    cases asked with
    | nil => cases h
    | cons a asked =>
      obtain ⟨rfl, hrest⟩ := List.cons.inj h
      obtain ⟨earlier, later, rfl, rfl, hresult, hback⟩ := ih hrest
      exact ⟨a :: earlier, later, rfl, rfl, hresult, hback⟩

theorem add_le_of_mem_history (hlast : c.last? actor i = some opened)
    (htimes : (opened :: asked.map Prod.snd).Pairwise (· ≤ ·))
    (h : .checked actor i length now .triggered ∈ c.history (checks actor i asked)) :
    opened + length ≤ now := by
  obtain ⟨front, back, hsplit⟩ := List.append_of_mem h
  obtain ⟨earlier, later, rfl, -, hresult, -⟩ := exists_of_history_checks hsplit
  have hbefore : (opened :: earlier.map Prod.snd ++ [now]).Pairwise (· ≤ ·) := by
    refine htimes.sublist ?_
    simp
  exact (check_run_checks_eq_triggered_iff hlast hbefore).1 hresult opened List.mem_cons_self

theorem exists_opened_of_active {left : Nat} (htimes : ∀ s ∈ asked.map Prod.snd, s ≤ now)
    (h : ((run ∅ (checks actor i asked)).check actor i length now).1 = .active left) :
    ∃ opened, (run ∅ (checks actor i asked)).last? actor i = some opened ∧ opened ≤ now
      ∧ now + left = opened + length
      ∧ ((run ∅ (checks actor i asked)).check actor i length now).2 =
        run ∅ (checks actor i asked) := by
  rcases check_cases _ actor i length now with ⟨opened, hlast, hopen, hcheck⟩ | ⟨-, hcheck⟩
  · rw [hcheck] at h
    obtain rfl := CooldownCheck.active.inj h
    have hwindows := hlast
    rw [last?_run_checks, last?_empty] at hwindows
    have hpast : opened ≤ now := htimes opened (starts_sublist.mem (List.mem_of_getLast? hwindows))
    refine ⟨opened, hlast, hpast, ?_, ?_⟩
    · omega
    · rw [hcheck]
  · rw [hcheck] at h
    cases h

/--
A window that a check finds open is neither ended nor extended by checks that are as long as it or
longer. Once it is over, a check of its length starts a new one, unless another check did so more
recently than that length.
-/
theorem reopens_iff (htimes : (asked.map Prod.snd).Pairwise (· ≤ ·)) {front between back : List Event}
    {t left : Nat}
    (hsplit : history ∅ (checks actor i asked) =
      front ++ .checked actor i length t (.active left)
        :: (between ++ .checked actor i length now result :: back)) :
    (∀ other s, .checked actor i other s .triggered ∈ between → length ≤ other → t + left ≤ s)
      ∧ (t + left ≤ now → (result = .triggered ↔ ∀ s ∈ starts between, s + length ≤ now)) := by
  obtain ⟨earlier, later, rfl, -, hactive, hlater⟩ := exists_of_history_checks hsplit
  rw [List.map_append, List.map_cons] at htimes
  obtain ⟨-, hafter, hacross⟩ := List.pairwise_append.1 htimes
  obtain ⟨opened, hlast, hpast, hends, hsame⟩ :=
    exists_opened_of_active (fun s hs => hacross s hs t List.mem_cons_self) hactive
  rw [hsame] at hlater
  obtain ⟨meanwhile, rest, rfl, rfl, rfl, -⟩ := exists_of_history_checks hlater
  rw [List.map_append, List.map_cons, List.pairwise_cons] at hafter
  -- the window that the check found is at least as old as the check itself
  have hordered : (opened :: meanwhile.map Prod.snd ++ [now]).Pairwise (· ≤ ·) := by
    have hsublist : (meanwhile.map Prod.snd ++ [now]).Sublist
        (meanwhile.map Prod.snd ++ now :: rest.map Prod.snd) := by simp
    refine List.pairwise_cons.2 ⟨fun s hs => ?_, hafter.2.sublist hsublist⟩
    exact Nat.le_trans hpast (hafter.1 s (hsublist.mem hs))
  constructor
  · intro other s hmem hlength
    have hover : opened + other ≤ s :=
      add_le_of_mem_history hlast (List.pairwise_append.1 hordered).1 hmem
    omega
  · intro hdue
    rw [check_run_checks_eq_triggered_iff hlast hordered, List.forall_mem_cons, ← hends]
    exact and_iff_right hdue

theorem reopens_iff_between :
    let stone : Identity := .plain ⟨"stone"⟩
    let asked := [(10, 0), (10, 5), (4, 6), (12, 18), (10, 28)]
    let between : List Event := [.checked 0 stone 4 6 .triggered, .checked 0 stone 12 18 .triggered]
    history ∅ (checks 0 stone asked) =
        [.checked 0 stone 10 0 .triggered] ++ .checked 0 stone 10 5 (.active 5)
          :: (between ++ .checked 0 stone 10 28 .triggered :: [])
      ∧ (∀ other s, .checked 0 stone other s .triggered ∈ between → 10 ≤ other → 5 + 5 ≤ s)
      ∧ (5 + 5 ≤ 28 →
          (CooldownCheck.triggered = .triggered ↔ ∀ s ∈ starts between, s + 10 ≤ 28)) := by
  intro stone asked between
  have htimes : (asked.map Prod.snd).Pairwise (· ≤ ·) := by simp [asked]
  have hsplit : history ∅ (checks 0 stone asked) =
      [.checked 0 stone 10 0 .triggered] ++ .checked 0 stone 10 5 (.active 5)
        :: (between ++ .checked 0 stone 10 28 .triggered :: []) := rfl
  exact ⟨hsplit, reopens_iff htimes hsplit⟩

/--
Two windows of length 10 that a check finds open for another 5, and a check of the same length when these
are over. It finds a window open, since a check between started one: a shorter check while the first
window was open, or a longer one when it was over.
-/
theorem open_after_its_end :
    let stone : Identity := .plain ⟨"stone"⟩
    let shorter := [(10, 0), (10, 5), (4, 6), (10, 10)]
    let longer := [(10, 0), (10, 5), (11, 11), (10, 12)]
    ((shorter.map Prod.snd).Pairwise (· ≤ ·)
      ∧ history ∅ (checks 0 stone shorter) =
          [.checked 0 stone 10 0 .triggered, .checked 0 stone 10 5 (.active 5),
            .checked 0 stone 4 6 .triggered, .checked 0 stone 10 10 (.active 6)]
      ∧ 5 + 5 ≤ 10)
    ∧ (longer.map Prod.snd).Pairwise (· ≤ ·)
      ∧ history ∅ (checks 0 stone longer) =
          [.checked 0 stone 10 0 .triggered, .checked 0 stone 10 5 (.active 5),
            .checked 0 stone 11 11 .triggered, .checked 0 stone 10 12 (.active 9)]
      ∧ 5 + 5 ≤ 12 := by
  intro stone shorter longer
  refine ⟨⟨?_, rfl, Nat.le_refl 10⟩, ?_, rfl, by decide⟩
  · simp [shorter]
  · simp [longer]

end Cooldowns

end Embargo
