import Embargo.Proofs.Decision.Ruling
import Embargo.Warden

namespace Embargo

inductive Call where
  | decide (r : Request)
  | forget (actor : Nat)
  | prune (now : Nat)

namespace Call

def time? : Call → Option Nat
  | decide r => some r.time
  | forget _ => none
  | prune now => some now

def isPrune : Call → Bool
  | prune _ => true
  | _ => false

end Call

structure Reply where
  verdict : Verdict
  notices : List Notice
deriving DecidableEq

namespace Warden

def call (w : Warden) : Call → Option Reply × Warden
  | .decide r => (some ⟨(w.rule r).answer, (w.rule r).journal.notices⟩, (w.rule r).warden)
  | .forget actor => (none, w.forgetActor actor)
  | .prune now => (none, (w.prune now).2)

def replies (w : Warden) : List Call → List Reply
  | [] => []
  | c :: calls => (w.call c).1.toList ++ (w.call c).2.replies calls

def retention (w : Warden) : Nat :=
  w.book.longestCooldown?.getD 0

/--
The warden `pruned` is `full`, except that windows may lack which are too old at the time `now`.
-/
structure Pruned (now : Nat) (full pruned : Warden) : Prop where
  frame : pruned = { full with cooldowns := pruned.cooldowns }
  windows : Cooldowns.Pruned full.retention now full.cooldowns pruned.cooldowns

namespace Pruned

variable {now now' actor : Nat} {full pruned : Warden}

theorem refl (w : Warden) : Pruned now w w :=
  ⟨rfl, .refl w.cooldowns⟩

theorem later (h : Pruned now full pruned) (hnow : now ≤ now') : Pruned now' full pruned :=
  ⟨h.frame, h.windows.later hnow⟩

theorem arbiter_eq (h : Pruned now full pruned) : pruned.arbiter = full.arbiter := by
  rw [h.frame]
  rfl

theorem retention_eq (h : Pruned now full pruned) : pruned.retention = full.retention := by
  rw [h.frame]
  rfl

theorem rule {r : Request} (h : Pruned r.time full pruned) :
    (pruned.call (.decide r)).1 = (full.call (.decide r)).1
      ∧ Pruned r.time (full.call (.decide r)).2 (pruned.call (.decide r)).2 := by
  obtain ⟨hverdict, hannounced, hwindows⟩ := full.arbiter.decide_pruned r h.windows
  constructor
  · simp only [call, Warden.rule, h.arbiter_eq, Arbiter.notices, hverdict, hannounced]
  · constructor
    · simp only [call, Warden.rule]
      rw [h.frame]
    · simp only [call, Warden.rule, h.arbiter_eq]
      exact hwindows

theorem forget (h : Pruned now full pruned) :
    Pruned now (full.forgetActor actor) (pruned.forgetActor actor) := by
  constructor
  · unfold forgetActor
    rw [h.frame]
  · exact h.windows.forget

theorem prune (h : Pruned now full pruned) : Pruned now full (pruned.prune now).2 := by
  constructor
  · unfold Warden.prune
    rw [h.frame]
  · have hage : pruned.book.longestCooldown?.getD 0 = full.retention := h.retention_eq
    unfold Warden.prune
    rw [hage]
    exact h.windows.prune

end Pruned

theorem replies_pruned {now : Nat} {full pruned : Warden} {calls : List Call}
    (h : Pruned now full pruned) (htimes : (now :: calls.filterMap Call.time?).Pairwise (· ≤ ·)) :
    full.replies (calls.filter fun c => !c.isPrune) = pruned.replies calls := by
  -- `now` is the time of the last call: what lacks since then is too old for all calls to come
  induction calls generalizing now full pruned with
  | nil => rfl
  | cons c calls ih =>
    cases c with
    | decide r =>
      have hnext : (now :: r.time :: calls.filterMap Call.time?).Pairwise (· ≤ ·) := htimes
      have hnow : now ≤ r.time := List.rel_of_pairwise_cons hnext List.mem_cons_self
      obtain ⟨hreply, hafter⟩ := (h.later hnow).rule
      rw [List.filter_cons_of_pos rfl, replies, replies, hreply, ih hafter hnext.of_cons]
    | forget actor =>
      have hnext : (now :: calls.filterMap Call.time?).Pairwise (· ≤ ·) := htimes
      rw [List.filter_cons_of_pos rfl, replies, replies]
      exact ih h.forget hnext
    | prune t =>
      have hnext : (now :: t :: calls.filterMap Call.time?).Pairwise (· ≤ ·) := htimes
      have hnow : now ≤ t := List.rel_of_pairwise_cons hnext List.mem_cons_self
      rw [List.filter_cons_of_neg Bool.false_ne_true, replies]
      exact ih (h.later hnow).prune hnext.of_cons

/--
Calls at times that do not decrease get the same replies if those that prune are left out.
-/
theorem replies_filter_prune (w : Warden) (calls : List Call)
    (htimes : (calls.filterMap Call.time?).Pairwise (· ≤ ·)) :
    w.replies (calls.filter fun c => !c.isPrune) = w.replies calls := by
  apply replies_pruned (Pruned.refl w : Pruned 0 w w)
  rw [List.pairwise_cons]
  exact ⟨fun t _ => Nat.zero_le t, htimes⟩

theorem replies_filter_prune_window :
    let world : World := ⟨"world"⟩
    let stone : Identity := .plain ⟨"stone"⟩
    let bans : Bans := .ofList [⟨stone, .place, { cooldown := some 10 }⟩]
    let book : RuleBook := { (default : RuleBook) with blacklist := .ofList [(world, bans)] }
    let store : Store := { (default : Store) with book }
    let w : Warden := { (default : Warden) with store, listeners := ⟨[{ name := "ear" }]⟩ }
    let place (time : Nat) : Call :=
      .decide { actor := default, world, item := stone, action := .place, time }
    let calls := [place 0, .prune 5, place 6, .prune 12, place 13]
    w.replies [place 0, place 6, place 13] = w.replies calls
      ∧ (w.replies calls).map (·.verdict.remaining) = [none, some 4, none]
      ∧ ((w.call (place 0)).2.prune 12).1 = 1 := by
  intro world stone bans book store w place calls
  have htimes : (calls.filterMap Call.time?).Pairwise (· ≤ ·) := by
    simp [calls, place, Call.time?]
  exact ⟨replies_filter_prune w calls htimes, rfl, rfl⟩

end Warden

end Embargo
