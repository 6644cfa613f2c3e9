import Embargo.Proofs.Decision.Effects
import Embargo.Warden

/-!
This module contains the proof that every cooldown window is announced once. It relates the windows
of a warden to the denials that were announced before: a denial without a window is so long ago that
no cooldown reaches from it to the present.
-/

namespace Embargo

/--
A call while the rules stay the same. The listeners may change between any two decisions, and so
what they do may depend on the calls before.
-/
inductive Turn where
  | decide (r : Request)
  | prune (now : Nat)
  | listen (listeners : Listeners)

def Turn.time? : Turn → Option Nat
  | decide r => some r.time
  | prune now => some now
  | listen _ => none

namespace Warden

def turn (w : Warden) : Turn → Option Answer × Warden
  | .decide r => (some ⟨r, (w.rule r).answer⟩, (w.rule r).warden)
  | .prune now => (none, (w.prune now).2)
  | .listen listeners => (none, { w with listeners })

def answers (w : Warden) : List Turn → List Answer
  | [] => []
  | t :: turns => (w.turn t).1.toList ++ (w.turn t).2.answers turns

end Warden

def Arbiter.cooldown? (arbiter : Arbiter) (r : Request) : Option Nat :=
  (arbiter.ban? r).bind (·.cooldown)

section

variable (length? : Request → Option Nat)

def Answer.announces (a : Answer) : Bool :=
  a.verdict.outcome = .deny ∧ a.verdict.ground = .blacklist ∧ (length? a.request).isSome
    ∧ a.verdict.remaining = none

def announcements (history : List Answer) (actor : Nat) (i : Identity) : List Nat :=
  (history.filter fun a =>
    a.announces length? ∧ a.request.actor.id = actor ∧ a.request.item = i).map (·.request.time)

/--
What an answer tells of windows is right, given the answers before it. If it is announced, then the
window of no earlier announcement is open; if it is silent, then that of the latest one is.
-/
structure Answer.Timely (earlier : List Answer) (a : Answer) : Prop where
  announced : a.announces length? → ∀ length, length? a.request = some length →
    ∀ t ∈ announcements length? earlier a.request.actor.id a.request.item,
      t + length ≤ a.request.time
  silent : ∀ left, a.verdict.remaining = some left →
    ∃ length t, length? a.request = some length
      ∧ (announcements length? earlier a.request.actor.id a.request.item).getLast? = some t
      ∧ t ≤ a.request.time ∧ a.request.time < t + length ∧ left = t + length - a.request.time

/--
The windows `c` at the time `now` are those that the announcements so far have started. Pruning may
have dropped some, but only such that no cooldown up to `age` would keep open, so that no answer
depends on them.
-/
structure Tracks (age now : Nat) (history : List Answer) (c : Cooldowns) : Prop where
  past : ∀ a ∈ history, a.request.time ≤ now
  ordered : (history.map (·.request.time)).Pairwise (· ≤ ·)
  windows : ∀ actor i,
    c.last? actor i = (announcements length? history actor i).getLast?
    ∨ c.last? actor i = none ∧ ∀ t ∈ announcements length? history actor i, t + age ≤ now

end

variable {length? : Request → Option Nat} {r : Request} {v : Verdict} {history : List Answer}
  {actor now age : Nat} {i : Identity} {c : Cooldowns}

theorem Answer.announces_of_open {left : Nat} (h : v.remaining = some left) :
    (⟨r, v⟩ : Answer).announces length? = false := by
  simp [announces, h]

theorem announcements_append (earlier later : List Answer) :
    announcements length? (earlier ++ later) actor i =
      announcements length? earlier actor i ++ announcements length? later actor i := by
  unfold announcements
  rw [List.filter_append, List.map_append]

theorem announcements_concat_quiet (h : (⟨r, v⟩ : Answer).announces length? = false) :
    announcements length? (history ++ [⟨r, v⟩]) actor i =
      announcements length? history actor i := by
  rw [announcements_append]
  simp [announcements, h]

theorem announcements_concat (h : (⟨r, v⟩ : Answer).announces length? = true) :
    announcements length? (history ++ [⟨r, v⟩]) actor i =
      announcements length? history actor i ++
        if r.actor.id = actor ∧ r.item = i then [r.time] else [] := by
  rw [announcements_append]
  by_cases hpair : r.actor.id = actor ∧ r.item = i
  · simp [announcements, h, hpair]
  · simp [announcements, h, hpair]

theorem announcements_sublist :
    (announcements length? history actor i).Sublist (history.map (·.request.time)) :=
  List.filter_sublist.map _

namespace Tracks

theorem empty : Tracks length? age now [] ∅ where
  past a h := by cases h
  ordered := .nil
  windows _ _ := .inl rfl

theorem later (h : Tracks length? age now history c) {now' : Nat} (hnow : now ≤ now') :
    Tracks length? age now' history c where
  past a ha := Nat.le_trans (h.past a ha) hnow
  ordered := h.ordered
  windows actor i := by
    apply (h.windows actor i).imp_right
    rintro ⟨hnone, hold⟩
    exact ⟨hnone, fun t ht => Nat.le_trans (hold t ht) hnow⟩

theorem announced_le (h : Tracks length? age now history c) {t : Nat}
    (ht : t ∈ announcements length? history actor i) : t ≤ now := by
  obtain ⟨a, ha, rfl⟩ := List.mem_map.1 (announcements_sublist.mem ht)
  exact h.past a ha

theorem le_of_getLast? (h : Tracks length? age now history c) {last t : Nat}
    (hlast : (announcements length? history actor i).getLast? = some last)
    (ht : t ∈ announcements length? history actor i) : t ≤ last := by
  obtain ⟨before, heq⟩ := List.getLast?_eq_some_iff.1 hlast
  have hordered : (before ++ [last]).Pairwise (· ≤ ·) :=
    heq ▸ h.ordered.sublist announcements_sublist
  rw [heq, List.mem_append, List.mem_singleton] at ht
  rcases ht with hbefore | rfl
  · exact (List.pairwise_append.1 hordered).2.2 t hbefore last List.mem_cons_self
  · exact Nat.le_refl t

theorem add_le_of_closed (h : Tracks length? age now history c) {length : Nat}
    (hlength : length ≤ age) (hclosed : ∀ t, c.last? actor i = some t → length ≤ now - t) {t : Nat}
    (ht : t ∈ announcements length? history actor i) : t + length ≤ now := by
  rcases h.windows actor i with hsame | ⟨-, hold⟩
  · cases hlast : (announcements length? history actor i).getLast? with
    | none =>
      rw [List.getLast?_eq_none_iff.1 hlast] at ht
      cases ht
    | some last =>
      have hlatest : t ≤ last := h.le_of_getLast? hlast ht
      have hpast : last ≤ now := h.announced_le (List.mem_of_getLast? hlast)
      have hover : length ≤ now - last := hclosed last (hsame.trans hlast)
      omega
  · have hover : t + age ≤ now := hold t ht
    omega

theorem getLast?_of_open (h : Tracks length? age now history c) {t : Nat}
    (hlast : c.last? actor i = some t) :
    (announcements length? history actor i).getLast? = some t := by
  rcases h.windows actor i with hsame | ⟨hnone, -⟩
  · exact hsame.symm.trans hlast
  · rw [hnone] at hlast
    cases hlast

theorem prune (h : Tracks length? age now history c) :
    Tracks length? age now history (c.prune age now) where
  past := h.past
  ordered := h.ordered
  windows actor i := by
    rw [Cooldowns.last?_prune]
    cases hlast : c.last? actor i with
    | none =>
      have hbefore := h.windows actor i
      rw [hlast] at hbefore
      exact hbefore
    | some t =>
      have hannounced := h.getLast?_of_open hlast
      by_cases hopen : now - t < age
      · left
        rw [hannounced]
        simp [Option.filter, hopen]
      · -- this window is dropped, and all earlier ones of the pair are even older
        right
        refine ⟨by simp [Option.filter, hopen], ?_⟩
        intro s hs
        have hlatest : s ≤ t := h.le_of_getLast? hannounced hs
        have hpast : t ≤ now := h.announced_le (List.mem_of_getLast? hannounced)
        omega

theorem past_concat (h : Tracks length? age r.time history c) :
    ∀ a ∈ history ++ [⟨r, v⟩], a.request.time ≤ r.time := by
  intro a ha
  rw [List.mem_append, List.mem_singleton] at ha
  rcases ha with hbefore | rfl
  · exact h.past a hbefore
  · exact Nat.le_refl _

theorem ordered_concat (h : Tracks length? age r.time history c) :
    ((history ++ [(⟨r, v⟩ : Answer)]).map (·.request.time)).Pairwise (· ≤ ·) := by
  rw [List.map_append, List.pairwise_append]
  refine ⟨h.ordered, List.pairwise_singleton _ _, ?_⟩
  intro t ht now hnow
  obtain ⟨a, ha, rfl⟩ := List.mem_map.1 ht
  rw [List.map_singleton, List.mem_singleton] at hnow
  rw [hnow]
  exact h.past a ha

theorem concat_quiet (h : Tracks length? age r.time history c)
    (hquiet : (⟨r, v⟩ : Answer).announces length? = false) :
    Tracks length? age r.time (history ++ [⟨r, v⟩]) c where
  past := h.past_concat
  ordered := h.ordered_concat
  windows actor i := by
    rw [announcements_concat_quiet hquiet]
    exact h.windows actor i

theorem concat_start (h : Tracks length? age r.time history c)
    (hannounces : (⟨r, v⟩ : Answer).announces length? = true) :
    Tracks length? age r.time (history ++ [⟨r, v⟩]) (c.start r.actor.id r.item r.time) where
  past := h.past_concat
  ordered := h.ordered_concat
  windows actor i := by
    rw [announcements_concat hannounces, Cooldowns.last?_start]
    split
    · left
      rw [List.getLast?_concat]
    · rw [List.append_nil]
      exact h.windows actor i

end Tracks

namespace Answer.Timely

theorem of_quiet (hquiet : (⟨r, v⟩ : Answer).announces length? = false)
    (hremaining : v.remaining = none) : (⟨r, v⟩ : Answer).Timely length? history where
  announced hannounces := by
    rw [hquiet] at hannounces
    cases hannounces
  silent left hleft := by
    rw [hremaining] at hleft
    cases hleft

end Answer.Timely

namespace Arbiter

variable (arbiter : Arbiter)

theorem cooldown?_of_ban? {o : Options} (hban : arbiter.ban? r = some o) :
    arbiter.cooldown? r = o.cooldown := by
  rw [cooldown?, hban, Option.bind_some]

theorem decide_timely
    (h : Tracks arbiter.cooldown? (arbiter.book.longestCooldown?.getD 0) r.time history c) :
    (⟨r, (arbiter.decide c r).verdict⟩ : Answer).Timely arbiter.cooldown? history
      ∧ Tracks arbiter.cooldown? (arbiter.book.longestCooldown?.getD 0) r.time
          (history ++ [⟨r, (arbiter.decide c r).verdict⟩]) (arbiter.decide c r).cooldowns := by
  cases arbiter.decide_branch r c with
  | allowed ground announced hdecide =>
    rw [hdecide]
    have hquiet : (⟨r, { outcome := .allow, ground }⟩ : Answer).announces
        arbiter.cooldown? = false := by
      simp [Answer.announces]
    exact ⟨.of_quiet hquiet rfl, h.concat_quiet hquiet⟩
  | unlisted message event hdecide =>
    rw [hdecide]
    have hquiet : (⟨r, { outcome := .deny, ground := .whitelist, message }⟩ : Answer).announces
        arbiter.cooldown? = false := by
      simp [Answer.announces]
    exact ⟨.of_quiet hquiet rfl, h.concat_quiet hquiet⟩
  | unlimited o event hban hcooldown hdecide =>
    rw [hdecide]
    have hquiet : (⟨r, arbiter.loudDenial r o⟩ : Answer).announces arbiter.cooldown? = false := by
      simp [Answer.announces, arbiter.cooldown?_of_ban? hban, hcooldown]
    exact ⟨.of_quiet hquiet rfl, h.concat_quiet hquiet⟩
  | silent o event length t hban hcooldown hlast hopen hdecide =>
    rw [hdecide]
    have hsome : arbiter.cooldown? r = some length :=
      (arbiter.cooldown?_of_ban? hban).trans hcooldown
    refine ⟨⟨?_, ?_⟩, h.concat_quiet (Answer.announces_of_open rfl)⟩
    · intro hannounces
      rw [Answer.announces_of_open rfl] at hannounces
      cases hannounces
    · rintro left ⟨⟩
      -- a window that is there was never pruned, so it belongs to the latest announcement
      have hannounced := h.getLast?_of_open hlast
      have hpast : t ≤ r.time := h.announced_le (List.mem_of_getLast? hannounced)
      have hwithin : r.time < t + length := by omega
      have hleft : length - (r.time - t) = t + length - r.time := by omega
      exact ⟨length, t, hsome, hannounced, hpast, hwithin, hleft⟩
  | starting o event length hban hcooldown hclosed hdecide =>
    rw [hdecide]
    have hsome : arbiter.cooldown? r = some length :=
      (arbiter.cooldown?_of_ban? hban).trans hcooldown
    have hannounces :
        (⟨r, arbiter.loudDenial r o⟩ : Answer).announces arbiter.cooldown? = true := by
      simp [Answer.announces, loudDenial, hsome]
    refine ⟨⟨?_, ?_⟩, h.concat_start hannounces⟩
    · intro _ length' hlength' t ht
      have hlength : length' = length := Option.some.inj (hlength'.symm.trans hsome)
      rw [hlength]
      exact h.add_le_of_closed (arbiter.cooldown_le_longest r hban hcooldown) hclosed ht
    · intro left hleft
      cases hleft

end Arbiter

namespace Warden

theorem timely_answers {w : Warden} {turns : List Turn}
    (h : Tracks w.arbiter.cooldown? (w.book.longestCooldown?.getD 0) now history w.cooldowns)
    (htimes : (now :: turns.filterMap Turn.time?).Pairwise (· ≤ ·)) {earlier later : List Answer}
    {a : Answer} (hsplit : w.answers turns = earlier ++ a :: later) :
    a.Timely w.arbiter.cooldown? (history ++ earlier) := by
  -- the history grows with each decision, and with it the announcements that the windows stand for
  induction turns generalizing now history w earlier with
  | nil => cases earlier <;> cases hsplit
  | cons turn turns ih =>
    cases turn with
    | decide r =>
      have hnext : (now :: r.time :: turns.filterMap Turn.time?).Pairwise (· ≤ ·) := htimes
      have hnow : now ≤ r.time := List.rel_of_pairwise_cons hnext List.mem_cons_self
      obtain ⟨hfirst, hafter⟩ := w.arbiter.decide_timely (h.later hnow)
      rw [answers, turn, Option.toList_some, List.singleton_append] at hsplit
      cases earlier with
      | nil =>
        obtain ⟨rfl, -⟩ := List.cons.inj hsplit
        rw [List.append_nil]
        exact hfirst
      | cons b earlier =>
        obtain ⟨rfl, hrest⟩ := List.cons.inj hsplit
        rw [List.append_cons]
        exact ih (w := (w.rule r).warden) hafter hnext.of_cons hrest
    | prune t =>
      have hnext : (now :: t :: turns.filterMap Turn.time?).Pairwise (· ≤ ·) := htimes
      have hnow : now ≤ t := List.rel_of_pairwise_cons hnext List.mem_cons_self
      exact ih (w := (w.prune t).2) (h.later hnow).prune hnext.of_cons hsplit
    | listen listeners => exact ih (w := { w with listeners }) h htimes hsplit

/--
Every window is announced once: by a denial that no earlier window covers, and by no other until it
ends.
-/
theorem announced_once (w : Warden) (hempty : w.cooldowns = ∅) (turns : List Turn)
    (htimes : (turns.filterMap Turn.time?).Pairwise (· ≤ ·)) (earlier later : List Answer)
    (a : Answer) (hsplit : w.answers turns = earlier ++ a :: later) :
    a.Timely w.arbiter.cooldown? earlier := by
  have hstart : Tracks w.arbiter.cooldown? (w.book.longestCooldown?.getD 0) 0 [] w.cooldowns := by
    rw [hempty]
    exact .empty
  apply timely_answers hstart _ hsplit
  rw [List.pairwise_cons]
  exact ⟨fun t _ => Nat.zero_le t, htimes⟩

theorem announced_once_shared :
    let world : World := ⟨"world"⟩
    let stone : Identity := .plain ⟨"stone"⟩
    let bans : Bans :=
      .ofList [⟨stone, .place, { cooldown := some 10 }⟩,
        ⟨stone, .breakBlock, { cooldown := some 4 }⟩]
    let book : RuleBook := { (default : RuleBook) with blacklist := .ofList [(world, bans)] }
    let store : Store := { (default : Store) with book }
    let w : Warden := { (default : Warden) with store, cooldowns := ∅ }
    let r (action : Action) (time : Nat) : Request :=
      { actor := default, world, item := stone, action, time }
    let denied (r : Request) (remaining : Option Nat) : Answer :=
      ⟨r, { outcome := .deny, ground := .blacklist, remaining }⟩
    let turns : List Turn :=
      [.decide (r .place 0), .decide (r .breakBlock 6), .decide (r .place 7), .prune 16,
        .decide (r .place 17)]
    let earlier := [denied (r .place 0) none, denied (r .breakBlock 6) none]
    let silent := denied (r .place 7) (some 9)
    let announced := denied (r .place 17) none
    w.answers turns = earlier ++ [silent, announced]
      ∧ silent.Timely w.arbiter.cooldown? earlier
      ∧ announced.Timely w.arbiter.cooldown? (earlier ++ [silent])
      ∧ announcements w.arbiter.cooldown? (earlier ++ [silent]) 0 stone = [0, 6] := by
  intro world stone bans book store w r denied turns earlier silent announced
  have hanswers : w.answers turns = earlier ++ [silent, announced] := rfl
  have htimes : (turns.filterMap Turn.time?).Pairwise (· ≤ ·) := by
    simp [turns, r, Turn.time?]
  have hsilent := w.announced_once rfl turns htimes earlier [announced] silent hanswers
  have hannounced :=
    w.announced_once rfl turns htimes (earlier ++ [silent]) [] announced hanswers
  exact ⟨hanswers, hsilent, hannounced, rfl⟩

end Warden

end Embargo
