import Embargo.Proofs.Decision.Ruling

/-!
This module contains what decisions leave behind: which verdicts come with which windows, that at
most the window of the actor and the item starts, and how one decision after the other is answered.
-/

namespace Embargo

namespace Cooldowns

structure Started (before after : Cooldowns) (actor : Nat) (i : Identity) (now : Nat) : Prop where
  here : after.last? actor i = some now
  elsewhere : ∀ b j, (b, j) ≠ (actor, i) → after.last? b j = before.last? b j

theorem started_start (c : Cooldowns) (actor : Nat) (i : Identity) (now : Nat) :
    c.Started (c.start actor i now) actor i now := by
  constructor
  · rw [last?_start, if_pos ⟨rfl, rfl⟩]
  · intro b j hne
    have hother : ¬ (actor = b ∧ i = j) := fun h => hne (by rw [h.1, h.2])
    rw [last?_start, if_neg hother]

end Cooldowns

namespace Arbiter

variable (arbiter : Arbiter) (r : Request)

/--
The ways in which a request can be decided while the windows are `c`. What is shown of a decision by
cases on this does not look into the search for a ban, the listeners or the table of windows again.
-/
inductive Branch (c : Cooldowns) : Prop where
  | allowed (ground : Ground) (announced : Option BanEvent)
      (hdecide : arbiter.decide c r =
        { verdict := { outcome := .allow, ground }, cooldowns := c, announced })
  | unlisted (message : Option String) (event : BanEvent)
      (hdecide : arbiter.decide c r =
        { verdict := { outcome := .deny, ground := .whitelist, message }, cooldowns := c,
          announced := some event })
  | unlimited (o : Options) (event : BanEvent) (hban : arbiter.ban? r = some o)
      (hcooldown : o.cooldown = none)
      (hdecide : arbiter.decide c r =
        { verdict := arbiter.loudDenial r o, cooldowns := c, announced := some event })
  | silent (o : Options) (event : BanEvent) (length t : Nat) (hban : arbiter.ban? r = some o)
      (hcooldown : o.cooldown = some length) (hlast : c.last? r.actor.id r.item = some t)
      (hopen : r.time - t < length)
      (hdecide : arbiter.decide c r =
        { verdict :=
            { outcome := .deny, ground := .blacklist, remaining := some (length - (r.time - t)) }
          cooldowns := c, announced := some event })
  | starting (o : Options) (event : BanEvent) (length : Nat) (hban : arbiter.ban? r = some o)
      (hcooldown : o.cooldown = some length)
      (hclosed : ∀ t, c.last? r.actor.id r.item = some t → length ≤ r.time - t)
      (hdecide : arbiter.decide c r =
        { verdict := arbiter.loudDenial r o, cooldowns := c.start r.actor.id r.item r.time,
          announced := some event })

theorem decide_branch (c : Cooldowns) : arbiter.Branch r c := by
  cases arbiter.decide_course r with
  | allowed ground announced hdecide => exact .allowed ground announced (hdecide c r.time)
  | unlisted message event hdecide => exact .unlisted message event (hdecide c r.time)
  | banned o event hban hdecide =>
    have hnow : arbiter.decide c r =
        { verdict := (arbiter.banDenial c r o).1, cooldowns := (arbiter.banDenial c r o).2,
          announced := some event } := hdecide c r.time
    cases hcooldown : o.cooldown with
    | none =>
      rw [arbiter.banDenial_of_none r hcooldown] at hnow
      exact .unlimited o event hban hcooldown hnow
    | some length =>
      rw [arbiter.banDenial_of_some r hcooldown] at hnow
      -- with a cooldown it is the window of the actor and the item that decides
      rcases c.check_cases r.actor.id r.item length r.time with
        ⟨t, hlast, hopen, hcheck⟩ | ⟨hclosed, hcheck⟩
      · rw [hcheck] at hnow
        exact .silent o event length t hban hcooldown hlast hopen hnow
      · rw [hcheck] at hnow
        exact .starting o event length hban hcooldown hclosed hnow

theorem decide_of_shouldLog (c : Cooldowns)
    (h : (arbiter.decide c r).verdict.shouldLog = true) :
    (arbiter.decide c r).verdict.outcome = .deny ∧ (arbiter.decide c r).verdict.ground = .blacklist
      ∧ (arbiter.decide c r).verdict.remaining = none := by
  cases arbiter.decide_branch r c with
  | allowed ground announced hdecide =>
    rw [hdecide] at h
    cases h
  | unlisted message event hdecide =>
    rw [hdecide] at h
    cases h
  | unlimited o event hban hcooldown hdecide =>
    rw [hdecide]
    exact ⟨rfl, rfl, rfl⟩
  | silent o event length t hban hcooldown hlast hopen hdecide =>
    rw [hdecide] at h
    cases h
  | starting o event length hban hcooldown hclosed hdecide =>
    rw [hdecide]
    exact ⟨rfl, rfl, rfl⟩

end Arbiter

structure Ruling.Frames (arbiter : Arbiter) (r : Request) (c : Cooldowns) (ruling : Ruling) :
    Prop where
  allowed : ruling.verdict.outcome = .allow →
    ruling.verdict.message = none ∧ ruling.verdict.shouldLog = false
      ∧ ruling.verdict.remaining = none ∧ ruling.cooldowns = c
  silent : ∀ left, ruling.verdict.remaining = some left →
    ruling.verdict.outcome = .deny ∧ ruling.verdict.ground = .blacklist
      ∧ ruling.verdict.message = none ∧ ruling.verdict.shouldLog = false
      ∧ (∃ o length, arbiter.ban? r = some o ∧ o.cooldown = some length
        ∧ 0 < left ∧ left ≤ length)
      ∧ ruling.cooldowns = c
  logged : ruling.verdict.shouldLog = true →
    ruling.verdict.outcome = .deny ∧ ruling.verdict.ground = .blacklist
      ∧ ∃ o, arbiter.ban? r = some o ∧ o.shouldLog = true
  unlisted : ruling.verdict.ground = .whitelist → ruling.cooldowns = c
  starting : ruling.cooldowns ≠ c →
    ruling.verdict.outcome = .deny ∧ ruling.verdict.ground = .blacklist
      ∧ ruling.verdict.remaining = none
      ∧ (∃ o length, arbiter.ban? r = some o ∧ o.cooldown = some length)
      ∧ c.Started ruling.cooldowns r.actor.id r.item r.time

namespace Ruling.Frames

variable {arbiter : Arbiter} {r : Request} {c : Cooldowns} {v : Verdict}
  {announced : Option BanEvent}

theorem of_quiet (hlog : v.shouldLog = false) (hremaining : v.remaining = none)
    (hmessage : v.outcome = .allow → v.message = none) :
    Frames arbiter r c { verdict := v, cooldowns := c, announced } where
  allowed h := ⟨hmessage h, hlog, hremaining, rfl⟩
  silent left h := by
    rw [hremaining] at h
    cases h
  logged h := by
    rw [hlog] at h
    cases h
  unlisted _ := rfl
  starting h := absurd rfl h

theorem of_loud {o : Options} {after : Cooldowns} (hban : arbiter.ban? r = some o)
    (hafter : after ≠ c → (∃ length, o.cooldown = some length)
      ∧ c.Started after r.actor.id r.item r.time) :
    Frames arbiter r c { verdict := arbiter.loudDenial r o, cooldowns := after, announced } where
  allowed h := by cases h
  silent left h := by cases h
  logged h := ⟨rfl, rfl, o, hban, h⟩
  unlisted h := by cases h
  starting h := by
    obtain ⟨⟨length, hcooldown⟩, hstarted⟩ := hafter h
    exact ⟨rfl, rfl, rfl, ⟨o, length, hban, hcooldown⟩, hstarted⟩

end Ruling.Frames

namespace Arbiter

variable (arbiter : Arbiter) (r : Request)

/--
Whoever is allowed is told nothing, only a ban is logged or silent, and no window starts but that of
a ban which is not silent.
-/
theorem decide_frames (c : Cooldowns) : (arbiter.decide c r).Frames arbiter r c := by
  cases arbiter.decide_branch r c with
  | allowed ground announced hdecide =>
    rw [hdecide]
    exact .of_quiet rfl rfl fun _ => rfl
  | unlisted message event hdecide =>
    rw [hdecide]
    apply Ruling.Frames.of_quiet rfl rfl
    intro hallowed
    cases hallowed
  | unlimited o event hban hcooldown hdecide =>
    rw [hdecide]
    exact .of_loud hban fun hchanged => absurd rfl hchanged
  | silent o event length t hban hcooldown hlast hopen hdecide =>
    rw [hdecide]
    constructor
    · intro hallowed
      cases hallowed
    · rintro left ⟨⟩
      -- a clock behind the start of the window counts as one that shows the start
      have hpositive : 0 < length - (r.time - t) := by omega
      have hbounded : length - (r.time - t) ≤ length := Nat.sub_le _ _
      exact ⟨rfl, rfl, rfl, rfl, ⟨o, length, hban, hcooldown, hpositive, hbounded⟩, rfl⟩
    · intro hlogged
      cases hlogged
    · exact fun _ => rfl
    · exact fun hchanged => absurd rfl hchanged
  | starting o event length hban hcooldown hclosed hdecide =>
    rw [hdecide]
    exact .of_loud hban fun _ => ⟨⟨length, hcooldown⟩, c.started_start _ _ _⟩

theorem decide_frames_behind :
    let world : World := ⟨"world"⟩
    let stone : Identity := .plain ⟨"stone"⟩
    let o : Options := { messages := ["no"], log := some true, cooldown := some 10 }
    let bans : Bans := .ofList [⟨stone, .place, o⟩]
    let book : RuleBook := { (default : RuleBook) with blacklist := .ofList [(world, bans)] }
    let arbiter : Arbiter := { (default : Arbiter) with book }
    let r (time : Nat) : Request :=
      { actor := default, world, item := stone, action := .place, time }
    let c : Cooldowns := Cooldowns.start ∅ 0 stone 7
    (arbiter.decide c (r 3)).verdict.remaining = some 10
      ∧ (arbiter.decide c (r 3)).verdict.shouldLog = false
      ∧ (arbiter.decide c (r 3)).cooldowns = c
      ∧ (arbiter.decide c (r 17)).verdict.remaining = none
      ∧ c.Started (arbiter.decide c (r 17)).cooldowns 0 stone 17 := by
  intro world stone o bans book arbiter r c
  obtain ⟨-, -, -, hlog, -, hsame⟩ := (arbiter.decide_frames (r 3) c).silent 10 rfl
  have hchanged : (arbiter.decide c (r 17)).cooldowns ≠ c := by decide
  obtain ⟨-, -, hloud, -, hstarted⟩ := (arbiter.decide_frames (r 17) c).starting hchanged
  exact ⟨rfl, hlog, hsame, hloud, hstarted⟩

end Arbiter

structure Answer where
  request : Request
  verdict : Verdict

namespace Arbiter

variable (arbiter : Arbiter)

def answers : Cooldowns → List Request → List Answer
  | _, [] => []
  | c, r :: rs => ⟨r, (arbiter.decide c r).verdict⟩ :: answers (arbiter.decide c r).cooldowns rs

def windowsAfter : Cooldowns → List Request → Cooldowns
  | c, [] => c
  | c, r :: rs => windowsAfter (arbiter.decide c r).cooldowns rs

theorem answers_append (c : Cooldowns) (rs qs : List Request) :
    arbiter.answers c (rs ++ qs) =
      arbiter.answers c rs ++ arbiter.answers (arbiter.windowsAfter c rs) qs := by
  induction rs generalizing c with
  | nil => rfl
  | cons r rs ih => rw [List.cons_append, answers, ih, answers, windowsAfter, List.cons_append]

theorem windowsAfter_append (c : Cooldowns) (rs qs : List Request) :
    arbiter.windowsAfter c (rs ++ qs) = arbiter.windowsAfter (arbiter.windowsAfter c rs) qs := by
  induction rs generalizing c with
  | nil => rfl
  | cons r rs ih => rw [List.cons_append, windowsAfter, ih, windowsAfter]

def denies (r : Request) : Bool :=
  (arbiter.decide ∅ { r with time := 0 }).verdict.isDenied

theorem isDenied_decide (c : Cooldowns) (r : Request) :
    (arbiter.decide c r).verdict.isDenied = arbiter.denies r := by
  unfold denies
  cases arbiter.decide_course r with
  | allowed ground announced hdecide => rw [hdecide ∅ 0, hdecide c r.time]
  | unlisted message event hdecide => rw [hdecide ∅ 0, hdecide c r.time]
  | banned o event hban hdecide =>
    -- loud or silent, it is a denial at both times
    obtain ⟨_, _, _, hthen⟩ := arbiter.banDenial_verdict { r with time := 0 } ∅ o
    obtain ⟨_, _, _, hnow⟩ := arbiter.banDenial_verdict r c o
    rw [hdecide ∅ 0, hdecide c r.time, hthen, hnow]
    rfl

end Arbiter

end Embargo
