import Embargo.Decision.Arbiter
import Embargo.Proofs.Decision.Windows

/-!
This module contains the courses that a decision can take. Which one it takes depends neither on the
windows nor on the clock, and only the denial of a ban asks for them.
-/

namespace Embargo

namespace Arbiter

variable (arbiter : Arbiter) (r : Request)

/--
A course together with the rulings that it leads to for all windows `c` and times `t`.
-/
inductive Course : Prop where
  | allowed (ground : Ground) (announced : Option BanEvent)
      (hdecide : ∀ c t, arbiter.decide c { r with time := t } =
        { verdict := { outcome := .allow, ground }, cooldowns := c, announced })
  | unlisted (message : Option String) (event : BanEvent)
      (hdecide : ∀ c t, arbiter.decide c { r with time := t } =
        { verdict := { outcome := .deny, ground := .whitelist, message }, cooldowns := c,
          announced := some event })
  | banned (o : Options) (event : BanEvent) (hban : arbiter.ban? r = some o)
      (hdecide : ∀ c t, arbiter.decide c { r with time := t } =
        { verdict := (arbiter.banDenial c { r with time := t } o).1,
          cooldowns := (arbiter.banDenial c { r with time := t } o).2,
          announced := some event })

theorem denyUnless_cases (options : Option Options) :
    (∃ ground announced, ∀ c t denial,
      arbiter.denyUnless c { r with time := t } options denial =
        { verdict := { outcome := .allow, ground }, cooldowns := c, announced })
    ∨ ∃ event, ∀ c t denial,
      arbiter.denyUnless c { r with time := t } options denial =
        { verdict := denial.1, cooldowns := denial.2, announced := some event } := by
  let event : BanEvent :=
    { actor := r.actor.id, world := r.world, item := r.item, action := r.action, options }
  by_cases hbypass : arbiter.bypasses r = true
  · left
    refine ⟨.bypass, none, ?_⟩
    intro c t denial
    unfold denyUnless
    exact if_pos hbypass
  · by_cases hcancelled : Listeners.cancelsBan event arbiter.listeners = true
    · left
      refine ⟨.listener, some event, ?_⟩
      intro c t denial
      unfold denyUnless
      exact (if_neg hbypass).trans (if_pos hcancelled)
    · right
      refine ⟨event, ?_⟩
      intro c t denial
      unfold denyUnless
      exact (if_neg hbypass).trans (if_neg hcancelled)

theorem course_decideUnbanned (hban : arbiter.ban? r = none) : arbiter.Course r := by
  -- neither the bans nor the whitelist depend on the time of the request
  have hdecide (c : Cooldowns) (t : Nat) :
      arbiter.decide c { r with time := t } = arbiter.decideUnbanned c { r with time := t } := by
    have hban' : arbiter.ban? { r with time := t } = none := hban
    unfold decide
    rw [hban']
  cases hlist : (arbiter.book.whitelist? r.world).filter fun w => !w.ignores r.action with
  | none =>
    apply Course.allowed .default none
    intro c t
    rw [hdecide]
    unfold decideUnbanned
    simp only [hlist]
  | some w =>
    by_cases hallowed : (candidates r.item).any (w.allows · r.action) = true
    · apply Course.allowed .whitelist none
      intro c t
      rw [hdecide]
      unfold decideUnbanned
      simp only [hlist]
      exact if_pos hallowed
    · have hunlisted (c : Cooldowns) (t : Nat) :
          arbiter.decideUnbanned c { r with time := t } =
            arbiter.denyUnless c { r with time := t } none
              ({ outcome := .deny, ground := .whitelist,
                 message := w.message.map (arbiter.fill r · none) }, c) := by
        unfold decideUnbanned
        simp only [hlist]
        exact if_neg hallowed
      rcases arbiter.denyUnless_cases r none with ⟨ground, announced, h⟩ | ⟨event, h⟩
      · apply Course.allowed ground announced
        intro c t
        rw [hdecide, hunlisted, h]
      · apply Course.unlisted (w.message.map (arbiter.fill r · none)) event
        intro c t
        rw [hdecide, hunlisted, h]

theorem decide_course : arbiter.Course r := by
  cases hban : arbiter.ban? r with
  | none => exact arbiter.course_decideUnbanned r hban
  | some o =>
    have hdecide (c : Cooldowns) (t : Nat) :
        arbiter.decide c { r with time := t } =
          arbiter.denyUnless c { r with time := t } (some o)
            (arbiter.banDenial c { r with time := t } o) := by
      have hban' : arbiter.ban? { r with time := t } = some o := hban
      unfold decide
      rw [hban']
    rcases arbiter.denyUnless_cases r (some o) with ⟨ground, announced, h⟩ | ⟨event, h⟩
    · apply Course.allowed ground announced
      intro c t
      rw [hdecide, h]
    · apply Course.banned o event hban
      intro c t
      rw [hdecide, h]

theorem cooldown_le_longest {o : Options} {length : Nat} (hban : arbiter.ban? r = some o)
    (hcooldown : o.cooldown = some length) : length ≤ arbiter.book.longestCooldown?.getD 0 := by
  unfold ban? at hban
  obtain ⟨i, -, hfound⟩ := List.exists_of_findSome?_eq_some hban
  rw [Option.filter_eq_some_iff] at hfound
  exact RuleBook.le_longestCooldown hfound.1 hcooldown

def checkedDenial (o : Options) : CooldownCheck → Verdict
  | .active remaining => { outcome := .deny, ground := .blacklist, remaining := some remaining }
  | .triggered => arbiter.loudDenial r o

theorem banDenial_of_none {o : Options} (hcooldown : o.cooldown = none) (c : Cooldowns) :
    arbiter.banDenial c r o = (arbiter.loudDenial r o, c) := by
  unfold banDenial
  rw [hcooldown]

theorem banDenial_of_some {o : Options} {length : Nat} (hcooldown : o.cooldown = some length)
    (c : Cooldowns) :
    arbiter.banDenial c r o =
      (arbiter.checkedDenial r o (c.check r.actor.id r.item length r.time).1,
        (c.check r.actor.id r.item length r.time).2) := by
  unfold banDenial
  simp only [hcooldown]
  split
  · next hcheck =>
    rw [hcheck]
    rfl
  · next hcheck =>
    rw [hcheck]
    rfl

theorem banDenial_pruned {o : Options} {age : Nat} {full pruned : Cooldowns}
    (hage : ∀ length, o.cooldown = some length → length ≤ age)
    (h : Cooldowns.Pruned age r.time full pruned) :
    (arbiter.banDenial pruned r o).1 = (arbiter.banDenial full r o).1
      ∧ Cooldowns.Pruned age r.time (arbiter.banDenial full r o).2
          (arbiter.banDenial pruned r o).2 := by
  cases hcooldown : o.cooldown with
  | none =>
    rw [arbiter.banDenial_of_none r hcooldown, arbiter.banDenial_of_none r hcooldown]
    exact ⟨rfl, h⟩
  | some length =>
    obtain ⟨hcheck, hafter⟩ := h.check r.actor.id r.item (hage length hcooldown)
    rw [arbiter.banDenial_of_some r hcooldown, arbiter.banDenial_of_some r hcooldown, hcheck]
    exact ⟨rfl, hafter⟩

theorem decide_pruned {full pruned : Cooldowns}
    (h : Cooldowns.Pruned (arbiter.book.longestCooldown?.getD 0) r.time full pruned) :
    (arbiter.decide pruned r).verdict = (arbiter.decide full r).verdict
      ∧ (arbiter.decide pruned r).announced = (arbiter.decide full r).announced
      ∧ Cooldowns.Pruned (arbiter.book.longestCooldown?.getD 0) r.time
          (arbiter.decide full r).cooldowns (arbiter.decide pruned r).cooldowns := by
  cases arbiter.decide_course r with
  | allowed ground announced hdecide =>
    have hnow (c : Cooldowns) := hdecide c r.time
    rw [hnow, hnow]
    exact ⟨rfl, rfl, h⟩
  | unlisted message event hdecide =>
    have hnow (c : Cooldowns) := hdecide c r.time
    rw [hnow, hnow]
    exact ⟨rfl, rfl, h⟩
  | banned o event hban hdecide =>
    have hnow (c : Cooldowns) := hdecide c r.time
    obtain ⟨hverdict, hafter⟩ :=
      arbiter.banDenial_pruned r (fun _ => arbiter.cooldown_le_longest r hban) h
    rw [hnow, hnow]
    exact ⟨hverdict, rfl, hafter⟩

theorem banDenial_verdict (c : Cooldowns) (o : Options) :
    ∃ message shouldLog remaining, (arbiter.banDenial c r o).1 =
      { outcome := .deny, ground := .blacklist, message, shouldLog, remaining } := by
  cases hcooldown : o.cooldown with
  | none =>
    rw [arbiter.banDenial_of_none r hcooldown]
    exact ⟨_, _, none, rfl⟩
  | some length =>
    rw [arbiter.banDenial_of_some r hcooldown]
    cases (c.check r.actor.id r.item length r.time).1 with
    | triggered => exact ⟨_, _, none, rfl⟩
    | active remaining => exact ⟨none, false, some remaining, rfl⟩

/--
Neither the windows nor the clock lift a denial or cause one: what they can change is the message, the
log flag and the time that is left, and that only if the ban which decides has a cooldown.
-/
theorem decide_blind (c c' : Cooldowns) (t t' : Nat) :
    let ruling := arbiter.decide c { r with time := t }
    let other := arbiter.decide c' { r with time := t' }
    other.verdict.outcome = ruling.verdict.outcome
      ∧ other.verdict.ground = ruling.verdict.ground
      ∧ other.announced = ruling.announced
      ∧ arbiter.notices other = arbiter.notices ruling
      ∧ (∃ message shouldLog remaining,
          other.verdict = { ruling.verdict with message, shouldLog, remaining })
      ∧ ((∀ o, arbiter.ban? r = some o → o.cooldown = none) → other.verdict = ruling.verdict) := by
  intro ruling other
  cases arbiter.decide_course r with
  | allowed ground announced hdecide =>
    have hruling : ruling = _ := hdecide c t
    have hother : other = _ := hdecide c' t'
    rw [hruling, hother]
    exact ⟨rfl, rfl, rfl, rfl, ⟨none, false, none, rfl⟩, fun _ => rfl⟩
  | unlisted message event hdecide =>
    have hruling : ruling = _ := hdecide c t
    have hother : other = _ := hdecide c' t'
    rw [hruling, hother]
    exact ⟨rfl, rfl, rfl, rfl, ⟨message, false, none, rfl⟩, fun _ => rfl⟩
  | banned o event hban hdecide =>
    have hruling : ruling = _ := hdecide c t
    have hother : other = _ := hdecide c' t'
    obtain ⟨_, _, _, hverdict⟩ := arbiter.banDenial_verdict { r with time := t } c o
    obtain ⟨message, shouldLog, remaining, hverdict'⟩ :=
      arbiter.banDenial_verdict { r with time := t' } c' o
    rw [hruling, hother]
    refine ⟨?_, ?_, rfl, rfl, ⟨message, shouldLog, remaining, ?_⟩, ?_⟩
    · rw [hverdict, hverdict']
    · rw [hverdict, hverdict']
    · rw [hverdict, hverdict']
    · intro hnone
      rw [banDenial_of_none _ _ (hnone o hban), banDenial_of_none _ _ (hnone o hban)]
      rfl

theorem decide_blind_loud :
    let world : World := ⟨"world"⟩
    let stone : Identity := .plain ⟨"stone"⟩
    let bans : Bans :=
      .ofList [⟨stone, .place, { messages := ["no"], log := some true }⟩,
        ⟨stone, .breakBlock, { messages := ["no"], cooldown := some 10 }⟩]
    let book : RuleBook := { (default : RuleBook) with blacklist := .ofList [(world, bans)] }
    let arbiter : Arbiter := { (default : Arbiter) with book, listeners := [{ name := "ear" }] }
    let r (action : Action) : Request :=
      { actor := default, world, item := stone, action, time := 0 }
    let window := (arbiter.decide ∅ (r .breakBlock)).cooldowns
    (∀ o, arbiter.ban? (r .place) = some o → o.cooldown = none)
      ∧ (arbiter.decide window { r .place with time := 7 }).verdict =
          (arbiter.decide ∅ { r .place with time := 0 }).verdict
      ∧ (arbiter.decide window { r .breakBlock with time := 7 }).verdict.remaining = some 3 := by
  intro world stone bans book arbiter r window
  have hban : arbiter.ban? (r .place) = some { messages := ["no"], log := some true } := rfl
  have hnone (o : Options) (ho : arbiter.ban? (r .place) = some o) : o.cooldown = none := by
    rw [hban] at ho
    cases ho
    rfl
  obtain ⟨-, -, -, -, -, hverdict⟩ := arbiter.decide_blind (r .place) ∅ window 0 7
  exact ⟨hnone, hverdict hnone, rfl⟩

end Arbiter

end Embargo
