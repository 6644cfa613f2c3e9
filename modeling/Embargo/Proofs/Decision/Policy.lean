import Embargo.Decision.Arbiter

/-!
This module contains the policy that decisions follow, in which the first conclusive rule wins and the
bypass comes first, and the proof that an arbiter agrees with it although it asks for the bypass last.
-/

namespace Embargo

namespace Policy

variable (arbiter : Arbiter) (r : Request)

def exemptions (front world item : String) (a : Action) : List String :=
  let scope := front ++ "." ++ world ++ "." ++ item
  [scope, scope ++ "." ++ a.name]

/--
Whether the actor holds a node for the world or all worlds, for the item or all items and for the
action or all actions.
-/
def Exempt : Prop :=
  ∃ world ∈ [r.world.name, "*"], ∃ item ∈ [arbiter.book.itemName r.item, "*"],
    ∃ node ∈ exemptions arbiter.front world item r.action, node ∈ r.actor.permissions

instance : Decidable (Exempt arbiter r) :=
  inferInstanceAs (Decidable (∃ world ∈ [r.world.name, "*"],
    ∃ item ∈ [arbiter.book.itemName r.item, "*"],
      ∃ node ∈ exemptions arbiter.front world item r.action, node ∈ r.actor.permissions))

def candidates : List Identity :=
  r.item :: if r.item.hasPredicates then [.plain r.item.material] else []

def firstBan : List Identity → Option Options
  | [] => none
  | i :: is =>
    match arbiter.book.options? r.world i r.action with
    | some o => if o.applies r.context then some o else firstBan is
    | none => firstBan is

/--
What is left of the window that the last trigger for the actor and the item opened.
-/
def openWindow (cooldowns : Cooldowns) (o : Options) : Option Nat := do
  let length ← o.cooldown
  let triggered ← cooldowns.last? r.actor.id r.item
  let elapsed := r.time - triggered
  if elapsed < length then some (length - elapsed) else none

def allow (ground : Ground) (cooldowns : Cooldowns) : Ruling :=
  { verdict := { outcome := .allow, ground }, cooldowns }

def announce (options : Option Options) (cooldowns : Cooldowns) (denial : Ruling) : Ruling :=
  let event : BanEvent :=
    { actor := r.actor.id, world := r.world, item := r.item, action := r.action, options }
  if Listeners.cancelsBan event arbiter.listeners then
    { allow .listener cooldowns with announced := some event }
  else
    { denial with announced := some event }

def fill (template : String) (time : Option Nat) : String :=
  Message.fill template (arbiter.book.itemName r.item) r.action r.world time

def denyBanned (cooldowns : Cooldowns) (o : Options) : Ruling :=
  match openWindow r cooldowns o with
  | some left =>
    { verdict := { outcome := .deny, ground := .blacklist, remaining := some left }, cooldowns }
  | none =>
    { verdict :=
        { outcome := .deny
          ground := .blacklist
          message := o.message?.map (fill arbiter r · o.cooldown)
          shouldLog := o.shouldLog }
      cooldowns :=
        if o.cooldown.isSome then cooldowns.start r.actor.id r.item r.time else cooldowns }

def denyUnlisted (cooldowns : Cooldowns) (w : Whitelist) : Ruling :=
  { verdict :=
      { outcome := .deny, ground := .whitelist, message := w.message.map (fill arbiter r · none) }
    cooldowns }

def followWhitelist (cooldowns : Cooldowns) : Ruling :=
  match arbiter.book.whitelist? r.world with
  | none => allow .default cooldowns
  | some w =>
    if w.ignores r.action then
      allow .default cooldowns
    else if ∃ i ∈ candidates r, w.allows i r.action then
      allow .whitelist cooldowns
    else
      announce arbiter r none cooldowns (denyUnlisted arbiter r cooldowns w)

/--
The ruling of the policy. Of its rules the first one that is conclusive counts.
-/
def decide (cooldowns : Cooldowns) : Ruling :=
  if Exempt arbiter r then
    allow .bypass cooldowns
  else
    match firstBan arbiter r (candidates r) with
    | some o => announce arbiter r (some o) cooldowns (denyBanned arbiter r cooldowns o)
    | none => followWhitelist arbiter r cooldowns

end Policy

/--
A ruling agrees with that of the policy in all but the ground, and in that unless the bypass, which the
policy asks for first, would have lifted nothing.
-/
structure Ruling.Agrees (arbiter : Arbiter) (ruling policy : Ruling) : Prop where
  outcome : ruling.verdict.outcome = policy.verdict.outcome
  message : ruling.verdict.message = policy.verdict.message
  shouldLog : ruling.verdict.shouldLog = policy.verdict.shouldLog
  remaining : ruling.verdict.remaining = policy.verdict.remaining
  cooldowns : ruling.cooldowns = policy.cooldowns
  announced : ruling.announced = policy.announced
  notices : arbiter.notices ruling = arbiter.notices policy
  ground : ruling.verdict.ground = policy.verdict.ground
    ∨ policy.verdict.ground = .bypass
      ∧ (ruling.verdict.ground = .whitelist ∨ ruling.verdict.ground = .default)

namespace Arbiter

variable (arbiter : Arbiter) (r : Request)

theorem mem_nodes {front : String} {w : World} {name : String} {a : Action} {node : String} :
    node ∈ Bypass.nodes front w name a ↔
      ∃ world ∈ [w.name, "*"], ∃ item ∈ [name, "*"],
        node ∈ Policy.exemptions front world item a := by
  unfold Bypass.nodes Bypass.scopeNode Policy.exemptions
  simp only [List.mem_flatMap]
  have hswap (x y : String) : node ∈ [x, y] ↔ node ∈ [y, x] := by
    simp only [List.mem_cons, List.not_mem_nil, or_false]
    exact or_comm
  constructor
  · rintro ⟨world, hworld, item, hitem, hnode⟩
    exact ⟨world, hworld, item, hitem, (hswap _ _).1 hnode⟩
  · rintro ⟨world, hworld, item, hitem, hnode⟩
    exact ⟨world, hworld, item, hitem, (hswap _ _).1 hnode⟩

theorem bypasses_iff_exempt : arbiter.bypasses r = true ↔ Policy.Exempt arbiter r := by
  unfold bypasses Bypass.holds Policy.Exempt Actor.holdsNode itemName
  rw [List.any_eq_true]
  constructor
  · rintro ⟨node, hnode, hheld⟩
    obtain ⟨w, hw, i, hi, hform⟩ := mem_nodes.1 hnode
    exact ⟨w, hw, i, hi, node, hform, List.contains_iff_mem.1 hheld⟩
  · rintro ⟨w, hw, i, hi, node, hform, hheld⟩
    exact ⟨node, mem_nodes.2 ⟨w, hw, i, hi, hform⟩, List.contains_iff_mem.2 hheld⟩

theorem findSome?_eq_firstBan (is : List Identity) :
    is.findSome? (fun i =>
      (arbiter.book.options? r.world i r.action).filter (·.applies r.context)) =
      Policy.firstBan arbiter r is := by
  induction is with
  | nil => rfl
  | cons i is ih =>
    rw [List.findSome?_cons, Policy.firstBan, ih]
    cases arbiter.book.options? r.world i r.action with
    | none => rfl
    | some o => by_cases h : o.applies r.context = true <;> simp [Option.filter, h]

theorem candidates_eq : candidates r.item = Policy.candidates r := by
  unfold candidates Policy.candidates
  split <;> rfl

theorem ban?_eq_firstBan :
    arbiter.ban? r = Policy.firstBan arbiter r (Policy.candidates r) := by
  rw [ban?, findSome?_eq_firstBan, candidates_eq]

theorem banDenial_eq_denyBanned (cooldowns : Cooldowns) (o : Options) :
    arbiter.banDenial cooldowns r o =
      ((Policy.denyBanned arbiter r cooldowns o).verdict,
        (Policy.denyBanned arbiter r cooldowns o).cooldowns) := by
  unfold banDenial Policy.denyBanned Policy.openWindow Cooldowns.check
  cases hcooldown : o.cooldown with
  | none => simp [loudDenial, Policy.fill, fill, itemName, hcooldown]
  | some length =>
    cases hlast : cooldowns.last? r.actor.id r.item with
    | none => simp [loudDenial, Policy.fill, fill, itemName, hcooldown]
    | some triggered =>
      by_cases hopen : r.time - triggered < length
      · simp [hopen]
      · simp [hopen, loudDenial, Policy.fill, fill, itemName, hcooldown]

theorem denyUnless_of_not_exempt {options : Option Options} {cooldowns : Cooldowns}
    {denial : Verdict × Cooldowns} (h : ¬ Policy.Exempt arbiter r) :
    arbiter.denyUnless cooldowns r options denial =
      Policy.announce arbiter r options cooldowns
        { verdict := denial.1, cooldowns := denial.2 } := by
  have hbypass : ¬ arbiter.bypasses r = true := fun hb => h ((bypasses_iff_exempt arbiter r).1 hb)
  unfold denyUnless Policy.announce
  rw [if_neg hbypass]
  rfl

theorem denyUnless_of_exempt {options : Option Options} {cooldowns : Cooldowns}
    {denial : Verdict × Cooldowns} (h : Policy.Exempt arbiter r) :
    arbiter.denyUnless cooldowns r options denial = Policy.allow .bypass cooldowns := by
  unfold denyUnless Policy.allow
  rw [if_pos ((bypasses_iff_exempt arbiter r).2 h)]

theorem any_allows_iff {w : Whitelist} :
    (candidates r.item).any (w.allows · r.action) = true ↔
      ∃ i ∈ Policy.candidates r, w.allows i r.action := by
  rw [candidates_eq, List.any_eq_true]

theorem decide_of_exempt (cooldowns : Cooldowns) (h : Policy.Exempt arbiter r) :
    ∃ ground, arbiter.decide cooldowns r = Policy.allow ground cooldowns
      ∧ (ground = .bypass ∨ ground = .whitelist ∨ ground = .default) := by
  unfold decide
  split
  · -- the bypass is asked for only where a rule would deny
    exact ⟨.bypass, arbiter.denyUnless_of_exempt r h, .inl rfl⟩
  · unfold decideUnbanned
    split
    · exact ⟨.default, rfl, .inr (.inr rfl)⟩
    · split
      · exact ⟨.whitelist, rfl, .inr (.inl rfl)⟩
      · exact ⟨.bypass, arbiter.denyUnless_of_exempt r h, .inl rfl⟩

theorem decideUnbanned_of_not_exempt (cooldowns : Cooldowns) (h : ¬ Policy.Exempt arbiter r) :
    arbiter.decideUnbanned cooldowns r = Policy.followWhitelist arbiter r cooldowns := by
  unfold decideUnbanned Policy.followWhitelist
  cases arbiter.book.whitelist? r.world with
  | none => rfl
  | some w =>
    by_cases hignored : w.ignores r.action = true
    · simp only [Option.filter, hignored, Bool.not_true, Bool.false_eq_true, if_false, if_true]
      rfl
    · simp only [Option.filter, hignored, Bool.not_false, if_true, Bool.false_eq_true, if_false]
      by_cases hallowed : ∃ i ∈ Policy.candidates r, w.allows i r.action
      · rw [if_pos ((any_allows_iff r).2 hallowed), if_pos hallowed]
        rfl
      · rw [if_neg fun hany => hallowed ((any_allows_iff r).1 hany), if_neg hallowed]
        apply denyUnless_of_not_exempt arbiter r h

theorem decide_of_not_exempt (cooldowns : Cooldowns) (h : ¬ Policy.Exempt arbiter r) :
    arbiter.decide cooldowns r = Policy.decide arbiter r cooldowns := by
  unfold decide Policy.decide
  rw [if_neg h, ban?_eq_firstBan]
  cases Policy.firstBan arbiter r (Policy.candidates r) with
  | none => exact decideUnbanned_of_not_exempt arbiter r cooldowns h
  | some o =>
    simp only [denyUnless_of_not_exempt arbiter r h, banDenial_eq_denyBanned]
    rfl

/--
An arbiter agrees with the policy that asks for the bypass first.
-/
theorem decide_agrees (cooldowns : Cooldowns) :
    (arbiter.decide cooldowns r).Agrees arbiter (Policy.decide arbiter r cooldowns) := by
  by_cases h : Policy.Exempt arbiter r
  · obtain ⟨ground, hdecide, hground⟩ := decide_of_exempt arbiter r cooldowns h
    have hpolicy : Policy.decide arbiter r cooldowns = Policy.allow .bypass cooldowns := if_pos h
    rw [hdecide, hpolicy]
    refine ⟨rfl, rfl, rfl, rfl, rfl, rfl, rfl, ?_⟩
    exact hground.imp_right fun hother => ⟨rfl, hother⟩
  · rw [decide_of_not_exempt arbiter r cooldowns h]
    exact ⟨rfl, rfl, rfl, rfl, rfl, rfl, rfl, .inl rfl⟩

end Arbiter

end Embargo
