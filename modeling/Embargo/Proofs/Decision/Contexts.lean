import Embargo.Proofs.Decision.Ruling

/-!
This module contains what a decision makes of the facts that a host tells: where nobody lifts a denial,
it is the bans and the whitelist alone that decide, and no fact that is told in addition lifts one.
-/

namespace Embargo

structure Context.Extends (more less : Context) : Prop where
  entity : ∀ e, less.entity = some e → more.entity = some e
  gameMode : ∀ m, less.gameMode = some m → more.gameMode = some m
  inventoryFrom : ∀ i, less.inventoryFrom = some i → more.inventoryFrom = some i
  inventoryTo : ∀ i, less.inventoryTo = some i → more.inventoryTo = some i
  material : ∀ m, less.material = some m → more.material = some m
  regions : ∀ region ∈ less.regions, region ∈ more.regions

namespace Restrictions

theorem allows_of_told {α : Type} [DecidableEq α] {restriction : Option (OrderedSet α)}
    {less more : Option α} (htold : ∀ a, less = some a → more = some a)
    (h : allows restriction less = true) : allows restriction more = true := by
  cases restriction with
  | none => rfl
  | some set =>
    obtain ⟨a, ha, hset⟩ := (Option.any_eq_true _ _).1 h
    exact (Option.any_eq_true _ _).2 ⟨a, htold a ha, hset⟩

theorem allowsRegions_iff {restriction : Option (OrderedSet String)} {regions : List String} :
    allowsRegions restriction regions = true ↔
      ∀ set, restriction = some set → ∃ region ∈ regions, anyRegion ∈ set ∨ region ∈ set := by
  cases restriction with
  | none => simp [allowsRegions]
  | some set =>
    cases regions with
    | nil => simp [allowsRegions]
    | cons region regions =>
      by_cases hany : anyRegion ∈ set
      · simp [allowsRegions, hany]
      · simp [allowsRegions, hany]

theorem allowsRegions_of_told {restriction : Option (OrderedSet String)} {less more : List String}
    (htold : ∀ region ∈ less, region ∈ more) (h : allowsRegions restriction less = true) :
    allowsRegions restriction more = true := by
  rw [allowsRegions_iff] at h ⊢
  intro set hset
  obtain ⟨region, hregion, hallowed⟩ := h set hset
  exact ⟨region, htold region hregion, hallowed⟩

theorem admits_of_extends {rs : Restrictions} {less more : Context} (hmore : more.Extends less)
    (h : rs.admits less = true) : rs.admits more = true := by
  simp only [admits, Bool.and_eq_true] at h ⊢
  obtain ⟨⟨⟨⟨⟨hentity, hgameMode⟩, hfrom⟩, hto⟩, hmaterial⟩, hregions⟩ := h
  refine ⟨⟨⟨⟨⟨?_, ?_⟩, ?_⟩, ?_⟩, ?_⟩, ?_⟩
  · exact allows_of_told hmore.entity hentity
  · exact allows_of_told hmore.gameMode hgameMode
  · exact allows_of_told hmore.inventoryFrom hfrom
  · exact allows_of_told hmore.inventoryTo hto
  · exact allows_of_told hmore.material hmaterial
  · exact allowsRegions_of_told hmore.regions hregions

end Restrictions

namespace Arbiter

variable {arbiter : Arbiter} {r : Request}

/--
Neither a permission of the actor nor a listener lifts a denial of the request.
-/
structure Unopposed (arbiter : Arbiter) (r : Request) : Prop where
  bypass : arbiter.bypasses r = false
  listeners : ∀ options, Listeners.cancelsBan
    { actor := r.actor.id, world := r.world, item := r.item, action := r.action, options }
    arbiter.listeners = false

theorem unopposed_of_no_listeners (hlisteners : arbiter.listeners = [])
    (hbypass : arbiter.bypasses r = false) : arbiter.Unopposed r where
  bypass := hbypass
  listeners options := by
    rw [hlisteners]
    rfl

def Unlisted (arbiter : Arbiter) (r : Request) : Prop :=
  ∃ w, arbiter.book.whitelist? r.world = some w ∧ w.ignores r.action = false
    ∧ (candidates r.item).any (w.allows · r.action) = false

theorem Unopposed.verdict_denyUnless (h : arbiter.Unopposed r) (c : Cooldowns)
    (options : Option Options) (denial : Verdict × Cooldowns) :
    (arbiter.denyUnless c r options denial).verdict = denial.1 := by
  unfold denyUnless
  simp only [h.bypass, h.listeners, Bool.false_eq_true, if_false]

theorem Unopposed.verdict_of_ban (h : arbiter.Unopposed r) (c : Cooldowns) {o : Options}
    (hban : arbiter.ban? r = some o) :
    (arbiter.decide c r).verdict.outcome = .deny
      ∧ (arbiter.decide c r).verdict.ground = .blacklist := by
  have hdecide : arbiter.decide c r =
      arbiter.denyUnless c r (some o) (arbiter.banDenial c r o) := by
    unfold decide
    rw [hban]
  obtain ⟨message, shouldLog, remaining, hdenial⟩ := arbiter.banDenial_verdict r c o
  rw [hdecide, h.verdict_denyUnless, hdenial]
  exact ⟨rfl, rfl⟩

theorem Unopposed.verdict_of_unlisted (h : arbiter.Unopposed r) (c : Cooldowns)
    (hban : arbiter.ban? r = none) (hunlisted : arbiter.Unlisted r) :
    (arbiter.decide c r).verdict.outcome = .deny
      ∧ (arbiter.decide c r).verdict.ground = .whitelist := by
  obtain ⟨w, hlist, hcounts, hallowed⟩ := hunlisted
  unfold decide decideUnbanned
  simp only [hban, hlist, Option.filter, hcounts, Bool.not_false, if_true, hallowed,
    Bool.false_eq_true, if_false, h.verdict_denyUnless, and_self]

theorem verdict_of_listed (c : Cooldowns) (hban : arbiter.ban? r = none)
    (hlisted : ¬ arbiter.Unlisted r) : (arbiter.decide c r).verdict.outcome = .allow := by
  unfold decide decideUnbanned
  rw [hban]
  dsimp only
  split
  · rfl
  · next w hw =>
    obtain ⟨hlist, hcounts⟩ := Option.filter_eq_some_iff.1 hw
    rw [Bool.not_eq_true'] at hcounts
    split
    · rfl
    · next hallowed => exact absurd ⟨w, hlist, hcounts, Bool.eq_false_iff.2 hallowed⟩ hlisted

theorem Unopposed.denied_iff (h : arbiter.Unopposed r) (c : Cooldowns) :
    let v := (arbiter.decide c r).verdict
    (v.outcome = .deny ↔ (arbiter.ban? r).isSome = true ∨ arbiter.Unlisted r)
      ∧ (v.outcome = .deny ∧ v.ground = .blacklist ↔ (arbiter.ban? r).isSome = true) := by
  intro v
  cases hban : arbiter.ban? r with
  | some o =>
    obtain ⟨hdenied, hground⟩ := h.verdict_of_ban c hban
    simp [v, hdenied, hground]
  | none =>
    by_cases hunlisted : arbiter.Unlisted r
    · obtain ⟨hdenied, hground⟩ := h.verdict_of_unlisted c hban hunlisted
      simp [v, hdenied, hground, hunlisted]
    · simp [v, verdict_of_listed c hban hunlisted, hunlisted]

theorem isSome_ban?_of_extends {more : Context} (hmore : more.Extends r.context)
    (h : (arbiter.ban? r).isSome = true) :
    (arbiter.ban? { r with context := more }).isSome = true := by
  unfold ban? at h ⊢
  rw [List.findSome?_isSome_iff] at h ⊢
  obtain ⟨i, hi, hbanned⟩ := h
  refine ⟨i, hi, ?_⟩
  obtain ⟨o, ho⟩ := Option.isSome_iff_exists.1 hbanned
  obtain ⟨hoptions, hadmits⟩ := Option.filter_eq_some_iff.1 ho
  have hstill : o.applies more = true := Restrictions.admits_of_extends hmore hadmits
  exact Option.isSome_iff_exists.2 ⟨o, Option.filter_eq_some_iff.2 ⟨hoptions, hstill⟩⟩

/--
Whatever is told in addition to what a request is denied under, it stays denied, and by a ban if it was a
ban. This is so in all windows and at all times.
-/
theorem denied_of_extends (book : RuleBook) (front : String) (r : Request) (more : Context)
    (c d : Cooldowns) (time : Nat) (hmore : more.Extends r.context) :
    let arbiter : Arbiter := { book, listeners := [], front }
    let before := (arbiter.decide c r).verdict
    let after := (arbiter.decide d { r with context := more, time }).verdict
    arbiter.bypasses r = false → before.outcome = .deny →
      after.outcome = .deny ∧ (before.ground = .blacklist → after.ground = .blacklist) := by
  intro arbiter before after hbypass hdenied
  have hbefore : arbiter.Unopposed r := unopposed_of_no_listeners rfl hbypass
  have hafter : arbiter.Unopposed { r with context := more, time } :=
    unopposed_of_no_listeners rfl hbypass
  obtain ⟨hdeny, hblacklist⟩ := hbefore.denied_iff c
  obtain ⟨hdeny', hblacklist'⟩ := hafter.denied_iff d
  have hban (h : (arbiter.ban? r).isSome = true) :
      (arbiter.ban? { r with context := more, time }).isSome = true :=
    isSome_ban?_of_extends hmore h
  constructor
  · -- the whitelist of the world does not ask for the context
    exact hdeny'.2 ((hdeny.1 hdenied).imp_left hban)
  · intro hground
    exact (hblacklist'.2 (hban (hblacklist.1 ⟨hdenied, hground⟩))).2

theorem denied_of_extends_region :
    let world : World := ⟨"world"⟩
    let stone : Identity := .plain ⟨"stone"⟩
    let relic := stone.withPredicate (.displayNameEquals "Relic")
    let spawn : Restrictions := { regions := some (.ofList ["spawn"]) }
    let bans : Bans :=
      .ofList [⟨stone, .place, { log := some true }⟩,
        ⟨relic, .place, { restrictions := spawn }⟩]
    let book : RuleBook := { (default : RuleBook) with blacklist := .ofList [(world, bans)] }
    let arbiter : Arbiter := { book, listeners := [], front := "front" }
    let less : Context := { material := some ⟨"dirt"⟩, regions := ["arena"] }
    let more : Context := { less with entity := some ⟨"pig"⟩, regions := ["spawn", "arena"] }
    let r : Request :=
      { actor := { id := 1, permissions := ["other"] }, world, item := relic, action := .place,
        context := less, time := 0 }
    let before := (arbiter.decide ∅ r).verdict
    let after := (arbiter.decide ∅ { r with context := more, time := 5 }).verdict
    more.Extends less ∧ arbiter.bypasses r = false
      ∧ before.outcome = .deny ∧ before.shouldLog = true
      ∧ after.outcome = .deny ∧ after.ground = .blacklist ∧ after.shouldLog = false := by
  intro world stone relic spawn bans book arbiter less more r before after
  have hmore : more.Extends less :=
    { entity := nofun, gameMode := nofun, inventoryFrom := nofun, inventoryTo := nofun
      material := fun _ h => h
      regions := fun _ h => List.mem_cons_of_mem _ h }
  have hbypass : arbiter.bypasses r = false := by decide
  have hdenied : before.outcome = .deny := rfl
  obtain ⟨hstill, hground⟩ :=
    denied_of_extends book "front" r more ∅ ∅ 5 hmore hbypass hdenied
  exact ⟨hmore, hbypass, hdenied, rfl, hstill, hground rfl, rfl⟩

end Arbiter

end Embargo
