import Embargo.Proofs.Decision.Contexts
import Embargo.Proofs.Expression.DataTokens
import Embargo.Proofs.Expression.Selection
import Embargo.Proofs.Item.Recognition
import Embargo.Proofs.Rule.Compilation

/-!
This module contains what a ban denies that is the only rule: the requests that its text is about, and
under the legacy model those about the stacks of a material with a data value.
-/

namespace Embargo

open Yaml (Value)

/--
A ban as it is written: what is said about an item expression in the worlds of another one.
-/
structure LoneBan where
  world : String
  item : String
  value : Value

namespace LoneBan

variable (ban : LoneBan) (scope : Scope)

def source : RuleSource where
  blacklist := .ofList [(ban.world, .mapping [(.text ban.item, ban.value)])]

def path : Path :=
  ((Path.root.push "blacklist").push ban.world).push ban.item

def options? (a : Action) : Option Options :=
  Options.layer none
    (((Compile.readActions scope ban.path ban.value).filter fun q => a ∈ q.actions).map
      ActionRule.options)

def Counts (r : Request) : Prop :=
  r.world ∈ (scope.keys .world).denoted (.text ban.world)
    ∧ ∃ o, ban.options? scope r.action = some o ∧ o.applies r.context = true

def Includes (i : Identity) : Prop :=
  ∃ j ∈ Arbiter.candidates i, j ∈ scope.items.denoted (.text ban.item)

instance (i : Identity) : Decidable (ban.Includes scope i) :=
  inferInstanceAs (Decidable (∃ j ∈ Arbiter.candidates i, j ∈ scope.items.denoted (.text ban.item)))

def arbiter (trail : Trail) (front : String) : Arbiter where
  book := ban.source.bookAfter scope trail
  listeners := []
  front := front

theorem readSections_source : Compile.readSections scope ban.source =
    [{ worlds := (scope.keys .world).denoted (.text ban.world)
       items := [⟨scope.items.denoted (.text ban.item), Compile.readActions scope ban.path ban.value⟩] }] := by
  rw [← Domain.value_evaluate, ← Domain.value_evaluate]
  rfl

theorem options?_bookAfter (trail : Trail) (w : World) (i : Identity) (a : Action) :
    (ban.source.bookAfter scope trail).options? w i a =
      if w ∈ (scope.keys .world).denoted (.text ban.world) ∧ i ∈ scope.items.denoted (.text ban.item) then
        ban.options? scope a
      else
        none := by
  have hnone : Compile.options? ∅ w i a = none := rfl
  rw [RuleSource.options?_bookAfter, (Compile.compiles_blacklist scope ban.source).options?, hnone,
    readSections_source, List.flatMap_singleton]
  by_cases hw : w ∈ (scope.keys .world).denoted (.text ban.world)
  · rw [SectionRule.contributions, List.flatMap_singleton, Compile.optionsFor_block hw]
    by_cases hi : i ∈ scope.items.denoted (.text ban.item)
    · rw [if_pos hi, if_pos ⟨hw, hi⟩]
      rfl
    · rw [if_neg hi, if_neg fun h => hi h.2, Options.layer_nil]
  · rw [Compile.optionsFor_of_not_mem hw, Options.layer_nil, if_neg fun h => hw h.1]

variable {ban scope} {trail : Trail} {front : String} {r : Request}

theorem counts_iff_of_expression {e : Expression} (h : Expression.ofValue? ban.value = some e) :
    ban.Counts scope r ↔
      r.world ∈ (scope.keys .world).denoted (.text ban.world) ∧ r.action ∈ scope.actions.denoted e := by
  have hread : Compile.readActions scope ban.path ban.value = [⟨scope.actions.denoted e, {}⟩] := by
    unfold Compile.readActions
    rw [h]
    dsimp only
    rw [Domain.value_evaluate]
  have hoptions : ban.options? scope r.action =
      if r.action ∈ scope.actions.denoted e then some {} else none := by
    unfold options?
    rw [hread]
    by_cases ha : r.action ∈ scope.actions.denoted e
    · rw [if_pos ha, List.filter_cons_of_pos (by simpa using ha)]
      rfl
    · rw [if_neg ha, List.filter_cons_of_neg (by simpa using ha)]
      rfl
  unfold Counts
  rw [hoptions]
  by_cases ha : r.action ∈ scope.actions.denoted e
  · rw [if_pos ha]
    exact and_congr_right fun _ => iff_of_true ⟨{}, rfl, rfl⟩ ha
  · rw [if_neg ha]
    refine and_congr_right fun _ => iff_of_false ?_ ha
    rintro ⟨o, hnone, -⟩
    cases hnone

theorem isSome_ban?_iff : ((ban.arbiter scope trail front).ban? r).isSome = true ↔
    ban.Counts scope r ∧ ban.Includes scope r.item := by
  have hbook : (ban.arbiter scope trail front).book = ban.source.bookAfter scope trail := rfl
  unfold Arbiter.ban? Counts Includes
  rw [List.findSome?_isSome_iff, hbook]
  constructor
  · rintro ⟨i, hi, hbanned⟩
    obtain ⟨o, ho⟩ := Option.isSome_iff_exists.1 hbanned
    obtain ⟨hoptions, happlies⟩ := Option.filter_eq_some_iff.1 ho
    rw [options?_bookAfter] at hoptions
    split at hoptions
    · next h => exact ⟨⟨h.1, o, hoptions, happlies⟩, i, hi, h.2⟩
    · cases hoptions
  · rintro ⟨⟨hw, o, hoptions, happlies⟩, i, hi, hitem⟩
    refine ⟨i, hi, ?_⟩
    rw [options?_bookAfter, if_pos ⟨hw, hitem⟩, hoptions, Option.isSome_iff_exists]
    exact ⟨o, Option.filter_eq_some_iff.2 ⟨rfl, happlies⟩⟩

theorem not_unlisted : ¬ (ban.arbiter scope trail front).Unlisted r := by
  rintro ⟨w, hw, -⟩
  have hnone : (ban.arbiter scope trail front).book.whitelist? r.world = none := by
    change Table.get? (ban.source.bookAfter scope trail).whitelists r.world = none
    rw [RuleSource.whitelists_bookAfter]
    rfl
  rw [hnone] at hw
  cases hw

end LoneBan

theorem Arbiter.mem_candidates_iff {i j : Identity} :
    j ∈ candidates i ↔ j = i ∨ j = .plain i.material := by
  unfold candidates
  cases hpredicates : i.hasPredicates with
  | true => simp
  | false => rw [← Identity.eq_plain_of_not_hasPredicates hpredicates]; simp

namespace Identity

theorem withPredicate_durability_ne_plain (m n : Material) (d : UInt32) :
    (plain m).withPredicate (.durability d) ≠ plain n := by
  intro h
  have hdamage := congrArg (fun i : Identity => i.predicates.durability) h
  cases hdamage

theorem ofStack_legacy_eq_iff {s : Stack} {m : Material} {d : UInt32} :
    ofStack s true = (plain m).withPredicate (.durability d) ↔ s.material = m ∧ s.damage = d := by
  constructor
  · intro h
    have hdamage := congrArg (fun i : Identity => i.predicates.durability) h
    exact ⟨congrArg material h, Option.some.inj hdamage⟩
  · rintro ⟨rfl, rfl⟩
    rfl

end Identity

namespace LoneBan

section Stacks

variable (ban : LoneBan) (scope : Scope) (s : Stack)

def identify : Identity :=
  (ban.source.bookAfter scope []).identify s

def ask (r : Request) : Request :=
  { r with item := ban.identify scope s }

/--
If it is the only rule, the ban denies the requests for a stack that it counts for and that may not be
bypassed, and no others.
-/
def Reaches : Prop :=
  ∀ trail front r c, (ban.arbiter scope trail front).bypasses (ban.ask scope s r) = false →
    (((ban.arbiter scope trail front).decide c (ban.ask scope s r)).verdict.outcome = .deny ↔
      ban.Counts scope r)

def Spares : Prop :=
  ∀ trail front r c,
    ((ban.arbiter scope trail front).decide c (ban.ask scope s r)).verdict.outcome = .allow

end Stacks

variable {ban : LoneBan} {scope : Scope} {s : Stack} {r : Request}

theorem item_ask : (ban.ask scope s r).item = ban.identify scope s := by
  unfold ask
  rfl

theorem counts_ask : ban.Counts scope (ban.ask scope s r) ↔ ban.Counts scope r := by
  unfold Counts ask
  exact .rfl

theorem reaches_of_includes (h : ban.Includes scope (ban.identify scope s)) :
    ban.Reaches scope s := by
  intro trail front r c hbypass
  obtain ⟨hdenied, -⟩ := (Arbiter.unopposed_of_no_listeners rfl hbypass).denied_iff c
  rw [hdenied, or_iff_left not_unlisted, isSome_ban?_iff, item_ask, counts_ask]
  exact and_iff_left h

theorem spares_of_not_includes (h : ¬ ban.Includes scope (ban.identify scope s)) :
    ban.Spares scope s := by
  intro trail front r c
  have hban : (ban.arbiter scope trail front).ban? (ban.ask scope s r) = none := by
    rw [← Option.not_isSome_iff_eq_none, isSome_ban?_iff, item_ask]
    exact fun hbanned => h hbanned.2
  exact Arbiter.verdict_of_listed c hban not_unlisted

theorem includes_of_reaches (h : ban.Reaches scope s) {front : String} (hcounts : ban.Counts scope r)
    (hbypass : (ban.arbiter scope [] front).bypasses (ban.ask scope s r) = false) :
    ban.Includes scope (ban.identify scope s) := by
  by_contra hnot
  have hdenied := (h [] front r ∅ hbypass).2 hcounts
  rw [spares_of_not_includes hnot [] front r ∅] at hdenied
  cases hdenied

theorem includes_iff_of_denoted {i j : Identity}
    (h : scope.items.denoted (.text ban.item) = .ofList [j]) :
    ban.Includes scope i ↔ j ∈ Arbiter.candidates i := by
  unfold Includes
  rw [h]
  simp only [OrderedSet.mem_ofList, List.mem_singleton, exists_eq_right]

theorem plain_mem_candidates_identify {m : Material} :
    .plain m ∈ Arbiter.candidates (ban.identify scope s) ↔ s.material = m := by
  have hmaterial : (ban.identify scope s).material = s.material :=
    Identity.material_of_holds (RuleBook.holds_identify _ s)
  rw [Arbiter.mem_candidates_iff, hmaterial]
  constructor
  · rintro (hself | hplain)
    · rw [← hmaterial, ← hself]
      rfl
    · exact (congrArg Identity.material hplain).symm
  · rintro rfl
    exact .inr rfl

/--
Under the legacy model, the name of a known material with a number behind a colon is the identity of the
stacks of the material that have the number as their damage, custom items apart. A ban of it reaches
these stacks and spares the others. A ban of the bare name reaches all stacks of the material, custom items
among them, and spares all others unless the name is the one that stands for everything.
-/
theorem reaches_iff_data (scope : Scope) (hlegacy : scope.legacy = true) {m : Material}
    (hm : m ∈ scope.roster.members .material) (h : TakesData m.name) :
    (∀ d, levelToken (m.name, d) ∉ scope.catalogue.names →
      let i := (Identity.plain m).withPredicate (.durability d)
      scope.item (levelToken (m.name, d)) = .ok i
        ∧ ∀ s, (∀ e ∈ scope.catalogue.items, e.2.holds s = false) →
          (∀ (source : RuleSource) trail,
              (source.bookAfter scope trail).identify s = i ↔ s.material = m ∧ s.damage = d)
            ∧ (IsPlainToken m.name → ∀ ban : LoneBan, ban.item = levelToken (m.name, d) →
                (s.material = m ∧ s.damage = d → ban.Reaches scope s)
                  ∧ (¬ (s.material = m ∧ s.damage = d) → ban.Spares scope s)))
      ∧ (m.name ∉ scope.catalogue.names → IsPlainToken m.name →
          ∀ ban : LoneBan, ban.item = m.name → ∀ s,
            (s.material = m → ban.Reaches scope s)
              ∧ (m.name ≠ "*" → s.material ≠ m → ban.Spares scope s)) := by
  constructor
  · intro d hnew i
    have hitem : scope.item (levelToken (m.name, d)) = .ok i := Scope.item_levelToken hlegacy hm h hnew
    refine ⟨hitem, fun s hstock => ?_⟩
    have hidentify (source : RuleSource) (trail : Trail) :
        (source.bookAfter scope trail).identify s = .ofStack s true := by
      rw [← hlegacy]
      exact RuleBook.identify_of_forall hstock
    refine ⟨fun source trail => ?_, fun htoken ban hban => ?_⟩
    · rw [hidentify]
      exact Identity.ofStack_legacy_eq_iff
    · have hdenoted : scope.items.denoted (.text ban.item) = .ofList [i] := by
        rw [hban]
        exact Domain.denoted_bareName (h.isBareName_levelToken htoken d) hitem
      have hincludes : ban.Includes scope (ban.identify scope s) ↔ s.material = m ∧ s.damage = d := by
        -- what has a condition is not the material alone
        rw [includes_iff_of_denoted hdenoted, identify, hidentify, Arbiter.mem_candidates_iff,
          or_iff_left (Identity.withPredicate_durability_ne_plain m _ d), eq_comm,
          Identity.ofStack_legacy_eq_iff]
      rw [← hincludes]
      exact ⟨reaches_of_includes, spares_of_not_includes⟩
  · intro hnew htoken ban hban s
    by_cases hall : m.name = "*"
    · have hdenoted : scope.items.denoted (.text ban.item) = .ofList scope.items.members := by
        rw [hban, hall, Domain.denoted, Domain.evaluate_all, Load.value_pure]
      have hmember : .plain m ∈ scope.items.denoted (.text ban.item) := by
        rw [hdenoted, OrderedSet.mem_ofList]
        exact List.mem_append_left _ (List.mem_map_of_mem hm)
      exact ⟨fun hs => reaches_of_includes ⟨_, plain_mem_candidates_identify.2 hs, hmember⟩,
        fun hname => absurd hall hname⟩
    · have hdenoted : scope.items.denoted (.text ban.item) = .ofList [.plain m] := by
        rw [hban]
        exact Domain.denoted_bareName (h.isBareName htoken hall) (Scope.item_name hm h hnew)
      have hincludes : ban.Includes scope (ban.identify scope s) ↔ s.material = m := by
        rw [includes_iff_of_denoted hdenoted, plain_mem_candidates_identify]
      refine ⟨fun hs => reaches_of_includes (hincludes.2 hs), fun _ hother => ?_⟩
      exact spares_of_not_includes fun hs => hother (hincludes.1 hs)

theorem reaches_iff_data_wool :
    let wool : Material := ⟨"wool"⟩
    let relic := (Identity.plain wool).withPredicate (.displayNameEquals "Relic")
    let scope : Scope :=
      { roster := (Roster.stock.add .world ["world"]).add .material ["wool"]
        aliases := ∅
        catalogue := (∅ : Catalogue).register "relic" relic
        legacy := true }
    let red : Stack := { material := wool, damage := 14 }
    let white : Stack := { material := wool }
    let special := white.describe fun d => { d with displayName := some "Relic" }
    let dyed : LoneBan := ⟨"world", "wool:14", .text "place"⟩
    let all : LoneBan := ⟨"world", "wool", .text "place"⟩
    let r : Request :=
      { actor := { id := 1, permissions := [] }, world := ⟨"world"⟩, item := relic, action := .place
        time := 0 }
    scope.legacy = true ∧ wool ∈ scope.roster.members .material ∧ TakesData wool.name
      ∧ IsPlainToken wool.name ∧ levelToken (wool.name, 14) = dyed.item
      ∧ dyed.item ∉ scope.catalogue.names ∧ wool.name ∉ scope.catalogue.names
      ∧ (∀ s ∈ [red, white], ∀ e ∈ scope.catalogue.items, e.2.holds s = false)
      ∧ scope.item dyed.item = .ok ((Identity.plain wool).withPredicate (.durability 14))
      ∧ dyed.Reaches scope red ∧ dyed.Spares scope white
      ∧ (∀ s ∈ [red, white, special], all.Reaches scope s)
      ∧ all.Spares scope { material := ⟨"air"⟩ }
      ∧ dyed.Counts scope r ∧ relic.holds special = true := by
  intro wool relic scope red white special dyed all r
  have hwool : wool ∈ scope.roster.members .material := by decide +kernel
  have hname : TakesData wool.name := ⟨by decide, by decide +kernel, by decide, by decide⟩
  have htoken : IsPlainToken wool.name := ⟨by decide, by decide, by decide⟩
  have hdata : levelToken (wool.name, 14) = dyed.item := by decide +kernel
  have hnew : dyed.item ∉ scope.catalogue.names := by decide +kernel
  have hnewName : wool.name ∉ scope.catalogue.names := by decide +kernel
  have hstock : ∀ s ∈ [red, white], ∀ e ∈ scope.catalogue.items, e.2.holds s = false := by
    decide +kernel
  have hcounts : dyed.Counts scope r :=
    (counts_iff_of_expression rfl).2 ⟨by decide +kernel, by decide +kernel⟩
  obtain ⟨hnumber, hbare⟩ := reaches_iff_data scope rfl hwool hname
  obtain ⟨hitem, hstacks⟩ := hnumber 14 (hdata ▸ hnew)
  obtain ⟨-, hred⟩ := hstacks red (hstock red (by simp))
  obtain ⟨-, hwhite⟩ := hstacks white (hstock white (by simp))
  have hall := hbare hnewName htoken all rfl
  refine ⟨rfl, hwool, hname, htoken, hdata, hnew, hnewName, hstock, hdata ▸ hitem,
    (hred htoken dyed hdata.symm).1 ⟨rfl, rfl⟩, (hwhite htoken dyed hdata.symm).2 (by decide), ?_,
    (hall _).2 (by decide) (by decide), hcounts, by decide +kernel⟩
  intro s hs
  simp only [List.mem_cons, List.not_mem_nil, or_false] at hs
  rcases hs with rfl | rfl | rfl
  · exact (hall _).1 rfl
  · exact (hall _).1 rfl
  · exact (hall _).1 rfl

/--
A name with a comma is two tokens, and one that begins with a mark is a negation or a pattern: bans that
are written with such a name do not reach the stacks with the data value.
-/
theorem marks_hide_data :
    let names := ["a,b", "!a", "#a"]
    let scope : Scope :=
      { roster := (Roster.stock.add .world ["world"]).add .material names
        aliases := ∅
        legacy := true
        engine := .ofTable [("^(?:a:5)$", [⟨true, true, "a:5"⟩])] }
    ∀ name ∈ names,
      let ban : LoneBan := ⟨"world", levelToken (name, 5), .text "place"⟩
      ⟨name⟩ ∈ scope.roster.members .material ∧ TakesData name
        ∧ ban.item ∉ scope.catalogue.names
        ∧ ¬ ban.Reaches scope { material := ⟨name⟩, damage := 5 } := by
  intro names scope name hname ban
  have hmember : ∀ name ∈ names, (⟨name⟩ : Material) ∈ scope.roster.members .material := by
    decide +kernel
  have hdata : ∀ name ∈ names, name ≠ "" ∧ canonicalName name = name ∧ ':' ∉ name.toList
      ∧ name ≠ "minecraft" := by
    decide +kernel
  obtain ⟨hnonempty, hcanonical, hcolon, hstock⟩ := hdata name hname
  refine ⟨hmember name hname, ⟨hnonempty, hcanonical, hcolon, hstock⟩, List.not_mem_nil, fun h => ?_⟩
  let r : Request :=
    { actor := { id := 1, permissions := [] }, world := ⟨"world"⟩, item := .plain ⟨"air"⟩
      action := .place, time := 0 }
  have hworld : r.world ∈ (scope.keys .world).denoted (.text "world") := by decide +kernel
  have haction : r.action ∈ scope.actions.denoted (.text "place") := by decide +kernel
  have hcounts : ban.Counts scope r := (counts_iff_of_expression rfl).2 ⟨hworld, haction⟩
  have hexcluded : ∀ name ∈ names,
      let ban : LoneBan := ⟨"world", levelToken (name, 5), .text "place"⟩
      let s : Stack := { material := ⟨name⟩, damage := 5 }
      (ban.arbiter scope [] "front").bypasses (ban.ask scope s r) = false
        ∧ ¬ ban.Includes scope (ban.identify scope s) := by
    decide +kernel
  obtain ⟨hbypass, hnot⟩ := hexcluded name hname
  exact hnot (includes_of_reaches h hcounts hbypass)

end LoneBan

end Embargo
