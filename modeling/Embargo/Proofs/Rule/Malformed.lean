import Embargo.Decision.Arbiter
import Embargo.Proofs.Expression.Denoted
import Embargo.Proofs.Rule.Compilation
import Mathlib.Data.List.Induction

/-!
This module contains what a malformed section comes to. One of the blacklist is as good as deleted. One of
the whitelists counts as an empty section, so it denies everything in those of its worlds that no other
section is about.
-/

namespace Embargo

open Yaml (Value)

def Yaml.Value.isSection : Value → Bool
  | .mapping _ | .null => true
  | _ => false

/-! ### Equal rules -/

namespace RuleBook

/--
Rule books that answer every look-up of a decision alike.
-/
structure SameRules (book other : RuleBook) : Prop where
  options (w : World) (i : Identity) (a : Action) : book.options? w i a = other.options? w i a
  whitelist (w : World) : book.whitelist? w = other.whitelist? w
  catalogue : book.catalogue = other.catalogue

def SameDecisions (book other : RuleBook) : Prop :=
  ∀ (listeners : List Listener) (front : String) (cooldowns : Cooldowns) (r : Request),
    ({ book, listeners, front } : Arbiter).decide cooldowns r =
      ({ book := other, listeners, front } : Arbiter).decide cooldowns r

theorem SameRules.sameDecisions {book other : RuleBook} (h : book.SameRules other) :
    book.SameDecisions other := by
  intro listeners front cooldowns r
  let first : Arbiter := { book, listeners, front }
  let second : Arbiter := { book := other, listeners, front }
  have hname : first.itemName r = second.itemName r :=
    congrArg (Catalogue.displayName · r.item) h.catalogue
  have hban : first.ban? r = second.ban? r := by
    simp only [Arbiter.ban?, first, second, h.options]
  have hfill : first.fill r = second.fill r := by
    unfold Arbiter.fill
    rw [hname]
  have hbypasses : first.bypasses r = second.bypasses r :=
    congrArg (Bypass.holds front r.actor r.world · r.action) hname
  have hdeny (options : Option Options) (denial : Verdict × Cooldowns) :
      first.denyUnless cooldowns r options denial = second.denyUnless cooldowns r options denial := by
    unfold Arbiter.denyUnless
    rw [hbypasses]
  have hdenial (o : Options) : first.banDenial cooldowns r o = second.banDenial cooldowns r o := by
    simp only [Arbiter.banDenial, Arbiter.loudDenial, hfill]
  have hunbanned : first.decideUnbanned cooldowns r = second.decideUnbanned cooldowns r := by
    simp only [Arbiter.decideUnbanned, hfill, hdeny, first, second, h.whitelist]
  change first.decide cooldowns r = second.decide cooldowns r
  simp only [Arbiter.decide, hban, hdeny, hdenial, hunbanned]

theorem exists_unbanned (book : RuleBook) (w : World) (a : Action) :
    ∃ m : Material, book.options? w (.plain m) a = none := by
  have hlonger (is : List Identity) : ∃ n, ∀ i ∈ is, i.material.name.length < n := by
    induction is with
    | nil => exact ⟨0, by simp⟩
    | cons i is ih =>
      obtain ⟨n, hn⟩ := ih
      refine ⟨max n (i.material.name.length + 1), fun j hj => ?_⟩
      rcases List.mem_cons.1 hj with rfl | hj
      · omega
      · have := hn j hj
        omega
  cases hbans : book.blacklist.get? w with
  | none => exact ⟨⟨""⟩, by simp [options?, actionBans?, hbans]⟩
  | some bans =>
    -- no banned item has a name that long
    obtain ⟨n, hn⟩ := hlonger bans.keys
    let m : Material := ⟨String.ofList (List.replicate n 'x')⟩
    have hlength : m.name.length = n := by simp [m]
    have hnew : Identity.plain m ∉ bans.keys := fun hmem =>
      Nat.ne_of_lt (hn _ hmem) hlength
    have hnone : bans.get? (.plain m) = none := Table.find?_eq_none_of_notMem hnew
    exact ⟨m, by simp [options?, actionBans?, hbans, hnone]⟩

theorem not_sameDecisions {book other : RuleBook} {w : World}
    (hoptions : ∀ i a, book.options? w i a = other.options? w i a)
    (hbook : book.whitelist? w = some {}) (hother : other.whitelist? w = none) :
    ¬ book.SameDecisions other := by
  intro h
  -- nobody with a permission asks for a material that no ban is about
  obtain ⟨m, hunbanned⟩ := book.exists_unbanned w .place
  let r : Request :=
    { actor := { id := 0 }, world := w, item := .plain m, action := .place, time := 0 }
  let first : Arbiter := { book, listeners := [], front := "" }
  let second : Arbiter := { book := other, listeners := [], front := "" }
  have hcandidates : Arbiter.candidates r.item = [.plain m] := rfl
  have hban : first.ban? r = none := by
    simp [Arbiter.ban?, hcandidates, first, r, hunbanned]
  have hotherBan : second.ban? r = none := by
    simp [Arbiter.ban?, hcandidates, second, r, ← hoptions, hunbanned]
  have hbypass : first.bypasses r = false := by
    simp [Arbiter.bypasses, Bypass.holds, Actor.holdsNode, r]
  have hlist : (first.book.whitelist? r.world).filter (fun list => !list.ignores r.action) = some {} := by
    simp only [first, r, hbook]
    rfl
  have hdenied : (first.decide ∅ r).verdict.outcome = .deny := by
    unfold Arbiter.decide Arbiter.decideUnbanned
    rw [hban, hlist, hcandidates]
    unfold Arbiter.denyUnless
    rw [hbypass]
    rfl
  have hallowed : (second.decide ∅ r).verdict.outcome = .allow := by
    unfold Arbiter.decide Arbiter.decideUnbanned
    rw [hotherBan]
    simp only [second, r, hother, Option.filter_none]
  have hsame : (first.decide ∅ r).verdict.outcome = (second.decide ∅ r).verdict.outcome :=
    congrArg (·.verdict.outcome) (h [] "" ∅ r)
  rw [hdenied, hallowed] at hsame
  cases hsame

end RuleBook

/-! ### Whitelists on top of each other -/

namespace Whitelist

def pile (ws : List Whitelist) : Option Whitelist :=
  ws.foldl (fun old w => some (old.elim w (·.merge w))) none

theorem pile_concat (ws : List Whitelist) (w : Whitelist) :
    pile (ws ++ [w]) = some ((pile ws).elim w (·.merge w)) := by
  unfold pile
  rw [List.foldl_append]
  rfl

theorem pile_eq_none_iff {ws : List Whitelist} : pile ws = none ↔ ws = [] := by
  induction ws using List.reverseRecOn with
  | nil => exact ⟨fun _ => rfl, fun _ => rfl⟩
  | append_singleton ws w => simp [pile_concat]

theorem pile_insert_empty (front back : List Whitelist) :
    pile (front ++ {} :: back) = (pile (front ++ back)).or (some {}) := by
  induction back using List.reverseRecOn with
  | nil =>
    rw [pile_concat, List.append_nil]
    cases pile front <;> rfl
  | append_singleton back w ih =>
    have hleft : front ++ {} :: (back ++ [w]) = (front ++ {} :: back) ++ [w] := by simp
    rw [hleft, pile_concat, ih, ← List.append_assoc, pile_concat]
    cases pile (front ++ back) with
    | none => exact congrArg some (empty_merge w)
    | some list => rfl

end Whitelist

namespace Compile

variable (scope : Scope)

theorem get?_listIn (t : Table World Whitelist) {worlds : List World} (hnodup : worlds.Nodup)
    (list : Whitelist) (w : World) :
    (listIn t worlds list).get? w =
      if w ∈ worlds then some ((t.get? w).elim list (·.merge list)) else t.get? w := by
  unfold listIn
  induction worlds generalizing t with
  | nil => rfl
  | cons world worlds ih =>
    rw [List.nodup_cons] at hnodup
    rw [List.foldl_cons, ih _ hnodup.2, Table.get?_upsert]
    by_cases heq : world = w
    · -- a world is in a set once, so nothing is added to it again
      subst heq
      rw [if_neg hnodup.1, if_pos rfl, if_pos List.mem_cons_self]
    · have hiff : w ∈ world :: worlds ↔ w ∈ worlds := by
        rw [List.mem_cons]
        exact or_iff_right fun hw => heq hw.symm
      simp only [heq, hiff, if_false]

def sectionWorlds (key : String) : OrderedSet World :=
  (scope.keys .world).denoted (.text key)

def sectionList (s : String × Value) : Whitelist :=
  let path := (Path.root.push "whitelist").push s.1
  (Value.textEntries ((mappingEntries path s.1 s.2).value.getD [])).foldl
    (fun w f => (whitelistEntry scope path w f.1 f.2).value) {}

theorem sectionList_of_malformed {s : String × Value} (h : s.2.isSection = false) :
    sectionList scope s = {} := by
  obtain ⟨key, v⟩ := s
  unfold sectionList
  dsimp only at h ⊢
  rw [value_mappingEntries]
  cases v with
  | mapping entries => cases h
  | _ => rfl

theorem readSection?_of_malformed (path : Path) (key : String) {v : Value}
    (h : v.isSection = false) : readSection? scope path key v = none := by
  cases v with
  | mapping entries => cases h
  | _ => rfl

theorem get?_whitelists (source : RuleSource) (w : World) :
    (whitelists scope source).value.get? w =
      Whitelist.pile ((source.whitelist.entries.filter fun s => w ∈ sectionWorlds scope s.1).map
        (sectionList scope)) := by
  have hsection (t : Table World Whitelist) (s : String × Value) :
      (whitelistSection scope (Path.root.push "whitelist") t s.1 s.2).value =
        listIn t (sectionWorlds scope s.1).toList (sectionList scope s) := by
    rw [value_whitelistSection, readListing, Domain.value_evaluate]
    rfl
  -- section by section, starting with the whitelist that is there already
  have hfold (sections : List (String × Value)) (t : Table World Whitelist) :
      (sections.foldl
          (fun t s => listIn t (sectionWorlds scope s.1).toList (sectionList scope s)) t).get? w =
        ((sections.filter fun s => w ∈ sectionWorlds scope s.1).map (sectionList scope)).foldl
          (fun old list => some (old.elim list (·.merge list))) (t.get? w) := by
    induction sections generalizing t with
    | nil => rfl
    | cons s sections ih =>
      rw [List.foldl_cons, ih, get?_listIn t (OrderedSet.nodup _)]
      by_cases hw : w ∈ sectionWorlds scope s.1
      · rw [if_pos (OrderedSet.mem_toList.2 hw), List.filter_cons, if_pos (decide_eq_true hw)]
        rfl
      · rw [if_neg (hw ∘ OrderedSet.mem_toList.1), List.filter_cons, if_neg (by simpa using hw)]
  have hadditive (t : Table World Whitelist) (s : String × Value) :
      (whitelistSection scope (Path.root.push "whitelist") t s.1 s.2).Additive :=
    additive_whitelistSection scope (Path.root.push "whitelist") t s.1 s.2
  unfold whitelists Whitelist.pile
  rw [Load.value_foldlM hadditive]
  simp only [hsection]
  exact hfold _ ∅

end Compile

namespace RuleSource

variable (source : RuleSource) (roster : Roster) (aliases : Aliases) (legacy : Bool) (engine : Engine)

def withoutBlacklist (key : String) : RuleSource :=
  { source with blacklist := source.blacklist.erase key }

def withoutWhitelist (key : String) : RuleSource :=
  { source with whitelist := source.whitelist.erase key }

variable {source}

theorem blacklist_of_malformed (scope : Scope) {key : String} {v : Value}
    (hv : v.isSection = false) (h : (key, v) ∈ source.blacklist.entries) :
    (Compile.blacklist scope (source.withoutBlacklist key)).value =
      (Compile.blacklist scope source).value := by
  obtain ⟨front, back, hentries, herase⟩ := Table.exists_entries_erase h
  have hread : Compile.readSections scope (source.withoutBlacklist key) =
      Compile.readSections scope source := by
    unfold Compile.readSections withoutBlacklist
    rw [herase, hentries, List.filterMap_append, List.filterMap_append, List.filterMap_cons,
      Compile.readSection?_of_malformed scope _ key hv]
  rw [Compile.value_blacklist, Compile.value_blacklist, hread]

theorem whitelist?_of_malformed (scope : Scope) {key : String} {v : Value}
    (hv : v.isSection = false) (h : (key, v) ∈ source.whitelist.entries) (w : World) :
    (Compile.whitelists scope source).value.get? w =
      ((Compile.whitelists scope (source.withoutWhitelist key)).value.get? w).or
        (if w ∈ Compile.sectionWorlds scope key then some {} else none) := by
  obtain ⟨front, back, hentries, herase⟩ := Table.exists_entries_erase h
  have hempty : Compile.sectionList scope (key, v) = {} :=
    Compile.sectionList_of_malformed scope hv
  rw [Compile.get?_whitelists, Compile.get?_whitelists]
  unfold withoutWhitelist
  rw [herase, hentries, List.filter_append, List.filter_append, List.map_append, List.map_append]
  by_cases hw : w ∈ Compile.sectionWorlds scope key
  · rw [List.filter_cons, if_pos (decide_eq_true hw), List.map_cons, hempty,
      Whitelist.pile_insert_empty, if_pos hw]
  · rw [List.filter_cons, if_neg (by simpa using hw), if_neg hw, Option.or_none]

variable (source)

theorem whitelist?_compile (w : World) :
    (source.compile roster aliases legacy engine).whitelist? w =
      (Compile.whitelists (source.scope roster aliases legacy engine) source).value.get? w := by
  rw [← whitelists_compile]
  rfl

theorem options?_compile_congr (other : RuleSource) (hitems : other.customItems = source.customItems)
    (h : ∀ scope, (Compile.blacklist scope other).value = (Compile.blacklist scope source).value)
    (w : World) (i : Identity) (a : Action) :
    (source.compile roster aliases legacy engine).options? w i a =
      (other.compile roster aliases legacy engine).options? w i a := by
  have hscope : other.scope roster aliases legacy engine = source.scope roster aliases legacy engine := by
    unfold scope catalogue
    rw [hitems]
  have hblacklist : (source.compile roster aliases legacy engine).blacklist =
      (other.compile roster aliases legacy engine).blacklist := by
    rw [blacklist_compile, blacklist_compile, hscope, h]
  unfold RuleBook.options? RuleBook.actionBans?
  rw [hblacklist]

theorem sameRules_withoutBlacklist {key : String} {v : Value} (hv : v.isSection = false)
    (h : (key, v) ∈ source.blacklist.entries) :
    (source.compile roster aliases legacy engine).SameRules
      ((source.withoutBlacklist key).compile roster aliases legacy engine) where
  options := source.options?_compile_congr roster aliases legacy engine _ rfl
    fun scope => blacklist_of_malformed scope hv h
  whitelist w := by
    rw [whitelist?_compile, whitelist?_compile]
    rfl
  catalogue := rfl

theorem whitelist?_withoutWhitelist {key : String} {v : Value} (hv : v.isSection = false)
    (h : (key, v) ∈ source.whitelist.entries) (w : World) :
    (source.compile roster aliases legacy engine).whitelist? w =
      (((source.withoutWhitelist key).compile roster aliases legacy engine).whitelist? w).or
        (if w ∈ Compile.sectionWorlds (source.scope roster aliases legacy engine) key then some {}
          else none) := by
  rw [whitelist?_compile, whitelist?_compile]
  exact whitelist?_of_malformed _ hv h w

theorem whitelist?_withoutWhitelist_eq_none_iff (key : String) (w : World) :
    ((source.withoutWhitelist key).compile roster aliases legacy engine).whitelist? w = none ↔
      ∀ s ∈ source.whitelist.entries, s.1 ≠ key →
        w ∉ Compile.sectionWorlds (source.scope roster aliases legacy engine) s.1 := by
  rw [whitelist?_compile, Compile.get?_whitelists, Whitelist.pile_eq_none_iff, List.map_eq_nil_iff,
    List.filter_eq_nil_iff]
  unfold withoutWhitelist Table.erase Table.filter
  simp only [List.mem_filter, decide_eq_true_eq, and_imp]
  rfl

/--
Other whitelist sections are about each world of a section.
-/
def CoveredElsewhere (scope : Scope) (key : String) : Prop :=
  ∀ w ∈ Compile.sectionWorlds scope key,
    ∃ s ∈ source.whitelist.entries, s.1 ≠ key ∧ w ∈ Compile.sectionWorlds scope s.1

theorem sameRules_withoutWhitelist {key : String} {v : Value} (hv : v.isSection = false)
    (h : (key, v) ∈ source.whitelist.entries)
    (hcovered : source.CoveredElsewhere (source.scope roster aliases legacy engine) key) :
    (source.compile roster aliases legacy engine).SameRules
      ((source.withoutWhitelist key).compile roster aliases legacy engine) where
  options := source.options?_compile_congr roster aliases legacy engine _ rfl fun _ => rfl
  whitelist w := by
    rw [source.whitelist?_withoutWhitelist roster aliases legacy engine hv h]
    split
    · next hw =>
      obtain ⟨s, hs, hkey, hworld⟩ := hcovered w hw
      cases hdeleted : ((source.withoutWhitelist key).compile roster aliases legacy engine).whitelist? w with
      | none =>
        rw [whitelist?_withoutWhitelist_eq_none_iff] at hdeleted
        exact absurd hworld (hdeleted s hs hkey)
      | some list => exact Option.some_or
    · exact Option.or_none
  catalogue := rfl

theorem coveredElsewhere_of_sameDecisions {key : String} {v : Value} (hv : v.isSection = false)
    (h : (key, v) ∈ source.whitelist.entries)
    (hsame : (source.compile roster aliases legacy engine).SameDecisions
      ((source.withoutWhitelist key).compile roster aliases legacy engine)) :
    source.CoveredElsewhere (source.scope roster aliases legacy engine) key := by
  intro w hw
  apply Decidable.byContradiction
  intro hnowhere
  have hdeleted :
      ((source.withoutWhitelist key).compile roster aliases legacy engine).whitelist? w = none := by
    rw [whitelist?_withoutWhitelist_eq_none_iff]
    exact fun s hs hkey hworld => hnowhere ⟨s, hs, hkey, hworld⟩
  have hempty : (source.compile roster aliases legacy engine).whitelist? w = some {} := by
    rw [source.whitelist?_withoutWhitelist roster aliases legacy engine hv h, hdeleted, if_pos hw]
    rfl
  have hoptions := source.options?_compile_congr roster aliases legacy engine
    (source.withoutWhitelist key) rfl fun _ => rfl
  exact RuleBook.not_sameDecisions (hoptions w) hempty hdeleted hsame

/--
A malformed section of the blacklist is as good as deleted. One of the whitelists is so if and only if
other sections are about each of its worlds.
-/
theorem sameRules_of_malformed {key : String} {v : Value} (hv : v.isSection = false) :
    ((key, v) ∈ source.blacklist.entries →
        (source.compile roster aliases legacy engine).SameRules
            ((source.withoutBlacklist key).compile roster aliases legacy engine)
          ∧ (source.compile roster aliases legacy engine).SameDecisions
            ((source.withoutBlacklist key).compile roster aliases legacy engine))
      ∧ ((key, v) ∈ source.whitelist.entries →
        ((source.compile roster aliases legacy engine).SameRules
            ((source.withoutWhitelist key).compile roster aliases legacy engine) ↔
          source.CoveredElsewhere (source.scope roster aliases legacy engine) key)
          ∧ ((source.compile roster aliases legacy engine).SameDecisions
              ((source.withoutWhitelist key).compile roster aliases legacy engine) ↔
            source.CoveredElsewhere (source.scope roster aliases legacy engine) key)) := by
  constructor
  · intro h
    have hrules := source.sameRules_withoutBlacklist roster aliases legacy engine hv h
    exact ⟨hrules, hrules.sameDecisions⟩
  · intro h
    have hcovered := source.coveredElsewhere_of_sameDecisions roster aliases legacy engine hv h
    have hrules := source.sameRules_withoutWhitelist roster aliases legacy engine hv h
    exact ⟨⟨fun hsame => hcovered hsame.sameDecisions, hrules⟩,
      ⟨hcovered, fun h => (hrules h).sameDecisions⟩⟩

theorem sameRules_of_malformed_covered :
    let roster := (Roster.stock.add .world ["town", "fort"]).add .material ["stone"]
    let source : RuleSource :=
      { blacklist := .ofList [("fort", .text "stone")]
        whitelist := .ofList [("town", .text "stone"),
          ("town, fort", .mapping [(.text "stone", .text "place")])] }
    (source.compile roster ∅ false).SameRules ((source.withoutBlacklist "fort").compile roster ∅ false)
      ∧ (source.compile roster ∅ false).SameRules
          ((source.withoutWhitelist "town").compile roster ∅ false) := by
  intro roster source
  have hblacklist : ("fort", Value.text "stone") ∈ source.blacklist.entries := List.mem_singleton.2 rfl
  have hwhitelist : ("town", Value.text "stone") ∈ source.whitelist.entries := List.mem_cons_self
  have hcovered : source.CoveredElsewhere (source.scope roster ∅ false .builtIn) "town" := by
    unfold CoveredElsewhere
    intro w hw
    refine ⟨("town, fort", .mapping [(.text "stone", .text "place")]), ?_, ?_, ?_⟩
    · exact List.mem_cons_of_mem _ List.mem_cons_self
    · decide
    · revert hw w
      decide +kernel
  have hmalformed : (Value.text "stone").isSection = false := rfl
  exact ⟨((source.sameRules_of_malformed roster ∅ false _ hmalformed).1 hblacklist).1,
    ((source.sameRules_of_malformed roster ∅ false _ hmalformed).2 hwhitelist).1.2 hcovered⟩

/--
A text in the place of a whitelist denies everything in its world, and without it nothing is denied.
-/
theorem malformed_whitelist_denies :
    let roster := (Roster.stock.add .world ["town"]).add .material ["stone"]
    let source : RuleSource := { whitelist := .ofList [("town", .text "stone")] }
    let r : Request :=
      { actor := { id := 1 }, world := ⟨"town"⟩, item := .plain ⟨"stone"⟩, action := .place, time := 0 }
    let outcome (s : RuleSource) : Outcome :=
      (({ book := s.compile roster ∅ false, listeners := [], front := "" } : Arbiter).decide ∅
        r).verdict.outcome
    ("town", .text "stone") ∈ source.whitelist.entries ∧ (Value.text "stone").isSection = false
      ∧ outcome source = .deny ∧ outcome (source.withoutWhitelist "town") = .allow := by
  intro roster source r outcome
  refine ⟨List.mem_singleton.2 rfl, rfl, ?_, ?_⟩
  · decide +kernel
  · decide +kernel

end RuleSource

end Embargo
