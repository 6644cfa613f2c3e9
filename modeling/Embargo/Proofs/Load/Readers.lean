import Embargo.Proofs.Load.Places
import Embargo.Rule.Compile

/-!
This module contains the proofs that the readers of a configuration only add to the trail, and that
they report at the places of what they read.
-/

namespace Embargo

open Load (reports_pure reports_report reports_report_then reports_foldlM reports_mapM)
open Yaml (Value)

def Section.Places (s : Section) (path place : Path) : Prop :=
  ∃ e ∈ s.entries, (path.push e.1).Into e.2 place

/-! ### Expressions -/

namespace Domain

variable {α : Type} (d : Domain α) {path : Path} {p : Path → Prop}

theorem reports_mentioned (hp : p path) (token : String) : (d.mentioned path token).Reports p := by
  unfold mentioned
  split
  · apply reports_pure
  · exact reports_report_then _ _ hp

variable [DecidableEq α]

theorem reports_applyToken (hp : p path) (set : OrderedSet α) (raw : String) :
    (d.applyToken path set raw).Reports p := by
  unfold applyToken
  dsimp only
  split
  · apply reports_pure
  · exact (reports_mentioned d hp _).bind fun removed => reports_pure _
  · exact (reports_mentioned d hp _).bind fun added => reports_pure _

theorem reports_evaluate (hp : p path) (e : Expression) : (d.evaluate path e).Reports p := by
  unfold evaluate evaluateTokens
  apply reports_foldlM
  intro set token _
  exact reports_applyToken d hp set token

end Domain

/-! ### Options -/

namespace Options

variable (scope : Scope) {p : Path → Prop}

theorem reports_readRestriction {path : Path} (hp : p path) (r : Registry) (key : String)
    (v : Value) : (readRestriction scope r key path v).Reports p := by
  unfold readRestriction
  split
  · exact (Domain.reports_evaluate _ hp _).bind fun set => reports_pure _
  · exact reports_report_then _ _ hp

theorem reports_readField {path : Path} {key : String} (hp : p (path.push key)) (o : Options)
    (v : Value) : (readField scope path o key v).Reports p := by
  have hrestriction (r : Registry) (put : Option (OrderedSet (Key r)) → Options) :
      (readRestriction scope r key (path.push key) v >>= fun set => pure (put set)).Reports p :=
    (reports_readRestriction scope hp r key v).bind fun set => reports_pure _
  unfold readField
  dsimp only
  cases OptionField.ofText? key with
  | none => exact reports_report_then _ _ hp
  | some field =>
    cases field with
    | message =>
      dsimp only
      split
      · apply reports_pure
      · exact reports_report_then _ _ hp
    | log =>
      dsimp only
      split
      · apply reports_pure
      · exact reports_report_then _ _ hp
    | cooldown =>
      dsimp only
      split
      · apply reports_pure
      · exact reports_report_then _ _ hp
    | regions =>
      dsimp only
      split
      · apply reports_pure
      · exact reports_report_then _ _ hp
    | entities => apply hrestriction
    | gameModes => apply hrestriction
    | inventoryFrom => apply hrestriction
    | inventoryTo => apply hrestriction
    | materials => apply hrestriction

theorem reports_read (path : Path) (v : Value) : (read scope path v).Reports (path.Into v) := by
  unfold read
  split
  · apply reports_pure
  · next entries =>
    apply reports_foldlM
    intro o f hf
    exact reports_readField scope (Path.into_entry hf (Path.into_self _ _)) o f.2
  · exact reports_report_then _ _ (path.into_self v)

theorem additive_read (path : Path) (v : Value) : (read scope path v).Additive :=
  (reports_read scope path v).additive

end Options

/-! ### Custom items -/

section Items

variable (scope : Scope) {p : Path → Prop}

theorem reports_readLevelEntries {path : Path} (hp : p path) (r : Registry)
    (entries : List (Value × Value)) : (readLevelEntries scope r path entries).Reports p := by
  induction entries with
  | nil => apply reports_pure
  | cons e entries ih =>
    unfold readLevelEntries
    split
    · split
      · exact ih.bind fun others => reports_pure _
      · exact (reports_report _ hp).bind fun _ => ih
    · apply reports_pure

theorem reports_mentionedLevels {path : Path} (hp : p path) (r : Registry) (v : Value) :
    (mentionedLevels scope r path v).Reports p := by
  unfold mentionedLevels
  split
  · apply reports_readLevelEntries scope hp
  · split
    · exact ((scope.leveled r).reports_evaluate hp _).bind fun set => reports_pure _
    · apply reports_pure

theorem reports_readLevels {path : Path} (hp : p path) (r : Registry) (v : Value) :
    (readLevels scope r path v).Reports p := by
  unfold readLevels
  exact (reports_mentionedLevels scope hp r v).watch.bind fun levels => reports_pure _

theorem Predicate.reports_ofPayload? {path : Path} (hp : p path) (v : Value)
    (kind : PredicateKind) : (ofPayload? scope path v kind).Reports p := by
  have hlevels (r : Registry) (make : KeyMap r Level → Predicate) :
      (readLevels scope r path v >>= fun levels => pure (levels.map make)).Reports p :=
    (reports_readLevels scope hp r v).bind fun levels => reports_pure _
  cases kind with
  | enchantmentEquals => apply hlevels
  | enchantmentContains => apply hlevels
  | potion => apply hlevels
  | potionEquals => apply hlevels
  | _ => apply reports_pure

theorem Predicate.reports_read {path : Path} (hp : p path) (kind : PredicateKind) (v : Value) :
    (read scope kind path v).Reports p := by
  unfold read
  refine (reports_ofPayload? scope hp v kind).bind fun condition => ?_
  split
  · exact reports_report_then _ _ hp
  · apply reports_pure

namespace Identity

theorem reports_readCondition {path : Path} {key : String} (hp : p (path.push key)) (v : Value) :
    (readCondition scope path key v).Reports p := by
  unfold readCondition
  split
  · apply Predicate.reports_read scope hp
  · exact reports_report_then _ _ hp

theorem reports_readConditions {path : Path} {fields : List (String × Value)}
    (hp : ∀ f ∈ fields, p (path.push f.1)) : (readConditions scope path fields).Reports p := by
  induction fields with
  | nil => apply reports_pure
  | cons f fields ih =>
    have hfirst : (readCondition scope path f.1 f.2).Reports p :=
      reports_readCondition scope (hp f List.mem_cons_self) f.2
    have hrest : (readConditions scope path fields).Reports p :=
      ih fun g hg => hp g (List.mem_cons_of_mem f hg)
    exact hfirst.bind fun condition => hrest.bind fun conditions => reports_pure _

theorem reports_read (path : Path) (entries : List (Value × Value)) :
    (read scope path entries).Reports (path.Into (.mapping entries)) := by
  unfold read
  dsimp only
  split
  · exact reports_report_then _ _ (path.into_self _)
  · refine Load.Reports.bind (reports_readConditions scope ?_) fun conditions => reports_pure _
    intro f hf
    exact Path.into_entry (List.mem_filter.1 hf).1 (Path.into_self _ _)

end Identity

namespace Catalogue

theorem reports_readEntry (path : Path) (rawName : String) (v : Value) :
    (readEntry scope path rawName v).Reports ((path.push rawName).Into v) := by
  unfold readEntry
  dsimp only
  split
  · exact reports_report_then _ _ (Path.into_self _ _)
  · split
    · exact (Identity.reports_read scope _ _).bind fun i => reports_pure _
    · exact reports_report_then _ _ (Path.into_self _ _)

end Catalogue

end Items

/-! ### Rules -/

namespace Compile

variable (scope : Scope) {p : Path → Prop}

theorem reports_members {α : Type} [DecidableEq α] (d : Domain α) {path : Path} (hp : p path)
    (e : Expression) : (members d path e).Reports p := by
  unfold members
  refine (d.reports_evaluate hp e).watch.bind fun set => ?_
  dsimp only
  split
  · exact reports_report_then _ _ hp
  · apply reports_pure

@[simp]
theorem value_members {α : Type} [DecidableEq α] (d : Domain α) (path : Path) (e : Expression) :
    (members d path e).value = (d.evaluate path e).value := by
  unfold members
  rw [Load.value_bind, Load.value_watch]
  · dsimp only
    split
    · rfl
    · rfl
  · intro set
    dsimp only
    split
    · exact (Load.additive_report _ _).bind fun _ => Load.additive_pure _
    · apply Load.additive_pure

theorem reports_mappingEntries {path : Path} (hp : p path) (key : String) (v : Value) :
    (mappingEntries path key v).Reports p := by
  unfold mappingEntries
  split
  · apply reports_pure
  · apply reports_pure
  · exact reports_report_then _ _ hp

theorem additive_mappingEntries (path : Path) (key : String) (v : Value) :
    (mappingEntries path key v).Additive :=
  (reports_mappingEntries (path.into_self v) key v).additive

theorem value_mappingEntries (path : Path) (key : String) (v : Value) :
    (mappingEntries path key v).value = match v with
      | .mapping entries => some entries
      | _ => none := by
  cases v <;> rfl

theorem reports_actionEntry (path : Path) (key : String) (v : Value) :
    (actionEntry scope path key v).Reports ((path.push key).Into v) := by
  unfold actionEntry
  refine (reports_members scope.actions (Path.into_self _ _) _).bind fun actions => ?_
  split
  · apply reports_pure
  · exact (Options.reports_read scope _ v).bind fun options => reports_pure _

theorem additive_actionEntry (path : Path) (key : String) (v : Value) :
    (actionEntry scope path key v).Additive :=
  (reports_actionEntry scope path key v).additive

theorem reports_itemActions (path : Path) (key : String) (v : Value) :
    (itemActions scope path key v).Reports (path.Into v) := by
  have hadditive (entries : List (String × Value)) :
      (entries.mapM fun f => actionEntry scope path f.1 f.2).Additive := by
    apply Load.additive_mapM
    intro f
    apply additive_actionEntry
  unfold itemActions
  split
  · exact (reports_members scope.actions (path.into_self v) _).bind fun actions => reports_pure _
  · apply (reports_mappingEntries (path.into_self v) key v).bind_value
    · intro entries
      split
      · exact (hadditive _).bind fun parts => Load.additive_pure _
      · apply Load.additive_pure
    · rw [value_mappingEntries]
      cases v with
      | mapping entries =>
        refine Load.Reports.bind (reports_mapM ?_) fun parts => reports_pure _
        intro f hf
        exact (reports_actionEntry scope path f.1 f.2).mono fun place => Path.into_entry hf
      | _ => apply reports_pure

theorem additive_itemActions (path : Path) (key : String) (v : Value) :
    (itemActions scope path key v).Additive :=
  (reports_itemActions scope path key v).additive

theorem reports_itemBans (path : Path) (key : String) (v : Value) :
    (itemBans scope path key v).Reports ((path.push key).Into v) := by
  unfold itemBans
  exact (reports_members scope.items (Path.into_self _ _) _).bind fun items =>
    (reports_itemActions scope _ key v).bind fun actions => reports_pure _

theorem additive_itemBans (path : Path) (key : String) (v : Value) :
    (itemBans scope path key v).Additive :=
  (reports_itemBans scope path key v).additive

theorem reports_blacklistSection (path : Path) (blacklist : Table World Bans) (key : String)
    (v : Value) : (blacklistSection scope path blacklist key v).Reports ((path.push key).Into v) := by
  have hadditive (entries : List (String × Value)) :
      (entries.mapM fun f => itemBans scope (path.push key) f.1 f.2).Additive := by
    apply Load.additive_mapM
    intro f
    apply additive_itemBans
  unfold blacklistSection
  refine (reports_members (scope.keys .world) (Path.into_self _ _) _).bind fun worlds => ?_
  apply (reports_mappingEntries (Path.into_self _ _) key v).bind_value
  · intro entries
    split
    · exact (hadditive _).bind fun parts => Load.additive_pure _
    · apply Load.additive_pure
  · rw [value_mappingEntries]
    cases v with
    | mapping entries =>
      refine Load.Reports.bind (reports_mapM ?_) fun parts => reports_pure _
      intro f hf
      exact (reports_itemBans scope (path.push key) f.1 f.2).mono fun place => Path.into_entry hf
    | _ => apply reports_pure

theorem additive_blacklistSection (path : Path) (blacklist : Table World Bans) (key : String)
    (v : Value) : (blacklistSection scope path blacklist key v).Additive :=
  (reports_blacklistSection scope path blacklist key v).additive

theorem reports_blacklist (source : RuleSource) :
    (blacklist scope source).Reports
      (source.blacklist.Places (Path.root.push "blacklist")) := by
  unfold blacklist
  apply reports_foldlM
  intro t s hs
  exact (reports_blacklistSection scope _ t s.1 s.2).mono fun place hplace => ⟨s, hs, hplace⟩

theorem additive_blacklist (source : RuleSource) : (blacklist scope source).Additive :=
  (reports_blacklist scope source).additive

theorem reports_allowEntry {path : Path} (hp : p path) (w : Whitelist) (key : String) (v : Value) :
    (allowEntry scope path w key v).Reports p := by
  unfold allowEntry
  refine (reports_members scope.items hp _).bind fun items => ?_
  split
  · exact (reports_members scope.actions hp _).bind fun actions => reports_pure _
  · exact reports_report_then _ _ hp

theorem reports_whitelistEntry {path : Path} {key : String} (hp : p (path.push key)) (w : Whitelist)
    (v : Value) : (whitelistEntry scope path w key v).Reports p := by
  unfold whitelistEntry
  dsimp only
  split
  · split
    · apply reports_pure
    · exact reports_report_then _ _ hp
  · split
    · exact (scope.actions.reports_evaluate hp _).bind fun actions => reports_pure _
    · exact reports_report_then _ _ hp
  · exact reports_allowEntry scope hp w key v

theorem additive_whitelistEntry (path : Path) (w : Whitelist) (key : String) (v : Value) :
    (whitelistEntry scope path w key v).Additive :=
  (reports_whitelistEntry scope (Path.into_self (path.push key) v) w v).additive

theorem reports_whitelistSection (path : Path) (whitelists : Table World Whitelist) (key : String)
    (v : Value) :
    (whitelistSection scope path whitelists key v).Reports ((path.push key).Into v) := by
  have hadditive (w : Whitelist) (entries : List (String × Value)) :
      (entries.foldlM (fun w f => whitelistEntry scope (path.push key) w f.1 f.2) w).Additive := by
    apply Load.additive_foldlM
    intro w f
    apply additive_whitelistEntry
  unfold whitelistSection
  refine (reports_members (scope.keys .world) (Path.into_self _ _) _).bind fun worlds => ?_
  apply (reports_mappingEntries (Path.into_self _ _) key v).bind_value
  · intro entries
    exact (hadditive _ _).bind fun w => Load.additive_pure _
  · refine Load.Reports.bind (reports_foldlM ?_ _) fun w => reports_pure _
    rw [value_mappingEntries]
    cases v with
    | mapping entries =>
      intro w f hf
      exact reports_whitelistEntry scope (Path.into_entry hf (Path.into_self _ _)) w f.2
    | _ =>
      intro w f hf
      cases hf

theorem additive_whitelistSection (path : Path) (whitelists : Table World Whitelist) (key : String)
    (v : Value) : (whitelistSection scope path whitelists key v).Additive :=
  (reports_whitelistSection scope path whitelists key v).additive

theorem reports_whitelists (source : RuleSource) :
    (whitelists scope source).Reports
      (source.whitelist.Places (Path.root.push "whitelist")) := by
  unfold whitelists
  apply reports_foldlM
  intro t s hs
  exact (reports_whitelistSection scope _ t s.1 s.2).mono fun place hplace => ⟨s, hs, hplace⟩

theorem additive_whitelists (source : RuleSource) : (whitelists scope source).Additive :=
  (reports_whitelists scope source).additive

end Compile

namespace RuleSource

theorem reports_rules (source : RuleSource) (scope : Scope) :
    (source.rules scope).Reports fun place =>
      source.blacklist.Places (Path.root.push "blacklist") place
        ∨ source.whitelist.Places (Path.root.push "whitelist") place := by
  unfold rules
  refine ((Compile.reports_blacklist scope source).mono fun _ => .inl).bind fun blacklist => ?_
  refine ((Compile.reports_whitelists scope source).mono fun _ => .inr).bind fun whitelists => ?_
  apply reports_pure

end RuleSource

end Embargo
