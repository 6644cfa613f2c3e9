import Embargo.Proofs.Rule.Trails

namespace Embargo

open Yaml (Value)

/--
An entry of the rules: its own place and those of the entries around it, and the expressions for what
it is about.
-/
structure RuleEntry where
  places : List Path
  worlds : Expression
  items : Expression
  actions : Expression

namespace RuleEntry

variable (e : RuleEntry)

def Covers (scope : Scope) (w : World) (i : Identity) (a : Action) : Prop :=
  w ∈ (scope.keys .world).denoted e.worlds ∧ i ∈ scope.items.denoted e.items
    ∧ a ∈ scope.actions.denoted e.actions

def Reported (problems : Trail) : Prop :=
  ∃ p ∈ problems, p.path ∈ e.places

theorem Reported.mono {e : RuleEntry} {problems others : Trail} (h : e.Reported problems)
    (hsub : problems ⊆ others) : e.Reported others := by
  obtain ⟨p, hp, hplace⟩ := h
  exact ⟨p, hsub hp, hplace⟩

theorem reported_at {e : RuleEntry} {path : Path} (hplace : path ∈ e.places) {problems others : Trail}
    (hsub : problems ⊆ others) (h : ∃ p ∈ problems, p.path = path) : e.Reported others := by
  obtain ⟨p, hp, rfl⟩ := h
  exact ⟨p, hsub hp, hplace⟩

theorem covers_or_reported {e : RuleEntry} {scope : Scope} {problems : Trail}
    (hworlds : (∃ w, w ∈ (scope.keys .world).denoted e.worlds) ∨ e.Reported problems)
    (hitems : (∃ i, i ∈ scope.items.denoted e.items) ∨ e.Reported problems)
    (hactions : (∃ a, a ∈ scope.actions.denoted e.actions) ∨ e.Reported problems) :
    (∃ w i a, e.Covers scope w i a) ∨ e.Reported problems := by
  rcases hworlds with ⟨w, hw⟩ | hreported
  · rcases hitems with ⟨i, hi⟩ | hreported
    · exact hactions.imp_left fun ⟨a, ha⟩ => ⟨w, i, a, hw, hi, ha⟩
    · exact .inr hreported
  · exact .inr hreported

def actionsOf (v : Value) : Expression :=
  (Expression.ofValue? v).getD (.list [])

end RuleEntry

namespace RuleSource

/--
The entries of the blacklist: the item keys without a mapping and the action keys in the mappings of
the others.
-/
inductive BanEntry (source : RuleSource) : RuleEntry → Prop
  | item {world item : String} {items : List (Value × Value)} {v : Value}
      (hworld : (world, .mapping items) ∈ source.blacklist.entries)
      (hitem : (item, v) ∈ Value.textEntries items) (hv : ∀ actions, v ≠ .mapping actions) :
      BanEntry source
        { places := [((Path.root.push "blacklist").push world).push item,
            (Path.root.push "blacklist").push world]
          worlds := .text world
          items := .text item
          actions := RuleEntry.actionsOf v }
  | action {world item action : String} {items actions : List (Value × Value)} {v : Value}
      (hworld : (world, .mapping items) ∈ source.blacklist.entries)
      (hitem : (item, .mapping actions) ∈ Value.textEntries items)
      (haction : (action, v) ∈ Value.textEntries actions) :
      BanEntry source
        { places := [(((Path.root.push "blacklist").push world).push item).push action,
            ((Path.root.push "blacklist").push world).push item,
            (Path.root.push "blacklist").push world]
          worlds := .text world
          items := .text item
          actions := .text action }

inductive AllowEntry (source : RuleSource) : RuleEntry → Prop
  | item {world item : String} {items : List (Value × Value)} {v : Value}
      (hworld : (world, .mapping items) ∈ source.whitelist.entries)
      (hitem : (item, v) ∈ Value.textEntries items)
      (hfield : Compile.WhitelistField.ofText item = .item) :
      AllowEntry source
        { places := [((Path.root.push "whitelist").push world).push item,
            (Path.root.push "whitelist").push world]
          worlds := .text world
          items := .text item
          actions := RuleEntry.actionsOf v }

end RuleSource

/-! ### Entries that take effect -/

namespace Compile

variable {scope : Scope} {source : RuleSource}

theorem isSome_options?_of_contribution {c : Contribution} (hc : c ∈ contributions scope source)
    {w : World} {i : Identity} {a : Action} (hcovers : c.covers w i a = true) :
    (options? (blacklist scope source).value w i a).isSome := by
  have hoptions : c.options ∈ Contribution.optionsFor (contributions scope source) w i a :=
    List.mem_map.2 ⟨c, List.mem_filter.2 ⟨hc, hcovers⟩, rfl⟩
  rw [(compiles_blacklist scope source).options?]
  change (Options.layer none (Contribution.optionsFor (contributions scope source) w i a)).isSome
  cases hall : Contribution.optionsFor (contributions scope source) w i a with
  | nil =>
    rw [hall] at hoptions
    cases hoptions
  | cons o os =>
    rw [Options.layer_cons]
    rfl

theorem mem_contributions {world item : String} {items : List (Value × Value)} {v : Value}
    (hworld : (world, .mapping items) ∈ source.blacklist.entries)
    (hitem : (item, v) ∈ Value.textEntries items) {q : ActionRule}
    (hq : q ∈ readActions scope (((Path.root.push "blacklist").push world).push item) v) :
    { worlds := (scope.keys .world).denoted (.text world)
      items := scope.items.denoted (.text item)
      actions := q.actions
      options := q.options : Contribution } ∈ contributions scope source := by
  generalize hroot : Path.root.push "blacklist" = root at hq
  let r : ItemRule := readItem scope (root.push world) item v
  let s : SectionRule :=
    { worlds := (scope.keys .world).denoted (.text world)
      items := (Value.textEntries items).map fun f => readItem scope (root.push world) f.1 f.2 }
  have hsection : s ∈ readSections scope source := by
    unfold readSections
    rw [hroot]
    refine List.mem_filterMap.2 ⟨(world, .mapping items), hworld, ?_⟩
    rw [readSection?, Domain.value_evaluate]
  have hr : r ∈ s.items := List.mem_map.2 ⟨(item, v), hitem, rfl⟩
  have hitems : r.items = scope.items.denoted (.text item) := Domain.value_evaluate _ _ _
  refine List.mem_flatMap.2 ⟨s, hsection, List.mem_flatMap.2 ⟨r, hr, List.mem_map.2 ⟨q, hq, ?_⟩⟩⟩
  rw [hitems]

theorem mem_actions_readActions (path : Path) {v : Value} {a : Action}
    (ha : a ∈ scope.actions.denoted (RuleEntry.actionsOf v)) :
    ∃ q ∈ readActions scope path v, a ∈ q.actions := by
  unfold RuleEntry.actionsOf at ha
  unfold readActions
  cases he : Expression.ofValue? v with
  | none =>
    -- what is no expression names no actions
    rw [he] at ha
    cases ha
  | some e =>
    rw [he] at ha
    refine ⟨_, List.mem_singleton.2 rfl, ?_⟩
    rwa [Domain.value_evaluate]

theorem mem_actions_readActions_mapping (path : Path) {actions : List (Value × Value)} {action : String}
    {v : Value} (haction : (action, v) ∈ Value.textEntries actions) {a : Action}
    (ha : a ∈ scope.actions.denoted (.text action)) :
    ∃ q ∈ readActions scope path (.mapping actions), a ∈ q.actions := by
  refine ⟨_, List.mem_map.2 ⟨(action, v), haction, rfl⟩, ?_⟩
  rwa [Domain.value_evaluate]

theorem exists_clause (path : Path) {items : List (Value × Value)} {item : String} {v : Value}
    (hitem : (item, v) ∈ Value.textEntries items) (hfield : WhitelistField.ofText item = .item)
    {i : Identity} {a : Action} (hi : i ∈ scope.items.denoted (.text item))
    (ha : a ∈ scope.actions.denoted (RuleEntry.actionsOf v)) :
    ∃ c ∈ readClauses scope path (.mapping items), c.Allows i a := by
  unfold RuleEntry.actionsOf at ha
  cases he : Expression.ofValue? v with
  | none =>
    rw [he] at ha
    cases ha
  | some e =>
    rw [he] at ha
    let c : Clause := .item (scope.items.denoted (.text item)) (scope.actions.denoted e)
    have hc : readClause? scope path item v = some c := by
      unfold readClause?
      rw [hfield, he]
      dsimp only
      rw [Option.map_some, Domain.value_evaluate, Domain.value_evaluate]
    exact ⟨c, List.mem_filterMap.2 ⟨(item, v), hitem, hc⟩, hi, ha⟩

theorem allows_of_listing {l : Listing} (hl : l ∈ readListings scope source) {w : World}
    (hw : w ∈ l.worlds) {c : Clause} (hc : c ∈ l.clauses) {i : Identity} {a : Action}
    (hallows : c.Allows i a) :
    ∃ list, (whitelists scope source).value.get? w = some list ∧ list.allows i a := by
  have hnone : Listing.Determines [] w ((∅ : Table World Whitelist).get? w) := by
    rintro l ⟨⟩
  have hdetermines := (lists_whitelists scope source).determines hnone
  rw [List.nil_append] at hdetermines
  cases hlist : (whitelists scope source).value.get? w with
  | none =>
    rw [hlist] at hdetermines
    exact absurd hw (hdetermines l hl)
  | some list =>
    rw [hlist] at hdetermines
    have hclause : c ∈ Listing.clausesFor (readListings scope source) w :=
      List.mem_flatMap.2 ⟨l, List.mem_filter.2 ⟨hl, decide_eq_true hw⟩, hc⟩
    exact ⟨list, rfl, (hdetermines.2.allows i a).2 ⟨c, hclause, hallows⟩⟩

end Compile

namespace RuleSource

variable {source : RuleSource} {e : RuleEntry} {scope : Scope}

theorem BanEntry.isSome_options? (h : source.BanEntry e) {w : World} {i : Identity} {a : Action}
    (hcovers : e.Covers scope w i a) :
    (Compile.options? (Compile.blacklist scope source).value w i a).isSome := by
  obtain ⟨hw, hi, ha⟩ := hcovers
  have hrule {world item : String} {items : List (Value × Value)} {v : Value}
      (hworld : (world, .mapping items) ∈ source.blacklist.entries)
      (hitem : (item, v) ∈ Value.textEntries items)
      (hw : w ∈ (scope.keys .world).denoted (.text world)) (hi : i ∈ scope.items.denoted (.text item))
      (hread : ∃ q ∈ Compile.readActions scope (((Path.root.push "blacklist").push world).push item) v,
        a ∈ q.actions) :
      (Compile.options? (Compile.blacklist scope source).value w i a).isSome := by
    obtain ⟨q, hq, ha⟩ := hread
    refine Compile.isSome_options?_of_contribution (Compile.mem_contributions hworld hitem hq) ?_
    simp [Contribution.covers, hw, hi, ha]
  cases h with
  | item hworld hitem hv =>
    exact hrule hworld hitem hw hi (Compile.mem_actions_readActions _ ha)
  | action hworld hitem haction =>
    exact hrule hworld hitem hw hi (Compile.mem_actions_readActions_mapping _ haction ha)

theorem AllowEntry.allows (h : source.AllowEntry e) {w : World} {i : Identity} {a : Action}
    (hcovers : e.Covers scope w i a) :
    ∃ list, (Compile.whitelists scope source).value.get? w = some list ∧ list.allows i a := by
  obtain ⟨hw, hi, ha⟩ := hcovers
  cases h with
  | @item world item items v hworld hitem hfield =>
    let l := Compile.readListing scope (Path.root.push "whitelist") world (.mapping items)
    have hl : l ∈ Compile.readListings scope source :=
      List.mem_map.2 ⟨(world, .mapping items), hworld, rfl⟩
    have hworlds : l.worlds = (scope.keys .world).denoted (.text world) := Domain.value_evaluate _ _ _
    obtain ⟨c, hc, hallows⟩ := Compile.exists_clause
      ((Path.root.push "whitelist").push world) hitem hfield hi ha
    exact Compile.allows_of_listing hl (hworlds ▸ hw) hc hallows

end RuleSource

/-! ### Entries without effect -/

namespace Compile

variable (scope : Scope) {source : RuleSource}

variable {world item : String} {items : List (Value × Value)} {v : Value}

theorem problems_worlds_subset_blacklist (hworld : (world, .mapping items) ∈ source.blacklist.entries) :
    (members (scope.keys .world) ((Path.root.push "blacklist").push world) (.text world)).problems ⊆
      (blacklist scope source).problems := by
  intro p hp
  rw [problems_blacklist]
  refine List.mem_flatMap.2 ⟨_, hworld, ?_⟩
  rw [problems_blacklistSection]
  exact List.mem_append_left _ hp

theorem problems_item_subset_blacklist (hworld : (world, .mapping items) ∈ source.blacklist.entries)
    (hitem : (item, v) ∈ Value.textEntries items) :
    (itemBans scope ((Path.root.push "blacklist").push world) item v).problems ⊆
      (blacklist scope source).problems := by
  intro p hp
  rw [problems_blacklist]
  refine List.mem_flatMap.2 ⟨_, hworld, ?_⟩
  rw [problems_blacklistSection]
  exact List.mem_append_right _ (List.mem_append_right _ (List.mem_flatMap.2 ⟨_, hitem, hp⟩))

theorem mem_actions_or_reported (path : Path) (key : String) {v : Value}
    (hv : ∀ entries, v ≠ .mapping entries) :
    (∃ a, a ∈ scope.actions.denoted (RuleEntry.actionsOf v))
      ∨ ∃ p ∈ (itemActions scope path key v).problems, p.path = path := by
  unfold RuleEntry.actionsOf
  cases he : Expression.ofValue? v with
  | some e =>
    rw [problems_itemActions_of_expression scope path key he]
    exact mem_denoted_or_reported scope.actions path e
  | none =>
    right
    have hproblems : (itemActions scope path key v).problems = [⟨path, .invalidPayload key .mapping⟩] := by
      unfold itemActions
      rw [he]
      cases v with
      | null => cases he
      | mapping entries => exact absurd rfl (hv entries)
      | _ => rfl
    exact ⟨_, hproblems ▸ List.mem_singleton.2 rfl, rfl⟩

theorem problems_members_subset_actionEntry (path : Path) (action : String) (v : Value) :
    (members scope.actions (path.push action) (.text action)).problems ⊆
      (actionEntry scope path action v).problems := by
  rw [problems_actionEntry]
  exact List.subset_append_left _ _

theorem problems_action_subset_itemActions (path : Path) (item : String)
    {actions : List (Value × Value)} {action : String} {v : Value}
    (haction : (action, v) ∈ Value.textEntries actions) :
    (actionEntry scope path action v).problems ⊆
      (itemActions scope path item (.mapping actions)).problems := by
  rw [problems_itemActions_of_mapping]
  exact fun p hp => List.mem_flatMap.2 ⟨(action, v), haction, hp⟩

theorem problems_worlds_subset_whitelists (hworld : (world, .mapping items) ∈ source.whitelist.entries) :
    (members (scope.keys .world) ((Path.root.push "whitelist").push world) (.text world)).problems ⊆
      (whitelists scope source).problems := by
  intro p hp
  rw [problems_whitelists]
  refine List.mem_flatMap.2 ⟨_, hworld, ?_⟩
  rw [problems_whitelistSection]
  exact List.mem_append_left _ hp

theorem problems_item_subset_whitelists (hworld : (world, .mapping items) ∈ source.whitelist.entries)
    (hitem : (item, v) ∈ Value.textEntries items) :
    (whitelistEntry scope ((Path.root.push "whitelist").push world) {} item v).problems ⊆
      (whitelists scope source).problems := by
  intro p hp
  rw [problems_whitelists]
  refine List.mem_flatMap.2 ⟨_, hworld, ?_⟩
  rw [problems_whitelistSection]
  exact List.mem_append_right _ (List.mem_append_right _ (List.mem_flatMap.2 ⟨_, hitem, hp⟩))

theorem mem_actions_or_reported_of_allow (path : Path) (item : String) (v : Value) :
    (∃ a, a ∈ scope.actions.denoted (RuleEntry.actionsOf v)) ∨
      ∃ p ∈ (match Expression.ofValue? v with
        | some e => (members scope.actions path e).problems
        | none => [⟨path, .invalidPayload item .actionExpression⟩] : Trail), p.path = path := by
  unfold RuleEntry.actionsOf
  cases Expression.ofValue? v with
  | some e => exact mem_denoted_or_reported _ _ e
  | none => exact .inr ⟨_, List.mem_singleton.2 rfl, rfl⟩

end Compile

namespace RuleSource

variable {source : RuleSource} {e : RuleEntry} (scope : Scope)

theorem BanEntry.covers_or_reported (h : source.BanEntry e) :
    (∃ w i a, e.Covers scope w i a) ∨ e.Reported (Compile.blacklist scope source).problems := by
  cases h with
  | @item world item items v hworld hitem hv =>
    have hsub := Compile.problems_item_subset_blacklist scope hworld hitem
    rw [Compile.problems_itemBans, List.append_subset] at hsub
    apply RuleEntry.covers_or_reported
    · exact (Compile.mem_denoted_or_reported _ _ _).imp_right
        (RuleEntry.reported_at (by simp) (Compile.problems_worlds_subset_blacklist scope hworld))
    · exact (Compile.mem_denoted_or_reported _ _ _).imp_right
        (RuleEntry.reported_at (by simp) hsub.1)
    · exact (Compile.mem_actions_or_reported scope _ item hv).imp_right
        (RuleEntry.reported_at (by simp) hsub.2)
  | @action world item action items actions v hworld hitem haction =>
    have hsub := Compile.problems_item_subset_blacklist scope hworld hitem
    rw [Compile.problems_itemBans, List.append_subset] at hsub
    -- the problems of an action are among those of its item, and these among those of the blacklist
    have hentry := Compile.problems_action_subset_itemActions scope
      (((Path.root.push "blacklist").push world).push item) item haction
    apply RuleEntry.covers_or_reported
    · exact (Compile.mem_denoted_or_reported _ _ _).imp_right
        (RuleEntry.reported_at (by simp) (Compile.problems_worlds_subset_blacklist scope hworld))
    · exact (Compile.mem_denoted_or_reported _ _ _).imp_right
        (RuleEntry.reported_at (by simp) hsub.1)
    · exact (Compile.mem_denoted_or_reported _ _ _).imp_right
        (RuleEntry.reported_at (by simp) (List.Subset.trans
          (Compile.problems_members_subset_actionEntry scope _ action v)
          (List.Subset.trans hentry hsub.2)))

theorem AllowEntry.covers_or_reported (h : source.AllowEntry e) :
    (∃ w i a, e.Covers scope w i a) ∨ e.Reported (Compile.whitelists scope source).problems := by
  cases h with
  | @item world item items v hworld hitem hfield =>
    have hsub := Compile.problems_item_subset_whitelists scope hworld hitem
    rw [Compile.problems_whitelistEntry_of_item scope _ _ v hfield, Compile.problems_allowEntry,
      List.append_subset] at hsub
    apply RuleEntry.covers_or_reported
    · exact (Compile.mem_denoted_or_reported _ _ _).imp_right
        (RuleEntry.reported_at (by simp) (Compile.problems_worlds_subset_whitelists scope hworld))
    · exact (Compile.mem_denoted_or_reported _ _ _).imp_right
        (RuleEntry.reported_at (by simp) hsub.1)
    · have hactions := Compile.mem_actions_or_reported_of_allow scope
        (((Path.root.push "whitelist").push world).push item) item v
      exact hactions.imp_right (RuleEntry.reported_at (by simp) hsub.2)

variable (source : RuleSource) (roster : Roster) (aliases : Aliases) (legacy : Bool) (engine : Engine)

/--
No entry under textual keys is lost: it takes effect on something that it covers, or a problem is
reported at its place or at that of an entry around it.
-/
theorem takes_effect_or_reported (e : RuleEntry) :
    let scope := source.scope roster aliases legacy engine
    let book := source.compile roster aliases legacy engine
    (source.BanEntry e →
        (∃ w i a, e.Covers scope w i a ∧ (book.options? w i a).isSome) ∨ e.Reported book.problems)
      ∧ (source.AllowEntry e →
        (∃ w i a, e.Covers scope w i a ∧ ∃ list, book.whitelist? w = some list ∧ list.allows i a)
          ∨ e.Reported book.problems) := by
  intro scope book
  constructor
  · intro h
    rcases h.covers_or_reported scope with ⟨w, i, a, hcovers⟩ | hreported
    · have hban := h.isSome_options? hcovers
      rw [← options?_bookAfter] at hban
      exact .inl ⟨w, i, a, hcovers, hban⟩
    · exact .inr (hreported.mono fun _ hp => source.mem_problems_compile _ _ _ _ (.inl hp))
  · intro h
    rcases h.covers_or_reported scope with ⟨w, i, a, hcovers⟩ | hreported
    · obtain ⟨list, hlist, hallows⟩ := h.allows hcovers
      refine .inl ⟨w, i, a, hcovers, list, ?_, hallows⟩
      unfold RuleBook.whitelist?
      rw [whitelists_compile]
      exact hlist
    · exact .inr (hreported.mono fun _ hp => source.mem_problems_compile _ _ _ _ (.inr hp))

theorem takes_effect_or_reported_town :
    let roster := (Roster.stock.add .world ["town"]).add .material ["stone"]
    let source : RuleSource :=
      { blacklist := .ofList [("town", .mapping [(.text "stone", .text "place")])]
        whitelist := .ofList [("town", .mapping [(.text "stone", .text "paint")])] }
    let ban : RuleEntry :=
      { places := [⟨["blacklist", "town", "stone"]⟩, ⟨["blacklist", "town"]⟩]
        worlds := .text "town", items := .text "stone", actions := .text "place" }
    let allow : RuleEntry :=
      { places := [⟨["whitelist", "town", "stone"]⟩, ⟨["whitelist", "town"]⟩]
        worlds := .text "town", items := .text "stone", actions := .text "paint" }
    let scope := source.scope roster ∅ false .builtIn
    let book := source.compile roster ∅ false
    source.BanEntry ban ∧ source.AllowEntry allow
      ∧ ((∃ w i a, ban.Covers scope w i a ∧ (book.options? w i a).isSome)
          ∨ ban.Reported book.problems)
      ∧ ((∃ w i a, allow.Covers scope w i a
            ∧ ∃ list, book.whitelist? w = some list ∧ list.allows i a)
          ∨ allow.Reported book.problems) := by
  intro roster source ban allow scope book
  have hban : source.BanEntry ban :=
    .item (v := .text "place") (List.mem_singleton.2 rfl) (List.mem_singleton.2 rfl) nofun
  have hfield : Compile.WhitelistField.ofText "stone" = .item := by decide
  have hallow : source.AllowEntry allow :=
    .item (v := .text "paint") (List.mem_singleton.2 rfl) (List.mem_singleton.2 rfl) hfield
  exact ⟨hban, hallow, (source.takes_effect_or_reported roster ∅ false _ ban).1 hban,
    (source.takes_effect_or_reported roster ∅ false _ allow).2 hallow⟩

/--
A key that is a number is passed over without a word.
-/
theorem number_key_is_lost :
    let roster := (Roster.stock.add .world ["town"]).add .material ["stone"]
    let source : RuleSource :=
      { blacklist := .ofList [("town", .mapping [(.number (.int 5), .text "place")])] }
    let book := source.compile roster ∅ false
    book.bans = [] ∧ book.problems = [] := by
  decide +kernel

end RuleSource

end Embargo
