import Embargo.Proofs.Rule.Listing

/-!
This module contains the proof that the compiled whitelists say what their flat reading says. The
compilation collects a section on its own before it merges it into those of its worlds, and goes
through sets and tables on its way, whose order is of no account.
-/

namespace Embargo

open Yaml (Value)

namespace Compile

/-! ### Compilation in any order -/

inductive AllowsEach : List (Identity × OrderedSet Action) → Whitelist → Whitelist → Prop
  | nil {w : Whitelist} : AllowsEach [] w w
  | cons {i : Identity} {set actions : OrderedSet Action} {es : List (Identity × OrderedSet Action)}
      {w after : Whitelist} (perm : actions.toList.Perm set.toList)
      (rest : AllowsEach es (w.allow i actions) after) :
      AllowsEach ((i, set) :: es) w after

inductive Puts : Clause → Whitelist → Whitelist → Prop
  | message {text : String} {w : Whitelist} :
      Puts (.message text) w { w with message := some text }
  | ignored {set actions : OrderedSet Action} {w : Whitelist}
      (perm : actions.toList.Perm set.toList) :
      Puts (.ignored set) w { w with ignored := w.ignored.union actions }
  | item {items : OrderedSet Identity} {is : List Identity} {actions : OrderedSet Action}
      {w after : Whitelist} (perm : is.Perm items.toList)
      (allows : AllowsEach (is.map (·, actions)) w after) :
      Puts (.item items actions) w after

inductive PutsAll : List Clause → Whitelist → Whitelist → Prop
  | nil {w : Whitelist} : PutsAll [] w w
  | cons {c : Clause} {clauses : List Clause} {w mid after : Whitelist} (puts : Puts c w mid)
      (rest : PutsAll clauses mid after) :
      PutsAll (c :: clauses) w after

/--
`both` is the whitelist of a section on top of the one that a world has, the entries of the table and
the members of each set in some order. The first section of a world is taken as it is.
-/
inductive Joins (later : Whitelist) : Option Whitelist → Whitelist → Prop
  | first : Joins later none later
  | again {es : List (Identity × OrderedSet Action)} {actions : OrderedSet Action}
      {earlier mid : Whitelist} (entries : es.Perm later.allowed.entries)
      (allows : AllowsEach es earlier mid) (perm : actions.toList.Perm later.ignored.toList) :
      Joins later (some earlier)
        { allowed := mid.allowed
          ignored := earlier.ignored.union actions
          message := later.message.or earlier.message }

inductive ListsIn (later : Whitelist) :
    List World → Table World Whitelist → Table World Whitelist → Prop
  | nil {t : Table World Whitelist} : ListsIn later [] t t
  | cons {world : World} {worlds : List World} {t after : Table World Whitelist} {both : Whitelist}
      (joins : Joins later (t.get? world) both)
      (rest : ListsIn later worlds (t.insert world both) after) :
      ListsIn later (world :: worlds) t after

/--
`after` is a table of whitelists that some sections can be compiled to on top of `t`. Sets and tables
are gone through in any order, and in another one each time.
-/
inductive Lists : List Listing → Table World Whitelist → Table World Whitelist → Prop
  | nil {t : Table World Whitelist} : Lists [] t t
  | cons {l : Listing} {ls : List Listing} {w : Whitelist} {worlds : List World}
      {t mid after : Table World Whitelist} (puts : PutsAll l.clauses {} w)
      (perm : worlds.Perm l.worlds.toList) (listsIn : ListsIn w worlds t mid)
      (rest : Lists ls mid after) :
      Lists (l :: ls) t after

theorem PutsAll.append {clauses others : List Clause} {w mid after : Whitelist}
    (h : PutsAll clauses w mid) (rest : PutsAll others mid after) :
    PutsAll (clauses ++ others) w after := by
  induction h with
  | nil => exact rest
  | cons puts _ ih => exact .cons puts (ih rest)

theorem allowsEach_foldl (es : List (Identity × OrderedSet Action)) (w : Whitelist) :
    AllowsEach es w (es.foldl (fun w e => w.allow e.1 e.2) w) := by
  induction es generalizing w with
  | nil => exact .nil
  | cons e es ih => exact .cons (.refl _) (ih _)

theorem listsIn_listIn (later : Whitelist) (worlds : List World) (t : Table World Whitelist) :
    ListsIn later worlds t (listIn t worlds later) := by
  induction worlds generalizing t with
  | nil => exact .nil
  | cons world worlds ih =>
    have hjoins : Joins later (t.get? world) ((t.get? world).elim later (·.merge later)) := by
      cases t.get? world with
      | none => exact .first
      | some earlier => exact .again (.refl _) (allowsEach_foldl _ _) (.refl _)
    unfold listIn
    rw [List.foldl_cons, Table.upsert_eq_insert]
    exact .cons hjoins (ih _)

section Canonical

variable (scope : Scope)

theorem putsAll_allowEntry (path : Path) (w : Whitelist) (key : String) (v : Value) :
    PutsAll
      ((Expression.ofValue? v).map fun e => Clause.item (scope.items.evaluate path (.text key)).value
        (scope.actions.evaluate path e).value).toList
      w (allowEntry scope path w key v).value := by
  unfold allowEntry
  rw [Load.value_bind, value_members]
  · cases Expression.ofValue? v with
    | none => exact .nil
    | some e =>
      dsimp only
      rw [Load.value_bind_pure, value_members]
      have hallows := allowsEach_foldl ((scope.items.evaluate path (.text key)).value.toList.map
        (·, (scope.actions.evaluate path e).value)) w
      rw [List.foldl_map] at hallows
      exact .cons (.item (.refl _) hallows) .nil
  · intro items
    split
    · exact (reports_members scope.actions (path.into_self v) _).additive.bind fun _ =>
        Load.additive_pure _
    · exact (Load.additive_report _ _).bind fun _ => Load.additive_pure _

theorem putsAll_whitelistEntry (path : Path) (w : Whitelist) (key : String) (v : Value) :
    PutsAll (readClause? scope path key v).toList w (whitelistEntry scope path w key v).value := by
  unfold whitelistEntry readClause?
  dsimp only
  cases WhitelistField.ofText key with
  | message =>
    dsimp only
    cases v.messageLines? with
    | none => exact .nil
    | some lines => exact .cons .message .nil
  | ignored =>
    dsimp only
    cases Expression.ofValue? v with
    | none => exact .nil
    | some e =>
      dsimp only
      rw [Load.value_bind_pure]
      exact .cons (.ignored (.refl _)) .nil
  | item => exact putsAll_allowEntry scope (path.push key) w key v

theorem putsAll_entries (path : Path) (w : Whitelist) (fields : List (String × Value)) :
    PutsAll (fields.filterMap fun f => readClause? scope path f.1 f.2) w
      (fields.foldl (fun w f => (whitelistEntry scope path w f.1 f.2).value) w) := by
  induction fields generalizing w with
  | nil => exact .nil
  | cons f fields ih =>
    have hall := (putsAll_whitelistEntry scope path w f.1 f.2).append (ih _)
    rw [List.filterMap_cons, List.foldl_cons]
    cases hclause : readClause? scope path f.1 f.2 <;> rw [hclause] at hall <;> exact hall

theorem putsAll_section (path : Path) (key : String) (v : Value) :
    PutsAll (readClauses scope path v) {}
      ((Value.textEntries ((mappingEntries path key v).value.getD [])).foldl
        (fun w f => (whitelistEntry scope path w f.1 f.2).value) {}) := by
  rw [value_mappingEntries]
  -- a section that is no mapping is read as an empty one
  cases v with
  | mapping entries => exact putsAll_entries scope path {} _
  | _ => exact .nil

theorem value_whitelistSection (path : Path) (t : Table World Whitelist) (key : String) (v : Value) :
    (whitelistSection scope path t key v).value =
      listIn t (readListing scope path key v).worlds.toList
        ((Value.textEntries ((mappingEntries (path.push key) key v).value.getD [])).foldl
          (fun w f => (whitelistEntry scope (path.push key) w f.1 f.2).value) {}) := by
  have hentry (w : Whitelist) (f : String × Value) :
      (whitelistEntry scope (path.push key) w f.1 f.2).Additive :=
    additive_whitelistEntry scope (path.push key) w f.1 f.2
  have hlist (worlds : OrderedSet World) (entries : List (String × Value)) :
      (entries.foldlM (fun w f => whitelistEntry scope (path.push key) w f.1 f.2) {} >>= fun w =>
        pure (listIn t worlds.toList w)).Additive :=
    (Load.additive_foldlM hentry _ _).bind fun _ => Load.additive_pure _
  unfold whitelistSection
  rw [Load.value_bind, value_members, Load.value_bind fun entries => hlist _ _,
    Load.value_bind_pure, Load.value_foldlM hentry]
  · rfl
  · intro worlds
    exact (additive_mappingEntries _ key v).bind fun entries => hlist worlds _

theorem lists_whitelists (source : RuleSource) :
    Lists (readListings scope source) ∅ (whitelists scope source).value := by
  have hsection (t : Table World Whitelist) (s : String × Value) :
      (whitelistSection scope (Path.root.push "whitelist") t s.1 s.2).Additive :=
    additive_whitelistSection scope (Path.root.push "whitelist") t s.1 s.2
  have hfold (sections : List (String × Value)) (t : Table World Whitelist) :
      Lists (sections.map fun s => readListing scope (Path.root.push "whitelist") s.1 s.2) t
        (sections.foldl
          (fun t s => (whitelistSection scope (Path.root.push "whitelist") t s.1 s.2).value) t) := by
    induction sections generalizing t with
    | nil => exact .nil
    | cons s sections ih =>
      have hputs := putsAll_section scope ((Path.root.push "whitelist").push s.1) s.1 s.2
      rw [List.map_cons, List.foldl_cons]
      refine .cons hputs (.refl _) ?_ (ih _)
      rw [value_whitelistSection]
      apply listsIn_listIn
  unfold whitelists readListings
  rw [Load.value_foldlM hsection]
  apply hfold

end Canonical

/-! ### What each order comes to -/

structure Adds (clauses : List Clause) (w after : Whitelist) : Prop where
  allows (i : Identity) (a : Action) :
    after.allows i a ↔ w.allows i a ∨ ∃ c ∈ clauses, c.Allows i a
  ignores (a : Action) : after.ignores a ↔ w.ignores a ∨ ∃ c ∈ clauses, c.Ignores a
  message : after.message = (clauses.filterMap Clause.message?).getLast?.or w.message

theorem Adds.reflects {clauses others : List Clause} {w after : Whitelist} (h : Adds others w after)
    (hw : w.Reflects clauses) : after.Reflects (clauses ++ others) where
  allows i a := by
    rw [h.allows, hw.allows]
    simp only [List.mem_append, or_and_right, exists_or]
  ignores a := by
    rw [h.ignores, hw.ignores]
    simp only [List.mem_append, or_and_right, exists_or]
  message := by rw [h.message, hw.message, List.filterMap_append, List.getLast?_append]

theorem AllowsEach.allows {es : List (Identity × OrderedSet Action)} {w after : Whitelist}
    (h : AllowsEach es w after) (i : Identity) (a : Action) :
    after.allows i a ↔ w.allows i a ∨ ∃ e ∈ es, e.1 = i ∧ a ∈ e.2 := by
  induction h with
  | nil => simp
  | @cons j set actions es w after perm rest ih =>
    have hmem : a ∈ actions ↔ a ∈ set := perm.mem_iff
    rw [ih, Whitelist.allows_allow]
    simp only [Bool.or_eq_true, Bool.and_eq_true, decide_eq_true_eq, OrderedSet.contains_iff, hmem,
      List.mem_cons, exists_eq_or_imp]
    exact (or_congr_left or_comm).trans or_assoc

theorem AllowsEach.frame {es : List (Identity × OrderedSet Action)} {w after : Whitelist}
    (h : AllowsEach es w after) : after.ignored = w.ignored ∧ after.message = w.message := by
  induction h with
  | nil => exact ⟨rfl, rfl⟩
  | cons perm rest ih => exact ih

theorem Puts.adds {c : Clause} {w after : Whitelist} (h : Puts c w after) : Adds [c] w after := by
  cases h with
  | @message text w => exact
    { allows i a := by simp [Clause.Allows, Whitelist.allows]
      ignores a := by simp [Clause.Ignores, Whitelist.ignores]
      message := rfl }
  | @ignored set actions w perm => exact
    { allows i a := by simp [Clause.Allows, Whitelist.allows]
      ignores a := by
        have hmem : a ∈ actions ↔ a ∈ set := perm.mem_iff
        simp [Clause.Ignores, Whitelist.ignores_iff, hmem, or_comm]
      message := rfl }
  | @item items is actions w after perm each => exact
    { allows i a := by
        have hitems : (∃ e ∈ is.map (·, actions), e.1 = i ∧ a ∈ e.2) ↔ i ∈ items ∧ a ∈ actions := by
          constructor
          · rintro ⟨e, he, rfl, ha⟩
            obtain ⟨j, hj, rfl⟩ := List.mem_map.1 he
            exact ⟨perm.mem_iff.1 hj, ha⟩
          · rintro ⟨hi, ha⟩
            exact ⟨(i, actions), List.mem_map.2 ⟨i, perm.mem_iff.2 hi, rfl⟩, rfl, ha⟩
        rw [each.allows, hitems]
        simp [Clause.Allows]
      ignores a := by simp [Clause.Ignores, Whitelist.ignores, each.frame.1]
      message := each.frame.2 }

theorem PutsAll.reflects {clauses others : List Clause} {w after : Whitelist} (h : PutsAll others w after)
    (hw : w.Reflects clauses) : after.Reflects (clauses ++ others) := by
  induction h generalizing clauses with
  | nil => rwa [List.append_nil]
  | cons puts rest ih =>
    rw [List.append_cons]
    exact ih (puts.adds.reflects hw)

theorem Joins.adds {later earlier both : Whitelist} {clauses : List Clause}
    (h : Joins later (some earlier) both) (hlater : later.Reflects clauses) :
    Adds clauses earlier both := by
  cases h with
  | @again es actions earlier mid entries each perm => exact
    { allows i a := by
        -- the table of the section has been gone through entry by entry
        have hentries : (∃ e ∈ es, e.1 = i ∧ a ∈ e.2) ↔ later.allows i a := by
          rw [Whitelist.allows_iff]
          simp only [entries.mem_iff]
        rw [← hlater.allows, ← hentries]
        exact each.allows i a
      ignores a := by
        have hmem : a ∈ actions ↔ a ∈ later.ignored := perm.mem_iff
        rw [← hlater.ignores]
        simp only [Whitelist.ignores_iff, OrderedSet.mem_union, hmem]
        exact or_comm
      message := by rw [← hlater.message] }

theorem ListsIn.get?_of_notMem {later : Whitelist} {worlds : List World}
    {t after : Table World Whitelist} (h : ListsIn later worlds t after) {w : World}
    (hw : w ∉ worlds) : after.get? w = t.get? w := by
  induction h with
  | nil => rfl
  | cons joins rest ih =>
    rw [List.mem_cons, not_or] at hw
    rw [ih hw.2, Table.get?_insert, if_neg fun heq => hw.1 heq.symm]

theorem ListsIn.joins {later : Whitelist} {worlds : List World} {t after : Table World Whitelist}
    (h : ListsIn later worlds t after) (hnodup : worlds.Nodup) {w : World} (hw : w ∈ worlds) :
    ∃ both, Joins later (t.get? w) both ∧ after.get? w = some both := by
  induction h with
  | nil => cases hw
  | @cons world worlds t after both joins rest ih =>
    rw [List.nodup_cons] at hnodup
    by_cases heq : world = w
    · -- a world is in a set once, so nothing is added to it again
      subst heq
      exact ⟨both, joins, by rw [rest.get?_of_notMem hnodup.1, Table.get?_insert, if_pos rfl]⟩
    · have hrest : w ∈ worlds := (List.mem_cons.1 hw).resolve_left fun h => heq h.symm
      obtain ⟨later, hjoins, hget⟩ := ih hnodup.2 hrest
      rw [Table.get?_insert, if_neg heq] at hjoins
      exact ⟨later, hjoins, hget⟩

end Compile

namespace Listing

theorem clausesFor_append (ls others : List Listing) (w : World) :
    clausesFor (ls ++ others) w = clausesFor ls w ++ clausesFor others w := by
  unfold clausesFor
  rw [List.filter_append, List.flatMap_append]

theorem clausesFor_of_notMem {ls : List Listing} {w : World} (h : ∀ l ∈ ls, w ∉ l.worlds) :
    clausesFor ls w = [] := by
  unfold clausesFor
  rw [List.filter_eq_nil_iff.2 fun l hl => by simpa using h l hl]
  rfl

theorem clausesFor_singleton {l : Listing} {w : World} (h : w ∈ l.worlds) :
    clausesFor [l] w = l.clauses := by
  simp [clausesFor, h]

theorem Determines.concat {l : Listing} {ls : List Listing} {w : World} {old : Option Whitelist}
    (h : Determines ls w old) (hw : w ∉ l.worlds) : Determines (ls ++ [l]) w old := by
  have hl : ∀ k ∈ [l], w ∉ k.worlds := by simpa using hw
  cases old with
  | none => exact fun k hk => (List.mem_append.1 hk).elim (h k) (hl k)
  | some list =>
    obtain ⟨⟨k, hk, hworld⟩, hreflects⟩ := h
    refine ⟨⟨k, List.mem_append_left [l] hk, hworld⟩, ?_⟩
    rwa [clausesFor_append, clausesFor_of_notMem hl, List.append_nil]

end Listing

namespace Compile

open Listing (Determines)

theorem Joins.determines {l : Listing} {ls : List Listing} {later both : Whitelist} {w : World}
    {old : Option Whitelist} (h : Joins later old both) (hlater : later.Reflects l.clauses)
    (hold : Determines ls w old) (hw : w ∈ l.worlds) : Determines (ls ++ [l]) w (some both) := by
  refine ⟨⟨l, by simp, hw⟩, ?_⟩
  rw [Listing.clausesFor_append, Listing.clausesFor_singleton hw]
  cases old with
  | none =>
    cases h
    rwa [Listing.clausesFor_of_notMem hold, List.nil_append]
  | some earlier => exact (h.adds hlater).reflects hold.2

theorem ListsIn.determines {l : Listing} {ls : List Listing} {later : Whitelist} {worlds : List World}
    {t after : Table World Whitelist} (h : ListsIn later worlds t after)
    (perm : worlds.Perm l.worlds.toList) (hlater : later.Reflects l.clauses) {w : World}
    (ht : Determines ls w (t.get? w)) : Determines (ls ++ [l]) w (after.get? w) := by
  -- the whitelist of the section reaches the worlds of the section and no other
  by_cases hw : w ∈ l.worlds
  · obtain ⟨both, hjoins, hget⟩ := h.joins (perm.nodup_iff.2 l.worlds.nodup) (perm.mem_iff.2 hw)
    rw [hget]
    exact hjoins.determines hlater ht hw
  · rw [h.get?_of_notMem fun hmem => hw (perm.mem_iff.1 hmem)]
    exact ht.concat hw

theorem Lists.determines {ls before : List Listing} {t after : Table World Whitelist}
    (h : Lists ls t after) {w : World} (ht : Determines before w (t.get? w)) :
    Determines (before ++ ls) w (after.get? w) := by
  induction h generalizing before with
  | nil => rwa [List.append_nil]
  | cons puts perm listsIn rest ih =>
    have hreflects := puts.reflects Whitelist.reflects_empty
    rw [List.append_cons]
    exact ih (listsIn.determines perm hreflects ht)

end Compile

namespace RuleSource

theorem whitelists_bookAfter (source : RuleSource) (scope : Scope) (trail : Trail) :
    (source.bookAfter scope trail).whitelists = (Compile.whitelists scope source).value := by
  have hrun := Compile.additive_whitelists scope source
  unfold bookAfter rules
  rw [Load.run_bind, Load.run_bind, hrun]
  rfl

/--
The whitelist of a world is what the sections about the world determine, and a world that no section is
about has none. The same holds of whatever the sections can be compiled to in another order of the
sets.
-/
theorem determines_whitelist? (source : RuleSource) (scope : Scope) (trail : Trail) (w : World) :
    Listing.Determines (Compile.readListings scope source) w
        ((source.bookAfter scope trail).whitelist? w)
      ∧ ∀ whitelists, Compile.Lists (Compile.readListings scope source) ∅ whitelists →
          Listing.Determines (Compile.readListings scope source) w (whitelists.get? w) := by
  have hnone : Listing.Determines [] w ((∅ : Table World Whitelist).get? w) := by
    rintro l ⟨⟩
  have hany (whitelists : Table World Whitelist)
      (h : Compile.Lists (Compile.readListings scope source) ∅ whitelists) :
      Listing.Determines (Compile.readListings scope source) w (whitelists.get? w) :=
    h.determines hnone
  refine ⟨?_, hany⟩
  unfold RuleBook.whitelist?
  rw [whitelists_bookAfter]
  exact hany _ (Compile.lists_whitelists scope source)

theorem determines_whitelist?_reordered :
    let scope : Scope :=
      { roster := (Roster.stock.add .world ["town", "fort"]).add .material ["stone", "dirt"],
        aliases := ∅ }
    let source : RuleSource :=
      { whitelist := .ofList [
          ("town, fort", .mapping [(.text "stone, dirt", .text "place, break"),
            (.text "Message", .text "no")]),
          ("town", .mapping [(.text "ignored", .text "pickup")])] }
    let both : OrderedSet Action := ⟨[.breakBlock, .place], by decide⟩
    let pickup : OrderedSet Action := ⟨[.pickup], by decide⟩
    let list := (({} : Whitelist).allow (.plain ⟨"dirt"⟩) both).allow (.plain ⟨"stone"⟩) both
    let first : Whitelist := { list with message := some "no" }
    let second : Whitelist := { first with ignored := first.ignored.union pickup }
    let whitelists : Table World Whitelist :=
      ((Table.insert ∅ ⟨"fort"⟩ first).insert ⟨"town"⟩ first).insert ⟨"town"⟩ second
    Compile.Lists (Compile.readListings scope source) ∅ whitelists
      ∧ Listing.Determines (Compile.readListings scope source) ⟨"town"⟩
          (whitelists.get? ⟨"town"⟩) := by
  intro scope source both pickup list first second whitelists
  let order : OrderedSet Action := ⟨[.place, .breakBlock], by decide⟩
  let items : OrderedSet Identity := ⟨[.plain ⟨"stone"⟩, .plain ⟨"dirt"⟩], by decide⟩
  let worlds : OrderedSet World := ⟨[⟨"town"⟩, ⟨"fort"⟩], by decide⟩
  have hread : Compile.readListings scope source =
      [⟨worlds, [.item items order, .message "no"]⟩,
        ⟨⟨[⟨"town"⟩], by decide⟩, [.ignored pickup]⟩] := by
    rfl
  have hitem : Compile.Puts (.item items order) {} list :=
    .item (.swap _ _ _) (.cons (.swap _ _ _) (.cons (.swap _ _ _) .nil))
  have hfirst : Compile.ListsIn first [⟨"fort"⟩, ⟨"town"⟩] ∅
      ((Table.insert ∅ ⟨"fort"⟩ first).insert ⟨"town"⟩ first) :=
    .cons .first (.cons .first .nil)
  have hsecond : Compile.ListsIn { ignored := pickup } [⟨"town"⟩]
      ((Table.insert ∅ ⟨"fort"⟩ first).insert ⟨"town"⟩ first) whitelists :=
    .cons (.again .nil .nil (.refl _)) .nil
  have hlists : Compile.Lists (Compile.readListings scope source) ∅ whitelists := by
    rw [hread]
    exact .cons (.cons hitem (.cons .message .nil)) (.swap _ _ _) hfirst
      (.cons (.cons (.ignored (.refl _)) .nil) (.refl _) hsecond .nil)
  exact ⟨hlists, (determines_whitelist? source scope [] ⟨"town"⟩).2 _ hlists⟩

end RuleSource

end Embargo
