import Embargo.Collection.Unrevoked
import Embargo.Proofs.Item.Captured
import Embargo.Proofs.Item.RoundTrip

/-!
This module contains what entries of custom items say and what they are loaded as. Of two keys for one
kind of condition the last one counts, and keys that are no texts are passed over, so an entry without
either is loaded as it is written.
-/

namespace Embargo

open Yaml (Value)

theorem Predicates.mem_toList_insert {ps : Predicates} {p q : Predicate} :
    q ∈ (ps.insert p).toList ↔ q = p ∨ q ∈ ps.toList ∧ p.kind ≠ q.kind := by
  rw [mem_toList, mem_toList, get?_insert]
  by_cases hkind : p.kind = q.kind
  · simp [hkind, eq_comm]
  · have hne : q ≠ p := fun h => hkind (h ▸ rfl)
    simp [hkind, hne]

namespace Identity

/--
The textual keys of an entry that are about conditions, with their values. Every key that is spelled like
`material`, in whatever case, is taken for the key of the material and left out.
-/
def conditionFields (fields : List (Value × Value)) : List (String × Value) :=
  (Value.textEntries fields).filter fun f => !isMaterialKey f.1

variable (scope : Scope) (path : Path)

def Asks (f : String × Value) (p : Predicate) : Prop :=
  ∃ kind, PredicateKind.ofText? f.1 = some kind
    ∧ (Predicate.read scope kind (path.push f.1) f.2).value = some p

/--
A stack is of the material that an entry names, and each other key of the entry asks something that the
stack satisfies. The material is under `material` in lowercase. Keys that differ from this one in case only
are taken for it, too, and ask nothing: a second material under `Material` is not looked at.
-/
structure SatisfiesWritten (fields : List (Value × Value)) (s : Stack) : Prop where
  material : ∃ raw, (Value.field? fields materialKey).bind Value.asText? = some raw
    ∧ scope.key? .material raw = some s.material
  conditions : ∀ f ∈ fields, ∃ key, f.1.asText? = some key
    ∧ (isMaterialKey key = true ∨ ∃ p, Asks scope path (key, f.2) p ∧ p.holds s = true)

/--
All keys of an entry are texts, and no two of them name one kind of condition.
-/
structure Unambiguous (fields : List (Value × Value)) : Prop where
  texts : ∀ f ∈ fields, f.1.asText?.isSome = true
  kinds : ((conditionFields fields).map fun f => PredicateKind.ofText? f.1).Nodup

def Prevails (fs : List (String × Value)) (f : String × Value) : Prop :=
  Unrevoked (fun g => PredicateKind.ofText? g.1 = PredicateKind.ofText? f.1) fs f

/--
What an entry is loaded as: a material that it names, and the last condition of each kind.
-/
structure LoadedFrom (fields : List (Value × Value)) (i : Identity) : Prop where
  material : ∃ raw, (Value.field? fields materialKey).bind Value.asText? = some raw
    ∧ scope.key? .material raw = some i.material
  asks : ∀ f ∈ conditionFields fields, ∃ p, Asks scope path f p
  holds_iff (s : Stack) : i.holds s = true ↔ s.material = i.material
    ∧ ∀ f p, Prevails (conditionFields fields) f → Asks scope path f p → p.holds s = true

variable {scope path}

theorem Asks.eq {f : String × Value} {p q : Predicate} (hp : Asks scope path f p)
    (hq : Asks scope path f q) : p = q := by
  obtain ⟨kind, hkind, hp⟩ := hp
  obtain ⟨other, hother, hq⟩ := hq
  obtain rfl := Option.some.inj (hkind.symm.trans hother)
  exact Option.some.inj (hp.symm.trans hq)

theorem Asks.kind {f : String × Value} {p : Predicate} (h : Asks scope path f p) :
    PredicateKind.ofText? f.1 = some p.kind := by
  obtain ⟨kind, hkind, hread⟩ := h
  rw [Predicate.value_read] at hread
  rw [hkind, Predicate.kind_of_ofPayload? hread]

theorem asks_of_readCondition {f : String × Value} {p : Predicate}
    (h : (readCondition scope path f.1 f.2).value = some p) : Asks scope path f p := by
  unfold readCondition at h
  split at h
  · next kind hkind => exact ⟨kind, hkind, h⟩
  · cases h

theorem forall₂_asks_of_readConditions {fs : List (String × Value)} {ps : List Predicate}
    (h : (readConditions scope path fs).value = some ps) : List.Forall₂ (Asks scope path) fs ps := by
  induction fs generalizing ps with
  | nil =>
    cases h
    exact .nil
  | cons f fs ih =>
    obtain ⟨p, others, hp, hothers, rfl⟩ := readConditions_cons_eq_some h
    exact .cons (asks_of_readCondition hp) (ih hothers)

theorem exists_asks_of_forall₂ {fs : List (String × Value)} {ps : List Predicate}
    (h : List.Forall₂ (Asks scope path) fs ps) : ∀ f ∈ fs, ∃ p, Asks scope path f p := by
  induction h with
  | nil => simp
  | cons hasks _ ih => exact List.forall_mem_cons.2 ⟨⟨_, hasks⟩, ih⟩

theorem mem_toList_foldl_insert_iff {fs : List (String × Value)} {ps : List Predicate}
    (h : List.Forall₂ (Asks scope path) fs ps) (qs : Predicates) {p : Predicate} :
    p ∈ (ps.foldl Predicates.insert qs).toList ↔
      (∃ f, Prevails fs f ∧ Asks scope path f p)
        ∨ p ∈ qs.toList ∧ ∀ f ∈ fs, PredicateKind.ofText? f.1 ≠ some p.kind := by
  induction h generalizing qs with
  | nil => simp [Prevails]
  | @cons f q fs ps hasks _ ih =>
    rw [List.foldl_cons, ih, Predicates.mem_toList_insert]
    have hkind : PredicateKind.ofText? f.1 = some p.kind ↔ q.kind = p.kind := by
      rw [hasks.kind, Option.some.injEq]
    -- the first key is the only one that asks `q`, and it prevails if no other one is of its kind
    have hfirst : (∃ g, (g = f ∧ ∀ c ∈ fs, ¬ PredicateKind.ofText? c.1 = PredicateKind.ofText? g.1)
        ∧ Asks scope path g p) ↔ p = q ∧ ∀ c ∈ fs, ¬ PredicateKind.ofText? c.1 = some p.kind := by
      constructor
      · rintro ⟨_, ⟨rfl, hlater⟩, hp⟩
        obtain rfl := hasks.eq hp
        exact ⟨rfl, hasks.kind ▸ hlater⟩
      · rintro ⟨rfl, hlater⟩
        exact ⟨f, ⟨rfl, hasks.kind.symm ▸ hlater⟩, hasks⟩
    simp only [Prevails, unrevoked_cons, or_and_right, exists_or, hfirst, List.forall_mem_cons, Ne, hkind]
    grind

theorem holds_foldl_withPredicate {fs : List (String × Value)} {ps : List Predicate}
    (h : List.Forall₂ (Asks scope path) fs ps) (m : Material) (s : Stack) :
    (ps.foldl withPredicate (plain m)).holds s = true ↔
      s.material = m ∧ ∀ f p, Prevails fs f → Asks scope path f p → p.holds s = true := by
  -- there is nothing before the keys that could have stayed
  have hempty : (plain m).predicates.toList = [] := rfl
  rw [foldl_withPredicate]
  simp only [holds, Bool.and_eq_true, beq_iff_eq, List.all_eq_true, mem_toList_foldl_insert_iff h, hempty,
    List.not_mem_nil, false_and, or_false, forall_exists_index, and_imp]
  exact and_congr_right fun _ => forall_comm

theorem loadedFrom_of_read {fields : List (Value × Value)} {i : Identity}
    (h : (read scope path fields).value = some i) : LoadedFrom scope path fields i := by
  simp only [read] at h
  split at h
  · cases h
  · next m hm =>
    rw [Load.value_bind_pure] at h
    obtain ⟨ps, hps, rfl⟩ := Option.map_eq_some_iff.1 h
    have hasks : List.Forall₂ (Asks scope path) (conditionFields fields) ps :=
      forall₂_asks_of_readConditions hps
    have hmaterial : (ps.foldl withPredicate (plain m)).material = m := by
      rw [foldl_withPredicate]
      rfl
    refine ⟨?_, ?_, ?_⟩
    · rw [hmaterial]
      exact Option.bind_eq_some_iff.1 hm
    · exact exists_asks_of_forall₂ hasks
    · rw [hmaterial]
      exact holds_foldl_withPredicate hasks m

theorem mem_conditionFields {fields : List (Value × Value)} {f : String × Value} :
    f ∈ conditionFields fields ↔
      (∃ k, (k, f.2) ∈ fields ∧ k.asText? = some f.1) ∧ isMaterialKey f.1 = false := by
  unfold conditionFields Value.textEntries
  rw [List.mem_filter, List.mem_filterMap, Bool.not_eq_true']
  refine and_congr_left fun _ => ⟨?_, ?_⟩
  · rintro ⟨⟨k, v⟩, he, hf⟩
    obtain ⟨key, hkey, rfl⟩ := Option.map_eq_some_iff.1 hf
    exact ⟨k, he, hkey⟩
  · rintro ⟨k, hk, hkey⟩
    exact ⟨(k, f.2), hk, by simp [hkey]⟩

theorem prevails_of_nodup {fs : List (String × Value)}
    (h : (fs.map fun f => PredicateKind.ofText? f.1).Nodup) {f : String × Value} (hf : f ∈ fs) :
    Prevails fs f := by
  obtain ⟨front, back, rfl⟩ := List.append_of_mem hf
  refine ⟨front, back, rfl, fun g hg hsame => ?_⟩
  rw [List.map_append, List.map_cons] at h
  have hlater := (List.nodup_cons.1 (List.nodup_append.1 h).2.1).1
  exact hlater (List.mem_map.2 ⟨g, hg, hsame⟩)

theorem LoadedFrom.holds_iff_satisfiesWritten {fields : List (Value × Value)} {i : Identity}
    (h : LoadedFrom scope path fields i) (hfields : Unambiguous fields) (s : Stack) :
    i.holds s = true ↔ SatisfiesWritten scope path fields s := by
  obtain ⟨raw, hraw, hmaterial⟩ := h.material
  rw [h.holds_iff]
  constructor
  · rintro ⟨hsame, hconditions⟩
    refine ⟨⟨raw, hraw, hsame ▸ hmaterial⟩, fun f hf => ?_⟩
    -- every key is a text, and as no other one is of its kind it prevails
    obtain ⟨key, hkey⟩ := Option.isSome_iff_exists.1 (hfields.texts f hf)
    refine ⟨key, hkey, ?_⟩
    by_cases hspelled : isMaterialKey key = true
    · exact .inl hspelled
    · have hmem : (key, f.2) ∈ conditionFields fields :=
        mem_conditionFields.2 ⟨⟨f.1, hf, hkey⟩, by simpa using hspelled⟩
      obtain ⟨p, hp⟩ := h.asks _ hmem
      exact .inr ⟨p, hp, hconditions _ p (prevails_of_nodup hfields.kinds hmem) hp⟩
  · rintro ⟨⟨raw', hraw', hmaterial'⟩, hwritten⟩
    obtain rfl := Option.some.inj (hraw.symm.trans hraw')
    refine ⟨Option.some.inj (hmaterial'.symm.trans hmaterial), fun f p hf hp => ?_⟩
    obtain ⟨⟨k, hk, htext⟩, hspelled⟩ := mem_conditionFields.1 hf.mem
    obtain ⟨key, hkey, hasks⟩ := hwritten _ hk
    obtain rfl := Option.some.inj (htext.symm.trans hkey)
    rcases hasks with hmaterialKey | ⟨q, hq, hholds⟩
    · rw [hspelled] at hmaterialKey
      cases hmaterialKey
    · exact hp.eq hq ▸ hholds

end Identity

namespace Catalogue

/--
Every item of a catalogue is what an entry of its section is loaded as. A stack is one of an item only
if it satisfies the conditions of the entry that prevail, and these are all that is written if the entry
is not ambiguous. Other spellings of `material` are no conditions and are never ambiguous: what is written
under `Material` beside `material: stone` counts as satisfied by each stone.
-/
theorem holds_iff_of_loaded (scope : Scope) (path : Path) (entries : List (String × Value)) :
    (∀ item ∈ (read scope path entries).value.items,
        ∃ e ∈ entries, (readEntry scope path e.1 e.2).value = some item)
      ∧ ∀ e ∈ entries, ∀ item, (readEntry scope path e.1 e.2).value = some item →
        ∃ fields, e.2 = .mapping fields
          ∧ Identity.LoadedFrom scope (path.push e.1) fields item.2
          ∧ (Identity.Unambiguous fields → ∀ s, item.2.holds s = true ↔
              Identity.SatisfiesWritten scope (path.push e.1) fields s) := by
  refine ⟨fun item hitem => exists_entry_of_mem_read hitem, fun e _ item hload => ?_⟩
  obtain ⟨-, fields, hfields, hread⟩ := entryItem?_eq_some hload
  have hloaded := Identity.loadedFrom_of_read hread
  exact ⟨fields, hfields, hloaded, hloaded.holds_iff_satisfiesWritten⟩

theorem holds_iff_of_loaded_relic :
    let scope : Scope := { roster := Roster.stock.add .material ["stone"], aliases := ∅ }
    let fields : List (Value × Value) :=
      [(.text "Lore_Contains", .text "old"), (.text "material", .text "minecraft:Stone"),
        (.text "display-name-equals", .text "Relic")]
    let entries : List (String × Value) := [("relic", .mapping fields)]
    let i := (Identity.plain ⟨"stone"⟩).withPredicate (.loreContains ["old"])
      |>.withPredicate (.displayNameEquals "Relic")
    (read scope .root entries).value.get? "relic" = some i
      ∧ ∀ s, i.holds s = true ↔ Identity.SatisfiesWritten scope (Path.root.push "relic") fields s := by
  intro scope fields entries i
  have hload : (readEntry scope .root "relic" (.mapping fields)).value = some ("relic", i) := by
    decide +kernel
  have hfields : Identity.Unambiguous fields := ⟨by decide, by decide +kernel⟩
  obtain ⟨-, hloaded⟩ := holds_iff_of_loaded scope .root entries
  obtain ⟨fields', hsame, -, hholds⟩ := hloaded _ List.mem_cons_self _ hload
  obtain rfl : fields = fields' := Value.mapping.inj hsame
  exact ⟨by decide +kernel, hholds hfields⟩

/--
Two spellings of one key, of which the first is without effect, and a number as a key.
-/
theorem looser_than_written :
    let scope : Scope := { roster := Roster.stock.add .material ["stone"], aliases := ∅ }
    let spelled : List (Value × Value) :=
      [(.text "material", .text "stone"), (.text "display-name-equals", .text "Relic"),
        (.text "display_name_equals", .text "Gem")]
    let numbered : List (Value × Value) :=
      [(.text "material", .text "stone"), (.number (.int 5), .text "Relic")]
    let c := (read scope .root [("spelled", .mapping spelled), ("numbered", .mapping numbered)]).value
    let gem := Stack.withDisplayName { material := ⟨"stone"⟩ } "Gem"
    (∃ i, c.get? "spelled" = some i ∧ i.holds gem = true
        ∧ ¬ Identity.SatisfiesWritten scope (Path.root.push "spelled") spelled gem)
      ∧ ∃ i, c.get? "numbered" = some i ∧ i.holds gem = true
        ∧ ¬ Identity.SatisfiesWritten scope (Path.root.push "numbered") numbered gem := by
  intro scope spelled numbered c gem
  refine ⟨⟨(Identity.plain ⟨"stone"⟩).withPredicate (.displayNameEquals "Gem"), by decide +kernel,
    by decide +kernel, fun h => ?_⟩, ⟨.plain ⟨"stone"⟩, by decide +kernel, by decide +kernel, fun h => ?_⟩⟩
  · obtain ⟨key, hkey, hasks⟩ := h.conditions (.text "display-name-equals", .text "Relic") (by simp [spelled])
    obtain rfl : "display-name-equals" = key := Option.some.inj hkey
    rcases hasks with hmaterial | ⟨p, ⟨kind, hkind, hread⟩, hholds⟩
    · exact absurd hmaterial (by decide)
    · obtain rfl : .displayNameEquals = kind :=
        Option.some.inj ((PredicateKind.ofText?_key .displayNameEquals).symm.trans hkind)
      obtain rfl : .displayNameEquals "Relic" = p := Option.some.inj hread
      exact absurd hholds (by decide)
  · obtain ⟨key, hkey, -⟩ := h.conditions (.number (.int 5), .text "Relic") (by simp [numbered])
    cases hkey

end Catalogue

end Embargo
