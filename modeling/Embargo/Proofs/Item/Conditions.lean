import Embargo.Proofs.Item.Entries
import Embargo.Proofs.Item.Payloads

/-!
This module contains the proof that an identity is read back from the entry that describes it, if the
names in it stand for themselves.
-/

namespace Embargo

open Yaml (Value)

/-! ### Scalars -/

namespace Yaml.Value

theorem natural?_number (n : UInt32) : (number (.int n.toNat)).natural? = some n := by
  have hrange : (0 : Int) ≤ n.toNat ∧ (n.toNat : Int) < UInt32.size :=
    ⟨Int.natCast_nonneg _, Int.ofNat_lt.2 n.toNat_lt⟩
  unfold natural?
  dsimp only [untag]
  rw [if_pos hrange, Int.toNat_natCast, UInt32.ofNat_toNat]

theorem int32?_number (n : Int32) : (number (.int n.toInt)).int32? = some n := by
  have hrange : -(Nat.pow 2 31 : Int) ≤ n.toInt ∧ n.toInt < (Nat.pow 2 31 : Int) :=
    ⟨n.le_toInt, n.toInt_lt⟩
  change (if _ then _ else none) = some n
  rw [if_pos hrange, Int32.ofInt_toInt]

theorem lines?_seq (lines : List String) : (seq (lines.map .text)).lines? = some lines := by
  have hscalar (line : String) : (text line).scalarText? = some line := rfl
  change (lines.map text).mapM scalarText? = some lines
  induction lines with
  | nil => rfl
  | cons line lines ih =>
    rw [List.map_cons, List.mapM_cons, hscalar, ih]
    rfl

end Yaml.Value

theorem Load.watch_pure {α : Type} (a : α) : watch (pure a : Load α) = pure (a, false) := by
  funext trail
  change ((a, decide (trail.length < trail.length)), trail) = ((a, false), trail)
  rw [decide_eq_false (Nat.lt_irrefl _)]

/-! ### Levels -/

section Levels

variable {r : Registry} {scope : Scope}

def Scope.Knows (scope : Scope) (k : Key r) : Prop :=
  scope.key? r k.name = some k

instance (scope : Scope) (k : Key r) : Decidable (scope.Knows k) :=
  inferInstanceAs (Decidable (_ = _))

/--
Requirements that are read back as they are written: there are some, their keys are known, and none of
them is written as another one.
-/
structure KeyMap.Readable (scope : Scope) (levels : KeyMap r Level) : Prop where
  ne_nil : levels.entries ≠ []
  knows : ∀ e ∈ levels.entries, scope.Knows e.1
  ne_zero : ∀ e ∈ levels.entries, e.2 ≠ .exact 0

theorem KeyMap.Readable.knows_of_mem_keys {levels : KeyMap r Level} (h : levels.Readable scope)
    {k : Key r} (hk : k ∈ levels.keys) : scope.Knows k := by
  obtain ⟨e, he, rfl⟩ := List.mem_map.1 hk
  exact h.knows e he

def levelMapping (ps : List (String × UInt32)) : Value :=
  .ofFields (ps.map fun p => (p.1, .number (.int p.2.toNat)))

theorem mentionedLevels_levelMapping (path : Path) (ps : List (String × UInt32)) :
    mentionedLevels scope r path (levelMapping ps) =
      readLevelEntries scope r path (ps.map fun p => (.text p.1, .number (.int p.2.toNat))) := by
  unfold levelMapping Value.ofFields mentionedLevels
  rw [List.map_map]
  rfl

theorem readLevelEntries_cons (path : Path) (p : String × UInt32) (es : List (Value × Value)) :
    readLevelEntries scope r path ((.text p.1, .number (.int p.2.toNat)) :: es) =
      match scope.requirement? r p with
      | none => do
        Load.report path (.unknownToken (.key r) p.1)
        readLevelEntries scope r path es
      | some a => do
        let others ← readLevelEntries scope r path es
        return others.map (a :: ·) := by
  have hname : (Value.text p.1).scalarText? = some p.1 := rfl
  rw [readLevelEntries, hname, Value.natural?_number]
  unfold Scope.requirement?
  dsimp only
  cases scope.key? r p.1 with
  | none => rfl
  | some k => rfl

theorem readLevelEntries_of_requirements (path : Path) {ps : List (String × UInt32)} {as : List (Leveled r)}
    (h : scope.requirements? r ps = some as) :
    readLevelEntries scope r path (ps.map fun p => (.text p.1, .number (.int p.2.toNat))) =
      pure (some as) := by
  induction ps generalizing as with
  | nil =>
    cases h
    rfl
  | cons p ps ih =>
    rw [Scope.requirements?_cons] at h
    obtain ⟨a, ha, hrest⟩ := Option.bind_eq_some_iff.1 h
    obtain ⟨as, has, rfl⟩ := Option.map_eq_some_iff.1 hrest
    rw [List.map_cons, readLevelEntries_cons, ha]
    dsimp only
    rw [ih has, pure_bind]
    rfl

theorem requirements?_of_knows {es : List (Key r × Level)} (hknows : ∀ e ∈ es, scope.Knows e.1)
    (hzero : ∀ e ∈ es, e.2 ≠ .exact 0) :
    scope.requirements? r (es.map fun e => (e.1.name, e.2.toNumber)) =
      some (es.map fun e => ⟨e.1, e.2⟩) := by
  rw [Scope.requirements?_eq_some_iff, List.map_map, List.map_map]
  apply List.map_congr_left
  intro e he
  have hknown : scope.key? r e.1.name = some e.1 := hknows e he
  simp [Scope.requirement?, hknown, Level.ofNumber_toNumber (hzero e he)]

theorem collectLevels?_entries {levels : KeyMap r Level} (h : levels.entries ≠ []) :
    collectLevels? (levels.entries.map fun e => ⟨e.1, e.2⟩) = some levels := by
  have hkeys : (levels.entries.map fun e => (⟨e.1, e.2⟩ : Leveled r)).map Leveled.key = levels.keys := by
    rw [List.map_map]
    rfl
  have hentries : (levels.entries.map fun e => (⟨e.1, e.2⟩ : Leveled r)).map
      (fun a => (a.key, a.level)) = levels.entries := by
    rw [List.map_map]
    exact List.map_id _
  unfold collectLevels?
  rw [hkeys, hentries, KeyMap.ofList_entries, decide_eq_true levels.nodup_keys]
  simp [h]

theorem readLevels_levelsToValue (path : Path) {levels : KeyMap r Level} (h : levels.Readable scope) :
    readLevels scope r path (Predicate.levelsToValue levels) = pure (some levels) := by
  have hwritten : Predicate.levelsToValue levels =
      levelMapping (levels.entries.map fun e => (e.1.name, e.2.toNumber)) := by
    unfold Predicate.levelsToValue levelMapping
    rw [List.map_map]
    rfl
  have hmentioned : mentionedLevels scope r path (Predicate.levelsToValue levels) =
      pure (some (levels.entries.map fun e => ⟨e.1, e.2⟩)) := by
    rw [hwritten, mentionedLevels_levelMapping]
    exact readLevelEntries_of_requirements path (requirements?_of_knows h.knows h.ne_zero)
  unfold readLevels
  rw [hmentioned, Load.watch_pure, pure_bind]
  simp [collectLevels?_entries h.ne_nil]

end Levels

/-! ### Conditions -/

namespace Predicate

variable {scope : Scope}

def Readable (scope : Scope) : Predicate → Prop
  | enchantmentEquals levels | enchantmentContains levels => levels.Readable scope
  | potion levels | potionEquals levels => levels.Readable scope
  | _ => True

theorem ofPayload?_toValue (path : Path) {p : Predicate} (h : p.Readable scope) :
    ofPayload? scope path p.toValue p.kind = pure (some p) := by
  cases p with
  | displayNameEquals text => rfl
  | displayNameContains text => rfl
  | loreEquals lines | loreContains lines =>
    unfold ofPayload? toValue kind
    simp only [Value.lines?_seq, Option.map_some]
  | loreLineContains text => rfl
  | durability damage =>
    unfold ofPayload? toValue kind
    simp only [Value.natural?_number, Option.map_some]
  | enchantmentEquals levels | enchantmentContains levels =>
    unfold ofPayload? toValue kind
    simp only [readLevels_levelsToValue path h, pure_bind, Option.map_some]
  | potion levels | potionEquals levels =>
    unfold ofPayload? toValue kind
    simp only [readLevels_levelsToValue path h, pure_bind, Option.map_some]
  | modelDataEquals data =>
    unfold ofPayload? toValue kind
    simp only [Value.int32?_number, Option.map_some]

theorem read_toValue (path : Path) {p : Predicate} (h : p.Readable scope) :
    read scope p.kind path p.toValue = pure (some p) := by
  unfold read
  rw [ofPayload?_toValue path h, pure_bind]
  rfl

end Predicate

namespace PredicateKind

theorem ofText?_key (k : PredicateKind) : ofText? k.key = some k := by
  cases k <;> decide +kernel

theorem isMaterialKey_key (k : PredicateKind) : Identity.isMaterialKey k.key = false := by
  cases k <;> decide

end PredicateKind

/-! ### Identities -/

namespace Identity

variable {scope : Scope}

structure Readable (scope : Scope) (i : Identity) : Prop where
  material : scope.Knows i.material
  conditions : ∀ p ∈ i.predicates.toList, p.Readable scope

theorem readConditions_toValue (path : Path) {ps : List Predicate} (h : ∀ p ∈ ps, p.Readable scope) :
    readConditions scope path (ps.map fun p => (p.kind.key, p.toValue)) = pure (some ps) := by
  induction ps with
  | nil => rfl
  | cons p ps ih =>
    obtain ⟨hp, hps⟩ := List.forall_mem_cons.1 h
    have hcondition : readCondition scope path p.kind.key p.toValue = pure (some p) := by
      unfold readCondition
      rw [PredicateKind.ofText?_key]
      exact p.read_toValue (path.push p.kind.key) hp
    rw [List.map_cons, readConditions, hcondition, ih hps, pure_bind, pure_bind]

def fields (i : Identity) : List (String × Value) :=
  (materialKey, .text i.material.name) :: i.predicates.toList.map fun p => (p.kind.key, p.toValue)

theorem filter_fields (i : Identity) :
    i.fields.filter (fun f => !isMaterialKey f.1) =
      i.predicates.toList.map fun p => (p.kind.key, p.toValue) := by
  have hmaterial : isMaterialKey materialKey = true := by decide
  unfold fields
  rw [List.filter_cons_of_neg (by simp [hmaterial]), List.filter_eq_self]
  intro f hf
  obtain ⟨p, -, rfl⟩ := List.mem_map.1 hf
  simp [PredicateKind.isMaterialKey_key]

theorem foldl_withPredicate_toList (i : Identity) :
    i.predicates.toList.foldl withPredicate (plain i.material) = i := by
  rw [foldl_withPredicate]
  exact congrArg (Identity.mk i.material) i.predicates.foldl_insert_toList

theorem read_fields_eq (path : Path) (i : Identity) :
    read scope path (i.fields.map fun f => (.text f.1, f.2)) =
      match scope.key? .material i.material.name with
      | none => do
        Load.report path .missingMaterial
        return none
      | some m => do
        let ps ← readConditions scope path (i.predicates.toList.map fun p => (p.kind.key, p.toValue))
        return ps.map (·.foldl withPredicate (plain m)) := by
  have hname : (Value.field? (i.fields.map fun f => (.text f.1, f.2)) materialKey).bind Value.asText? =
      some i.material.name := by
    unfold fields
    rw [List.map_cons, Value.field?, if_pos rfl]
    rfl
  unfold read
  rw [hname, Value.textEntries_ofFields, filter_fields]
  rfl

theorem read_fields (path : Path) {i : Identity} (h : i.Readable scope) :
    read scope path (i.fields.map fun f => (.text f.1, f.2)) = pure (some i) := by
  have hmaterial := h.material
  unfold Scope.Knows at hmaterial
  rw [read_fields_eq, hmaterial]
  dsimp only
  rw [readConditions_toValue path h.conditions, pure_bind, Option.map_some, foldl_withPredicate_toList]

end Identity

theorem Catalogue.readEntry_toValue {scope : Scope} (path : Path) {name : String} {i : Identity}
    (hname : validateName name = .ok name) (h : i.Readable scope) :
    readEntry scope path name i.toValue = pure (some (name, i)) := by
  have hvalue : i.toValue = .mapping (i.fields.map fun f => (.text f.1, f.2)) := rfl
  unfold readEntry
  rw [hname, hvalue]
  dsimp only
  rw [i.read_fields (path.push name) h, pure_bind]
  rfl

/-! ### What is read -/

def Roster.Canonical (roster : Roster) : Prop :=
  ∀ r, ∀ k ∈ roster.members r, canonicalName k.name = k.name

section Reading

variable {scope : Scope} {r : Registry}

theorem Scope.knows_of_mem (hroster : scope.roster.Canonical) {k : Key r}
    (h : k ∈ scope.roster.members r) : scope.Knows k := by
  have hk : Key.ofText k.name = k := Key.ext (hroster r k h)
  unfold Knows key?
  rw [hk, if_pos h]

theorem Scope.knows_of_key? (hroster : scope.roster.Canonical) {name : String} {k : Key r}
    (h : scope.key? r name = some k) : scope.Knows k :=
  knows_of_mem hroster (mem_of_key? h)

theorem KeyMap.Offered.readable (hroster : scope.roster.Canonical) {levels : KeyMap r Level}
    (h : levels.Offered scope) : levels.Readable scope where
  ne_nil := h.ne_nil
  knows e he := Scope.knows_of_mem hroster (h.offers e he).member
  ne_zero e he := (h.offers e he).ne_zero

theorem Predicate.Offered.readable (hroster : scope.roster.Canonical) {p : Predicate}
    (h : p.Offered scope) : p.Readable scope := by
  cases p with
  | enchantmentEquals levels => exact KeyMap.Offered.readable hroster h
  | enchantmentContains levels => exact KeyMap.Offered.readable hroster h
  | potion levels => exact KeyMap.Offered.readable hroster h
  | potionEquals levels => exact KeyMap.Offered.readable hroster h
  | _ => trivial

theorem Predicate.readable_of_ofPayload? (hroster : scope.roster.Canonical) {path : Path} {v : Value}
    {kind : PredicateKind} {p : Predicate} (h : (ofPayload? scope path v kind).value = some p) :
    p.Readable scope :=
  (ofPayload?_eq_some h).2.2.readable hroster

theorem Identity.readable_of_readCondition (hroster : scope.roster.Canonical) {path : Path}
    {key : String} {v : Value} {p : Predicate}
    (h : (readCondition scope path key v).value = some p) : p.Readable scope := by
  unfold readCondition at h
  split at h
  · rw [Predicate.value_read] at h
    exact Predicate.readable_of_ofPayload? hroster h
  · cases h

theorem Identity.readConditions_cons_eq_some {path : Path} {f : String × Value}
    {fields : List (String × Value)} {ps : List Predicate}
    (h : (readConditions scope path (f :: fields)).value = some ps) :
    ∃ p others, (readCondition scope path f.1 f.2).value = some p
      ∧ (readConditions scope path fields).value = some others ∧ ps = p :: others := by
  have hadditive : (readConditions scope path fields).Additive :=
    (reports_readConditions scope (p := fun _ => True) fun _ _ => trivial).additive
  unfold readConditions at h
  rw [Load.value_bind fun p => hadditive.bind fun ps => Load.additive_pure _,
    Load.value_bind_pure] at h
  cases hp : (readCondition scope path f.1 f.2).value with
  | none =>
    rw [hp] at h
    cases h
  | some p =>
    cases hps : (readConditions scope path fields).value with
    | none =>
      rw [hp, hps] at h
      cases h
    | some others =>
      rw [hp, hps] at h
      cases h
      exact ⟨p, others, rfl, rfl, rfl⟩

theorem Identity.readable_of_readConditions (hroster : scope.roster.Canonical) {path : Path}
    {fields : List (String × Value)} {ps : List Predicate}
    (h : (readConditions scope path fields).value = some ps) : ∀ p ∈ ps, p.Readable scope := by
  induction fields generalizing ps with
  | nil =>
    cases h
    intro p hp
    cases hp
  | cons f fields ih =>
    obtain ⟨p, others, hp, hothers, rfl⟩ := readConditions_cons_eq_some h
    exact List.forall_mem_cons.2 ⟨readable_of_readCondition hroster hp, ih hothers⟩

theorem Identity.readable_of_read (hroster : scope.roster.Canonical) {path : Path}
    {entries : List (Value × Value)} {i : Identity}
    (h : (Identity.read scope path entries).value = some i) : i.Readable scope := by
  unfold Identity.read at h
  dsimp only at h
  split at h
  · cases h
  · next m hm =>
    rw [Load.value_bind_pure] at h
    obtain ⟨ps, hps, rfl⟩ := Option.map_eq_some_iff.1 h
    obtain ⟨name, -, hkey⟩ := Option.bind_eq_some_iff.1 hm
    rw [foldl_withPredicate]
    refine ⟨Scope.knows_of_key? hroster hkey, fun p hp => ?_⟩
    exact readable_of_readConditions hroster hps p (Predicates.mem_of_mem_toList_foldl_insert hp)

end Reading

end Embargo
