import Embargo.Proofs.Expression.Tokens
import Mathlib.Data.List.Induction

/-!
This module contains what becomes of options that are refused: each field has what its last entry leaves
there, and an entry that is refused leaves the field as it is, unless it is a restriction to members of a
registry, which is lifted.
-/

namespace Embargo

open Yaml (Value)

/-! ### Refusals -/

/--
Whether a problem refuses an entry as a whole. Other problems are about the names in it.
-/
def Problem.isRefusal : Problem → Bool
  | invalidPayload _ _ | invalidValue _ _ | unknownOption _ => true
  | _ => false

namespace Domain

variable {α : Type} {d : Domain α}

theorem isRefusal_of_meaning {token : String} {problem : Problem} (h : d.meaning token = .error problem) :
    problem.isRefusal = false := by
  unfold meaning at h
  split at h
  · cases h
  · split at h
    · cases h
    · cases h
      rfl
  · split at h
    · cases h
    · cases h
      rfl
    · cases h
      rfl

theorem isRefusal_of_mentioned {path : Path} {token : String} {p : LoadError}
    (h : p ∈ (d.mentioned path token).problems) : p.problem.isRefusal = false := by
  unfold mentioned at h
  split at h
  · cases h
  · next problem hmeaning =>
    obtain rfl := List.mem_singleton.1 h
    exact isRefusal_of_meaning hmeaning

theorem isRefusal_of_evaluate [DecidableEq α] {path : Path} {e : Expression} {p : LoadError}
    (h : p ∈ (d.evaluate path e).problems) : p.problem.isRefusal = false := by
  unfold evaluate at h
  rw [problems_evaluateTokens] at h
  obtain ⟨token, -, h⟩ := List.mem_flatMap.1 h
  rw [evaluateTokens_singleton] at h
  unfold applyToken at h
  dsimp only at h
  split at h
  · cases h
  · rw [Load.problems_bind_pure] at h
    exact isRefusal_of_mentioned h
  · rw [Load.problems_bind_pure] at h
    exact isRefusal_of_mentioned h

end Domain

/-! ### Fields -/

namespace OptionField

def Content : OptionField → Type
  | message => List String
  | log => Option Bool
  | cooldown => Option Nat
  | entities => Option (OrderedSet EntityType)
  | gameModes => Option (OrderedSet GameMode)
  | inventoryFrom | inventoryTo => Option (OrderedSet InventoryType)
  | materials => Option (OrderedSet Material)
  | regions => Option (OrderedSet String)

def registry? : OptionField → Option Registry
  | entities => some .entity
  | gameModes => some .gameMode
  | inventoryFrom | inventoryTo => some .inventoryType
  | materials => some .material
  | _ => none

end OptionField

namespace Options

def get (o : Options) : (f : OptionField) → f.Content
  | .message => o.messages
  | .log => o.log
  | .cooldown => o.cooldown
  | .entities => o.restrictions.entities
  | .gameModes => o.restrictions.gameModes
  | .inventoryFrom => o.restrictions.inventoryFrom
  | .inventoryTo => o.restrictions.inventoryTo
  | .materials => o.restrictions.materials
  | .regions => o.restrictions.regions

def set (o : Options) : (f : OptionField) → f.Content → Options
  | .message, lines => { o with messages := lines }
  | .log, flag => { o with log := flag }
  | .cooldown, ms => { o with cooldown := ms }
  | .entities, set => { o with restrictions := { o.restrictions with entities := set } }
  | .gameModes, set => { o with restrictions := { o.restrictions with gameModes := set } }
  | .inventoryFrom, set => { o with restrictions := { o.restrictions with inventoryFrom := set } }
  | .inventoryTo, set => { o with restrictions := { o.restrictions with inventoryTo := set } }
  | .materials, set => { o with restrictions := { o.restrictions with materials := set } }
  | .regions, set => { o with restrictions := { o.restrictions with regions := set } }

@[simp]
theorem get_set (o : Options) (f : OptionField) (c : f.Content) : (o.set f c).get f = c := by
  cases f <;> rfl

theorem get_set_of_ne (o : Options) {f g : OptionField} (h : f ≠ g) (c : f.Content) :
    (o.set f c).get g = o.get g := by
  cases f <;> cases g <;> first | rfl | exact absurd rfl h

theorem ext_get {o p : Options} (h : ∀ f, o.get f = p.get f) : o = p := by
  obtain ⟨messages, log, cooldown, entities, gameModes, inventoryFrom, inventoryTo, materials, regions⟩ := o
  obtain ⟨messages', log', cooldown', entities', gameModes', inventoryFrom', inventoryTo', materials',
    regions'⟩ := p
  obtain rfl : messages = messages' := h .message
  obtain rfl : log = log' := h .log
  obtain rfl : cooldown = cooldown' := h .cooldown
  obtain rfl : entities = entities' := h .entities
  obtain rfl : gameModes = gameModes' := h .gameModes
  obtain rfl : inventoryFrom = inventoryFrom' := h .inventoryFrom
  obtain rfl : inventoryTo = inventoryTo' := h .inventoryTo
  obtain rfl : materials = materials' := h .materials
  obtain rfl : regions = regions' := h .regions
  rfl

variable (scope : Scope)

def readMembers? (r : Registry) (v : Value) : Option (Option (OrderedSet (Key r))) :=
  (Expression.ofValue? v).map fun e => some ((scope.keys r).denoted e)

def content? (v : Value) : (f : OptionField) → Option f.Content
  | .message => v.messageLines?
  | .log => v.asBool?.map some
  | .cooldown => v.milliseconds?.map some
  | .entities => readMembers? scope .entity v
  | .gameModes => readMembers? scope .gameMode v
  | .inventoryFrom => readMembers? scope .inventoryType v
  | .inventoryTo => readMembers? scope .inventoryType v
  | .materials => readMembers? scope .material v
  | .regions => (Expression.ofValue? v).map fun e => some (regionNames e)

def afterRefusal (o : Options) (f : OptionField) : f.Content :=
  if f.registry?.isSome then ({} : Options).get f else o.get f

theorem content?_ne_initial {v : Value} {f : OptionField} (hf : f.registry?.isSome = true) :
    content? scope v f ≠ some (({} : Options).get f) := by
  have hmembers (r : Registry) : readMembers? scope r v ≠ some none := by
    unfold readMembers?
    cases Expression.ofValue? v <;> simp
  cases f with
  | entities | gameModes | inventoryFrom | inventoryTo | materials => exact hmembers _
  | _ => cases hf

/-! ### One entry -/

theorem value_readRestriction (r : Registry) (key : String) (path : Path) (v : Value) :
    (readRestriction scope r key path v).value = (readMembers? scope r v).getD none := by
  unfold readRestriction readMembers?
  cases Expression.ofValue? v with
  | none => rfl
  | some e =>
    dsimp only
    rw [Load.value_bind_pure, Domain.value_evaluate]
    rfl

theorem value_readField (path : Path) (o : Options) (key : String) (v : Value) :
    (readField scope path o key v).value = match OptionField.ofText? key with
      | some f => o.set f ((content? scope v f).getD (o.afterRefusal f))
      | none => o := by
  have hrestriction (r : Registry) (put : Option (OrderedSet (Key r)) → Options) :
      (readRestriction scope r key (path.push key) v >>= fun set => pure (put set) : Load Options).value =
        put ((readMembers? scope r v).getD none) := by
    rw [Load.value_bind_pure, value_readRestriction]
  unfold readField
  dsimp only
  cases OptionField.ofText? key with
  | none => rfl
  | some f =>
    cases f with
    | message =>
      dsimp only [content?, afterRefusal]
      cases v.messageLines? <;> rfl
    | log =>
      dsimp only [content?, afterRefusal]
      cases v.asBool? <;> rfl
    | cooldown =>
      dsimp only [content?, afterRefusal]
      cases v.milliseconds? <;> rfl
    | regions =>
      dsimp only [content?, afterRefusal]
      cases Expression.ofValue? v <;> rfl
    | entities | gameModes | inventoryFrom | inventoryTo | materials => apply hrestriction

def refusal (key : String) (v : Value) : OptionField → Problem
  | .message => .invalidPayload key .textOrList
  | .log => .invalidPayload key .truthValue
  | .cooldown => .invalidValue key v.display
  | .regions => .invalidPayload key .regionList
  | .entities | .gameModes | .inventoryFrom | .inventoryTo | .materials => .invalidPayload key .expression

def entryProblems (path : Path) (key : String) (v : Value) : Trail :=
  match OptionField.ofText? key with
  | none => [⟨path.push key, .unknownOption key⟩]
  | some f =>
    match content? scope v f with
    | none => [⟨path.push key, refusal key v f⟩]
    | some _ =>
      match f.registry?, Expression.ofValue? v with
      | some r, some e => ((scope.keys r).evaluate (path.push key) e).problems
      | _, _ => []

theorem problems_readField (path : Path) (o : Options) (key : String) (v : Value) :
    (readField scope path o key v).problems = entryProblems scope path key v := by
  have hrestriction (r : Registry) (put : Option (OrderedSet (Key r)) → Options) :
      (readRestriction scope r key (path.push key) v >>= fun set => pure (put set) : Load Options).problems =
        match Expression.ofValue? v with
        | none => [⟨path.push key, .invalidPayload key .expression⟩]
        | some e => ((scope.keys r).evaluate (path.push key) e).problems := by
    rw [Load.problems_bind_pure]
    unfold readRestriction
    cases Expression.ofValue? v <;> rfl
  unfold readField entryProblems
  dsimp only
  cases OptionField.ofText? key with
  | none => rfl
  | some f =>
    cases f with
    | message =>
      dsimp only [content?]
      cases v.messageLines? <;> rfl
    | log =>
      dsimp only [content?]
      cases v.asBool? <;> rfl
    | cooldown =>
      dsimp only [content?]
      cases v.milliseconds? <;> rfl
    | regions =>
      dsimp only [content?]
      cases Expression.ofValue? v <;> rfl
    | entities | gameModes | inventoryFrom | inventoryTo | materials =>
      dsimp only [content?, readMembers?, OptionField.registry?]
      rw [hrestriction]
      cases Expression.ofValue? v <;> rfl

/-! ### Refused entries -/

def refuses (path : Path) (e : String × Value) : Bool :=
  (readField scope path {} e.1 e.2).problems.any (·.problem.isRefusal)

theorem isRefusal_refusal (key : String) (v : Value) (f : OptionField) :
    (refusal key v f).isRefusal = true := by
  cases f <;> rfl

theorem entryProblems_cases (path : Path) (key : String) (v : Value) :
    ((∀ f, OptionField.ofText? key = some f → content? scope v f = none)
        ∧ ∃ p, entryProblems scope path key v = [p] ∧ p.problem.isRefusal = true)
      ∨ ((∃ f c, OptionField.ofText? key = some f ∧ content? scope v f = some c)
        ∧ ∀ p ∈ entryProblems scope path key v, p.problem.isRefusal = false) := by
  unfold entryProblems
  cases OptionField.ofText? key with
  | none => exact .inl ⟨nofun, _, rfl, rfl⟩
  | some f =>
    cases hcontent : content? scope v f with
    | none =>
      refine .inl ⟨fun g hg => ?_, ⟨path.push key, refusal key v f⟩, ?_, isRefusal_refusal key v f⟩
      · cases hg
        exact hcontent
      · simp only [hcontent]
    | some c =>
      refine .inr ⟨⟨f, c, rfl, hcontent⟩, fun p hp => ?_⟩
      simp only [hcontent] at hp
      split at hp
      · exact Domain.isRefusal_of_evaluate hp
      · cases hp

theorem refuses_iff {scope : Scope} {path : Path} {e : String × Value} :
    refuses scope path e = true ↔
      ∀ f, OptionField.ofText? e.1 = some f → content? scope e.2 f = none := by
  unfold refuses
  rw [problems_readField]
  rcases entryProblems_cases scope path e.1 e.2 with ⟨hnone, p, hproblems, hp⟩ | ⟨⟨f, c, hkey, hc⟩, hnames⟩
  · simpa [hproblems, hp] using hnone
  · refine iff_of_false ?_ fun h => ?_
    · simpa using hnames
    · rw [h f hkey] at hc
      cases hc

theorem filter_entryProblems (path : Path) (e : String × Value) :
    (entryProblems scope path e.1 e.2).filter (fun p => !p.problem.isRefusal) =
      if refuses scope path e then [] else entryProblems scope path e.1 e.2 := by
  unfold refuses
  rw [problems_readField]
  rcases entryProblems_cases scope path e.1 e.2 with ⟨-, p, hproblems, hp⟩ | ⟨-, hnames⟩
  · simp [hproblems, hp]
  · have hany : (entryProblems scope path e.1 e.2).any (·.problem.isRefusal) = false := by
      simpa using hnames
    rw [hany, if_neg Bool.false_ne_true, List.filter_eq_self]
    intro p hp
    rw [hnames p hp]
    rfl

/-! ### All entries -/

section Settle

variable (path : Path)

def settle (fields : List (String × Value)) : Options :=
  fields.foldl (fun o e => (readField scope path o e.1 e.2).value) {}

theorem additive_readField (o : Options) (e : String × Value) :
    (readField scope path o e.1 e.2).Additive :=
  (reports_readField scope (Path.into_self (path.push e.1) e.2) o e.2).additive

theorem value_read_mapping (entries : List (Value × Value)) :
    (read scope path (.mapping entries)).value = settle scope path (Value.textEntries entries) :=
  Load.value_foldlM (additive_readField scope path) {} (Value.textEntries entries)

theorem problems_read_mapping (entries : List (Value × Value)) :
    (read scope path (.mapping entries)).problems =
      (Value.textEntries entries).flatMap fun e => entryProblems scope path e.1 e.2 :=
  Load.problems_foldlM (additive_readField scope path)
    (fun o e => problems_readField scope path o e.1 e.2) {} (Value.textEntries entries)

theorem get_settle_concat (fields : List (String × Value)) (e : String × Value) (f : OptionField) :
    (settle scope path (fields ++ [e])).get f =
      if OptionField.ofText? e.1 = some f then
        (content? scope e.2 f).getD ((settle scope path fields).afterRefusal f)
      else (settle scope path fields).get f := by
  unfold settle
  rw [List.foldl_append, List.foldl_cons, List.foldl_nil, value_readField]
  cases OptionField.ofText? e.1 with
  | none => rfl
  | some g =>
    by_cases hg : g = f
    · subst hg
      rw [if_pos rfl, get_set]
    · rw [if_neg fun he => hg (Option.some.inj he), get_set_of_ne _ hg]

def accepted (fields : List (String × Value)) : List (String × Value) :=
  fields.filter fun e => !refuses scope path e

variable {scope path} {fields : List (String × Value)} {e : String × Value} {f : OptionField}

theorem accepted_concat_of_refuses (h : refuses scope path e = true) :
    accepted scope path (fields ++ [e]) = accepted scope path fields := by
  simp [accepted, List.filter_append, h]

theorem accepted_concat_of_not_refuses (h : refuses scope path e = false) :
    accepted scope path (fields ++ [e]) = accepted scope path fields ++ [e] := by
  simp [accepted, List.filter_append, h]

theorem exists_content_of_not_refuses (h : refuses scope path e = false)
    (hf : OptionField.ofText? e.1 = some f) : ∃ c, content? scope e.2 f = some c := by
  refine Option.ne_none_iff_exists'.1 fun hnone => ?_
  have hrefused : refuses scope path e = true := by
    rw [refuses_iff]
    intro g hg
    rw [hf] at hg
    cases hg
    exact hnone
  rw [hrefused] at h
  cases h

theorem get_settle_accepted (hf : f.registry? = none) (fields : List (String × Value)) :
    (settle scope path (accepted scope path fields)).get f = (settle scope path fields).get f := by
  induction fields using List.reverseRecOn with
  | nil => rfl
  | append_singleton fields e ih =>
    cases hrefuses : refuses scope path e with
    | true =>
      rw [accepted_concat_of_refuses hrefuses, get_settle_concat, ih]
      split
      · next hkey =>
        rw [refuses_iff.1 hrefuses f hkey, Option.getD_none, afterRefusal, hf]
        rfl
      · rfl
    | false =>
      rw [accepted_concat_of_not_refuses hrefuses, get_settle_concat, get_settle_concat, ih]
      split
      · next hkey =>
        obtain ⟨c, hc⟩ := exists_content_of_not_refuses hrefuses hkey
        rw [hc, Option.getD_some, Option.getD_some]
      · rfl

theorem get_settle_accepted_eq_initial_iff (hf : f.registry?.isSome = true)
    (fields : List (String × Value)) :
    (settle scope path (accepted scope path fields)).get f = ({} : Options).get f ↔
      ∀ e ∈ fields, OptionField.ofText? e.1 = some f → refuses scope path e = true := by
  induction fields using List.reverseRecOn with
  | nil => exact iff_of_true rfl fun e he => nomatch he
  | append_singleton fields e ih =>
    simp only [List.forall_mem_append, List.forall_mem_singleton]
    cases hrefuses : refuses scope path e with
    | true => rw [accepted_concat_of_refuses hrefuses, ih, and_iff_left fun _ => rfl]
    | false =>
      rw [accepted_concat_of_not_refuses hrefuses, get_settle_concat]
      split
      · next hkey =>
        obtain ⟨c, hc⟩ := exists_content_of_not_refuses hrefuses hkey
        rw [hc, Option.getD_some]
        refine iff_of_false (fun hinitial => ?_) fun h => Bool.false_ne_true (h.2 hkey)
        exact content?_ne_initial scope hf (hinitial ▸ hc)
      · next hkey => rw [ih, and_iff_left fun h => absurd h hkey]

variable (scope path) in
/--
The last entry of a field is refused, although there is another one that is not.
-/
def Lifted (fields : List (String × Value)) (f : OptionField) : Prop :=
  (∃ e, Unrevoked (fun d => OptionField.ofText? d.1 = some f) fields e
      ∧ OptionField.ofText? e.1 = some f ∧ refuses scope path e = true)
    ∧ ∃ e ∈ fields, OptionField.ofText? e.1 = some f ∧ refuses scope path e = false

theorem lifted_concat_of_refuses (hkey : OptionField.ofText? e.1 = some f)
    (hrefuses : refuses scope path e = true) :
    Lifted scope path (fields ++ [e]) f ↔
      ∃ d ∈ fields, OptionField.ofText? d.1 = some f ∧ refuses scope path d = false := by
  have hlast : Unrevoked (fun d => OptionField.ofText? d.1 = some f) (fields ++ [e]) e :=
    unrevoked_concat.2 (.inl rfl)
  unfold Lifted
  rw [and_iff_right ⟨e, hlast, hkey, hrefuses⟩]
  simp [or_and_right, exists_or, hrefuses]

theorem not_lifted_concat (hkey : OptionField.ofText? e.1 = some f)
    (hrefuses : refuses scope path e = false) : ¬ Lifted scope path (fields ++ [e]) f := by
  rintro ⟨⟨d, hlast, -, hd⟩, -⟩
  rcases unrevoked_concat.1 hlast with rfl | ⟨-, hother⟩
  · rw [hrefuses] at hd
    cases hd
  · exact hother hkey

theorem lifted_concat_of_ne (hkey : OptionField.ofText? e.1 ≠ some f) :
    Lifted scope path (fields ++ [e]) f ↔ Lifted scope path fields f := by
  unfold Lifted
  simp only [unrevoked_concat, List.mem_append, List.mem_singleton, hkey, not_false_eq_true, and_true,
    or_and_right, exists_or, exists_eq_left, false_and, false_or, or_false]

theorem get_settle_accepted_iff (hf : f.registry?.isSome = true) (fields : List (String × Value)) :
    (settle scope path (accepted scope path fields)).get f = (settle scope path fields).get f ↔
      ¬ Lifted scope path fields f := by
  induction fields using List.reverseRecOn with
  | nil => exact iff_of_true rfl fun ⟨_, e, he, _⟩ => nomatch he
  | append_singleton fields e ih =>
    by_cases hkey : OptionField.ofText? e.1 = some f
    · cases hrefuses : refuses scope path e with
      | true =>
        -- what the refused entry leaves is what options have before any entry
        rw [accepted_concat_of_refuses hrefuses, get_settle_concat, if_pos hkey,
          refuses_iff.1 hrefuses f hkey, Option.getD_none, afterRefusal, if_pos hf,
          get_settle_accepted_eq_initial_iff hf, lifted_concat_of_refuses hkey hrefuses]
        simp
      | false =>
        obtain ⟨c, hc⟩ := exists_content_of_not_refuses hrefuses hkey
        rw [accepted_concat_of_not_refuses hrefuses, get_settle_concat, get_settle_concat, if_pos hkey,
          if_pos hkey, hc, Option.getD_some, Option.getD_some]
        exact iff_of_true rfl (not_lifted_concat hkey hrefuses)
    · rw [lifted_concat_of_ne hkey, get_settle_concat, if_neg hkey, ← ih]
      cases hrefuses : refuses scope path e with
      | true => rw [accepted_concat_of_refuses hrefuses]
      | false => rw [accepted_concat_of_not_refuses hrefuses, get_settle_concat, if_neg hkey]

theorem flatMap_accepted (fields : List (String × Value)) :
    ((accepted scope path fields).flatMap fun e => entryProblems scope path e.1 e.2) =
      (fields.flatMap fun e => entryProblems scope path e.1 e.2).filter
        fun p => !p.problem.isRefusal := by
  unfold accepted
  induction fields with
  | nil => rfl
  | cons e fields ih =>
    rw [List.flatMap_cons, List.filter_append, filter_entryProblems, ← ih]
    cases hrefuses : refuses scope path e with
    | true => simp [hrefuses]
    | false => simp [hrefuses]

end Settle

/-! ### Mappings without refused entries -/

def acceptedEntries (path : Path) (entries : List (Value × Value)) : List (Value × Value) :=
  entries.filter fun e => !e.1.asText?.any fun key => refuses scope path (key, e.2)

theorem textEntries_acceptedEntries (path : Path) (entries : List (Value × Value)) :
    Value.textEntries (acceptedEntries scope path entries) =
      accepted scope path (Value.textEntries entries) := by
  unfold Value.textEntries acceptedEntries accepted
  rw [List.filterMap_filter, List.filter_filterMap]
  refine congrArg (fun f => entries.filterMap f) (funext fun e => ?_)
  cases e.1.asText? with
  | none => rfl
  | some key => cases hrefuses : refuses scope path (key, e.2) <;> simp [hrefuses, Option.filter]

/--
Without its refused entries a mapping has the problems that are left and the same message, log flag,
cooldown and regions. Each of the other restrictions is the same if and only if it is not lifted by its
last entry, refused after one that is not; so no entry but such a one makes a difference.
-/
theorem read_acceptedEntries (path : Path) (entries : List (Value × Value)) :
    let before := read scope path (.mapping entries)
    let after := read scope path (.mapping (acceptedEntries scope path entries))
    let fields := Value.textEntries entries
    after.problems = before.problems.filter (fun p => !p.problem.isRefusal)
      ∧ (∀ f, f.registry? = none → after.value.get f = before.value.get f)
      ∧ (∀ f, f.registry?.isSome = true →
          (after.value.get f = before.value.get f ↔ ¬ Lifted scope path fields f))
      ∧ (after.value = before.value ↔
          ∀ f, f.registry?.isSome = true → ¬ Lifted scope path fields f) := by
  intro before after fields
  have hbefore : before.value = settle scope path fields := value_read_mapping scope path entries
  have hafter : after.value = settle scope path (accepted scope path fields) := by
    rw [← textEntries_acceptedEntries]
    exact value_read_mapping scope path _
  have hkept (f : OptionField) (hf : f.registry? = none) : after.value.get f = before.value.get f := by
    rw [hbefore, hafter, get_settle_accepted hf]
  have hlifted (f : OptionField) (hf : f.registry?.isSome = true) :
      after.value.get f = before.value.get f ↔ ¬ Lifted scope path fields f := by
    rw [hbefore, hafter, get_settle_accepted_iff hf]
  refine ⟨?_, hkept, hlifted, fun h f hf => (hlifted f hf).1 (h ▸ rfl), fun h => ext_get fun f => ?_⟩
  · rw [problems_read_mapping, problems_read_mapping, textEntries_acceptedEntries, flatMap_accepted]
  · cases hf : f.registry? with
    | none => exact hkept f hf
    | some r =>
      have hregistry : f.registry?.isSome = true := by rw [hf]; rfl
      exact (hlifted f hregistry).2 (h f hregistry)

/--
A mapping under another spelling of the key lifts the restriction to stone, although it is refused.
-/
theorem refused_spelling_lifts :
    let scope : Scope := { roster := Roster.stock.add .material ["stone"], aliases := ∅ }
    let path := Path.root.push "place"
    let entries := [(.text "materials", .text "stone"), (.text "Materials", .mapping [])]
    (read scope path (.mapping entries)).problems =
        [⟨path.push "Materials", .invalidPayload "Materials" .expression⟩]
      ∧ acceptedEntries scope path entries = [(.text "materials", .text "stone")]
      ∧ (read scope path (.mapping entries)).value.restrictions.materials = none
      ∧ (read scope path (.mapping (acceptedEntries scope path entries))).value.restrictions.materials =
          some (.ofList [⟨"stone"⟩]) :=
  ⟨rfl, rfl, rfl, rfl⟩

end Options

end Embargo
