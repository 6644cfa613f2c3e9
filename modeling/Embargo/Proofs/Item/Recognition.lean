import Embargo.Audit
import Embargo.Decision.Arbiter
import Embargo.Proofs.Item.Registrations
import Embargo.Rule.Compile

/-!
This module contains the recognition of stacks: which item a stack is, and that the item is called by
the name under which it was recognised.
-/

namespace Embargo

namespace Identity

theorem material_of_holds {i : Identity} {s : Stack} (h : i.holds s = true) :
    i.material = s.material := by
  unfold holds at h
  simp only [Bool.and_eq_true, beq_iff_eq] at h
  exact h.1.symm

theorem material_ofStack (s : Stack) (legacy : Bool) : (ofStack s legacy).material = s.material := by
  cases legacy <;> rfl

theorem holds_ofStack (s : Stack) (legacy : Bool) : (ofStack s legacy).holds s = true := by
  have hconditions : ∀ p ∈ (ofStack s legacy).predicates.toList, p.holds s = true := by
    cases legacy with
    | false =>
      intro p hp
      cases hp
    | true =>
      intro p hp
      obtain rfl : p = .durability s.damage := List.mem_singleton.1 hp
      simp [Predicate.holds]
  simp only [holds, material_ofStack, Bool.and_eq_true, List.all_eq_true, beq_self_eq_true, true_and]
  exact hconditions

end Identity

namespace Catalogue

variable {c : Catalogue} {s : Stack} {name : String} {i : Identity}

def FirstHeld (c : Catalogue) (s : Stack) (name : String) (i : Identity) : Prop :=
  ∃ front back, c.items = front ++ (name, i) :: back ∧ i.holds s = true
    ∧ ∀ e ∈ front, e.2.holds s = false

theorem find?_eq_some_iff : c.find? s = some (name, i) ↔ c.FirstHeld s name i := by
  unfold find? FirstHeld
  rw [List.find?_eq_some_iff_append]
  constructor
  · rintro ⟨hi, front, back, hitems, hfront⟩
    exact ⟨front, back, hitems, hi, by simpa using hfront⟩
  · rintro ⟨front, back, hitems, hi, hfront⟩
    exact ⟨hi, front, back, hitems, by simpa using hfront⟩

theorem find?_eq_none_iff : c.find? s = none ↔ ∀ e ∈ c.items, e.2.holds s = false := by
  simp [find?]

theorem FirstHeld.holds (h : c.FirstHeld s name i) : i.holds s = true := by
  obtain ⟨_, _, _, hi, _⟩ := h
  exact hi

theorem FirstHeld.firstName (h : c.FirstHeld s name i) : FirstName c.items i name := by
  obtain ⟨front, back, hitems, hi, hfront⟩ := h
  refine ⟨front, back, hitems, ?_⟩
  -- an earlier item of the same identity would be the first one itself
  rintro e he rfl
  rw [hfront e he] at hi
  cases hi

theorem FirstHeld.displayName (h : c.FirstHeld s name i) (hindexed : c.Indexed) :
    c.displayName i = if i.hasPredicates then name else s.material.name := by
  unfold Catalogue.displayName
  rw [hindexed i, firstName?_eq_some_iff.2 h.firstName, Identity.material_of_holds h.holds]
  split
  · rfl
  · rfl

theorem displayName_ofStack (hnone : ∀ e ∈ c.items, e.2.holds s = false) (hindexed : c.Indexed)
    (legacy : Bool) : c.displayName (.ofStack s legacy) = s.material.name := by
  have hunnamed : firstName? c.items (.ofStack s legacy) = none := by
    rw [firstName?_eq_none_iff]
    intro e he hsame
    have hholds := hnone e he
    rw [hsame, Identity.holds_ofStack] at hholds
    cases hholds
  unfold displayName
  rw [hindexed, hunnamed, ite_self, Identity.material_ofStack]
  rfl

end Catalogue

namespace RuleBook

inductive Recognises (book : RuleBook) (s : Stack) : Identity → String → Prop where
  | custom {name : String} {i : Identity} (hfirst : book.catalogue.FirstHeld s name i)
    (hpredicates : i.hasPredicates = true) : Recognises book s i name
  /-- a custom item that is just a material does not rename it -/
  | bare {name : String} {i : Identity} (hfirst : book.catalogue.FirstHeld s name i)
    (hpredicates : i.hasPredicates = false) : Recognises book s i s.material.name
  | stock (hnone : ∀ e ∈ book.catalogue.items, e.2.holds s = false) :
    Recognises book s (.ofStack s book.legacy) s.material.name

variable {book : RuleBook} {s : Stack} {i : Identity} {name : String}

theorem identify_of_firstHeld (h : book.catalogue.FirstHeld s name i) : book.identify s = i := by
  unfold identify
  rw [Catalogue.find?_eq_some_iff.2 h]

theorem identify_of_forall (h : ∀ e ∈ book.catalogue.items, e.2.holds s = false) :
    book.identify s = .ofStack s book.legacy := by
  unfold identify
  rw [Catalogue.find?_eq_none_iff.2 h]

theorem recognises_identify (hindexed : book.catalogue.Indexed) (s : Stack) :
    book.Recognises s (book.identify s) (book.itemName (book.identify s)) := by
  cases hfind : book.catalogue.find? s with
  | none =>
    have hnone := Catalogue.find?_eq_none_iff.1 hfind
    rw [identify_of_forall hnone, itemName, Catalogue.displayName_ofStack hnone hindexed]
    exact .stock hnone
  | some e =>
    have hfirst : book.catalogue.FirstHeld s e.1 e.2 := Catalogue.find?_eq_some_iff.1 hfind
    rw [identify_of_firstHeld hfirst, itemName, hfirst.displayName hindexed]
    split
    · next hpredicates => exact .custom hfirst hpredicates
    · next hpredicates => exact .bare hfirst (by simpa using hpredicates)

theorem Recognises.eq (hindexed : book.catalogue.Indexed) (h : book.Recognises s i name) :
    book.identify s = i ∧ book.itemName i = name := by
  cases h with
  | custom hfirst hpredicates =>
    refine ⟨identify_of_firstHeld hfirst, ?_⟩
    rw [itemName, hfirst.displayName hindexed, if_pos hpredicates]
  | bare hfirst hpredicates =>
    refine ⟨identify_of_firstHeld hfirst, ?_⟩
    rw [itemName, hfirst.displayName hindexed, if_neg (by simp [hpredicates])]
  | stock hnone =>
    exact ⟨identify_of_forall hnone, Catalogue.displayName_ofStack hnone hindexed book.legacy⟩

theorem holds_identify (book : RuleBook) (s : Stack) : (book.identify s).holds s = true := by
  cases hfind : book.catalogue.find? s with
  | none =>
    rw [identify_of_forall (Catalogue.find?_eq_none_iff.1 hfind)]
    apply Identity.holds_ofStack
  | some e =>
    have hfirst : book.catalogue.FirstHeld s e.1 e.2 := Catalogue.find?_eq_some_iff.1 hfind
    rw [identify_of_firstHeld hfirst]
    exact hfirst.holds

end RuleBook

/--
A name stands for an item in everything that is said about a request: in the permissions that lift
bans, in messages and in the audit trail.
-/
structure RuleBook.CallsBy (book : RuleBook) (r : Request) (name : String) : Prop where
  bypass (listeners : List Listener) (front : String) :
    Arbiter.bypasses { book, listeners, front } r = Bypass.holds front r.actor r.world name r.action
  message (listeners : List Listener) (front template : String) (time : Option Nat) :
    Arbiter.fill { book, listeners, front } r template time =
      Message.fill template name r.action r.world time
  audit (sink : AuditSink) (v : Verdict) : ∀ e ∈ sink.record book r v, e.itemName = name

theorem RuleBook.callsBy_itemName (book : RuleBook) (r : Request) :
    book.CallsBy r (book.itemName r.item) where
  bypass _ _ := rfl
  message _ _ _ _ := rfl
  audit sink v := by
    intro e he
    simp only [AuditSink.record] at he
    split at he
    · split at he
      · rw [List.mem_singleton.1 he]
      · cases he
    · cases he

/--
Every stack is one of the items that a compiled book takes it for: the first custom item that it is one
of, or else its material. A custom item with conditions is called by the name that it was found under,
and all others by their material.
-/
theorem RuleSource.recognises_iff (source : RuleSource) (roster : Roster) (aliases : Aliases)
    (legacy : Bool) (engine : Engine) (s : Stack) :
    let book := source.compile roster aliases legacy engine
    (book.identify s).holds s = true
      ∧ (∀ i name, book.Recognises s i name ↔ book.identify s = i ∧ book.itemName i = name)
      ∧ ∀ r : Request,
          book.CallsBy { r with item := book.identify s } (book.itemName (book.identify s)) := by
  intro book
  have hindexed : book.catalogue.Indexed :=
    Catalogue.indexed_read { roster, aliases, legacy, engine } _ source.customItems.entries
  refine ⟨book.holds_identify s, fun i name => ⟨fun h => h.eq hindexed, ?_⟩, fun r => ?_⟩
  · rintro ⟨rfl, rfl⟩
    exact RuleBook.recognises_identify hindexed s
  · exact book.callsBy_itemName { r with item := book.identify s }

end Embargo
