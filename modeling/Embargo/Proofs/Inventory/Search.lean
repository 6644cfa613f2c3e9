import Embargo.Proofs.Inventory.Scan

namespace Embargo

namespace Scanner

variable (scanner : Scanner) (i : Identity) (h : Holder)

def matching (h : Holder) : List Slot :=
  h.slots.filter fun s => i.holds s.stack

def owners (holders : List Holder) : List Nat :=
  (holders.filter fun h => !(matching i h).isEmpty).map (·.actor.id)

def stays (s : Slot) : Bool :=
  !i.holds s.stack || Listeners.cancelsRemoval (removalEvent h s) scanner.arbiter.listeners

def purged : Holder :=
  { h with slots := h.slots.filter (scanner.stays i h) }

def announcements (slots : List Slot) : List Notice :=
  slots.flatMap fun s => Listeners.removalNotices (removalEvent h s) scanner.arbiter.listeners

variable {i h}

theorem matching_eq_nil_iff : matching i h = [] ↔ ∀ s ∈ h.slots, i.holds s.stack = false := by
  simp [matching]

theorem isEmpty_matching_eq_false_iff :
    (matching i h).isEmpty = false ↔ ∃ s ∈ h.slots, i.holds s.stack := by
  rw [← Bool.not_eq_true, List.isEmpty_iff, matching_eq_nil_iff]
  simp

theorem mem_owners {actor : Nat} {holders : List Holder} :
    actor ∈ owners i holders ↔
      ∃ h ∈ holders, h.actor.id = actor ∧ ∃ s ∈ h.slots, i.holds s.stack := by
  simp only [owners, List.mem_map, List.mem_filter, Bool.not_eq_true',
    isEmpty_matching_eq_false_iff]
  constructor
  · rintro ⟨h, ⟨hmem, hholds⟩, hactor⟩
    exact ⟨h, hmem, hactor, hholds⟩
  · rintro ⟨h, hmem, hactor, hholds⟩
    exact ⟨h, ⟨hmem, hholds⟩, hactor⟩

variable (i h)

theorem removeAll_slots (slots xs : List Slot) :
    scanner.removeAll slots { h with slots := xs } =
      ({ h with slots := xs.filter fun x => slots.all fun s => x.index != s.index
            || Listeners.cancelsRemoval (removalEvent h s) scanner.arbiter.listeners },
        scanner.announcements h slots) := by
  -- the events depend on the holder, but not on the slots that are left
  induction slots generalizing xs with
  | nil =>
    rw [removeAll, List.filter_eq_self.2 fun x _ => List.all_nil]
    rfl
  | cons s slots ih =>
    have hevent : scanner.remove { h with slots := xs } s =
        (!Listeners.cancelsRemoval (removalEvent h s) scanner.arbiter.listeners,
          Listeners.removalNotices (removalEvent h s) scanner.arbiter.listeners) := rfl
    have hclear : (({ h with slots := xs } : Holder).clear s.index) =
        { h with slots := xs.filter fun x => x.index != s.index } := rfl
    simp only [removeAll, hevent, hclear, List.all_cons]
    cases Listeners.cancelsRemoval (removalEvent h s) scanner.arbiter.listeners with
    | true =>
      simp only [Bool.not_true, Bool.false_eq_true, if_false, ih, Bool.or_true, Bool.true_and]
      rfl
    | false =>
      simp only [Bool.not_false, if_true, ih, List.filter_filter, Bool.or_false]
      simp only [Bool.and_comm]
      rfl

theorem removeAll_matching (hindices : (h.slots.map (·.index)).Nodup) :
    scanner.removeAll (matching i h) h =
      (scanner.purged i h, scanner.announcements h (matching i h)) := by
  have hsubset : matching i h ⊆ h.slots := List.filter_sublist.subset
  have hall := scanner.removeAll_slots h (matching i h) h.slots
  rw [hall, filter_cleared hindices hsubset]
  congr 2
  apply List.filter_congr
  intro s hs
  simp [stays, matching, hs]

def swept (delete : Bool) (holders : List Holder) : List Holder :=
  if delete then holders.map (scanner.purged i) else holders

def sweepNotices (delete : Bool) (holders : List Holder) : List Notice :=
  if delete then holders.flatMap fun h => scanner.announcements h (matching i h) else []

variable {i h} in
theorem purged_of_matching_eq_nil (hnone : matching i h = []) : scanner.purged i h = h := by
  have hstays : ∀ s ∈ h.slots, scanner.stays i h s = true := by
    intro s hs
    simp [stays, matching_eq_nil_iff.1 hnone s hs]
  rw [purged, List.filter_eq_self.2 hstays]

theorem search_eq (delete : Bool) (holders : List Holder)
    (hindices : ∀ h ∈ holders, (h.slots.map (·.index)).Nodup) (found : OrderedSet Nat) :
    scanner.search i delete holders found.toList =
      ((found.insertAll (owners i holders)).toList, scanner.swept i delete holders,
        scanner.sweepNotices i delete holders) := by
  induction holders generalizing found with
  | nil => cases delete <;> rfl
  | cons h hs ih =>
    rw [List.forall_mem_cons] at hindices
    have hrest := ih hindices.2
    have hmatching : (h.slots.filter fun s => i.holds s.stack) = matching i h := rfl
    unfold search
    simp only [hmatching]
    by_cases hnone : matching i h = []
    · -- nothing to announce, and deleting leaves the slots as they are
      have howners : owners i (h :: hs) = owners i hs := by simp [owners, hnone]
      simp only [hnone, List.isEmpty_nil, if_true, hrest, howners]
      cases delete with
      | false => rfl
      | true => simp [swept, sweepNotices, announcements, hnone, scanner.purged_of_matching_eq_nil hnone]
    · have howners : owners i (h :: hs) = h.actor.id :: owners i hs := by
        simp [owners, hnone]
      have hfound : (if found.toList.contains h.actor.id then found.toList
          else found.toList ++ [h.actor.id]) = (found.insert h.actor.id).toList := by
        simp [OrderedSet.toList_insert]
      have hsome : (matching i h).isEmpty = false := by simpa using hnone
      simp only [hsome, Bool.false_eq_true, if_false, hfound, hrest, howners]
      cases delete with
      | false => rfl
      | true =>
        simp only [if_true, scanner.removeAll_matching i h hindices.1]
        rfl

variable {i} in
theorem search_of_absent (delete : Bool) (holders : List Holder)
    (habsent : ∀ h ∈ holders, matching i h = []) :
    scanner.search i delete holders [] = ([], holders, []) := by
  induction holders with
  | nil => rfl
  | cons h hs ih =>
    rw [List.forall_mem_cons] at habsent
    have hnone : (h.slots.filter fun s => i.holds s.stack) = [] := habsent.1
    simp only [search, hnone, List.isEmpty_nil, if_true, ih habsent.2]

variable {i h} in
theorem matching_purged
    (hremoved : ∀ s ∈ h.slots, i.holds s.stack →
      Listeners.cancelsRemoval (removalEvent h s) scanner.arbiter.listeners = false) :
    matching i (scanner.purged i h) = [] := by
  rw [matching_eq_nil_iff]
  intro s hs
  obtain ⟨hmem, hstays⟩ := List.mem_filter.1 hs
  cases hholds : i.holds s.stack with
  | false => rfl
  | true => simp [stays, hholds, hremoved s hmem hholds] at hstays

structure Finds (delete : Bool) (before : List Holder) (found : List Nat) (after : List Holder)
    (notices : List Notice) : Prop where
  order : found =
    ((before.filter fun h => h.slots.any fun s => i.holds s.stack).map (·.actor.id)).eraseDups
  once : found.Nodup
  holding : ∀ actor, actor ∈ found ↔
    ∃ h ∈ before, h.actor.id = actor ∧ ∃ s ∈ h.slots, i.holds s.stack
  untouched : delete = false → after = before ∧ notices = []
  deleted : delete = true → after = before.map fun h =>
    { h with slots := h.slots.filter fun s => !i.holds s.stack
        || Listeners.cancelsRemoval (removalEvent h s) scanner.arbiter.listeners }
  announced : delete = true → notices = before.flatMap fun h =>
    (h.slots.filter fun s => i.holds s.stack).flatMap fun s =>
      Listeners.removalNotices (removalEvent h s) scanner.arbiter.listeners
  again : delete = true →
    (∀ h ∈ before, ∀ s ∈ h.slots, i.holds s.stack →
      Listeners.cancelsRemoval (removalEvent h s) scanner.arbiter.listeners = false) →
    ∀ deleteAgain, scanner.search i deleteAgain after [] = ([], after, [])

/--
A search finds the actors who hold an item, whether it is to be deleted or not. It deletes the stacks
that no listener keeps, and then there is nothing left to find.
-/
theorem search_finds (delete : Bool) (holders : List Holder)
    (hindices : ∀ h ∈ holders, (h.slots.map (·.index)).Nodup) :
    let result := scanner.search i delete holders []
    scanner.Finds i delete holders result.1 result.2.1 result.2.2 := by
  intro result
  have hresult : result = ((OrderedSet.ofList (owners i holders)).toList,
      scanner.swept i delete holders, scanner.sweepNotices i delete holders) :=
    scanner.search_eq i delete holders hindices ∅
  rw [hresult]
  constructor
  · have hholding (h : Holder) :
        (!(matching i h).isEmpty) = h.slots.any fun s => i.holds s.stack := by
      rw [Bool.eq_iff_iff, Bool.not_eq_true', isEmpty_matching_eq_false_iff, List.any_eq_true]
    simp only [OrderedSet.toList_ofList, owners, hholding]
  · exact (OrderedSet.ofList (owners i holders)).nodup
  · intro actor
    rw [OrderedSet.mem_toList, OrderedSet.mem_ofList, mem_owners]
  · rintro rfl
    exact ⟨rfl, rfl⟩
  · rintro rfl
    rfl
  · rintro rfl
    rfl
  · -- what was found is gone, so a second search finds the item nowhere
    rintro rfl hremoved deleteAgain
    apply search_of_absent
    intro h' hh'
    obtain ⟨h, hh, rfl⟩ := List.mem_map.1 hh'
    exact scanner.matching_purged (hremoved h hh)

theorem search_finds_shared :
    let stack (name : String) : Stack := { material := ⟨name⟩ }
    let i : Identity := .plain ⟨"tnt"⟩
    let keeper : Listener := { name := "keeper", cancelsRemoval := fun e => e.slot == 7 }
    let scanner : Scanner :=
      { arbiter := { book := default, listeners := [keeper], front := "" }, settings := {}, sink := .host }
    let slot (index : Nat) (name : String) : Slot := ⟨index, .storage, stack name⟩
    let holder (actor : Nat) (slots : List Slot) : Holder := ⟨⟨actor, []⟩, ⟨"world"⟩, slots⟩
    let chest := holder 2 [slot 0 "tnt", slot 1 "stone", slot 2 "tnt"]
    let bag := holder 1 [slot 7 "tnt"]
    let empty := holder 3 [slot 0 "stone"]
    let holders := [chest, empty, bag, chest]
    let result := scanner.search i true holders []
    (∀ h ∈ holders, (h.slots.map (·.index)).Nodup)
      ∧ scanner.Finds i true holders result.1 result.2.1 result.2.2
      ∧ result.1 = [2, 1]
      ∧ result.2.1 = [holder 2 [slot 1 "stone"], empty, bag, holder 2 [slot 1 "stone"]]
      ∧ (scanner.search i false holders []).1 = [2, 1] := by
  intro stack i keeper scanner slot holder chest bag empty holders result
  have hindices : ∀ h ∈ holders, (h.slots.map (·.index)).Nodup := by decide
  refine ⟨hindices, scanner.search_finds i true holders hindices, ?_, ?_, ?_⟩
  all_goals decide +kernel

end Scanner

end Embargo
