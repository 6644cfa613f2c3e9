import Embargo.Proofs.Inventory.Visits
import Mathlib.Data.List.Nodup

/-!
This module contains the proof that a scan removes the stacks that have to go and no others, and
that its report accounts for every slot. Both follow from what it does with a single slot.
-/

namespace Embargo

namespace Scanner

variable (scanner : Scanner) (clock : Nat → Nat) (h : Holder) (s : Slot) (state : ScanState)

def visits (holders : List Holder) : List (Holder × Slot) :=
  holders.flatMap fun h => h.slots.map (h, ·)

section Slots

variable (xs : List Slot)

theorem firstDenied_slots (i : Identity) (as : List Action) :
    scanner.firstDenied clock { h with slots := xs } i as state =
      scanner.firstDenied clock h i as state := by
  induction as generalizing state with
  | nil => rfl
  | cons a as ih =>
    have hask : scanner.ask clock { h with slots := xs } i a state =
        scanner.ask clock h i a state := rfl
    simp only [firstDenied, hask, ih]

theorem visitBanned_slots :
    scanner.visitBanned clock { h with slots := xs } s state =
      scanner.visitBanned clock h s state := by
  simp only [visitBanned, firstDenied_slots]
  rfl

theorem visitSlot_slots :
    scanner.visitSlot clock { h with slots := xs } s state = scanner.visitSlot clock h s state := by
  simp only [visitSlot, visitBanned_slots]
  rfl

theorem visitSlots_cons (slots : List Slot) :
    scanner.visitSlots clock (s :: slots) { h with slots := xs } state =
      scanner.visitSlots clock slots
        { h with slots :=
            if (scanner.removal? h s).isSome then xs.filter fun x => x.index != s.index else xs }
        (scanner.visitSlot clock h s state).2 := by
  simp only [visitSlots, visitSlot_slots, visitSlot_fst]
  split <;> rfl

end Slots

theorem reports_visitSlots (slots xs : List Slot) :
    Reports scanner (slots.map (h, ·)) state.report
      (scanner.visitSlots clock slots { h with slots := xs } state).2.report := by
  -- the holder loses slots on the way, but the visits are those to the slots at the start
  induction slots generalizing xs state with
  | nil => exact .nil
  | cons s slots ih =>
    rw [visitSlots_cons, List.map_cons, ← List.singleton_append]
    exact (scanner.reports_visitSlot clock h s state).append (ih _ _)

theorem asks_visitSlots (slots xs : List Slot) :
    Asks scanner clock (slots.flatMap (scanner.questions h)) state
      (scanner.visitSlots clock slots { h with slots := xs } state).2 := by
  induction slots generalizing xs state with
  | nil => exact .nil rfl rfl rfl
  | cons s slots ih =>
    rw [visitSlots_cons, List.flatMap_cons]
    exact (scanner.asks_visitSlot clock h s state).append (ih _ _)

theorem visitSlots_fst (slots xs : List Slot) :
    (scanner.visitSlots clock slots { h with slots := xs } state).1 =
      { h with slots := xs.filter fun x =>
          slots.all fun s => x.index != s.index || (scanner.removal? h s).isNone } := by
  induction slots generalizing xs state with
  | nil => rw [visitSlots, List.filter_eq_self.2 fun x _ => List.all_nil]
  | cons s slots ih =>
    rw [visitSlots_cons, ih]
    simp only [List.all_cons]
    -- clearing this slot and then the others is one filter with both conditions
    cases hremoval : scanner.removal? h s with
    | none => simp
    | some item =>
      simp only [Option.isSome_some, if_true, List.filter_filter, Option.isNone_some, Bool.or_false]
      simp only [Bool.and_comm]

def kept (h : Holder) : Holder :=
  { h with slots := h.slots.filter fun s => (scanner.removal? h s).isNone }

theorem filter_cleared {xs ys : List Slot} (hindices : (xs.map (·.index)).Nodup) (hys : ys ⊆ xs)
    (stays : Slot → Bool) :
    (xs.filter fun x => ys.all fun s => x.index != s.index || stays s) =
      xs.filter fun x => decide (x ∉ ys) || stays x := by
  apply List.filter_congr
  intro x hx
  rw [Bool.eq_iff_iff, List.all_eq_true, Bool.or_eq_true, decide_eq_true_eq]
  constructor
  · intro hall
    by_cases hmem : x ∈ ys
    · exact .inr (by simpa using hall x hmem)
    · exact .inl hmem
  · intro hstays s hs
    by_cases hsame : x.index = s.index
    · obtain rfl : x = s := List.inj_on_of_nodup_map hindices hx (hys hs) hsame
      rw [hstays.resolve_left (not_not_intro hs), Bool.or_true]
    · simp [hsame]

theorem visitSlots_eq_kept (hindices : (h.slots.map (·.index)).Nodup) :
    (scanner.visitSlots clock h.slots h state).1 = scanner.kept h := by
  have hslots := scanner.visitSlots_fst clock h state h.slots h.slots
  rw [hslots, kept, filter_cleared hindices (List.Subset.refl _)]
  congr 1
  apply List.filter_congr
  intro x hx
  simp [hx]

theorem reports_visitHolders (holders : List Holder) :
    Reports scanner (visits holders) state.report
      (scanner.visitHolders clock holders state).2.report := by
  induction holders generalizing state with
  | nil => exact .nil
  | cons h hs ih =>
    rw [visitHolders, visits, List.flatMap_cons]
    exact (scanner.reports_visitSlots clock h state h.slots h.slots).append (ih _)

theorem asks_visitHolders (holders : List Holder) :
    Asks scanner clock ((visits holders).flatMap fun v => scanner.questions v.1 v.2) state
      (scanner.visitHolders clock holders state).2 := by
  induction holders generalizing state with
  | nil => exact .nil rfl rfl rfl
  | cons h hs ih =>
    rw [visitHolders, visits, List.flatMap_cons, List.flatMap_append, List.flatMap_map]
    exact (scanner.asks_visitSlots clock h state h.slots h.slots).append (ih _)

theorem visitHolders_fst (holders : List Holder)
    (hindices : ∀ h ∈ holders, (h.slots.map (·.index)).Nodup) :
    (scanner.visitHolders clock holders state).1 = holders.map scanner.kept := by
  induction holders generalizing state with
  | nil => rfl
  | cons h hs ih =>
    rw [List.forall_mem_cons] at hindices
    rw [visitHolders, List.map_cons, ← scanner.visitSlots_eq_kept clock h state hindices.1,
      ← ih _ hindices.2]

structure Clears (before after : List Holder) (report : ScanReport) : Prop where
  decides : ∀ c t h s a,
    (scanner.arbiter.decide c
        (request h (scanner.arbiter.book.identify s.stack) a t)).verdict.isDenied =
      scanner.denied h s a
  removes : ∀ h s, (scanner.removal? h s).isSome ↔
    (scanner.settings.illegalStacks = .delete
        ∧ (illegalReason? scanner.arbiter.book.roster s.stack).isSome
      ∨ scanner.denied h s .delete
      ∨ s.kind = .armor ∧ scanner.settings.checkArmor ∧ scanner.denied h s .wear)
    ∧ ∀ l ∈ scanner.arbiter.listeners, l.cancelsRemoval (removalEvent h s) = false
  inventories : after = before.map fun h =>
    { h with slots := h.slots.filter fun s => (scanner.removal? h s).isNone }
  removed : report.removed = (visits before).filterMap fun v => scanner.removal? v.1 v.2
  counted : report.removed.length + report.cancelled =
    (visits before).countP fun v => (scanner.reason? v.1 v.2).isSome
  holders : report.holders = before.length
  slots : report.slots = (visits before).length
  illegal : report.illegal =
    if scanner.settings.illegalStacks = .ignore then []
    else (visits before).filterMap fun v =>
      (illegalReason? scanner.arbiter.book.roster v.2.stack).map (v.1.actor.id, v.2.index, ·)

theorem isSome_reason?_iff : (scanner.reason? h s).isSome ↔
    scanner.settings.illegalStacks = .delete
        ∧ (illegalReason? scanner.arbiter.book.roster s.stack).isSome
      ∨ scanner.denied h s .delete
      ∨ s.kind = .armor ∧ scanner.settings.checkArmor ∧ scanner.denied h s .wear := by
  have hbanned : (scanner.bannedAction? h s).isSome ↔ scanner.denied h s .delete
      ∨ s.kind = .armor ∧ scanner.settings.checkArmor ∧ scanner.denied h s .wear := by
    unfold bannedAction?
    split
    · next hdelete => simp [hdelete]
    · next hdelete => split <;> simp_all
  unfold reason?
  split
  · next hmode hillegal => simp [hmode, hillegal]
  · next hkept =>
    have hlegal : ¬ (scanner.settings.illegalStacks = .delete
        ∧ (illegalReason? scanner.arbiter.book.roster s.stack).isSome) := by
      rintro ⟨hmode, hsome⟩
      obtain ⟨reason, hreason⟩ := Option.isSome_iff_exists.1 hsome
      exact hkept reason hmode hreason
    rw [Option.isSome_map, hbanned, or_iff_right hlegal]

theorem isSome_removal?_iff : (scanner.removal? h s).isSome ↔
    (scanner.reason? h s).isSome
      ∧ ∀ l ∈ scanner.arbiter.listeners, l.cancelsRemoval (removalEvent h s) = false := by
  have hspares : scanner.spares h s = false ↔
      ∀ l ∈ scanner.arbiter.listeners, l.cancelsRemoval (removalEvent h s) = false := by
    simp [spares]
  rw [← hspares]
  unfold removal?
  cases scanner.spares h s <;> simp

theorem clears_scan (c : Cooldowns) (holders : List Holder)
    (hindices : ∀ h ∈ holders, (h.slots.map (·.index)).Nodup) :
    scanner.Clears holders (scanner.scan clock c holders).1
      (scanner.scan clock c holders).2.report := by
  let start : ScanState := { cooldowns := c, report := { holders := holders.length } }
  have hreports : Reports scanner (visits holders) start.report
      (scanner.scan clock c holders).2.report := scanner.reports_visitHolders clock start holders
  constructor
  · intro c t h s a
    exact scanner.arbiter.isDenied_decide c _
  · intro h s
    rw [isSome_removal?_iff, isSome_reason?_iff]
  · exact scanner.visitHolders_fst clock start holders hindices
  · exact hreports.removed.trans (List.nil_append _)
  · exact hreports.counted.trans (Nat.zero_add _)
  · exact hreports.holders
  · exact hreports.slots.trans (Nat.zero_add _)
  · have hillegal := hreports.illegal.trans (List.nil_append _)
    rw [hillegal]
    unfold sighting?
    split
    · exact List.filterMap_eq_nil_iff.2 fun _ _ => rfl
    · rfl

def withMode (mode : IllegalMode) : Scanner :=
  { scanner with settings := { scanner.settings with illegalStacks := mode } }

theorem reason?_withMode :
    (scanner.withMode .log).reason? h s = (scanner.withMode .ignore).reason? h s := by
  unfold reason? withMode
  cases illegalReason? scanner.arbiter.book.roster s.stack <;> rfl

theorem removal?_withMode :
    (scanner.withMode .log).removal? h s = (scanner.withMode .ignore).removal? h s := by
  unfold removal?
  rw [reason?_withMode]
  rfl

/--
A scan does with every slot what there is a reason for and what the listeners let it do, and it
reports just that. Whether illegal stacks are logged makes no difference to what is removed.
-/
theorem scan_clears (c : Cooldowns) (holders : List Holder)
    (hindices : ∀ h ∈ holders, (h.slots.map (·.index)).Nodup) :
    scanner.Clears holders (scanner.scan clock c holders).1 (scanner.scan clock c holders).2.report
      ∧ let log := (scanner.withMode .log).scan clock c holders
        let ignore := (scanner.withMode .ignore).scan clock c holders
        log.1 = ignore.1 ∧ log.2.report.removed = ignore.2.report.removed
          ∧ log.2.report.cancelled = ignore.2.report.cancelled := by
  refine ⟨scanner.clears_scan clock c holders hindices, ?_⟩
  intro log ignore
  -- the two modes differ in what they report as illegal and in no reason for a removal
  have hlog := (scanner.withMode .log).clears_scan clock c holders hindices
  have hignore := (scanner.withMode .ignore).clears_scan clock c holders hindices
  have hremoved : log.2.report.removed = ignore.2.report.removed := by
    rw [hlog.removed, hignore.removed]
    simp only [removal?_withMode]
  have hcounted : log.2.report.removed.length + log.2.report.cancelled =
      ignore.2.report.removed.length + ignore.2.report.cancelled := by
    rw [hlog.counted, hignore.counted]
    simp only [reason?_withMode]
  refine ⟨?_, hremoved, ?_⟩
  · rw [hlog.inventories, hignore.inventories]
    simp only [removal?_withMode]
  · rw [hremoved] at hcounted
    exact Nat.add_left_cancel hcounted

theorem scan_clears_mixed :
    let stack (name : String) : Stack := { material := ⟨name⟩ }
    let world : World := ⟨"world"⟩
    let bans : Bans :=
      .ofList [⟨.plain ⟨"tnt"⟩, .delete, { cooldown := some 10 }⟩, ⟨.plain ⟨"helmet"⟩, .wear, {}⟩]
    let roster : Roster := { (default : Roster) with maxAmount := .ofList [(⟨"stone"⟩, 64)] }
    let book : RuleBook :=
      { (default : RuleBook) with blacklist := .ofList [(world, bans)], roster }
    let keeper : Listener := { name := "keeper", cancelsRemoval := fun e => e.slot == 7 }
    let scanner : Scanner :=
      { arbiter := { book, listeners := [keeper], front := "" }
        settings := { illegalStacks := .delete }
        sink := .host }
    let stone : Slot := ⟨0, .storage, { stack "stone" with amount := 99 }⟩
    let tnt (index : Nat) : Slot := ⟨index, .storage, stack "tnt"⟩
    let helmet (index : Nat) (kind : SlotKind) : Slot := ⟨index, kind, stack "helmet"⟩
    let slots := [stone, tnt 1, helmet 2 .armor, helmet 3 .storage, tnt 7]
    let h : Holder := { actor := default, world, slots }
    let result := scanner.scan id ∅ [h]
    (∀ h' ∈ [h], (h'.slots.map (·.index)).Nodup)
      ∧ scanner.Clears [h] result.1 result.2.report
      ∧ result.1 = [{ h with slots := [helmet 3 .storage, tnt 7] }]
      ∧ result.2.report.removed.map (·.reason) =
          [.illegal (.oversized 99 64), .banned .delete, .banned .wear]
      ∧ result.2.report.cancelled = 1
      ∧ result.2.report.illegal = [(0, 0, .oversized 99 64)] := by
  intro stack world bans roster book keeper scanner stone tnt helmet slots h result
  have hindices : ∀ h' ∈ [h], (h'.slots.map (·.index)).Nodup := by
    intro h' hh'
    rw [List.mem_singleton.1 hh']
    decide
  obtain ⟨hclears, -⟩ := scanner.scan_clears id ∅ [h] hindices
  refine ⟨hindices, hclears, ?_, ?_, ?_, ?_⟩
  all_goals decide +kernel

end Scanner

end Embargo
