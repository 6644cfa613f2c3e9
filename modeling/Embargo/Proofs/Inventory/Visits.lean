import Embargo.Inventory.Scan
import Embargo.Proofs.Decision.Effects

/-!
This module contains what a scan does with a single slot: for which reason its stack has to go, what
the report says about it and which requests are decided meanwhile.
-/

namespace Embargo

theorem Listeners.cancelsRemoval_eq_any (e : RemovalEvent) (ls : List Listener) :
    cancelsRemoval e ls = (e.cancelled || ls.any (·.cancelsRemoval e)) := by
  induction ls generalizing e with
  | nil => simp [cancelsRemoval]
  | cons l ls ih =>
    rw [cancelsRemoval, ih, List.any_cons]
    by_cases hcancels : (e.cancelled || l.cancelsRemoval e) = true
    · simp [hcancels, ← Bool.or_assoc]
    · -- nobody has cancelled, so the listeners that follow see the very same event
      rw [Bool.not_eq_true, Bool.or_eq_false_iff] at hcancels
      have hsame : { e with cancelled := e.cancelled || l.cancelsRemoval e } = e := by
        rw [hcancels.1, hcancels.2, Bool.or_false, ← hcancels.1]
      rw [hsame, hcancels.1, hcancels.2, Bool.false_or, Bool.false_or]

namespace Scanner

variable (scanner : Scanner)

/-! ### What is to be done with a slot -/

def removalEvent (h : Holder) (s : Slot) : RemovalEvent :=
  { actor := h.actor.id, world := h.world, stack := s.stack, slot := s.index }

def spares (h : Holder) (s : Slot) : Bool :=
  scanner.arbiter.listeners.any (·.cancelsRemoval (removalEvent h s))

def denied (h : Holder) (s : Slot) (a : Action) : Bool :=
  scanner.arbiter.denies (request h (scanner.arbiter.book.identify s.stack) a 0)

def bannedAction? (h : Holder) (s : Slot) : Option Action :=
  if scanner.denied h s .delete then
    some .delete
  else if s.kind = .armor ∧ scanner.settings.checkArmor ∧ scanner.denied h s .wear then
    some .wear
  else
    none

def reason? (h : Holder) (s : Slot) : Option RemovalReason :=
  match scanner.settings.illegalStacks, illegalReason? scanner.arbiter.book.roster s.stack with
  | .delete, some reason => some (.illegal reason)
  | _, _ => (scanner.bannedAction? h s).map .banned

def removal? (h : Holder) (s : Slot) : Option RemovedItem :=
  if scanner.spares h s then none
  else (scanner.reason? h s).map (⟨h.actor.id, h.world, s.index, s.stack, ·⟩)

def sighting? (h : Holder) (s : Slot) : Option (Nat × Nat × IllegalReason) :=
  if scanner.settings.illegalStacks = .ignore then none
  else (illegalReason? scanner.arbiter.book.roster s.stack).map (h.actor.id, s.index, ·)

def tried (denied : Action → Bool) : List Action → List Action
  | [] => []
  | a :: as => a :: if denied a then [] else tried denied as

def banQuestions (h : Holder) (s : Slot) : List Request :=
  (tried (scanner.denied h s) (scanner.requiredActions s)).map
    (request h (scanner.arbiter.book.identify s.stack) · 0)

/--
The requests that are decided about a slot. Their times are filled in by the clock.
-/
def questions (h : Holder) (s : Slot) : List Request :=
  match scanner.settings.illegalStacks, illegalReason? scanner.arbiter.book.roster s.stack with
  | .delete, some _ => []
  | _, _ => scanner.banQuestions h s

def timed (clock : Nat → Nat) (n : Nat) (rs : List Request) : List Request :=
  (rs.zipIdx n).map fun q => { q.1 with time := clock q.2 }

theorem timed_append (clock : Nat → Nat) (n : Nat) (rs qs : List Request) :
    timed clock n (rs ++ qs) = timed clock n rs ++ timed clock (n + rs.length) qs := by
  rw [timed, List.zipIdx_append, List.map_append, timed, timed]

variable {scanner}

/-! ### What is written down -/

structure Reports (scanner : Scanner) (visits : List (Holder × Slot)) (before after : ScanReport) :
    Prop where
  holders : after.holders = before.holders
  slots : after.slots = before.slots + visits.length
  removed : after.removed = before.removed ++ visits.filterMap fun v => scanner.removal? v.1 v.2
  illegal : after.illegal = before.illegal ++ visits.filterMap fun v => scanner.sighting? v.1 v.2
  counted : after.removed.length + after.cancelled =
    before.removed.length + before.cancelled
      + visits.countP fun v => (scanner.reason? v.1 v.2).isSome

namespace Reports

variable {visits more : List (Holder × Slot)} {before between after : ScanReport}

theorem nil : Reports scanner [] before before :=
  ⟨rfl, rfl, (List.append_nil _).symm, (List.append_nil _).symm, rfl⟩

theorem append (h : Reports scanner visits before between)
    (h' : Reports scanner more between after) :
    Reports scanner (visits ++ more) before after where
  holders := h'.holders.trans h.holders
  slots := by rw [h'.slots, h.slots, List.length_append, Nat.add_assoc]
  removed := by rw [h'.removed, h.removed, List.filterMap_append, List.append_assoc]
  illegal := by rw [h'.illegal, h.illegal, List.filterMap_append, List.append_assoc]
  counted := by rw [h'.counted, h.counted, List.countP_append, Nat.add_assoc]

theorem singleton {h : Holder} {s : Slot} (hholders : after.holders = before.holders)
    (hslots : after.slots = before.slots + 1)
    (hremoved : after.removed = before.removed ++ (scanner.removal? h s).toList)
    (hillegal : after.illegal = before.illegal ++ (scanner.sighting? h s).toList)
    (hcancelled : after.cancelled =
      before.cancelled + if (scanner.reason? h s).isSome ∧ scanner.spares h s then 1 else 0) :
    Reports scanner [(h, s)] before after where
  holders := hholders
  slots := hslots
  removed := by
    rw [hremoved]
    cases hremoval : scanner.removal? h s <;> simp [hremoval]
  illegal := by
    rw [hillegal]
    cases hsighting : scanner.sighting? h s <;> simp [hsighting]
  counted := by
    -- a reason leads to a removal unless the stack is spared, and then the cancellation is counted
    rw [hremoved, hcancelled, List.length_append, List.countP_singleton]
    unfold removal?
    cases scanner.reason? h s <;> cases scanner.spares h s <;> simp <;> omega

end Reports

structure Asks (scanner : Scanner) (clock : Nat → Nat) (rs : List Request)
    (before after : ScanState) : Prop where
  cooldowns : after.cooldowns =
    scanner.arbiter.windowsAfter before.cooldowns (timed clock before.decided rs)
  decided : after.decided = before.decided + rs.length
  audit : after.journal.audit = before.journal.audit ++
    (scanner.arbiter.answers before.cooldowns (timed clock before.decided rs)).flatMap fun a =>
      scanner.sink.record scanner.arbiter.book a.request a.verdict

namespace Asks

variable {clock : Nat → Nat} {rs qs : List Request} {before between after : ScanState}

theorem nil (hcooldowns : after.cooldowns = before.cooldowns)
    (hdecided : after.decided = before.decided)
    (haudit : after.journal.audit = before.journal.audit) : Asks scanner clock [] before after :=
  ⟨hcooldowns, hdecided, haudit.trans (List.append_nil _).symm⟩

theorem append (h : Asks scanner clock rs before between)
    (h' : Asks scanner clock qs between after) :
    Asks scanner clock (rs ++ qs) before after where
  cooldowns := by
    rw [h'.cooldowns, h.cooldowns, h.decided, timed_append, Arbiter.windowsAfter_append]
  decided := by rw [h'.decided, h.decided, List.length_append, Nat.add_assoc]
  audit := by
    rw [h'.audit, h.audit, h.cooldowns, h.decided, timed_append, Arbiter.answers_append,
      List.flatMap_append, List.append_assoc]

end Asks

/-! ### One slot -/

variable (scanner) (clock : Nat → Nat) (h : Holder) (s : Slot) (state : ScanState)

theorem remove_fst : (scanner.remove h s).1 = !scanner.spares h s := by
  unfold remove spares
  simp only [Listeners.cancelsRemoval_eq_any, Bool.false_or]
  rfl

theorem removeFor_fst (reason : RemovalReason) :
    (scanner.removeFor h s reason state).1 = !scanner.spares h s :=
  scanner.remove_fst h s

theorem report_removeFor (reason : RemovalReason) :
    (scanner.removeFor h s reason state).2.report =
      if scanner.spares h s then
        { state.report with cancelled := state.report.cancelled + 1 }
      else
        { state.report with
          removed :=
            state.report.removed ++ [⟨h.actor.id, h.world, s.index, s.stack, reason⟩] } := by
  unfold removeFor
  simp only [remove_fst]
  by_cases hspares : scanner.spares h s = true
  · simp [hspares]
  · simp [hspares]

theorem asks_removeFor (reason : RemovalReason) :
    Asks scanner clock [] state (scanner.removeFor h s reason state).2 :=
  .nil rfl rfl (List.append_nil _)

theorem ask_fst (i : Identity) (a : Action) :
    (scanner.ask clock h i a state).1 = scanner.arbiter.denies (request h i a 0) :=
  Arbiter.isDenied_decide _ _ _

theorem asks_ask (i : Identity) (a : Action) :
    Asks scanner clock [request h i a 0] state (scanner.ask clock h i a state).2 where
  cooldowns := rfl
  decided := rfl
  audit := congrArg (state.journal.audit ++ ·) (List.append_nil _).symm

section FirstDenied

variable (i : Identity) (as : List Action)

theorem firstDenied_fst :
    (scanner.firstDenied clock h i as state).1 =
      as.find? fun a => scanner.arbiter.denies (request h i a 0) := by
  -- a decision may start a window, but windows have no say in whether the next one denies
  induction as generalizing state with
  | nil => rfl
  | cons a as ih =>
    simp only [firstDenied, ask_fst, List.find?_cons]
    cases scanner.arbiter.denies (request h i a 0) with
    | true => rfl
    | false => exact ih _

theorem report_firstDenied :
    (scanner.firstDenied clock h i as state).2.report = state.report := by
  induction as generalizing state with
  | nil => rfl
  | cons a as ih =>
    simp only [firstDenied]
    split
    · rfl
    · exact ih _

theorem asks_firstDenied :
    Asks scanner clock
      ((tried (fun a => scanner.arbiter.denies (request h i a 0)) as).map (request h i · 0))
      state (scanner.firstDenied clock h i as state).2 := by
  induction as generalizing state with
  | nil => exact .nil rfl rfl rfl
  | cons a as ih =>
    have hfirst := scanner.asks_ask clock h state i a
    simp only [firstDenied, ask_fst, tried]
    by_cases hdenied : scanner.arbiter.denies (request h i a 0) = true
    · simp only [hdenied, if_true]
      exact hfirst
    · simp only [hdenied, Bool.false_eq_true, if_false]
      exact hfirst.append (ih _)

end FirstDenied

theorem find?_requiredActions :
    ((scanner.requiredActions s).find? fun a => scanner.denied h s a) =
      scanner.bannedAction? h s := by
  unfold requiredActions bannedAction?
  by_cases harmor : s.kind = .armor ∧ scanner.settings.checkArmor = true
  · rw [if_pos harmor]
    simp only [List.find?_cons, List.find?_nil, harmor.1, harmor.2, true_and]
    cases scanner.denied h s .delete <;> cases scanner.denied h s .wear <;> rfl
  · rw [if_neg harmor]
    have hwear : ¬ (s.kind = .armor ∧ scanner.settings.checkArmor = true
        ∧ scanner.denied h s .wear = true) := fun hall => harmor ⟨hall.1, hall.2.1⟩
    rw [if_neg hwear]
    simp only [List.find?_cons, List.find?_nil]
    cases scanner.denied h s .delete <;> rfl

def settle (scanner : Scanner) (h : Holder) (s : Slot) (reason? : Option RemovalReason)
    (state : ScanState) : Bool × ScanState :=
  match reason? with
  | some reason => scanner.removeFor h s reason state
  | none => (false, state)

theorem exists_visitBanned_eq : ∃ noted,
    scanner.visitBanned clock h s state =
        scanner.settle h s ((scanner.bannedAction? h s).map .banned) noted
      ∧ noted.report = state.report
      ∧ Asks scanner clock (scanner.banQuestions h s) state noted := by
  let i := scanner.arbiter.book.identify s.stack
  have hfirst : (scanner.firstDenied clock h i (scanner.requiredActions s) state).1 =
      scanner.bannedAction? h s :=
    (scanner.firstDenied_fst clock h state i _).trans (scanner.find?_requiredActions h s)
  refine ⟨(scanner.firstDenied clock h i (scanner.requiredActions s) state).2, ?_,
    scanner.report_firstDenied clock h state i _, scanner.asks_firstDenied clock h state i _⟩
  rw [← hfirst, visitBanned]
  generalize scanner.firstDenied clock h i (scanner.requiredActions s) state = result
  obtain ⟨found, noted⟩ := result
  cases found with
  | none => rfl
  | some a => rfl

theorem of_illegal?_eq_none (hlegal : scanner.illegal? s = none) :
    scanner.sighting? h s = none
      ∧ scanner.reason? h s = (scanner.bannedAction? h s).map .banned
      ∧ scanner.questions h s = scanner.banQuestions h s := by
  unfold illegal? at hlegal
  unfold sighting? reason? questions
  split at hlegal
  · next hignore =>
    rw [hignore]
    exact ⟨rfl, rfl, rfl⟩
  · next hmode =>
    rw [hlegal, if_neg hmode]
    refine ⟨rfl, ?_, ?_⟩
    · cases scanner.settings.illegalStacks <;> rfl
    · cases scanner.settings.illegalStacks <;> rfl

theorem of_illegal?_eq_some {reason : IllegalReason} (hillegal : scanner.illegal? s = some reason) :
    scanner.sighting? h s = some (h.actor.id, s.index, reason)
      ∧ (scanner.settings.illegalStacks = .delete →
        scanner.reason? h s = some (.illegal reason) ∧ scanner.questions h s = [])
      ∧ (scanner.settings.illegalStacks ≠ .delete →
        scanner.reason? h s = (scanner.bannedAction? h s).map .banned
          ∧ scanner.questions h s = scanner.banQuestions h s) := by
  unfold illegal? at hillegal
  unfold sighting? reason? questions
  split at hillegal
  · cases hillegal
  · next hmode =>
    rw [hillegal, if_neg hmode]
    refine ⟨rfl, ?_, ?_⟩
    · intro hdelete
      rw [hdelete]
      exact ⟨rfl, rfl⟩
    · intro hkeep
      cases hcase : scanner.settings.illegalStacks with
      | delete => exact absurd hcase hkeep
      | ignore => exact ⟨rfl, rfl⟩
      | log => exact ⟨rfl, rfl⟩

theorem exists_visitSlot_eq : ∃ noted,
    scanner.visitSlot clock h s state = scanner.settle h s (scanner.reason? h s) noted
      ∧ noted.report = { state.report with
          slots := state.report.slots + 1
          illegal := state.report.illegal ++ (scanner.sighting? h s).toList }
      ∧ Asks scanner clock (scanner.questions h s) state noted := by
  -- the illegal stacks of the `delete` mode are the only ones that no request is decided about
  let seen : ScanState :=
    { state with report := { state.report with slots := state.report.slots + 1 } }
  have hseen : Asks scanner clock [] state seen := .nil rfl rfl rfl
  cases hillegal : scanner.illegal? s with
  | none =>
    obtain ⟨hsighting, hreason, hquestions⟩ := scanner.of_illegal?_eq_none h s hillegal
    obtain ⟨noted, heq, hreport, hasks⟩ :=
      scanner.exists_visitBanned_eq clock h s seen
    rw [hsighting, hreason, hquestions]
    refine ⟨noted, ?_, ?_, hseen.append hasks⟩
    · rw [← heq, visitSlot, hillegal]
    · rw [hreport, Option.toList_none, List.append_nil]
  | some reason =>
    obtain ⟨hsighting, hremoved, hkept⟩ := scanner.of_illegal?_eq_some h s hillegal
    let listed : ScanState :=
      { seen with report :=
        { seen.report with illegal := seen.report.illegal ++ [(h.actor.id, s.index, reason)] } }
    have hlisted : Asks scanner clock [] state listed := .nil rfl rfl rfl
    by_cases hdelete : scanner.settings.illegalStacks = .delete
    · obtain ⟨hreason, hquestions⟩ := hremoved hdelete
      rw [hsighting, hreason, hquestions]
      refine ⟨listed, ?_, rfl, hlisted⟩
      simp only [visitSlot, hillegal, if_pos hdelete]
      rfl
    · obtain ⟨hreason, hquestions⟩ := hkept hdelete
      obtain ⟨noted, heq, hreport, hasks⟩ :=
        scanner.exists_visitBanned_eq clock h s listed
      rw [hsighting, hreason, hquestions]
      refine ⟨noted, ?_, hreport, hlisted.append hasks⟩
      simp only [visitSlot, hillegal, if_neg hdelete]
      exact heq

theorem visitSlot_fst :
    (scanner.visitSlot clock h s state).1 = (scanner.removal? h s).isSome := by
  obtain ⟨noted, heq, -, -⟩ := scanner.exists_visitSlot_eq clock h s state
  rw [heq, removal?]
  cases scanner.reason? h s with
  | none => cases scanner.spares h s <;> rfl
  | some reason =>
    rw [settle, removeFor_fst]
    cases scanner.spares h s <;> rfl

theorem reports_visitSlot :
    Reports scanner [(h, s)] state.report (scanner.visitSlot clock h s state).2.report := by
  obtain ⟨noted, heq, hreport, -⟩ := scanner.exists_visitSlot_eq clock h s state
  rw [heq]
  cases hreason : scanner.reason? h s with
  | none =>
    have hremoval : scanner.removal? h s = none := by simp [removal?, hreason]
    rw [settle, hreport]
    refine Reports.singleton rfl rfl ?_ rfl ?_
    · simp [hremoval]
    · simp [hreason]
  | some reason =>
    rw [settle, report_removeFor, hreport]
    by_cases hspares : scanner.spares h s = true
    · have hremoval : scanner.removal? h s = none := by simp [removal?, hspares]
      rw [if_pos hspares]
      refine Reports.singleton rfl rfl ?_ rfl ?_
      · simp [hremoval]
      · simp [hreason, hspares]
    · have hremoval : scanner.removal? h s =
          some ⟨h.actor.id, h.world, s.index, s.stack, reason⟩ := by
        simp [removal?, hspares, hreason]
      rw [if_neg hspares]
      refine Reports.singleton rfl rfl ?_ rfl ?_
      · simp [hremoval]
      · simp [hreason, hspares]

theorem asks_visitSlot :
    Asks scanner clock (scanner.questions h s) state (scanner.visitSlot clock h s state).2 := by
  obtain ⟨noted, heq, -, hasks⟩ := scanner.exists_visitSlot_eq clock h s state
  rw [heq]
  cases scanner.reason? h s with
  | none => exact hasks
  | some reason =>
    rw [← List.append_nil (scanner.questions h s)]
    exact hasks.append (scanner.asks_removeFor clock h s noted reason)

end Scanner

end Embargo
