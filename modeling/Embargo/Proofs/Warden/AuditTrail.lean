import Embargo.Proofs.Inventory.Scan
import Embargo.Warden

namespace Embargo

inductive Operation where
  | reload (source : RuleSource)
  | setRoster (roster : Roster)
  | addSpecimen (name : String) (s : Stack) (overwrite : Bool)
  | removeItem (name : String)
  | decide (r : Request)
  | decideStack (r : Request) (s : Stack)
  | scan (clock : Nat → Nat) (holders : List Holder)
  | search (i : Identity) (delete : Bool) (holders : List Holder)
  | forget (actor : Nat)
  | prune (now : Nat)
  | register (l : Listener)
  | unregister (name : String)

structure Finding where
  book : RuleBook
  answer : Answer

def Finding.entry (f : Finding) : AuditEntry where
  actor := f.answer.request.actor.id
  world := f.answer.request.world
  itemName := (f.book.catalogue.nameOf? f.answer.request.item).getD
    f.answer.request.item.material.name
  action := f.answer.request.action
  outcome := .deny
  ground := .blacklist
  message := f.answer.verdict.message

namespace Warden

def perform (w : Warden) : Operation → List AuditEntry × Warden
  | .reload source => ([], w.reload source)
  | .setRoster roster => ([], w.setRoster roster)
  | .addSpecimen name s overwrite =>
    match w.addSpecimen name s overwrite with
    | .ok after => ([], after)
    | .error _ => ([], w)
  | .removeItem name =>
    match w.removeItem name with
    | .ok (_, after) => ([], after)
    | .error _ => ([], w)
  | .decide r => ((w.decide r).journal.audit, (w.decide r).warden)
  | .decideStack r s => ((w.decideStack r s).journal.audit, (w.decideStack r s).warden)
  | .scan clock holders =>
    ((w.scanAlong clock holders).journal.audit, (w.scanAlong clock holders).warden)
  | .search i delete holders =>
    ((w.search i delete holders).journal.audit, (w.search i delete holders).warden)
  | .forget actor => ([], w.forgetActor actor)
  | .prune now => ([], (w.prune now).2)
  | .register l => ([], w.register l)
  | .unregister name => ([], (w.unregister name).2)

def audited (w : Warden) : List Operation → List AuditEntry
  | [] => []
  | op :: ops => (w.perform op).1 ++ (w.perform op).2.audited ops

/--
The answers that are found in an operation: what it returns, or what a scan finds on its way.
-/
def found (w : Warden) : Operation → List Answer
  | .decide r => [⟨r, (w.decide r).answer⟩]
  | .decideStack r s => [⟨{ r with item := w.book.identify s }, (w.decideStack r s).answer⟩]
  | .scan clock holders =>
    w.arbiter.answers w.cooldowns (Scanner.timed clock 0
      ((Scanner.visits holders).flatMap fun v => w.scanner.questions v.1 v.2))
  | _ => []

def findings (w : Warden) : List Operation → List Finding
  | [] => []
  | op :: ops => (w.found op).map (Finding.mk w.book) ++ (w.perform op).2.findings ops

end Warden

namespace Arbiter

variable (arbiter : Arbiter) (c : Cooldowns)

theorem record_decide (r : Request) :
    AuditSink.host.record arbiter.book r (arbiter.decide c r).verdict =
      if (arbiter.decide c r).verdict.shouldLog then
        [Finding.entry ⟨arbiter.book, r, (arbiter.decide c r).verdict⟩]
      else [] := by
  unfold AuditSink.record
  split
  · next hlog =>
    obtain ⟨houtcome, hground, -⟩ := arbiter.decide_of_shouldLog r c hlog
    rw [houtcome, hground]
    rfl
  · rfl

theorem flatMap_record (rs : List Request) :
    ((arbiter.answers c rs).flatMap fun a =>
      AuditSink.host.record arbiter.book a.request a.verdict) =
      (((arbiter.answers c rs).map (Finding.mk arbiter.book)).filter
        (·.answer.verdict.shouldLog)).map Finding.entry := by
  induction rs generalizing c with
  | nil => rfl
  | cons r rs ih =>
    rw [answers, List.flatMap_cons, record_decide, ih, List.map_cons, List.filter_cons]
    split <;> rfl

theorem of_mem_answers {rs : List Request} {a : Answer} (ha : a ∈ arbiter.answers c rs)
    (hlog : a.verdict.shouldLog = true) :
    a.verdict.outcome = .deny ∧ a.verdict.ground = .blacklist ∧ a.verdict.remaining = none := by
  induction rs generalizing c with
  | nil => cases ha
  | cons r rs ih =>
    rw [answers, List.mem_cons] at ha
    rcases ha with rfl | hrest
    · exact arbiter.decide_of_shouldLog r c hlog
    · exact ih _ hrest

end Arbiter

namespace Warden

variable (w : Warden)

theorem answer_decideStack (r : Request) (s : Stack) :
    (w.decideStack r s).answer = (w.rule { r with item := w.book.identify s }).answer := by
  unfold decideStack
  simp only
  split <;> rfl

theorem exists_found_eq (op : Operation) : ∃ rs, w.found op = w.arbiter.answers w.cooldowns rs := by
  cases op with
  | decide r => exact ⟨[r], rfl⟩
  | decideStack r s =>
    refine ⟨[{ r with item := w.book.identify s }], ?_⟩
    rw [found, answer_decideStack]
    rfl
  | scan clock holders => exact ⟨_, rfl⟩
  | _ => exact ⟨[], rfl⟩

theorem audit_decideStack (r : Request) (s : Stack) :
    (w.decideStack r s).journal.audit =
      w.sink.record w.book { r with item := w.book.identify s } (w.decideStack r s).answer := by
  -- a decision leaves the rules alone, so the stack is identified as the same item again
  rw [answer_decideStack]
  unfold decideStack
  simp only
  split
  · exact List.nil_append _
  · next hsilent =>
    rw [AuditSink.record, if_neg hsilent]
    rfl

theorem perform_fst (op : Operation) :
    (w.perform op).1 = (w.found op).flatMap fun a =>
      w.sink.record w.book a.request a.verdict := by
  cases op with
  | decide r => exact (List.nil_append _).trans (List.append_nil _).symm
  | decideStack r s => exact (w.audit_decideStack r s).trans (List.append_nil _).symm
  | scan clock holders =>
    exact (w.scanner.asks_visitHolders clock
      { cooldowns := w.cooldowns, report := { holders := holders.length } } holders).audit
  | addSpecimen name s overwrite =>
    simp only [perform]
    split <;> rfl
  | removeItem name =>
    simp only [perform]
    split <;> rfl
  | _ => rfl

theorem sink_perform (op : Operation) : (w.perform op).2.sink = w.sink := by
  cases op with
  | decideStack r s =>
    simp only [perform, decideStack]
    split <;> rfl
  | addSpecimen name s overwrite =>
    simp only [perform, addSpecimen, addItem]
    cases w.store.addItem name _ overwrite <;> rfl
  | removeItem name =>
    simp only [perform, removeItem]
    cases w.store.removeItem name <;> rfl
  | _ => rfl

theorem audited_eq (hsink : w.sink = .host) (ops : List Operation) :
    w.audited ops =
      ((w.findings ops).filter (·.answer.verdict.shouldLog)).map Finding.entry := by
  induction ops generalizing w with
  | nil => rfl
  | cons op ops ih =>
    -- a scan is a list of decisions like any other operation, only that it asks more than one
    obtain ⟨rs, hfound⟩ := w.exists_found_eq op
    have hfirst := w.arbiter.flatMap_record w.cooldowns rs
    have hrest := ih (w.perform op).2 ((w.sink_perform op).trans hsink)
    rw [audited, findings, w.perform_fst, hfound, hsink, hrest, List.filter_append, List.map_append]
    exact congrArg (· ++ _) hfirst

theorem of_mem_findings {ops : List Operation} {f : Finding} (hf : f ∈ w.findings ops)
    (hlog : f.answer.verdict.shouldLog = true) :
    f.answer.verdict.outcome = .deny ∧ f.answer.verdict.ground = .blacklist
      ∧ f.answer.verdict.remaining = none := by
  induction ops generalizing w with
  | nil => cases hf
  | cons op ops ih =>
    rw [findings, List.mem_append] at hf
    rcases hf with hnow | hrest
    · obtain ⟨a, ha, rfl⟩ := List.mem_map.1 hnow
      obtain ⟨rs, hfound⟩ := w.exists_found_eq op
      rw [hfound] at ha
      exact w.arbiter.of_mem_answers w.cooldowns ha hlog
    · exact ih _ hrest

/--
A host that takes every entry gets one for each verdict that is logged, in the order of the
verdicts, and all of them are denials of bans that are not silent.
-/
theorem audited_findings (w : Warden) (hsink : w.sink = .host) (ops : List Operation) :
    w.audited ops = ((w.findings ops).filter (·.answer.verdict.shouldLog)).map Finding.entry
      ∧ ∀ f ∈ w.findings ops, f.answer.verdict.shouldLog = true →
        f.answer.verdict.outcome = .deny ∧ f.answer.verdict.ground = .blacklist
          ∧ f.answer.verdict.remaining = none :=
  ⟨w.audited_eq hsink ops, fun _ => w.of_mem_findings⟩

theorem audited_findings_cancelled :
    let world : World := ⟨"world"⟩
    let tnt : Stack := { material := ⟨"tnt"⟩ }
    let bans : Bans :=
      .ofList [⟨.plain tnt.material, .place, { log := some true, cooldown := some 10 }⟩,
        ⟨.plain tnt.material, .delete, { log := some true }⟩]
    let book : RuleBook := { (default : RuleBook) with blacklist := .ofList [(world, bans)] }
    let store : Store := { (default : Store) with book }
    let keeper : Listener := { name := "keeper", cancelsRemoval := fun _ => true }
    let w : Warden :=
      { (default : Warden) with store, cooldowns := ∅, listeners := ⟨[keeper]⟩, sink := .host }
    let place (time : Nat) : Operation :=
      .decideStack { actor := default, world, item := .plain ⟨"air"⟩, action := .place, time } tnt
    let h : Holder := { actor := default, world, slots := [⟨4, .storage, tnt⟩] }
    let ops := [place 0, place 3, .scan (· + 5) [h], .reload {}, place 20]
    let entry (action : Action) : AuditEntry :=
      { actor := 0, world, itemName := "tnt", action, outcome := .deny, ground := .blacklist
        message := none }
    w.sink = .host
      ∧ w.audited ops = [entry .place, entry .delete]
      ∧ (w.findings ops).map (·.answer.verdict.outcome) = [.deny, .deny, .deny, .allow]
      ∧ (w.scanAlong (· + 5) [h]).answer = ({ holders := 1, slots := 1, cancelled := 1 }, [h]) := by
  intro world tnt bans book store keeper w place h ops entry
  obtain ⟨haudited, -⟩ := w.audited_findings rfl ops
  refine ⟨rfl, ?_, ?_, ?_⟩
  · rw [haudited]
    decide +kernel
  · decide +kernel
  · decide +kernel

end Warden

end Embargo
