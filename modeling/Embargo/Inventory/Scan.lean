import Embargo.Decision.Arbiter
import Embargo.Inventory
import Embargo.Settings

/-!
This module contains the scan of inventories, which removes the items that may not be held, and the
search for the holders of an item.
-/

namespace Embargo

structure Journal where
  notices : List Notice := []
  audit : List AuditEntry := []
deriving DecidableEq, Inhabited

def Journal.append (a b : Journal) : Journal :=
  ⟨a.notices ++ b.notices, a.audit ++ b.audit⟩

instance : Append Journal := ⟨Journal.append⟩

inductive RemovalReason where
  | banned (action : Action)
  | illegal (reason : IllegalReason)
deriving DecidableEq, Repr, Inhabited

structure RemovedItem where
  actor : Nat
  world : World
  slot : Nat
  stack : Stack
  reason : RemovalReason
deriving DecidableEq, Inhabited

structure ScanReport where
  holders : Nat := 0
  slots : Nat := 0
  removed : List RemovedItem := []
  /-- the illegal stacks, whatever was done with them -/
  illegal : List (Nat × Nat × IllegalReason) := []
  cancelled : Nat := 0
deriving DecidableEq, Inhabited

structure Scanner where
  arbiter : Arbiter
  settings : ScanSettings
  sink : AuditSink
deriving Inhabited

structure ScanState where
  cooldowns : Cooldowns
  decided : Nat := 0
  report : ScanReport := {}
  journal : Journal := {}
deriving Inhabited

namespace Scanner

def remove (scanner : Scanner) (h : Holder) (s : Slot) : Bool × List Notice :=
  let event : RemovalEvent :=
    { actor := h.actor.id, world := h.world, stack := s.stack, slot := s.index }
  (!Listeners.cancelsRemoval event scanner.arbiter.listeners,
    Listeners.removalNotices event scanner.arbiter.listeners)

def removeFor (scanner : Scanner) (h : Holder) (s : Slot) (reason : RemovalReason)
    (state : ScanState) : Bool × ScanState :=
  let (gone, notices) := scanner.remove h s
  let report := state.report
  let report :=
    if gone then
      { report with removed := report.removed ++ [⟨h.actor.id, h.world, s.index, s.stack, reason⟩] }
    else
      { report with cancelled := report.cancelled + 1 }
  (gone, { state with report, journal := state.journal ++ { notices } })

def requiredActions (scanner : Scanner) (s : Slot) : List Action :=
  if s.kind = .armor ∧ scanner.settings.checkArmor then [.delete, .wear] else [.delete]

def request (h : Holder) (i : Identity) (a : Action) (time : Nat) : Request :=
  { actor := h.actor, world := h.world, item := i, action := a, time }

/--
Decide whether an action with an item is denied. The clock shows `clock n` when `n` requests were
decided before.
-/
def ask (scanner : Scanner) (clock : Nat → Nat) (h : Holder) (i : Identity) (a : Action)
    (state : ScanState) : Bool × ScanState :=
  let request := request h i a (clock state.decided)
  let ruling := scanner.arbiter.decide state.cooldowns request
  (ruling.verdict.isDenied,
    { state with
      cooldowns := ruling.cooldowns
      decided := state.decided + 1
      journal := state.journal ++
        { notices := scanner.arbiter.notices ruling
          audit := scanner.sink.record scanner.arbiter.book request ruling.verdict } })

def firstDenied (scanner : Scanner) (clock : Nat → Nat) (h : Holder) (i : Identity) :
    List Action → ScanState → Option Action × ScanState
  | [], state => (none, state)
  | a :: as, state =>
    let (denied, state) := scanner.ask clock h i a state
    if denied then (some a, state) else scanner.firstDenied clock h i as state

def visitBanned (scanner : Scanner) (clock : Nat → Nat) (h : Holder) (s : Slot)
    (state : ScanState) : Bool × ScanState :=
  let i := scanner.arbiter.book.identify s.stack
  match scanner.firstDenied clock h i (scanner.requiredActions s) state with
  | (some a, state) => scanner.removeFor h s (.banned a) state
  | (none, state) => (false, state)

def illegal? (scanner : Scanner) (s : Slot) : Option IllegalReason :=
  if scanner.settings.illegalStacks = .ignore then none
  else illegalReason? scanner.arbiter.book.roster s.stack

def visitSlot (scanner : Scanner) (clock : Nat → Nat) (h : Holder) (s : Slot) (state : ScanState) :
    Bool × ScanState :=
  let state := { state with report := { state.report with slots := state.report.slots + 1 } }
  match scanner.illegal? s with
  | none => scanner.visitBanned clock h s state
  | some reason =>
    let state := { state with report :=
      { state.report with illegal := state.report.illegal ++ [(h.actor.id, s.index, reason)] } }
    if scanner.settings.illegalStacks = .delete then
      scanner.removeFor h s (.illegal reason) state
    else
      scanner.visitBanned clock h s state

def visitSlots (scanner : Scanner) (clock : Nat → Nat) :
    List Slot → Holder → ScanState → Holder × ScanState
  | [], h, state => (h, state)
  | s :: slots, h, state =>
    let (gone, state) := scanner.visitSlot clock h s state
    scanner.visitSlots clock slots (if gone then h.clear s.index else h) state

def visitHolders (scanner : Scanner) (clock : Nat → Nat) :
    List Holder → ScanState → List Holder × ScanState
  | [], state => ([], state)
  | h :: hs, state =>
    let (h, state) := scanner.visitSlots clock h.slots h state
    let (hs, state) := scanner.visitHolders clock hs state
    (h :: hs, state)

def scan (scanner : Scanner) (clock : Nat → Nat) (cooldowns : Cooldowns) (holders : List Holder) :
    List Holder × ScanState :=
  scanner.visitHolders clock holders { cooldowns, report := { holders := holders.length } }

def removeAll (scanner : Scanner) : List Slot → Holder → Holder × List Notice
  | [], h => (h, [])
  | s :: slots, h =>
    let (gone, notices) := scanner.remove h s
    let (h, more) := scanner.removeAll slots (if gone then h.clear s.index else h)
    (h, notices ++ more)

/--
The actors who hold an item, each of them once, together with the inventories afterwards. If the
stacks are to be deleted, a listener may still cancel that.
-/
def search (scanner : Scanner) (i : Identity) (delete : Bool) :
    List Holder → List Nat → List Nat × List Holder × List Notice
  | [], found => (found, [], [])
  | h :: hs, found =>
    let matching := h.slots.filter fun s => i.holds s.stack
    if matching.isEmpty then
      let (found, hs, notices) := scanner.search i delete hs found
      (found, h :: hs, notices)
    else
      let found := if found.contains h.actor.id then found else found ++ [h.actor.id]
      let (h, notices) := if delete then scanner.removeAll matching h else (h, [])
      let (found, hs, more) := scanner.search i delete hs found
      (found, h :: hs, notices ++ more)

end Scanner

end Embargo
