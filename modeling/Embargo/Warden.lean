import Embargo.Folder
import Embargo.Inventory.Scan
import Embargo.Item.Identity
import Embargo.Rule.Store

namespace Embargo

structure Warden where
  settings : Settings
  store : Store
  cooldowns : Cooldowns
  listeners : Listeners
  sink : AuditSink
  origin : Option String
deriving Inhabited

structure Effect (α : Type) where
  answer : α
  journal : Journal
  warden : Warden

namespace Warden

def new (settings : Settings) (roster : Roster) (aliases : Aliases) (sink : Option AuditSink)
    (engine : Engine := .builtIn) : Warden where
  settings := settings
  store := .new roster aliases settings.legacy engine
  cooldowns := ∅
  listeners := {}
  sink := sink.getD (.log settings.audit.level settings.audit.enabled)
  origin := none

def book (w : Warden) : RuleBook :=
  w.store.book

def arbiter (w : Warden) : Arbiter where
  book := w.book
  listeners := w.listeners.toList
  front := Bypass.normalFront w.settings.bypassFront

def scanner (w : Warden) : Scanner where
  arbiter := w.arbiter
  settings := w.settings.scan
  sink := w.sink

def reload (w : Warden) (source : RuleSource) : Warden :=
  { w with store := w.store.reload source, origin := none }

def setRoster (w : Warden) (roster : Roster) : Warden :=
  { w with store := w.store.setRoster roster }

def reloadFile (w : Warden) (f : Folder) (path : String) : Except FileError Warden := do
  let source ← f.loadSource path
  return { w with store := w.store.reload source, origin := some path }

def refresh (w : Warden) (f : Folder) : Except FileError Warden :=
  match w.origin with
  | some path => w.reloadFile f path
  | none => .ok { w with store := w.store.reload w.store.source }

def save (w : Warden) (f : Folder) : Option FileError × Folder :=
  match w.origin with
  | none => (some .noOrigin, f)
  | some path =>
    match f.saveSource path w.store.source with
    | (none, f) => (none, f)
    | (some _, f) => (some (.saveSource (f.shown (Folder.names path))), f)

def withStore (w : Warden) (store : Store) : Warden :=
  { w with store := store }

def addItem (w : Warden) (name : String) (i : Identity) (overwrite : Bool) :
    Except AdminError Warden :=
  (w.store.addItem name i overwrite).map w.withStore

def addSpecimen (w : Warden) (name : String) (s : Stack) (overwrite : Bool) :
    Except AdminError Warden :=
  w.addItem name (Specimen.capture s w.store.legacy).identity overwrite

def removeItem (w : Warden) (name : String) : Except AdminError (Identity × Warden) :=
  (w.store.removeItem name).map fun p => (p.1, w.withStore p.2)

def rule (w : Warden) (r : Request) : Effect Verdict :=
  let ruling := w.arbiter.decide w.cooldowns r
  { answer := ruling.verdict
    journal := { notices := w.arbiter.notices ruling }
    warden := { w with cooldowns := ruling.cooldowns } }

def audit (w : Warden) (r : Request) (v : Verdict) : List AuditEntry :=
  w.sink.record w.book r v

def decide (w : Warden) (r : Request) : Effect Verdict :=
  let effect := w.rule r
  { effect with journal := effect.journal ++ { audit := effect.warden.audit r effect.answer } }

/--
Decide a request about a stack, for which the item of the request is replaced. Only for the audit
trail the stack is identified a second time.
-/
def decideStack (w : Warden) (r : Request) (s : Stack) : Effect Verdict :=
  let effect := w.rule { r with item := w.book.identify s }
  if effect.answer.shouldLog then
    let again := { r with item := effect.warden.book.identify s }
    { effect with journal := effect.journal ++ { audit := effect.warden.audit again effect.answer } }
  else
    effect

def bypasses (w : Warden) (actor : Actor) (world : World) (itemName : String) (action : Action) :
    Bool :=
  Bypass.holds w.arbiter.front actor world itemName action

/--
Forget the cooldown windows that no ban can still be in. The answer is how many there were.
-/
def prune (w : Warden) (now : Nat) : Nat × Warden :=
  let kept := w.cooldowns.prune (w.book.longestCooldown?.getD 0) now
  (w.cooldowns.size - kept.size, { w with cooldowns := kept })

def forgetActor (w : Warden) (actor : Nat) : Warden :=
  { w with cooldowns := w.cooldowns.forget actor }

def register (w : Warden) (l : Listener) : Warden :=
  { w with listeners := w.listeners.register l }

def unregister (w : Warden) (name : String) : Bool × Warden :=
  (w.listeners.isRegistered name, { w with listeners := w.listeners.unregister name })

def scanAlong (w : Warden) (clock : Nat → Nat) (holders : List Holder) :
    Effect (ScanReport × List Holder) :=
  let (holders, state) := w.scanner.scan clock w.cooldowns holders
  { answer := (state.report, holders)
    journal := state.journal
    warden := { w with cooldowns := state.cooldowns } }

def scan (w : Warden) (now : Nat) (holders : List Holder) : Effect (ScanReport × List Holder) :=
  w.scanAlong (fun _ => now) holders

def tick (w : Warden) (now : Nat) (holders : List Holder) : Effect (ScanReport × List Holder) :=
  let effect := w.scan now holders
  { effect with warden := (effect.warden.prune now).2 }

def startScan (w : Warden) (now : Nat) (holders : List Holder) :
    Option (Effect (ScanReport × List Holder)) :=
  if w.settings.scan.enabled then some (w.tick now holders) else none

def search (w : Warden) (i : Identity) (delete : Bool) (holders : List Holder) :
    Effect (List Nat × List Holder) :=
  let (found, holders, notices) := w.scanner.search i delete holders []
  { answer := (found, holders), journal := { notices }, warden := w }

def searchNamed (w : Warden) (name : String) (delete : Bool) (holders : List Holder) :
    Except AdminError (Effect (List Nat × List Holder)) :=
  match w.store.catalogue.get? name with
  | some i => .ok (w.search i delete holders)
  | none => .error (.itemNotFound name)

end Warden

end Embargo
