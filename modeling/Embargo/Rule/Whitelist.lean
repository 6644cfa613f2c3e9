import Embargo.Action
import Embargo.Collection.OrderedSet
import Embargo.Collection.Table
import Embargo.Item.Identity

namespace Embargo

/--
The whitelist of a world. It denies every action that it neither ignores nor allows.
-/
structure Whitelist where
  allowed : Table Identity (OrderedSet Action) := ∅
  ignored : OrderedSet Action := ∅
  message : Option String := none
deriving DecidableEq, Inhabited

namespace Whitelist

def ignores (w : Whitelist) (a : Action) : Bool :=
  w.ignored.contains a

def allows (w : Whitelist) (i : Identity) (a : Action) : Bool :=
  (w.allowed.get? i).any (·.contains a)

def allow (w : Whitelist) (i : Identity) (actions : OrderedSet Action) : Whitelist :=
  { w with allowed := w.allowed.upsert i fun old => (old.getD ∅).union actions }

/--
A later whitelist on top of an earlier one: both count, and the later message is shown.
-/
def merge (earlier later : Whitelist) : Whitelist where
  allowed := (later.allowed.entries.foldl (fun w e => w.allow e.1 e.2) earlier).allowed
  ignored := earlier.ignored.union later.ignored
  message := later.message.or earlier.message

theorem entries_foldl_allow {w : Whitelist} {es : List (Identity × OrderedSet Action)}
    (h : ((w.allowed.entries ++ es).map Prod.fst).Nodup) :
    (es.foldl (fun w e => w.allow e.1 e.2) w).allowed.entries = w.allowed.entries ++ es := by
  induction es generalizing w with
  | nil => exact (List.append_nil _).symm
  | cons e es ih =>
    have hnew : e.1 ∉ w.allowed.keys := by
      rw [List.map_append, List.map_cons] at h
      exact fun he => (List.nodup_append.1 h).2.2 e.1 he e.1 List.mem_cons_self rfl
    have hallow : (w.allow e.1 e.2).allowed.entries = w.allowed.entries ++ [e] := by
      have hnone : w.allowed.get? e.1 = none := Table.find?_eq_none_of_notMem hnew
      unfold allow
      rw [Table.upsert_eq_insert, Table.entries_insert_of_notMem hnew, hnone]
      simp
    rw [List.append_cons, ← hallow] at h
    rw [List.foldl_cons, ih h, hallow, ← List.append_cons]

@[simp]
theorem empty_merge (w : Whitelist) : ({} : Whitelist).merge w = w := by
  have hallowed : (({} : Whitelist).merge w).allowed = w.allowed :=
    Table.ext (entries_foldl_allow w.allowed.nodup)
  have hignored : (({} : Whitelist).merge w).ignored = w.ignored := OrderedSet.empty_union
  have hmessage : (({} : Whitelist).merge w).message = w.message := Option.or_none
  calc ({} : Whitelist).merge w
    _ = ⟨(({} : Whitelist).merge w).allowed, (({} : Whitelist).merge w).ignored,
          (({} : Whitelist).merge w).message⟩ := rfl
    _ = w := by rw [hallowed, hignored, hmessage]

theorem allows_allow (w : Whitelist) (i j : Identity) (s : OrderedSet Action) (a : Action) :
    (w.allow i s).allows j a = ((decide (i = j) && s.contains a) || w.allows j a) := by
  unfold allow allows
  by_cases h : i = j
  · subst h
    cases hw : w.allowed.get? i <;> simp [hw, OrderedSet.contains, Bool.decide_or]
  · simp [h]

theorem ignores_iff {w : Whitelist} {a : Action} : w.ignores a ↔ a ∈ w.ignored :=
  OrderedSet.contains_iff

theorem allows_iff {w : Whitelist} {i : Identity} {a : Action} :
    w.allows i a ↔ ∃ e ∈ w.allowed.entries, e.1 = i ∧ a ∈ e.2 := by
  unfold allows
  rw [Option.any_eq_true]
  constructor
  · rintro ⟨actions, hget, ha⟩
    exact ⟨(i, actions), Table.get?_eq_some_iff_mem.1 hget, rfl, OrderedSet.contains_iff.1 ha⟩
  · rintro ⟨⟨_, actions⟩, hmem, rfl, ha⟩
    exact ⟨actions, Table.get?_eq_some_iff_mem.2 hmem, OrderedSet.contains_iff.2 ha⟩

end Whitelist

end Embargo
