import Embargo.Proofs.Load.Readers

/-!
This module contains the sets that expressions denote. A set depends neither on the place of its
expression nor on the trail, and what holds of all members and of all that names resolve to holds of
everything in it.
-/

namespace Embargo

namespace Domain

variable {α : Type} (d : Domain α)

theorem value_mentioned (path : Path) (token : String) :
    (d.mentioned path token).value = match d.meaning token with
      | .ok as => as
      | .error _ => [] := by
  unfold mentioned
  cases d.meaning token <;> rfl

section Members

variable {d} {P : α → Prop}

theorem forall_mem_meaning (hmembers : ∀ a ∈ d.members, P a)
    (hresolve : ∀ token a, d.resolve token = .ok a → P a) {token : String} {as : List α}
    (h : d.meaning token = .ok as) : ∀ a ∈ as, P a := by
  unfold meaning at h
  split at h
  · cases h
    exact hmembers
  · split at h
    · cases h
      intro a ha
      exact hmembers a (List.mem_filter.1 ha).1
    · cases h
  · split at h
    · next a hname =>
      cases h
      intro b hb
      rw [List.mem_singleton.1 hb]
      exact hresolve token a hname
    · cases h
    · cases h

theorem forall_mem_mentioned (hmembers : ∀ a ∈ d.members, P a)
    (hresolve : ∀ token a, d.resolve token = .ok a → P a) (path : Path) (token : String) :
    ∀ a ∈ (d.mentioned path token).value, P a := by
  rw [value_mentioned]
  split
  · next as h => exact forall_mem_meaning hmembers hresolve h
  · intro a ha
    cases ha

end Members

variable [DecidableEq α]

def denoted (e : Expression) : OrderedSet α :=
  (d.evaluate .root e).value

theorem additive_applyToken (path : Path) (set : OrderedSet α) (raw : String) :
    (d.applyToken path set raw).Additive :=
  (d.reports_applyToken (p := (· = path)) rfl set raw).additive

theorem value_applyToken (path other : Path) (set : OrderedSet α) (raw : String) :
    (d.applyToken path set raw).value = (d.applyToken other set raw).value := by
  unfold applyToken
  dsimp only
  split
  · rfl
  · rw [Load.value_bind_pure, Load.value_bind_pure,
      value_mentioned, value_mentioned]
  · rw [Load.value_bind_pure, Load.value_bind_pure,
      value_mentioned, value_mentioned]

theorem value_evaluate (path : Path) (e : Expression) :
    (d.evaluate path e).value = d.denoted e := by
  unfold denoted evaluate evaluateTokens
  rw [Load.value_foldlM (d.additive_applyToken path), Load.value_foldlM (d.additive_applyToken .root)]
  simp only [d.value_applyToken path .root]

section Members

variable {d} {P : α → Prop}

theorem forall_mem_applyToken (hmembers : ∀ a ∈ d.members, P a)
    (hresolve : ∀ token a, d.resolve token = .ok a → P a) (path : Path) {set : OrderedSet α}
    (hset : ∀ a ∈ set, P a) (raw : String) : ∀ a ∈ (d.applyToken path set raw).value, P a := by
  unfold applyToken
  dsimp only
  split
  · exact hset
  · rw [Load.value_bind_pure]
    intro a ha
    exact hset a (OrderedSet.mem_filter.1 ha).1
  · rw [Load.value_bind_pure]
    intro a ha
    rcases OrderedSet.mem_insertAll.1 ha with ha | ha
    · exact forall_mem_mentioned hmembers hresolve path _ a ha
    · exact hset a ha

theorem forall_mem_evaluateTokens (hmembers : ∀ a ∈ d.members, P a)
    (hresolve : ∀ token a, d.resolve token = .ok a → P a) (path : Path) (tokens : List String) :
    ∀ a ∈ (d.evaluateTokens path tokens).value, P a := by
  have hfold (set : OrderedSet α) (hset : ∀ a ∈ set, P a) :
      ∀ a ∈ tokens.foldl (fun set t => (d.applyToken path set t).value) set, P a := by
    induction tokens generalizing set with
    | nil => exact hset
    | cons token tokens ih =>
      rw [List.foldl_cons]
      exact ih _ (forall_mem_applyToken hmembers hresolve path hset token)
  unfold evaluateTokens
  rw [Load.value_foldlM (d.additive_applyToken path)]
  apply hfold
  intro a ha
  cases ha

end Members

end Domain

end Embargo
