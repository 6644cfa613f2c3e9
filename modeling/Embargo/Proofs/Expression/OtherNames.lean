import Embargo.Proofs.Expression.Resolution
import Embargo.Proofs.Expression.Tokens

namespace Embargo

theorem Load.foldlM_eq_pure_of_quiet {α β : Type} {f g : β → α → Load β}
    (hf : ∀ b a, (f b a).Additive)
    (hquiet : ∀ b a, (f b a).problems = [] → g b a = pure (f b a).value) {b : β} {as : List α}
    (h : (as.foldlM f b).problems = []) : as.foldlM g b = pure (as.foldlM f b).value := by
  induction as generalizing b with
  | nil => rfl
  | cons a as ih =>
    have hrest (b : β) : (as.foldlM f b).Additive := additive_foldlM hf b as
    rw [List.foldlM_cons, problems_bind hrest, List.append_eq_nil_iff] at h
    rw [List.foldlM_cons, List.foldlM_cons, hquiet b a h.1, pure_bind, ih h.2, value_bind hrest]

namespace Domain

variable {α : Type} {d e : Domain α}

/--
A domain with the members of another one, where every name that stands for a member there stands for the
same one here.
-/
structure Extends (e d : Domain α) : Prop where
  members : e.members = d.members
  engine : e.engine = d.engine
  selects : e.selects = d.selects
  negates : e.negates = d.negates
  resolve : ∀ {name a}, d.resolve name = .ok a → e.resolve name = .ok a

section Extends

variable (h : e.Extends d)
include h

theorem Extends.meaning {token : String} {as : List α} (hmeaning : d.meaning token = .ok as) :
    e.meaning token = .ok as := by
  by_cases hall : token = "*"
  · rw [hall, meaning_all] at hmeaning ⊢
    rw [h.members, hmeaning]
  · by_cases hpattern : ∃ body, token = "#" ++ body
    · obtain ⟨body, rfl⟩ := hpattern
      rw [meaning_pattern] at hmeaning ⊢
      rw [h.members, h.engine, h.selects]
      split at hmeaning
      · exact hmeaning
      · cases hmeaning
    · have hpattern : ∀ body, token ≠ "#" ++ body := not_exists.1 hpattern
      rw [meaning_name hall hpattern] at hmeaning ⊢
      split at hmeaning
      · next a hresolve =>
        rw [h.resolve hresolve]
        exact hmeaning
      · cases hmeaning
      · cases hmeaning

theorem Extends.mentioned {path : Path} {token : String} (hquiet : (d.mentioned path token).problems = []) :
    e.mentioned path token = pure (d.mentioned path token).value := by
  unfold Domain.mentioned at hquiet ⊢
  cases hmeaning : d.meaning token with
  | ok as =>
    rw [h.meaning hmeaning]
    rfl
  | error problem =>
    rw [hmeaning] at hquiet
    cases hquiet

variable [DecidableEq α]

theorem Extends.applyToken {path : Path} {set : OrderedSet α} {token : String}
    (hquiet : (d.applyToken path set token).problems = []) :
    e.applyToken path set token = pure (d.applyToken path set token).value := by
  by_cases hblank : Text.trim token = ""
  · rw [applyToken_blank path set hblank, applyToken_blank path set hblank]
    rfl
  · by_cases hnegated : ∃ rest, Text.trim token = "!" ++ rest
    · obtain ⟨rest, hrest⟩ := hnegated
      rw [applyToken_negated path set hrest, Load.problems_bind_pure] at hquiet
      rw [applyToken_negated path set hrest, applyToken_negated path set hrest, h.mentioned hquiet,
        h.negates, pure_bind, Load.value_bind_pure]
    · have hpositive : ∀ rest, Text.trim token ≠ "!" ++ rest := not_exists.1 hnegated
      rw [applyToken_positive path set hblank hpositive, Load.problems_bind_pure] at hquiet
      rw [applyToken_positive path set hblank hpositive, applyToken_positive path set hblank hpositive,
        h.mentioned hquiet, pure_bind, Load.value_bind_pure]

theorem Extends.evaluateTokens {path : Path} {tokens : List String}
    (hquiet : (d.evaluateTokens path tokens).problems = []) :
    e.evaluateTokens path tokens = pure (d.evaluateTokens path tokens).value :=
  Load.foldlM_eq_pure_of_quiet (d.additive_applyToken path) (fun _ _ => h.applyToken) hquiet

end Extends

/--
What evaluates without a report in the second domain evaluates in the first one to the same set, again
without a report.
-/
def Retains [DecidableEq α] (e d : Domain α) : Prop :=
  ∀ path tokens, (d.evaluateTokens path tokens).problems = [] →
    e.evaluateTokens path tokens = pure (d.evaluateTokens path tokens).value

theorem Extends.retains [DecidableEq α] (h : e.Extends d) : e.Retains d :=
  fun _ _ hquiet => h.evaluateTokens hquiet

end Domain

namespace Scope

variable {scope : Scope} {aliases : Aliases} {r : Registry}

def withAliases (scope : Scope) (aliases : Aliases) : Scope :=
  { scope with aliases }

@[simp]
theorem roster_withAliases : (scope.withAliases aliases).roster = scope.roster := rfl

theorem key?_withAliases {name : String} {k : Key r}
    (h : (scope.withAliases ∅).key? r name = some k) :
    (scope.withAliases aliases).key? r name = some k := by
  unfold key? at h ⊢
  rw [roster_withAliases] at h ⊢
  split at h
  · next hmember =>
    rw [if_pos hmember]
    exact h
  · cases h

theorem action?_withAliases {name : String} {a : Action}
    (h : (scope.withAliases ∅).action? name = some a) :
    (scope.withAliases aliases).action? name = some a := by
  unfold action? at h ⊢
  rcases Option.or_eq_some_iff.1 h with hname | ⟨-, hnone⟩
  · rw [hname, Option.some_or]
  · cases hnone

theorem NamesItem.withAliases {token : String} {i : Identity}
    (h : (scope.withAliases ∅).NamesItem token i) : (scope.withAliases aliases).NamesItem token i := by
  cases h with
  | custom hcustom => exact .custom hcustom
  | legacy hnew hlegacy hsplit hdata hkey =>
    exact .legacy hnew hlegacy hsplit hdata (key?_withAliases hkey)
  | material hnew hwhole hkey => exact .material hnew hwhole (key?_withAliases hkey)

variable (scope aliases) in
/--
In expressions of all kinds, other names shadow nothing, be they those of members or of other names:
expressions that evaluate without a report when nothing has another name keep their sets.
-/
theorem retains_withAliases :
    (∀ r, ((scope.withAliases aliases).keys r).Retains ((scope.withAliases ∅).keys r))
      ∧ (scope.withAliases aliases).actions.Retains (scope.withAliases ∅).actions
      ∧ (∀ r, ((scope.withAliases aliases).leveled r).Retains ((scope.withAliases ∅).leveled r))
      ∧ (scope.withAliases aliases).items.Retains (scope.withAliases ∅).items := by
  refine ⟨fun r => ?_, ?_, fun r => ?_, ?_⟩
  · refine Domain.Extends.retains ⟨rfl, rfl, rfl, rfl, fun h => ?_⟩
    rw [resolve_keys_eq_ok_iff] at h ⊢
    exact key?_withAliases h
  · refine Domain.Extends.retains ⟨rfl, rfl, rfl, rfl, fun h => ?_⟩
    rw [resolve_actions_eq_ok_iff] at h ⊢
    exact action?_withAliases h
  · refine Domain.Extends.retains ⟨rfl, rfl, rfl, rfl, fun h => ?_⟩
    rw [resolve_leveled_eq_ok_iff] at h ⊢
    obtain ⟨name, hsplit, hkey⟩ := h
    exact ⟨name, hsplit, key?_withAliases hkey⟩
  · refine Domain.Extends.retains ⟨rfl, rfl, rfl, rfl, fun h => ?_⟩
    rw [resolve_items_eq_ok_iff] at h ⊢
    exact h.withAliases

theorem retains_withAliases_swapped :
    let scope : Scope := { roster := Roster.stock.add .potion ["speed", "haste"], aliases := ∅ }
    let swapped := (∅ : Aliases).insertAll (.key .potion)
      [("speed", "haste"), ("haste", "speed"), ("swiftness", "speed")]
    let tokens := ["*", "!speed", "Speed:2"]
    swapped.current? (.key .potion) "speed" = some "haste"
      ∧ (((scope.withAliases ∅).leveled .potion).evaluateTokens .root tokens).problems = []
      ∧ ((scope.withAliases swapped).leveled .potion).evaluateTokens .root tokens =
        pure (.ofList [⟨⟨"haste"⟩, .any⟩, ⟨⟨"speed"⟩, .exact 2⟩]) := by
  intro scope swapped tokens
  have hquiet : (((scope.withAliases ∅).leveled .potion).evaluateTokens .root tokens).problems = [] := by
    decide +kernel
  obtain ⟨-, -, hleveled, -⟩ := retains_withAliases scope swapped
  refine ⟨by decide +kernel, hquiet, ?_⟩
  rw [hleveled .potion .root tokens hquiet]
  exact congrArg pure (by decide +kernel)

end Scope

end Embargo
