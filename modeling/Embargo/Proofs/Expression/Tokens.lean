import Embargo.Collection.Unrevoked
import Embargo.Expression.Scope
import Embargo.Proofs.Expression.Denoted

/-!
This module contains the meaning of a list of tokens: a member is in it if some token adds the member and
no later one removes it. Tokens with a problem have no part in it.
-/

namespace Embargo

namespace Domain

variable {α : Type} (d : Domain α)

inductive Means (token : String) (a : α) : Prop where
  | all (htoken : token = "*") (hmember : a ∈ d.members)
  | pattern {body : String} {p : Pattern} (htoken : token = "#" ++ body)
    (hcompile : d.engine.compile body = .ok p) (hmember : a ∈ d.members)
    (hselects : d.selects p a = true)
  | name (hall : token ≠ "*") (hpattern : ∀ body, token ≠ "#" ++ body)
    (hresolve : d.resolve token = .ok a)

def Adds (token : String) (a : α) : Prop :=
  Text.trim token ≠ "" ∧ (∀ rest, Text.trim token ≠ "!" ++ rest) ∧ d.Means (Text.trim token) a

def Removes (removes : α → α → Prop) (token : String) (a : α) : Prop :=
  ∃ rest n, Text.trim token = "!" ++ rest ∧ d.Means (Text.trim rest) n ∧ removes n a

/--
Some token adds the member and no later one removes it.
-/
def Remains (removes : α → α → Prop) (tokens : List String) (a : α) : Prop :=
  ∃ token, d.Adds token a ∧ Unrevoked (d.Removes removes · a) tokens token

variable {d}

theorem toList_hash (body : String) : ("#" ++ body).toList = '#' :: body.toList := by
  rw [String.toList_append]
  rfl

theorem toList_bang (rest : String) : ("!" ++ rest).toList = '!' :: rest.toList := by
  rw [String.toList_append]
  rfl

theorem hash_ne_all (body : String) : "#" ++ body ≠ "*" := by
  intro h
  have hchars := congrArg String.toList h
  simp at hchars

theorem means_all {a : α} : d.Means "*" a ↔ a ∈ d.members := by
  constructor
  · intro h
    cases h with
    | all _ hmember => exact hmember
    | pattern htoken => exact absurd htoken.symm (hash_ne_all _)
    | name hall => exact absurd rfl hall
  · exact .all rfl

theorem means_pattern {body : String} {a : α} :
    d.Means ("#" ++ body) a ↔
      ∃ p, d.engine.compile body = .ok p ∧ a ∈ d.members ∧ d.selects p a = true := by
  constructor
  · intro h
    cases h with
    | all htoken => exact absurd htoken (hash_ne_all body)
    | pattern htoken hcompile hmember hselects =>
      obtain rfl := (String.append_right_inj "#").1 htoken
      exact ⟨_, hcompile, hmember, hselects⟩
    | name _ hpattern => exact absurd rfl (hpattern body)
  · rintro ⟨p, hcompile, hmember, hselects⟩
    exact .pattern rfl hcompile hmember hselects

theorem means_name {token : String} {a : α} (hall : token ≠ "*")
    (hpattern : ∀ body, token ≠ "#" ++ body) : d.Means token a ↔ d.resolve token = .ok a := by
  constructor
  · intro h
    cases h with
    | all htoken => exact absurd htoken hall
    | pattern htoken => exact absurd htoken (hpattern _)
    | name _ _ hresolve => exact hresolve
  · exact .name hall hpattern

theorem meaning_all : d.meaning "*" = .ok d.members := rfl

theorem meaning_pattern (body : String) :
    d.meaning ("#" ++ body) = match d.engine.compile body with
      | .ok p => .ok (d.members.filter (d.selects p))
      | .error reason => .error (@Problem.invalidPattern body reason) := by
  cases hcompile : d.engine.compile body with
  | ok p => simp only [meaning, toList_hash, String.ofList_toList, hcompile]
  | error reason => simp only [meaning, toList_hash, String.ofList_toList, hcompile]

theorem meaning_name {token : String} (hall : token ≠ "*") (hpattern : ∀ body, token ≠ "#" ++ body) :
    d.meaning token = match d.resolve token with
      | .ok a => .ok [a]
      | .error .unknown => .error (.unknownToken d.subject token)
      | .error .invalidLevel => .error (.invalidLevel token) := by
  unfold meaning
  split
  · next hstar => exact absurd (String.toList_inj.1 hstar) hall
  · next body hbody =>
    refine absurd ?_ (hpattern (String.ofList body))
    rw [← String.toList_inj, hbody, toList_hash, String.toList_ofList]
  · rfl

theorem mem_mentioned {path : Path} {token : String} {a : α} :
    a ∈ (d.mentioned path token).value ↔ d.Means token a := by
  rw [value_mentioned]
  by_cases hall : token = "*"
  · rw [hall, meaning_all, means_all]
  · by_cases hpattern : ∃ body, token = "#" ++ body
    · obtain ⟨body, rfl⟩ := hpattern
      rw [meaning_pattern, means_pattern]
      cases d.engine.compile body with
      | error reason => simp
      | ok p => simp
    · have hpattern : ∀ body, token ≠ "#" ++ body := not_exists.1 hpattern
      rw [meaning_name hall hpattern, means_name hall hpattern]
      cases d.resolve token with
      | ok b => simp [eq_comm]
      | error fault => cases fault <;> simp

theorem value_mentioned_of_problems {path : Path} {token : String}
    (h : (d.mentioned path token).problems ≠ []) : (d.mentioned path token).value = [] := by
  unfold mentioned at h ⊢
  split
  · next as hmeaning =>
    rw [hmeaning] at h
    exact absurd rfl h
  · rfl

section Step

variable [DecidableEq α] (path : Path) (set : OrderedSet α) {token : String}

theorem applyToken_blank (h : Text.trim token = "") : d.applyToken path set token = pure set := by
  simp only [applyToken, h]
  rfl

theorem applyToken_negated {rest : String} (h : Text.trim token = "!" ++ rest) :
    d.applyToken path set token = do
      let removed ← d.mentioned path (Text.trim rest)
      return set.filter fun a => !removed.any (d.negates · a) := by
  simp only [applyToken, h, toList_bang, String.ofList_toList]

theorem applyToken_positive (hblank : Text.trim token ≠ "")
    (hnegated : ∀ rest, Text.trim token ≠ "!" ++ rest) :
    d.applyToken path set token = do
      let added ← d.mentioned path (Text.trim token)
      return set.insertAll added := by
  simp only [applyToken]
  split
  · next hnil => exact absurd (String.toList_eq_nil_iff.1 hnil) hblank
  · next rest hrest =>
    refine absurd ?_ (hnegated (String.ofList rest))
    rw [← String.toList_inj, hrest, toList_bang, String.toList_ofList]
  · rfl

theorem mem_applyToken {removes : α → α → Prop}
    (hnegates : ∀ n a, d.negates n a = true ↔ removes n a) {a : α} :
    a ∈ (d.applyToken path set token).value ↔
      d.Adds token a ∨ a ∈ set ∧ ¬ d.Removes removes token a := by
  -- a token is blank, negated or neither, and only of the last two kinds can it do something
  by_cases hblank : Text.trim token = ""
  · rw [applyToken_blank path set hblank]
    simp [Adds, Removes, hblank]
  · by_cases hnegated : ∃ rest, Text.trim token = "!" ++ rest
    · obtain ⟨rest, hrest⟩ := hnegated
      have hadds : ¬ d.Adds token a := fun h => h.2.1 rest hrest
      have hremoves : d.Removes removes token a ↔ ∃ n, d.Means (Text.trim rest) n ∧ removes n a := by
        simp [Removes, hrest]
      rw [applyToken_negated path set hrest, Load.value_bind_pure, OrderedSet.mem_filter, hremoves]
      simp [hadds, hnegates, mem_mentioned]
    · have hpositive : ∀ rest, Text.trim token ≠ "!" ++ rest := not_exists.1 hnegated
      have hadds : d.Adds token a ↔ d.Means (Text.trim token) a := by
        simp [Adds, hblank, hpositive]
      have hremoves : ¬ d.Removes removes token a := fun ⟨rest, _, hrest, _⟩ => hpositive rest hrest
      rw [applyToken_positive path set hblank hpositive, Load.value_bind_pure, OrderedSet.mem_insertAll,
        mem_mentioned, hadds]
      simp [hremoves]

variable (d token) in
theorem exists_applyToken_eq : ∃ (x : Path → Load (List α)) (put : OrderedSet α → List α → OrderedSet α),
    (∀ path set, d.applyToken path set token = (x path >>= fun as => pure (put set as)))
      ∧ (∀ path, (x path).problems ≠ [] → (x path).value = []) ∧ ∀ set, put set [] = set := by
  by_cases hblank : Text.trim token = ""
  · exact ⟨fun _ => pure [], fun set _ => set, fun path set => applyToken_blank path set hblank,
      fun _ _ => rfl, fun _ => rfl⟩
  · by_cases hnegated : ∃ rest, Text.trim token = "!" ++ rest
    · obtain ⟨rest, hrest⟩ := hnegated
      refine ⟨(d.mentioned · (Text.trim rest)), fun set as => set.filter fun a => !as.any (d.negates · a),
        fun path set => applyToken_negated path set hrest, fun _ => value_mentioned_of_problems, ?_⟩
      exact fun set => OrderedSet.ext (List.filter_eq_self.2 fun _ _ => rfl)
    · exact ⟨(d.mentioned · (Text.trim token)), fun set as => set.insertAll as,
        fun path set => applyToken_positive path set hblank (not_exists.1 hnegated),
        fun _ => value_mentioned_of_problems, fun _ => rfl⟩

theorem problems_applyToken (other : OrderedSet α) :
    (d.applyToken path set token).problems = (d.applyToken path other token).problems := by
  obtain ⟨x, put, happly, -, -⟩ := exists_applyToken_eq d token
  rw [happly, happly, Load.problems_bind_pure, Load.problems_bind_pure]

theorem value_applyToken_of_problems (h : (d.applyToken path set token).problems ≠ []) :
    (d.applyToken path set token).value = set := by
  obtain ⟨x, put, happly, hnothing, hput⟩ := exists_applyToken_eq d token
  rw [happly, Load.problems_bind_pure] at h
  rw [happly, Load.value_bind_pure, hnothing path h, hput]

end Step

theorem remains_cons {removes : α → α → Prop} {token : String} {tokens : List String} {a : α} :
    d.Remains removes (token :: tokens) a ↔
      d.Remains removes tokens a
        ∨ d.Adds token a ∧ ∀ later ∈ tokens, ¬ d.Removes removes later a := by
  unfold Remains
  simp only [unrevoked_cons, and_or_left, exists_or]
  grind

variable [DecidableEq α]

theorem value_evaluateTokens (path : Path) (tokens : List String) :
    (d.evaluateTokens path tokens).value =
      tokens.foldl (fun set token => (d.applyToken path set token).value) ∅ := by
  apply Load.value_foldlM (d.additive_applyToken path)

theorem mem_evaluateTokens {removes : α → α → Prop}
    (hnegates : ∀ n a, d.negates n a = true ↔ removes n a) {path : Path} {tokens : List String} {a : α} :
    a ∈ (d.evaluateTokens path tokens).value ↔ d.Remains removes tokens a := by
  -- what is there before the tokens stays unless one of them removes it
  have hfold (set : OrderedSet α) :
      a ∈ tokens.foldl (fun set token => (d.applyToken path set token).value) set ↔
        d.Remains removes tokens a ∨ a ∈ set ∧ ∀ token ∈ tokens, ¬ d.Removes removes token a := by
    induction tokens generalizing set with
    | nil => simp [Remains]
    | cons token tokens ih =>
      rw [List.foldl_cons, ih, mem_applyToken path set hnegates, remains_cons, List.forall_mem_cons]
      grind
  rw [value_evaluateTokens, hfold]
  simp

theorem evaluateTokens_singleton (path : Path) (token : String) :
    d.evaluateTokens path [token] = d.applyToken path ∅ token := by
  simp only [evaluateTokens, List.foldlM_cons, List.foldlM_nil, bind_pure]

theorem problems_evaluateTokens (path : Path) (tokens : List String) :
    (d.evaluateTokens path tokens).problems =
      tokens.flatMap fun token => (d.evaluateTokens path [token]).problems := by
  apply Load.problems_foldlM (d.additive_applyToken path)
  intro set token
  rw [evaluateTokens_singleton]
  apply problems_applyToken

theorem value_evaluateTokens_filter (path : Path) (tokens : List String) :
    (d.evaluateTokens path
        (tokens.filter fun token => (d.evaluateTokens path [token]).problems.isEmpty)).value =
      (d.evaluateTokens path tokens).value := by
  rw [value_evaluateTokens, value_evaluateTokens, List.foldl_filter]
  refine congrArg (fun step => tokens.foldl step ∅) (funext fun set => funext fun token => ?_)
  split
  · rfl
  · next hproblems =>
    -- what a token reports does not depend on the members before it
    rw [evaluateTokens_singleton, problems_applyToken path ∅ set, List.isEmpty_iff] at hproblems
    exact (value_applyToken_of_problems path set hproblems).symm

/--
Evaluation as the last token that matters has it: what is a member, what is reported, and that tokens
with a problem might as well not be there.
-/
structure LastRelevant (d : Domain α) (removes : α → α → Prop) : Prop where
  members (path : Path) (tokens : List String) (a : α) :
    a ∈ (d.evaluateTokens path tokens).value ↔ d.Remains removes tokens a
  trail (path : Path) (tokens : List String) (trail : Trail) :
    (d.evaluateTokens path tokens).run trail =
      ((d.evaluateTokens path tokens).value,
        trail ++ tokens.flatMap fun token => (d.evaluateTokens path [token]).problems)
  failing (path : Path) (tokens : List String) :
    (d.evaluateTokens path
        (tokens.filter fun token => (d.evaluateTokens path [token]).problems.isEmpty)).value =
      (d.evaluateTokens path tokens).value

theorem lastRelevant {removes : α → α → Prop} (hnegates : ∀ n a, d.negates n a = true ↔ removes n a) :
    d.LastRelevant removes where
  members _ _ _ := mem_evaluateTokens hnegates
  trail path tokens trail := by
    have hadditive : (d.evaluateTokens path tokens).Additive :=
      Load.additive_foldlM (d.additive_applyToken path) ∅ tokens
    rw [hadditive, problems_evaluateTokens]
  failing path tokens := value_evaluateTokens_filter path tokens

end Domain

def Leveled.Removes {r : Registry} (n a : Leveled r) : Prop :=
  n.key = a.key ∧ (n.level = .any ∨ n.level = a.level)

/--
Expressions of all kinds are evaluated as the last token that matters has it: those about the members of
a registry, about actions, about levels and about items.
-/
theorem Scope.tokens_lastRelevant (scope : Scope) :
    (∀ r, (scope.keys r).LastRelevant Eq)
      ∧ scope.actions.LastRelevant Eq
      ∧ (∀ r, (scope.leveled r).LastRelevant Leveled.Removes)
      ∧ scope.items.LastRelevant Eq := by
  refine ⟨fun r => ?_, ?_, fun r => ?_, ?_⟩
  · exact Domain.lastRelevant fun n a => beq_iff_eq
  · exact Domain.lastRelevant fun n a => beq_iff_eq
  · apply Domain.lastRelevant
    intro n a
    simp [Scope.leveled, Leveled.Removes]
  · exact Domain.lastRelevant fun n a => beq_iff_eq

end Embargo
