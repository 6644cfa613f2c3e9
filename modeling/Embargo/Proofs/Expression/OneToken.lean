import Embargo.Proofs.Expression.Tokens
import Embargo.Proofs.Name.Characters

/-!
This module contains the evaluation of texts that are one token: a text without a comma is evaluated as a
token is, and a token that begins with a hash sign selects members by a pattern.
-/

namespace Embargo

theorem Engine.exists_trim_hash (engine : Engine) (body : String) :
    ∃ trimmed, Text.trim ("#" ++ body) = "#" ++ trimmed
      ∧ engine.compile trimmed = engine.compile body := by
  refine ⟨String.ofList (body.toList.rdropWhile Text.isWhiteSpace), ?_, ?_⟩
  · rw [← String.toList_inj, Text.toList_trim, Domain.toList_hash, Domain.toList_hash, String.toList_ofList]
    exact Text.trimChars_cons (by decide) body.toList
  · rw [compile, compile, anchored, anchored, Text.trim, String.toList_ofList, Text.trimChars_rdropWhile]
    rfl

theorem Expression.tokens_text {s : String} (hcomma : ',' ∉ s.toList) (hblank : Text.trim s ≠ "") :
    (text s).tokens = [Text.trim s] := by
  simp only [tokens, pieces, Text.splitCommas, List.splitOn_eq_singleton hcomma, List.map_singleton]
  exact List.filter_eq_self.2 (by simpa [Text.trim] using hblank)

namespace Domain

variable {α : Type} {d : Domain α} [DecidableEq α]

theorem evaluateTokens_trim (path : Path) (token : String) :
    d.evaluateTokens path [Text.trim token] = d.evaluateTokens path [token] := by
  rw [evaluateTokens_singleton, evaluateTokens_singleton]
  unfold applyToken
  rw [Text.trim_trim]

theorem evaluate_text {s : String} (hcomma : ',' ∉ s.toList) (hblank : Text.trim s ≠ "") (path : Path) :
    d.evaluate path (.text s) = d.evaluateTokens path [s] := by
  rw [evaluate, Expression.tokens_text hcomma hblank, evaluateTokens_trim]

theorem evaluateTokens_of_meaning {token : String} {as : List α} (hblank : Text.trim token ≠ "")
    (hnegated : ∀ rest, Text.trim token ≠ "!" ++ rest) (h : d.meaning (Text.trim token) = .ok as)
    (path : Path) : d.evaluateTokens path [token] = pure (.ofList as) := by
  rw [evaluateTokens_singleton, applyToken_positive path ∅ hblank hnegated, mentioned, h]
  rfl

theorem evaluate_all (path : Path) : d.evaluate path (.text "*") = pure (.ofList d.members) := by
  have htrim : Text.trim "*" = "*" := by decide
  have hnegated (rest : String) : Text.trim "*" ≠ "!" ++ rest := by
    rw [htrim]
    intro hbang
    have hchars := congrArg String.toList hbang
    rw [toList_bang] at hchars
    exact absurd (List.cons.inj hchars).1 (by decide)
  rw [evaluate_text (by decide) (by decide)]
  apply evaluateTokens_of_meaning (by decide) hnegated
  rw [htrim, meaning_all]

theorem evaluateTokens_pattern {body : String} {p : Pattern} (h : d.engine.compile body = .ok p)
    (path : Path) :
    d.evaluateTokens path ["#" ++ body] = pure (.ofList (d.members.filter (d.selects p))) := by
  obtain ⟨trimmed, htrim, hcompile⟩ := d.engine.exists_trim_hash body
  apply evaluateTokens_of_meaning
  · rw [htrim]
    intro hnil
    simpa [toList_hash] using congrArg String.toList hnil
  · intro rest hbang
    rw [htrim] at hbang
    simpa [toList_hash, toList_bang] using congrArg String.toList hbang
  · rw [htrim, meaning_pattern, hcompile, h]

end Domain

end Embargo
