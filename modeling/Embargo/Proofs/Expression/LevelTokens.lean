import Embargo.Proofs.Expression.OneToken
import Embargo.Proofs.Expression.Resolution

/-!
This module contains the evaluation of tokens that are a name with a level: each of them stands for one
requirement, if the name stands for a member, and a list of them for the set of these requirements.
-/

namespace Embargo

namespace Text

theorem isWhiteSpace_of_isDigit {c : Char} (h : c.isDigit = true) : isWhiteSpace c = false := by
  simp only [Char.isDigit, Bool.and_eq_true, decide_eq_true_eq, UInt32.le_iff_toNat_le] at h
  have hlow : 48 ≤ c.toNat := h.1
  have hhigh : c.toNat ≤ 57 := h.2
  simp only [isWhiteSpace, Bool.or_eq_false_iff, Bool.and_eq_false_iff, decide_eq_false_iff_not,
    beq_eq_false_iff_ne]
  omega

theorem isWhiteSpace_head_of_trimChars {cs : List Char} (h : trimChars cs = cs) (hne : cs ≠ []) :
    isWhiteSpace (cs.head hne) = false := by
  obtain ⟨c, cs, rfl⟩ := List.exists_cons_of_ne_nil hne
  exact isWhiteSpace_of_trimChars h

end Text

/--
A name that can be written in front of a level: one that is a part of a token, and that no mark gives
another meaning.
-/
structure IsLevelName (name : String) : Prop where
  nonempty : name ≠ ""
  trimmed : Text.trim name = name
  oneToken : ',' ∉ name.toList
  notStock : Text.equalIgnoringAsciiCase name "minecraft" = false
  notNegated : name.toList.head? ≠ some '!'
  notPattern : name.toList.head? ≠ some '#'

instance (name : String) : Decidable (IsLevelName name) :=
  decidable_of_iff (name ≠ "" ∧ Text.trim name = name ∧ ',' ∉ name.toList
      ∧ Text.equalIgnoringAsciiCase name "minecraft" = false ∧ name.toList.head? ≠ some '!'
      ∧ name.toList.head? ≠ some '#')
    ⟨fun ⟨hnonempty, htrimmed, htoken, hstock, hnegated, hpattern⟩ =>
      ⟨hnonempty, htrimmed, htoken, hstock, hnegated, hpattern⟩,
    fun h => ⟨h.nonempty, h.trimmed, h.oneToken, h.notStock, h.notNegated, h.notPattern⟩⟩

def levelToken (p : String × UInt32) : String :=
  p.1 ++ ":" ++ Text.showNat p.2.toNat

theorem toList_levelToken (p : String × UInt32) :
    (levelToken p).toList = p.1.toList ++ ':' :: (Text.showNat p.2.toNat).toList := by
  simp [levelToken]

theorem trimChars_showNat (n : Nat) :
    Text.trimChars (Text.showNat n).toList = (Text.showNat n).toList :=
  Text.trimChars_of_forall fun _ hc => Text.isWhiteSpace_of_isDigit (Text.isDigit_of_mem_showNat hc)

theorem not_mem_showNat {c : Char} (h : c.isDigit = false) (n : Nat) : c ∉ (Text.showNat n).toList := by
  intro hc
  rw [Text.isDigit_of_mem_showNat hc] at h
  cases h

theorem levelToken_ne_blank (p : String × UInt32) : levelToken p ≠ "" := by
  intro hnil
  have hchars := congrArg String.toList hnil
  simp [toList_levelToken] at hchars

theorem head?_levelToken {p : String × UInt32} (hname : p.1 ≠ "") :
    (levelToken p).toList.head? = p.1.toList.head? := by
  have hnonempty : p.1.toList ≠ [] := fun hnil => hname (String.toList_eq_nil_iff.1 hnil)
  rw [toList_levelToken, List.head?_append_of_ne_nil _ hnonempty]

theorem Text.trim_levelToken {p : String × UInt32} (hname : p.1 ≠ "") (htrim : trim p.1 = p.1) :
    trim (levelToken p) = levelToken p := by
  have hnonempty : p.1.toList ≠ [] := fun hnil => hname (String.toList_eq_nil_iff.1 hnil)
  have htrimmed : trimChars p.1.toList = p.1.toList := by
    rw [← toList_trim, htrim]
  have hdigits := showNat_ne_empty p.2.toNat
  rw [← String.toList_inj, toList_trim, toList_levelToken]
  apply trimChars_eq_self (by simp)
  · rw [List.head_append_of_ne_nil hnonempty]
    exact isWhiteSpace_head_of_trimChars htrimmed hnonempty
  · rw [List.getLast_append_of_ne_nil _ (List.cons_ne_nil _ _), List.getLast_cons hdigits]
    exact isWhiteSpace_of_isDigit (isDigit_of_mem_showNat (List.getLast_mem hdigits))

namespace IsLevelName

variable {p : String × UInt32} (h : IsLevelName p.1)
include h

theorem toList_ne_nil : p.1.toList ≠ [] :=
  fun hnil => h.nonempty (String.toList_eq_nil_iff.1 hnil)

theorem levelToken_ne_all : levelToken p ≠ "*" := by
  intro hall
  have hchars := congrArg String.toList hall
  obtain ⟨c, cs, hname⟩ := List.exists_cons_of_ne_nil h.toList_ne_nil
  simp [toList_levelToken, hname] at hchars

theorem levelToken_ne_bang (rest : String) : levelToken p ≠ "!" ++ rest := by
  intro hbang
  apply h.notNegated
  rw [← head?_levelToken h.nonempty, hbang, Domain.toList_bang, List.head?_cons]

theorem levelToken_ne_hash (body : String) : levelToken p ≠ "#" ++ body := by
  intro hhash
  apply h.notPattern
  rw [← head?_levelToken h.nonempty, hhash, Domain.toList_hash, List.head?_cons]

theorem trim_levelToken : Text.trim (levelToken p) = levelToken p :=
  Text.trim_levelToken h.nonempty h.trimmed

theorem tokens_levelToken : (Expression.text (levelToken p)).tokens = [levelToken p] := by
  have hcomma : ',' ∉ (levelToken p).toList := by
    rw [toList_levelToken, List.mem_append, List.mem_cons]
    rintro (hname | hcolon | hdigits)
    · exact h.oneToken hname
    · exact absurd hcolon (by decide)
    · exact not_mem_showNat (by decide) _ hdigits
  have hblank : Text.trim (levelToken p) ≠ "" := by
    rw [h.trim_levelToken]
    exact levelToken_ne_blank p
  rw [Expression.tokens_text hcomma hblank, h.trim_levelToken]

theorem splitLevel_levelToken : Scope.splitLevel (levelToken p) = .ok (p.1, .ofNumber p.2) := by
  have hcolon : ':' ∉ (Text.showNat p.2.toNat).toList := not_mem_showNat (by decide) _
  have hname : (p.1.toList.isEmpty || Text.equalIgnoringAsciiCase (String.ofList p.1.toList) "minecraft") =
      false := by
    rw [String.ofList_toList, h.notStock, Bool.or_false, List.isEmpty_eq_false_iff]
    exact h.toList_ne_nil
  unfold Scope.splitLevel
  rw [toList_levelToken, Text.splitLast?_append hcolon]
  dsimp only
  rw [hname, trimChars_showNat, if_neg Bool.false_ne_true]
  split
  · next hnil => exact absurd hnil (Text.showNat_ne_empty _)
  · rw [Text.readUInt32?_showNat, String.ofList_toList]

end IsLevelName

namespace Scope

variable {scope : Scope} {r : Registry}

theorem meaning_levelToken {p : String × UInt32} (h : IsLevelName p.1) :
    (scope.leveled r).meaning (levelToken p) = match scope.requirement? r p with
      | some a => .ok [a]
      | none => .error (.unknownToken (.key r) (levelToken p)) := by
  rw [Domain.meaning_name h.levelToken_ne_all h.levelToken_ne_hash]
  unfold leveled requirement?
  dsimp only
  rw [h.splitLevel_levelToken]
  dsimp only
  cases scope.key? r p.1 with
  | none => rfl
  | some k => rfl

theorem applyToken_levelToken {p : String × UInt32} (h : IsLevelName p.1) (path : Path)
    (set : OrderedSet (Leveled r)) :
    (scope.leveled r).applyToken path set (levelToken p) = match scope.requirement? r p with
      | some a => pure (set.insert a)
      | none => do
        Load.report path (.unknownToken (.key r) (levelToken p))
        return set := by
  have htrim := h.trim_levelToken
  have hblank : Text.trim (levelToken p) ≠ "" := by
    rw [htrim]
    exact levelToken_ne_blank p
  have hnegated (rest : String) : Text.trim (levelToken p) ≠ "!" ++ rest := by
    rw [htrim]
    exact h.levelToken_ne_bang rest
  rw [Domain.applyToken_positive path set hblank hnegated, htrim, Domain.mentioned,
    meaning_levelToken h]
  cases scope.requirement? r p with
  | none => rfl
  | some a => rfl

theorem evaluateTokens_levelTokens {ps : List (String × UInt32)} {as : List (Leveled r)}
    (hnames : ∀ p ∈ ps, IsLevelName p.1) (h : scope.requirements? r ps = some as) (path : Path) :
    (scope.leveled r).evaluateTokens path (ps.map levelToken) = pure (.ofList as) := by
  have hfold (set : OrderedSet (Leveled r)) :
      (ps.map levelToken).foldlM ((scope.leveled r).applyToken path) set = pure (set.insertAll as) := by
    induction ps generalizing as set with
    | nil =>
      cases h
      rfl
    | cons p ps ih =>
      obtain ⟨hname, hnames⟩ := List.forall_mem_cons.1 hnames
      rw [requirements?_cons] at h
      obtain ⟨a, ha, hrest⟩ := Option.bind_eq_some_iff.1 h
      obtain ⟨as, has, rfl⟩ := Option.map_eq_some_iff.1 hrest
      rw [List.map_cons, List.foldlM_cons, applyToken_levelToken hname, ha, pure_bind, ih hnames has]
      rfl
  exact hfold ∅

theorem problems_evaluateTokens_levelTokens {ps : List (String × UInt32)}
    (hnames : ∀ p ∈ ps, IsLevelName p.1) (h : scope.requirements? r ps = none) (path : Path) :
    ((scope.leveled r).evaluateTokens path (ps.map levelToken)).problems ≠ [] := by
  obtain ⟨p, hp, hunknown⟩ := requirements?_eq_none_iff.1 h
  rw [Domain.problems_evaluateTokens]
  intro hnone
  have hquiet := List.flatMap_eq_nil_iff.1 hnone (levelToken p) (List.mem_map_of_mem hp)
  rw [Domain.evaluateTokens_singleton, applyToken_levelToken (hnames p hp), hunknown] at hquiet
  cases hquiet

end Scope

end Embargo
