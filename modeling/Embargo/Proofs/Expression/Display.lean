import Embargo.Proofs.Expression.OneToken

/-!
This module contains the proof that values come down to the tokens of their scalars, and that an expression
that is shown as one text has the same tokens again.
-/

namespace Embargo

open Yaml (Value)

namespace Text

structure IsCut (s : String) (parts : List String) : Prop where
  nonempty : parts ≠ []
  noComma : ∀ part ∈ parts, ',' ∉ part.toList
  joined : ",".intercalate parts = s

theorem comma_notMem_of_mem_splitCommas {cs part : List Char} (h : part ∈ splitCommas cs) :
    ',' ∉ part := by
  induction cs generalizing part with
  | nil =>
    rw [splitCommas, List.splitOn_nil, List.mem_singleton] at h
    rw [h]
    exact List.not_mem_nil
  | cons c cs ih =>
    rw [splitCommas, List.splitOn_cons_eq_if_modifyHead] at h
    split at h
    · rcases List.mem_cons.1 h with rfl | h
      · exact List.not_mem_nil
      · exact ih h
    · next hc =>
      -- the character goes in front of the first piece, of which there is always one
      obtain ⟨first, rest, hsplit⟩ := List.exists_cons_of_ne_nil (List.splitOn_ne_nil ',' cs)
      rw [hsplit, List.modifyHead_cons] at h
      rcases List.mem_cons.1 h with rfl | h
      · rw [List.mem_cons, not_or]
        refine ⟨fun heq => hc (beq_iff_eq.2 heq.symm), ih ?_⟩
        rw [splitCommas, hsplit]
        exact List.mem_cons_self
      · apply ih
        rw [splitCommas, hsplit]
        exact List.mem_cons_of_mem first h

theorem isCut_splitCommas (s : String) : IsCut s ((splitCommas s.toList).map String.ofList) where
  nonempty := by
    rw [ne_eq, List.map_eq_nil_iff]
    exact List.splitOn_ne_nil ',' s.toList
  noComma part hpart := by
    obtain ⟨cs, hcs, rfl⟩ := List.mem_map.1 hpart
    rw [String.toList_ofList]
    exact comma_notMem_of_mem_splitCommas hcs
  joined := by
    have hchars : (splitCommas s.toList).map (String.toList ∘ String.ofList) = splitCommas s.toList := by
      simp [Function.comp_def]
    rw [← String.toList_inj, String.toList_intercalate, List.map_map, hchars]
    exact List.intercalate_splitOn ','

theorem IsCut.splitCommas_eq {s : String} {parts : List String} (h : IsCut s parts) :
    splitCommas s.toList = parts.map String.toList := by
  rw [← h.joined, String.toList_intercalate]
  apply List.splitOn_intercalate
  · intro cs hcs
    obtain ⟨part, hpart, rfl⟩ := List.mem_map.1 hcs
    exact h.noComma part hpart
  · rw [ne_eq, List.map_eq_nil_iff]
    exact h.nonempty

theorem isCut_spaced {part : String} {parts : List String} (h : ∀ p ∈ part :: parts, ',' ∉ p.toList) :
    IsCut (", ".intercalate (part :: parts)) (part :: parts.map (" " ++ ·)) where
  nonempty := List.cons_ne_nil _ _
  noComma p hp := by
    rcases List.mem_cons.1 hp with rfl | hp
    · exact h p List.mem_cons_self
    · obtain ⟨q, hq, rfl⟩ := List.mem_map.1 hp
      have hcomma := h q (List.mem_cons_of_mem part hq)
      rw [String.toList_append, List.mem_append, not_or]
      exact ⟨by decide, hcomma⟩
  joined := by
    clear h
    induction parts generalizing part with
    | nil => simp
    | cons q parts ih =>
      have hsep : ", " = "," ++ " " := rfl
      rw [List.map_cons, String.intercalate_cons_cons, String.intercalate_cons_cons,
        String.intercalate_cons_append, ih, hsep]
      simp only [String.append_assoc]

theorem trim_space_append (s : String) : trim (" " ++ s) = trim s := by
  have hspace : isWhiteSpace ' ' = true := by decide
  unfold trim trimChars
  rw [String.toList_append]
  change String.ofList ((((' ' :: s.toList).dropWhile _).reverse.dropWhile _).reverse) = _
  rw [List.dropWhile_cons_of_pos hspace]

end Text

namespace Yaml.Value

inductive Reaches : Value → Value → Prop
  | here {v : Value} : Reaches v v
  | item {vs : List Value} {v w : Value} (mem : v ∈ vs) (rest : Reaches v w) : Reaches (.seq vs) w
  | tagged {tag : String} {v w : Value} (rest : Reaches v w) : Reaches (.tagged tag v) w

mutual

def scalars : Value → List String
  | .null => []
  | .bool b => [if b then "true" else "false"]
  | .number n => [n.text]
  | .text s => [s]
  | .seq vs => allScalars vs
  | .mapping _ => []
  | .tagged _ v => scalars v

def allScalars : List Value → List String
  | [] => []
  | v :: vs => scalars v ++ allScalars vs

end

def HasMapping (v : Value) : Prop :=
  ∃ entries, v.Reaches (.mapping entries)

theorem hasMapping_seq_iff {vs : List Value} : (Value.seq vs).HasMapping ↔ ∃ v ∈ vs, v.HasMapping := by
  constructor
  · rintro ⟨entries, h⟩
    cases h with
    | item mem rest => exact ⟨_, mem, entries, rest⟩
  · rintro ⟨v, hv, entries, h⟩
    exact ⟨entries, .item hv h⟩

theorem hasMapping_tagged_iff {tag : String} {v : Value} :
    (Value.tagged tag v).HasMapping ↔ v.HasMapping := by
  constructor
  · rintro ⟨entries, h⟩
    cases h with
    | tagged rest => exact ⟨entries, rest⟩
  · rintro ⟨entries, h⟩
    exact ⟨entries, .tagged h⟩

end Yaml.Value

namespace Expression

mutual

theorem ofValue?_eq_none_iff : (v : Value) → (ofValue? v = none ↔ v.HasMapping)
  | .null | .bool _ | .number _ | .text _ => by
    refine iff_of_false (fun h => by cases h) ?_
    rintro ⟨_, h⟩
    cases h
  | .seq vs => by
    rw [ofValue?, Option.map_eq_none_iff, ofValues?_eq_none_iff vs, Value.hasMapping_seq_iff]
  | .mapping entries => iff_of_true rfl ⟨entries, .here⟩
  | .tagged tag v => by
    rw [ofValue?, ofValue?_eq_none_iff v, Value.hasMapping_tagged_iff]

theorem ofValues?_eq_none_iff : (vs : List Value) → (ofValues? vs = none ↔ ∃ v ∈ vs, v.HasMapping)
  | [] => by simp [ofValues?]
  | v :: vs => by
    rw [List.exists_mem_cons_iff, ← ofValue?_eq_none_iff v, ← ofValues?_eq_none_iff vs, ofValues?]
    cases ofValue? v <;> cases ofValues? vs <;> simp

end

mutual

theorem tokens_of_ofValue? : {v : Value} → {e : Expression} → ofValue? v = some e →
    e.tokens = v.scalars.flatMap pieces
  | .null, _, rfl => rfl
  | .bool _, _, rfl | .number _, _, rfl | .text _, _, rfl => (List.flatMap_singleton _ _).symm
  | .seq vs, _, h => by
    obtain ⟨es, hes, rfl⟩ := Option.map_eq_some_iff.1 h
    exact allTokens_of_ofValues? hes
  | .tagged _ v, _, h => tokens_of_ofValue? (v := v) h

theorem allTokens_of_ofValues? : {vs : List Value} → {es : List Expression} →
    ofValues? vs = some es → allTokens es = (Value.allScalars vs).flatMap pieces
  | [], _, rfl => rfl
  | v :: vs, es, h => by
    rw [ofValues?] at h
    split at h
    · next e es he hes =>
      cases h
      rw [allTokens, tokens_of_ofValue? he, allTokens_of_ofValues? hes, Value.allScalars,
        List.flatMap_append]
    · cases h

end

structure IsToken (t : String) : Prop where
  nonempty : t ≠ ""
  noComma : ',' ∉ t.toList
  trimmed : Text.trim t = t

theorem pieces_of_isCut {s : String} {parts : List String} (h : Text.IsCut s parts) :
    pieces s = (parts.map Text.trim).filter (· ≠ "") := by
  unfold pieces
  have htrim : (fun cs => String.ofList (Text.trimChars cs)) ∘ String.toList = Text.trim := rfl
  rw [h.splitCommas_eq, List.map_map, htrim]
  refine List.filter_congr fun t _ => ?_
  rw [Bool.eq_iff_iff]
  simp

theorem flatMap_pieces_of_cuts {ss : List String} {cuts : List (List String)}
    (h : List.Forall₂ Text.IsCut ss cuts) :
    ss.flatMap pieces = (cuts.flatten.map Text.trim).filter (· ≠ "") := by
  induction h with
  | nil => rfl
  | cons hcut _ ih =>
    rw [List.flatMap_cons, ih, pieces_of_isCut hcut, List.flatten_cons, List.map_append, List.filter_append]

theorem exists_cuts (ss : List String) : ∃ cuts, List.Forall₂ Text.IsCut ss cuts := by
  induction ss with
  | nil => exact ⟨[], .nil⟩
  | cons s ss ih =>
    obtain ⟨cuts, hcuts⟩ := ih
    exact ⟨_ :: cuts, .cons (Text.isCut_splitCommas s) hcuts⟩

theorem isToken_of_mem_pieces {s t : String} (h : t ∈ pieces s) : IsToken t := by
  have hcut := Text.isCut_splitCommas s
  rw [pieces_of_isCut hcut, List.mem_filter] at h
  obtain ⟨htrimmed, hne⟩ := h
  obtain ⟨part, hpart, rfl⟩ := List.mem_map.1 htrimmed
  refine ⟨of_decide_eq_true hne, ?_, Text.trim_trim part⟩
  rw [Text.toList_trim]
  exact fun hcomma => hcut.noComma part hpart ((Text.trimChars_sublist _).subset hcomma)

mutual

theorem isToken_of_mem_tokens : {e : Expression} → {t : String} → t ∈ e.tokens → IsToken t
  | .text _, _, h => isToken_of_mem_pieces h
  | .list _, _, h => isToken_of_mem_allTokens h

theorem isToken_of_mem_allTokens : {es : List Expression} → {t : String} → t ∈ allTokens es →
    IsToken t
  | _ :: _, _, h => (List.mem_append.1 h).elim isToken_of_mem_tokens isToken_of_mem_allTokens

end

theorem pieces_intercalate {ts : List String} (h : ∀ t ∈ ts, IsToken t) :
    pieces (", ".intercalate ts) = ts := by
  cases ts with
  | nil => rfl
  | cons t ts =>
    have htrim : (t :: ts.map (" " ++ ·)).map Text.trim = t :: ts := by
      obtain ⟨hfirst, hrest⟩ := List.forall_mem_cons.1 h
      rw [List.map_cons, hfirst.trimmed, List.map_map]
      refine congrArg (t :: ·) ((List.map_congr_left fun u hu => ?_).trans (List.map_id ts))
      exact (Text.trim_space_append u).trans (hrest u hu).trimmed
    rw [pieces_of_isCut (Text.isCut_spaced fun u hu => (h u hu).noComma), htrim, List.filter_eq_self]
    exact fun u hu => decide_eq_true (h u hu).nonempty

theorem tokens_display (e : Expression) : (text e.display).tokens = e.tokens :=
  pieces_intercalate fun _ => isToken_of_mem_tokens

/--
A value is no expression just if there is a mapping in it, and otherwise its tokens are what is left of the
parts of its scalars. Shown as one text, an expression has the same tokens again, and whatever it is about,
the text has the same members and the same problems.
-/
theorem tokens_ofValue?_display (v : Value) (e : Expression) :
    (ofValue? v = none ↔ v.HasMapping)
      ∧ (∀ read, ofValue? v = some read → ∃ cuts, List.Forall₂ Text.IsCut v.scalars cuts
          ∧ read.tokens = (cuts.flatten.map Text.trim).filter (· ≠ ""))
      ∧ (text e.display).tokens = e.tokens
      ∧ ∀ {α : Type} [DecidableEq α] (d : Domain α) (path : Path),
          d.evaluate path (.text e.display) = d.evaluate path e := by
  refine ⟨ofValue?_eq_none_iff v, fun read hread => ?_, tokens_display e, fun d path => ?_⟩
  · obtain ⟨cuts, hcuts⟩ := exists_cuts v.scalars
    exact ⟨cuts, hcuts, (tokens_of_ofValue? hread).trans (flatMap_pieces_of_cuts hcuts)⟩
  · rw [Domain.evaluate, tokens_display, Domain.evaluate]

theorem tokens_ofValue?_display_tagged :
    let v : Value := .seq [.text "stone, ,\u3000dirt ", .tagged "some" (.seq [.null, .number (.int 5)])]
    let e : Expression := .list [.text "stone, ,\u3000dirt ", .list [.list [], .text "5"]]
    ofValue? v = some e ∧ e.tokens = ["stone", "dirt", "5"] ∧ e.display = "stone, dirt, 5"
      ∧ (text e.display).tokens = e.tokens
      ∧ ∃ cuts, List.Forall₂ Text.IsCut v.scalars cuts
          ∧ e.tokens = (cuts.flatten.map Text.trim).filter (· ≠ "") := by
  intro v e
  obtain ⟨-, hscalars, hdisplay, -⟩ := tokens_ofValue?_display v e
  exact ⟨rfl, by decide +kernel, by decide +kernel, hdisplay, hscalars e rfl⟩

end Expression

end Embargo
