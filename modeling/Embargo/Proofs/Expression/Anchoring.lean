import Embargo.Pattern
import Embargo.Text.Search
import Mathlib.Data.List.Infix

/-!
This module contains the anchoring of patterns. Of an engine no more is known than what its manual says
about groups and anchors, and this is enough: what is compiled is about whole names, unless the body of the
pattern closes the group that it was put into.
-/

namespace Embargo

namespace Engine

theorem Anchor.map_char_injective : Function.Injective (List.map char) := by
  apply List.map_injective_iff.2
  intro a b h
  cases a <;> cases b <;> first | rfl | cases h

theorem toList_anchored (body : String) :
    (anchored body).toList = enclosed [.textStart] (Text.trim body).toList [.textEnd] := by
  simp [anchored, enclosed, Anchor.char]

namespace Manual

variable {engine : Engine} (manual : Manual engine) {body : String} {p : Pattern}

theorem wellFormed_or_closes (h : engine.compile body = .ok p) :
    manual.WellFormed (Text.trim body).toList
      ∨ ∃ front back, (Text.trim body).toList = front ++ ')' :: back ∧ manual.WellFormed front := by
  have hanchored := manual.wellFormed h
  rw [toList_anchored, Engine.enclosed] at hanchored
  obtain ⟨inner, after, hclose, hinner⟩ := manual.closed hanchored
  rcases List.append_eq_append_iff.1 hclose with ⟨more, rfl, hrest⟩ | ⟨more, hown, hrest⟩
  · -- behind the body there is no second parenthesis
    cases more with
    | nil => exact .inl (by rwa [List.append_nil] at hinner)
    | cons c more =>
      have hmem : ')' ∈ [Anchor.textEnd].map Anchor.char := by
        rw [List.cons_append] at hrest
        rw [(List.cons.inj hrest).2]
        simp
      exact absurd hmem (by decide)
  · cases more with
    | nil => exact .inl (by rwa [hown, List.append_nil])
    | cons c more =>
      obtain ⟨rfl, -⟩ := List.cons.inj hrest
      exact .inr ⟨inner, more, hown, hinner⟩

theorem isMatch_iff_of_wellFormed (h : engine.compile body = .ok p)
    (hbody : manual.WellFormed (Text.trim body).toList) (name : String) :
    p.isMatch name = true ↔ manual.Describes true (Text.trim body).toList [] name.toList [] := by
  have hanchored := manual.wellFormed h
  rw [manual.isMatch_iff h, toList_anchored]
  rw [toList_anchored] at hanchored
  simp only [manual.enclosed hbody hanchored, List.forall_mem_singleton, Anchor.Holds]
  constructor
  · rintro ⟨front, part, back, hname, rfl, hpart, rfl⟩
    rwa [hname, List.nil_append, List.append_nil]
  · intro hpart
    exact ⟨[], name.toList, [], by simp, rfl, hpart, rfl⟩

end Manual

structure Branch where
  atStart : Bool
  atEnd : Bool
  word : String

namespace Branch

def occurs (b : Branch) (cs : List Char) : Bool :=
  match b.atStart, b.atEnd with
  | false, false => Text.occursIn b.word.toList cs
  | true, false => b.word.toList.isPrefixOf cs
  | false, true => b.word.toList.isSuffixOf cs
  | true, true => cs == b.word.toList

def Describes (b : Branch) (front part back : List Char) : Prop :=
  (b.atStart = true → front = []) ∧ part = b.word.toList ∧ (b.atEnd = true → back = [])

theorem occurs_iff {b : Branch} {cs : List Char} :
    b.occurs cs = true ↔ ∃ front part back, cs = front ++ part ++ back ∧ b.Describes front part back := by
  obtain ⟨atStart, atEnd, word⟩ := b
  cases atStart with
  | false => cases atEnd with
    | false => simp [occurs, Describes, Text.occursIn_iff, List.IsInfix, eq_comm (b := cs)]
    | true => simp [occurs, Describes, List.IsSuffix, eq_comm (b := cs)]
  | true => cases atEnd with
    | false => simp [occurs, Describes, List.IsPrefix, eq_comm (b := cs)]
    | true => simp [occurs, Describes]

theorem occurs_map_iff {b : Branch} {f : Char → Char} {cs : List Char} :
    b.occurs (cs.map f) = true ↔
      ∃ front part back, cs = front ++ part ++ back ∧ b.Describes front (part.map f) back := by
  rw [occurs_iff]
  constructor
  · rintro ⟨front, part, back, hmap, hstart, hword, hend⟩
    obtain ⟨others, back, rfl, hothers, rfl⟩ := List.map_eq_append_iff.1 hmap
    obtain ⟨front, part, rfl, rfl, rfl⟩ := List.map_eq_append_iff.1 hothers
    exact ⟨front, part, back, rfl, by simpa using hstart, hword, by simpa using hend⟩
  · rintro ⟨front, part, back, rfl, hstart, hword, hend⟩
    exact ⟨front.map f, part.map f, back.map f, by simp, by simpa using hstart, hword, by simpa using hend⟩

end Branch

def fold (ignoreCase : Bool) (c : Char) : Char :=
  if ignoreCase then c.toLower else c

/--
The engine for the patterns of a table, each of which is given by branches with words in lowercase.
-/
def ofTable (table : List (String × List Branch)) : Engine where
  build ignoreCase text :=
    match table.lookup text with
    | some branches => .ok ⟨fun name => branches.any (·.occurs (name.toList.map (fold ignoreCase)))⟩
    | none => .error "unknown pattern"

section Table

variable {table : List (String × List Branch)} {ignoreCase : Bool}

theorem exists_lookup_of_build {text : String} {p : Pattern}
    (h : (ofTable table).build ignoreCase text = .ok p) :
    ∃ branches, table.lookup text = some branches
      ∧ p = ⟨fun name => branches.any (·.occurs (name.toList.map (fold ignoreCase)))⟩ := by
  simp only [ofTable] at h
  split at h
  · next branches hlookup => exact ⟨branches, hlookup, (Except.ok.inj h).symm⟩
  · cases h

variable (table ignoreCase) in
def TableDescribes (pattern front part back : List Char) : Prop :=
  ∃ branches, table.lookup (String.ofList pattern) = some branches
    ∧ ∃ b ∈ branches, b.Describes front (part.map (fold ignoreCase)) back

theorem tableDescribes_iff {pattern front part back : List Char} {branches : List Branch}
    (h : table.lookup (String.ofList pattern) = some branches) :
    TableDescribes table ignoreCase pattern front part back ↔
      ∃ b ∈ branches, b.Describes front (part.map (fold ignoreCase)) back := by
  simp only [TableDescribes, h, Option.some.injEq, exists_eq_left']

theorem isMatch_ofTable_iff {text : String} {p : Pattern}
    (h : (ofTable table).build ignoreCase text = .ok p) (name : String) :
    p.isMatch name = true ↔ ∃ front part back, name.toList = front ++ part ++ back
      ∧ TableDescribes table ignoreCase text.toList front part back := by
  obtain ⟨branches, hlookup, rfl⟩ := exists_lookup_of_build h
  rw [← String.ofList_toList (s := text)] at hlookup
  simp only [List.any_eq_true, Branch.occurs_map_iff, tableDescribes_iff hlookup]
  constructor
  · rintro ⟨b, hb, front, part, back, hname, hpart⟩
    exact ⟨front, part, back, hname, b, hb, hpart⟩
  · rintro ⟨front, part, back, hname, b, hb, hpart⟩
    exact ⟨b, hb, front, part, back, hname, hpart⟩

end Table

/--
A pattern of two words, and one of which the first half closes the group that the pattern is put into.
-/
def words : List (String × List Branch) :=
  [("iron|gold", [⟨false, false, "iron"⟩, ⟨false, false, "gold"⟩]),
    ("^(?:iron|gold)$", [⟨true, true, "iron"⟩, ⟨true, true, "gold"⟩]),
    ("iron", [⟨false, false, "iron"⟩]),
    ("^(?:iron)|(gold)$", [⟨true, false, "iron"⟩, ⟨false, true, "gold"⟩])]

theorem eq_of_lookup_words {cs : List Char} (h : words.lookup (String.ofList cs) ≠ none) :
    cs = "iron|gold".toList ∨ cs = "^(?:iron|gold)$".toList ∨ cs = "iron".toList
      ∨ cs = "^(?:iron)|(gold)$".toList := by
  rw [Ne, List.lookup_eq_none_iff] at h
  obtain ⟨e, he, hkey⟩ : ∃ e ∈ words, String.ofList cs = e.1 := by simpa using h
  have htext : cs = e.1.toList := by rw [← hkey, String.toList_ofList]
  simp only [words, List.mem_cons, List.not_mem_nil, or_false] at he
  rcases he with rfl | rfl | rfl | rfl
  · exact .inl htext
  · exact .inr (.inl htext)
  · exact .inr (.inr (.inl htext))
  · exact .inr (.inr (.inr htext))

theorem cut_at_group {before : List Anchor} {rest cs : List Char}
    (h : before.map Anchor.char ++ "(?:".toList ++ rest = cs) :
    cs.takeWhile (· != '(') = before.map Anchor.char
      ∧ cs.dropWhile (· != '(') = '(' :: '?' :: ':' :: rest := by
  subst h
  have hnot : '(' ∉ before.map Anchor.char := by
    simp only [List.mem_map, not_exists, not_and]
    intro a _
    cases a <;> decide
  rw [List.append_assoc]
  exact ⟨Text.takeWhile_cut hnot, Text.dropWhile_cut hnot⟩

theorem group_of_words {before : List Anchor} {rest : List Char}
    (h : words.lookup (String.ofList (before.map Anchor.char ++ "(?:".toList ++ rest)) ≠ none) :
    before = [.textStart] ∧ (rest = "iron|gold)$".toList ∨ rest = "iron)|(gold)$".toList) := by
  rcases eq_of_lookup_words h with htext | htext | htext | htext
  · cases (cut_at_group htext).2
  · obtain ⟨hbefore, hrest⟩ := cut_at_group htext
    exact ⟨Anchor.map_char_injective hbefore.symm, .inl (by simpa using hrest.symm)⟩
  · cases (cut_at_group htext).2
  · obtain ⟨hbefore, hrest⟩ := cut_at_group htext
    exact ⟨Anchor.map_char_injective hbefore.symm, .inr (by simpa using hrest.symm)⟩

theorem enclosed_of_words {before after : List Anchor} {body : List Char}
    (hbody : words.lookup (String.ofList body) ≠ none)
    (h : words.lookup (String.ofList (enclosed before body after)) ≠ none) :
    before = [.textStart] ∧ body = "iron|gold".toList ∧ after = [.textEnd] := by
  obtain ⟨hbefore, hrest⟩ := group_of_words h
  refine ⟨hbefore, ?_⟩
  rcases eq_of_lookup_words hbody with rfl | rfl | rfl | rfl
  · rcases hrest with hrest | hrest
    · have hafter : ')' :: after.map Anchor.char = [')', '$'] :=
        List.append_cancel_left (hrest : _ = "iron|gold".toList ++ [')', '$'])
      exact ⟨rfl, Anchor.map_char_injective (List.cons.inj hafter).2⟩
    · simp at hrest
  · simp at hrest
  · rcases hrest with hrest | hrest
    · simp at hrest
    · -- what follows the first half is no anchor
      cases after with
      | nil => simp at hrest
      | cons a after => cases a <;> simp [Anchor.char] at hrest
  · simp at hrest

def wordsManual : Manual (ofTable words) where
  WellFormed pattern := words.lookup (String.ofList pattern) ≠ none
  Describes := TableDescribes words
  wellFormed h := by
    obtain ⟨branches, hlookup, -⟩ := exists_lookup_of_build h
    rw [String.ofList_toList, hlookup]
    nofun
  isMatch_iff h := isMatch_ofTable_iff h
  closed h := by
    rcases (group_of_words h).2 with rfl | rfl
    · exact ⟨"iron|gold".toList, ['$'], rfl, by decide⟩
    · exact ⟨"iron".toList, "|(gold)$".toList, rfl, by decide⟩
  enclosed hbody h ignoreCase front part back := by
    obtain ⟨rfl, rfl, rfl⟩ := enclosed_of_words hbody h
    have hwhole : words.lookup (String.ofList (Engine.enclosed [.textStart] "iron|gold".toList [.textEnd])) =
        some [⟨true, true, "iron"⟩, ⟨true, true, "gold"⟩] := rfl
    have hown : words.lookup (String.ofList "iron|gold".toList) =
        some [⟨false, false, "iron"⟩, ⟨false, false, "gold"⟩] := rfl
    rw [tableDescribes_iff hwhole, tableDescribes_iff hown]
    simp only [Branch.Describes, Anchor.Holds, List.mem_cons, List.not_mem_nil, or_false, exists_eq_or_imp,
      exists_eq_left, true_implies, Bool.false_eq_true, false_implies, true_and, and_true]
    grind

namespace Manual

/--
A pattern that is compiled matches the names that its body describes as a whole, regardless of case. Its
body is a pattern on its own unless it has a parenthesis that closes the group around it.
-/
theorem compile_anchors {engine : Engine} (manual : Manual engine) {body : String} {p : Pattern}
    (h : engine.compile body = .ok p) :
    (manual.WellFormed (Text.trim body).toList
        ∨ ∃ front back, (Text.trim body).toList = front ++ ')' :: back ∧ manual.WellFormed front)
      ∧ (manual.WellFormed (Text.trim body).toList → ∀ name,
          p.isMatch name = true ↔ manual.Describes true (Text.trim body).toList [] name.toList []) :=
  ⟨manual.wellFormed_or_closes h, manual.isMatch_iff_of_wellFormed h⟩

theorem compile_anchors_words :
    let own := (Text.trim " iron|gold ").toList
    ∃ p, (ofTable words).compile " iron|gold " = .ok p ∧ wordsManual.WellFormed own
      ∧ wordsManual.Describes true own [] "IRON".toList []
      ∧ ¬ wordsManual.Describes true own [] "ironbars".toList [] := by
  intro own
  obtain ⟨p, hp, hmatch, hother⟩ : ∃ p, (ofTable words).compile " iron|gold " = .ok p
      ∧ p.isMatch "IRON" = true ∧ p.isMatch "ironbars" = false := ⟨_, rfl, by decide, by decide⟩
  have hown : wordsManual.WellFormed own := by
    change words.lookup _ ≠ none
    decide
  obtain ⟨-, hwhole⟩ := compile_anchors wordsManual hp
  refine ⟨p, hp, hown, (hwhole hown "IRON").1 hmatch, fun h => ?_⟩
  rw [(hwhole hown "ironbars").2 h] at hother
  cases hother

/--
A body that closes the group it was put into is no pattern on its own, and each half of it is anchored on
one side only.
-/
theorem stray_parenthesis_compiles :
    ∃ p, (ofTable words).compile "iron)|(gold" = .ok p
      ∧ ¬ wordsManual.WellFormed (Text.trim "iron)|(gold").toList
      ∧ p.isMatch "ironbars" = true ∧ p.isMatch "nugget_gold" = true := by
  refine ⟨_, rfl, ?_, by decide, by decide⟩
  change ¬ words.lookup _ ≠ none
  decide

end Manual

end Engine

end Embargo
