import Embargo.Decision.Verdict
import Mathlib.Data.List.Infix

/-!
This module contains the theory of the templates of messages: the characters and placeholders that they
are made of, and their substitution in a single pass.
-/

namespace Embargo.Message

inductive Placeholder where
  | item
  | action
  | world
  | time
deriving DecidableEq

namespace Placeholder

def all : List Placeholder :=
  [item, action, world, time]

theorem mem_all (p : Placeholder) : p ∈ all := by
  cases p <;> decide

def word : Placeholder → String
  | item => "item"
  | action => "action"
  | world => "world"
  | time => "time"

def text (p : Placeholder) : List Char :=
  '{' :: (p.word.toList ++ ['}'])

theorem text_ne_nil (p : Placeholder) : p.text ≠ [] :=
  List.cons_ne_nil _ _

def at? (cs : List Char) : Option Placeholder :=
  all.find? fun p => p.text.isPrefixOf cs

@[simp]
theorem at?_text_append (p : Placeholder) (cs : List Char) : at? (p.text ++ cs) = some p := by
  cases p <;> rfl

theorem prefix_of_at? {cs : List Char} {p : Placeholder} (h : at? cs = some p) : p.text <+: cs :=
  List.isPrefixOf_iff_prefix.1 (List.find?_some (p := fun p : Placeholder => p.text.isPrefixOf cs) h)

theorem not_prefix_of_at? {cs : List Char} (h : at? cs = none) (p : Placeholder) :
    ¬ p.text <+: cs := by
  intro hp
  exact List.find?_eq_none.1 h p p.mem_all (List.isPrefixOf_iff_prefix.2 hp)

end Placeholder

inductive Piece where
  | char (c : Char)
  | hole (p : Placeholder)
deriving DecidableEq

def pieces (cs : List Char) : List Piece :=
  go 0 cs
where
  go : Nat → List Char → List Piece
    | _, [] => []
    | skip + 1, _ :: cs => go skip cs
    | 0, c :: cs =>
      match Placeholder.at? (c :: cs) with
      | some p => .hole p :: go (p.text.length - 1) cs
      | none => .char c :: go 0 cs

section Pieces

variable {cs : List Char}

theorem pieces.go_skip (n : Nat) : go n cs = pieces (cs.drop n) := by
  induction cs generalizing n with
  | nil => cases n <;> rfl
  | cons c cs ih =>
    cases n with
    | zero => rfl
    | succ n => exact ih n

@[simp]
theorem pieces_text_append (p : Placeholder) : pieces (p.text ++ cs) = .hole p :: pieces cs := by
  have hat := p.at?_text_append cs
  rw [Placeholder.text, List.cons_append] at hat ⊢
  rw [pieces, pieces.go, hat]
  dsimp only
  rw [pieces.go_skip]
  simp [Placeholder.text]

theorem pieces_cons {c : Char} (h : Placeholder.at? (c :: cs) = none) :
    pieces (c :: cs) = .char c :: pieces cs := by
  rw [pieces, pieces.go, h]
  rfl

@[elab_as_elim]
theorem template_induction {motive : List Char → Prop} (nil : motive [])
    (char : ∀ c cs, Placeholder.at? (c :: cs) = none → motive cs → motive (c :: cs))
    (hole : ∀ (p : Placeholder) cs, motive cs → motive (p.text ++ cs)) (cs : List Char) : motive cs := by
  match cs with
  | [] => exact nil
  | c :: cs =>
    match hat : Placeholder.at? (c :: cs) with
    | none => exact char c cs hat (template_induction nil char hole cs)
    | some p =>
      obtain ⟨rest, hrest⟩ := Placeholder.prefix_of_at? hat
      have hshort : rest.length < (c :: cs).length := by
        rw [← hrest, List.length_append]
        exact Nat.lt_add_of_pos_left (Nat.succ_pos _)
      rw [← hrest]
      exact hole p rest (template_induction nil char hole rest)
termination_by cs.length
decreasing_by
  · exact Nat.lt_succ_self _
  · exact hshort

end Pieces

def Piece.render (value : Placeholder → List Char) : Piece → List Char
  | char c => [c]
  | hole p => value p

def render (value : Placeholder → List Char) (ps : List Piece) : List Char :=
  ps.flatMap (Piece.render value)

def substitute (value : Placeholder → List Char) (template : List Char) : List Char :=
  render value (pieces template)

section Render

variable {value : Placeholder → List Char} {ps : List Piece}

theorem render_cons (piece : Piece) :
    render value (piece :: ps) = piece.render value ++ render value ps := rfl

theorem render_text_pieces (cs : List Char) : render Placeholder.text (pieces cs) = cs := by
  induction cs using template_induction with
  | nil => rfl
  | char c cs h ih => rw [pieces_cons h, render_cons, ih]; rfl
  | hole p cs ih => rw [pieces_text_append, render_cons, ih]; rfl

end Render

def occurrences (p : Placeholder) (cs : List Char) : Nat :=
  cs.tails.countP fun t => p.text.isPrefixOf t

section Occurrences

variable (p : Placeholder)

theorem occurrences_nil : occurrences p [] = 0 := by
  cases p <;> rfl

theorem occurrences_cons (c : Char) (cs : List Char) :
    occurrences p (c :: cs) = occurrences p cs + if p.text <+: c :: cs then 1 else 0 := by
  simp only [occurrences, List.tails_cons, List.countP_cons, List.isPrefixOf_iff_prefix]

theorem occurrences_le_append (xs cs : List Char) :
    occurrences p cs ≤ occurrences p (xs ++ cs) := by
  induction xs with
  | nil => exact Nat.le_refl _
  | cons x xs ih =>
    rw [List.cons_append, occurrences_cons]
    exact Nat.le_add_right_of_le ih

theorem lt_occurrences_text_append (cs : List Char) :
    occurrences p cs < occurrences p (p.text ++ cs) := by
  have hrest := occurrences_le_append p (p.word.toList ++ ['}']) cs
  have hhere : p.text <+: '{' :: (p.word.toList ++ ['}'] ++ cs) := List.prefix_append p.text cs
  rw [Placeholder.text, List.cons_append, occurrences_cons, if_pos hhere]
  exact Nat.lt_succ_of_le hrest

variable {p} in
theorem replaceAll_append_of_occurrences {v xs cs : List Char}
    (h : occurrences p (xs ++ cs) = occurrences p cs) :
    Text.replaceAll p.text v (xs ++ cs) = xs ++ Text.replaceAll p.text v cs := by
  induction xs with
  | nil => rfl
  | cons x xs ih =>
    have hle := occurrences_le_append p xs cs
    rw [List.cons_append, occurrences_cons] at h
    split at h
    · omega
    · next hno =>
      rw [List.cons_append, Text.replaceAll_cons_of_not_prefix hno, ih (by omega), List.cons_append]

end Occurrences

section Stages

variable {value value' : Placeholder → List Char} {p : Placeholder}

theorem count_hole_le_occurrences (hp : value p = p.text) (ps : List Piece) :
    ps.count (.hole p) ≤ occurrences p (render value ps) := by
  induction ps with
  | nil => exact Nat.zero_le _
  | cons piece ps ih =>
    rw [render_cons]
    by_cases hpiece : piece = .hole p
    · subst hpiece
      rw [List.count_cons_self, Piece.render, hp]
      exact (Nat.succ_le_succ ih).trans (lt_occurrences_text_append p _)
    · rw [List.count_cons_of_ne hpiece]
      exact ih.trans (occurrences_le_append p _ _)

theorem replaceAll_render (hp : value p = p.text) (hsame : ∀ q, q ≠ p → value' q = value q)
    (ps : List Piece) (hcount : occurrences p (render value ps) = ps.count (.hole p)) :
    Text.replaceAll p.text (value' p) (render value ps) = render value' ps := by
  induction ps with
  | nil => rfl
  | cons piece ps ih =>
    -- the pieces that follow are occurrences enough, so that there is none on the way to them
    have hle := count_hole_le_occurrences hp ps
    rw [render_cons] at hcount ⊢
    rw [render_cons]
    by_cases hpiece : piece = .hole p
    · subst hpiece
      have hlt := lt_occurrences_text_append p (render value ps)
      rw [List.count_cons_self, Piece.render, hp] at hcount
      rw [Piece.render, hp, Text.replaceAll_append_self p.text_ne_nil, ih (by omega)]
      rfl
    · have hle' := occurrences_le_append p (piece.render value) (render value ps)
      have hrender : piece.render value' = piece.render value := by
        cases piece with
        | char c => rfl
        | hole q => exact hsame q fun hq => hpiece (congrArg Piece.hole hq)
      rw [List.count_cons_of_ne hpiece] at hcount
      rw [replaceAll_append_of_occurrences (by omega), ih (by omega), hrender]

end Stages

end Embargo.Message
