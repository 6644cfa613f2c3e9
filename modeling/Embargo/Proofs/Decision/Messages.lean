import Embargo.Proofs.Decision.Templates

/-!
This module contains the proof that a message is its template with all values put in at once, unless a
value brings about a placeholder that the template does not have.
-/

namespace Embargo.Message

namespace Placeholder

theorem isPrefixOf_text_append (p q : Placeholder) (cs : List Char) :
    p.text.isPrefixOf (q.text ++ cs) = decide (p = q) := by
  cases p <;> cases q <;> rfl

theorem opening_notMem_word (p : Placeholder) : '{' ∉ p.word.toList := by
  cases p <;> decide

theorem closing_mem {p : Placeholder} {w : List Char} (hw : w <:+ p.text) (hne : w ≠ []) : '}' ∈ w := by
  rw [text, ← List.cons_append, List.suffix_concat_iff] at hw
  rcases hw with rfl | ⟨t, rfl, -⟩
  · exact absurd rfl hne
  · simp

end Placeholder

/--
A text that is not part of a placeholder, whatever stands around it.
-/
structure Inert (p : Placeholder) (v : List Char) : Prop where
  opening : '{' ∉ v
  closing : '}' ∉ v
  notPart : ¬ v <:+: p.word.toList

section Inert

variable {p : Placeholder} {v : List Char}

theorem Inert.not_infix_text (h : Inert p v) : ¬ v <:+: p.text := by
  have hnil : v ≠ [] := by
    rintro rfl
    exact h.notPart (List.nil_infix)
  intro hinfix
  rw [Placeholder.text, List.infix_cons_iff, List.infix_concat_iff] at hinfix
  rcases hinfix with hprefix | hsuffix | hword
  · rcases List.prefix_cons_iff.1 hprefix with rfl | ⟨t, rfl, -⟩
    · exact hnil rfl
    · exact h.opening List.mem_cons_self
  · rcases List.suffix_concat_iff.1 hsuffix with rfl | ⟨t, rfl, -⟩
    · exact hnil rfl
    · exact h.closing (by simp)
  · exact h.notPart hword

theorem occurrences_append_of_notMem {xs cs : List Char} (h : '{' ∉ xs) :
    occurrences p (xs ++ cs) = occurrences p cs := by
  induction xs with
  | nil => rfl
  | cons x xs ih =>
    rw [List.mem_cons, not_or] at h
    have hno : ¬ p.text <+: x :: (xs ++ cs) := fun hp => h.1 (List.cons_prefix_cons.1 hp).1
    rw [List.cons_append, occurrences_cons, if_neg hno, ih h.2]
    rfl

theorem occurrences_text_append (q : Placeholder) (cs : List Char) :
    occurrences p (q.text ++ cs) = occurrences p cs + if p = q then 1 else 0 := by
  have hprefix : p.text <+: q.text ++ cs ↔ p = q := by
    rw [← List.isPrefixOf_iff_prefix, p.isPrefixOf_text_append, decide_eq_true_eq]
  have htail : '{' ∉ q.word.toList ++ ['}'] := by
    simp [q.opening_notMem_word]
  rw [← if_congr hprefix rfl rfl, Placeholder.text, List.cons_append, occurrences_cons,
    occurrences_append_of_notMem htail]

variable {value : Placeholder → List Char}

theorem prefix_render_text (hvalue : ∀ q, value q = q.text ∨ Inert p (value q)) {w : List Char}
    (hw : w <:+ p.text) (ps : List Piece) (h : w <+: render value ps) :
    w <+: render Placeholder.text ps := by
  induction ps generalizing w with
  | nil => exact h
  | cons piece ps ih =>
    rw [render_cons] at h ⊢
    have hpiece : piece.render value = piece.render Placeholder.text ∨ Inert p (piece.render value) := by
      cases piece with
      | char c => exact .inl rfl
      | hole q => exact hvalue q
    rcases List.prefix_or_prefix_of_prefix h (List.prefix_append (piece.render value) _) with
      hwithin | hbeyond
    · rcases hpiece with hown | hinert
      · rw [hown] at hwithin
        exact hwithin.trans (List.prefix_append _ _)
      · -- the placeholder would have to end within the value
        by_cases hne : w = []
        · rw [hne]
          exact List.nil_prefix
        · exact absurd (hwithin.subset (Placeholder.closing_mem hw hne)) hinert.closing
    · rcases hpiece with hown | hinert
      · obtain ⟨rest, rfl⟩ := hbeyond
        rw [List.prefix_append_right_inj] at h
        rw [hown, List.prefix_append_right_inj]
        exact ih ((List.suffix_append _ _).trans hw) h
      · exact absurd (hbeyond.isInfix.trans hw.isInfix) hinert.not_infix_text

theorem occurrences_substitute (hp : value p = p.text)
    (hvalue : ∀ q, value q = q.text ∨ Inert p (value q)) (template : List Char) :
    occurrences p (substitute value template) = (pieces template).count (.hole p) := by
  induction template using template_induction with
  | nil => exact occurrences_nil p
  | char c cs hat ih =>
    -- a placeholder that begins here would have been in the template before the values were put in
    have hno : ¬ p.text <+: c :: substitute value cs := by
      intro hprefix
      have hreal := prefix_render_text hvalue List.suffix_rfl (.char c :: pieces cs) hprefix
      rw [← pieces_cons hat, render_text_pieces] at hreal
      exact Placeholder.not_prefix_of_at? hat p hreal
    have hsubst : substitute value (c :: cs) = c :: substitute value cs := by
      rw [substitute, pieces_cons hat]
      rfl
    rw [hsubst, occurrences_cons, if_neg hno, pieces_cons hat, List.count_cons_of_ne (by simp), ih]
    rfl
  | hole q cs ih =>
    have hsubst : substitute value (q.text ++ cs) = value q ++ substitute value cs := by
      rw [substitute, pieces_text_append]
      rfl
    rw [hsubst, pieces_text_append]
    by_cases hq : q = p
    · subst hq
      rw [hp, occurrences_text_append, if_pos rfl, ih, List.count_cons_self]
    · rw [List.count_cons_of_ne (by simpa using hq), ← ih]
      rcases hvalue q with hown | hinert
      · rw [hown, occurrences_text_append, if_neg (Ne.symm hq)]
        rfl
      · exact occurrences_append_of_notMem hinert.opening

theorem count_hole_pieces (p : Placeholder) (template : List Char) :
    (pieces template).count (.hole p) = occurrences p template := by
  rw [← occurrences_substitute rfl fun _ => .inl rfl, substitute, render_text_pieces]

theorem replaceAll_substitute {value' : Placeholder → List Char} (hp : value p = p.text)
    (hsame : ∀ q, q ≠ p → value' q = value q) {template : List Char}
    (h : occurrences p (substitute value template) ≤ occurrences p template) :
    Text.replaceAll p.text (value' p) (substitute value template) = substitute value' template := by
  rw [← count_hole_pieces p template] at h
  exact replaceAll_render hp hsame _ (Nat.le_antisymm h (count_hole_le_occurrences hp _))

end Inert

namespace Placeholder

def before : Placeholder → List Placeholder
  | item => []
  | action => [item]
  | world => [item, action]
  | time => [item, action, world]

theorem notMem_before (p : Placeholder) : p ∉ p.before := by
  cases p <;> decide

theorem world_mem_before_iff {p : Placeholder} : world ∈ p.before ↔ p = time := by
  cases p <;> decide

theorem time_notMem_before (p : Placeholder) : time ∉ p.before := by
  cases p <;> decide

end Placeholder

def values (itemName : String) (action : Action) (world : World) (time : Option Nat) :
    Placeholder → List Char
  | .item => itemName.toList
  | .action => action.name.toList
  | .world => world.name.toList
  | .time => (time.elim "" fun ms => Text.showNat (seconds ms)).toList

def only (ps : List Placeholder) (value : Placeholder → List Char) (p : Placeholder) : List Char :=
  if p ∈ ps then value p else p.text

section Only

variable {value : Placeholder → List Char} {template : List Char}

theorem only_nil : only [] value = Placeholder.text := by
  funext p
  exact if_neg List.not_mem_nil

theorem replaceAll_only_before (p : Placeholder)
    (h : occurrences p (substitute (only p.before value) template) ≤ occurrences p template) :
    Text.replaceAll p.text (value p) (substitute (only p.before value) template) =
      substitute (only (p.before ++ [p]) value) template := by
  have hput : only (p.before ++ [p]) value p = value p := if_pos (by simp)
  rw [← hput]
  refine replaceAll_substitute (if_neg p.notMem_before) ?_ h
  intro q hq
  simp [only, hq]

theorem replaceAll_eq_substitute (p : Placeholder) (cs : List Char) :
    Text.replaceAll p.text (value p) cs = substitute (only [p] value) cs := by
  have hput : only [p] value p = value p := if_pos List.mem_cons_self
  have htext : substitute Placeholder.text cs = cs := render_text_pieces cs
  rw [← hput]
  nth_rewrite 1 [← htext]
  refine replaceAll_substitute rfl ?_ (by rw [htext])
  intro q hq
  exact if_neg (by simpa using hq)

theorem occurrences_only_before (hinert : ∀ p, ∀ q ∈ p.before, Inert p (value q)) (p : Placeholder) :
    occurrences p (substitute (only p.before value) template) = occurrences p template := by
  have hown : only p.before value p = p.text := if_neg p.notMem_before
  rw [← count_hole_pieces p template]
  refine occurrences_substitute hown ?_ template
  intro q
  unfold only
  split
  · next hq => exact .inr (hinert p q hq)
  · exact .inl rfl

end Only

theorem inert_action (p : Placeholder) (a : Action) : Inert p a.name.toList := by
  have hnames : ∀ a ∈ Action.all, '{' ∉ a.name.toList ∧ '}' ∉ a.name.toList
      ∧ ∀ p ∈ Placeholder.all, ¬ a.name.toList <:+: p.word.toList := by
    decide +kernel
  obtain ⟨hopening, hclosing, hpart⟩ := hnames a a.mem_all
  exact ⟨hopening, hclosing, hpart p p.mem_all⟩

section Fill

variable (template itemName : String) (action : Action) (world : World) (time : Option Nat)

theorem toList_fill :
    let value := values itemName action world time
    (fill template itemName action world time).toList =
      Text.replaceAll Placeholder.time.text (value .time)
        (Text.replaceAll Placeholder.world.text (value .world)
          (Text.replaceAll Placeholder.action.text (value .action)
            (Text.replaceAll Placeholder.item.text (value .item) template.toList))) := by
  intro value
  have htime : value .time = ((time.map fun ms => Text.showNat (seconds ms)).getD "").toList := by
    cases time <;> rfl
  rw [htime]
  simp only [fill, Text.replace, String.toList_ofList]
  rfl

theorem toList_fill_of_occurrences
    (h : ∀ p, occurrences p (substitute (only p.before (values itemName action world time)) template.toList) ≤
      occurrences p template.toList) :
    (fill template itemName action world time).toList =
      substitute (values itemName action world time) template.toList := by
  generalize hvalue : values itemName action world time = value at h
  have hstart : substitute (only [] value) template.toList = template.toList := by
    rw [only_nil]
    exact render_text_pieces template.toList
  have hall : only [.item, .action, .world, .time] value = value := by
    funext p
    exact if_pos p.mem_all
  calc
    _ = Text.replaceAll Placeholder.time.text (value .time)
          (Text.replaceAll Placeholder.world.text (value .world)
            (Text.replaceAll Placeholder.action.text (value .action)
              (Text.replaceAll Placeholder.item.text (value .item)
                (substitute (only [] value) template.toList)))) := by
      rw [hstart, ← hvalue, toList_fill]
    _ = substitute (only [.item, .action, .world, .time] value) template.toList := by
      -- each placeholder finds the text as those before it have left it
      have hstep (p : Placeholder) := replaceAll_only_before p (h p)
      have hitem := hstep .item
      have haction := hstep .action
      have hworld := hstep .world
      have htime := hstep .time
      simp only [Placeholder.before, List.nil_append, List.cons_append] at hitem haction hworld htime
      rw [hitem, haction, hworld, htime]
    _ = substitute value template.toList := by rw [hall]

/--
A message is its template with the item put in, then the action, the world and the time, each in a single pass
over the text that the one before has left. That is the same as putting in all of them at once, unless one of
them finds its placeholder more often than the template has it. No template can bring that about with an item
and a world whose names are no parts of the placeholders after them.
-/
theorem fill_eq_substitute :
    let value := values itemName action world time
    let message := (fill template itemName action world time).toList
    (message = substitute (only [.time] value) (substitute (only [.world] value)
        (substitute (only [.action] value) (substitute (only [.item] value) template.toList))))
      ∧ ((∀ p : Placeholder, occurrences p (substitute (only p.before value) template.toList) ≤
            occurrences p template.toList) →
          message = substitute value template.toList)
      ∧ ((∀ p, p ≠ .item → Inert p itemName.toList) → Inert .time world.name.toList →
          message = substitute value template.toList) := by
  intro value message
  refine ⟨?_, ?_, ?_⟩
  · simp only [← replaceAll_eq_substitute]
    exact toList_fill template itemName action world time
  · exact toList_fill_of_occurrences template itemName action world time
  · intro hitem hworld
    have hinert : ∀ p : Placeholder, ∀ q ∈ p.before, Inert p (value q) := by
      intro p q hq
      cases q with
      | item => exact hitem p fun hp => Placeholder.notMem_before .item (hp ▸ hq)
      | action => exact inert_action p action
      | world =>
        rw [Placeholder.world_mem_before_iff.1 hq]
        exact hworld
      | time => exact absurd hq p.time_notMem_before
    apply toList_fill_of_occurrences
    intro p
    exact (occurrences_only_before hinert p).le

theorem fill_eq_substitute_braces :
    let value := values "\x7bworld" .place ⟨"nether"⟩ (some 1500)
    let template := "\x7bitem\x7d/\x7btime\x7d"
    let template' := "\x7b\x7bitem\x7d\x7d"
    (∀ p : Placeholder, occurrences p (substitute (only p.before value) template.toList) ≤
        occurrences p template.toList)
      ∧ (fill template "\x7bworld" .place ⟨"nether"⟩ (some 1500)).toList =
          substitute value template.toList
      ∧ fill template "\x7bworld" .place ⟨"nether"⟩ (some 1500) = "\x7bworld/2"
      ∧ (∀ p : Placeholder, p ≠ .item → Inert p "stone".toList) ∧ Inert .time "world".toList
      ∧ (fill template' "stone" .place ⟨"world"⟩ none).toList =
          substitute (values "stone" .place ⟨"world"⟩ none) template'.toList
      ∧ fill template' "stone" .place ⟨"world"⟩ none = "\x7bstone\x7d" := by
  intro value template template'
  have hoccurrences : ∀ p : Placeholder,
      occurrences p (substitute (only p.before value) template.toList) ≤
        occurrences p template.toList := by
    intro p
    cases p <;> decide +kernel
  have hstone : ∀ p : Placeholder, p ≠ .item → Inert p "stone".toList := by
    intro p _
    cases p <;> exact ⟨by decide, by decide, by decide +kernel⟩
  have hworld : Inert .time "world".toList := ⟨by decide, by decide, by decide +kernel⟩
  have hbrace := fill_eq_substitute template "\x7bworld" .place ⟨"nether"⟩ (some 1500)
  have hplain := fill_eq_substitute template' "stone" .place ⟨"world"⟩ none
  exact ⟨hoccurrences, hbrace.2.1 hoccurrences, by decide +kernel, hstone, hworld,
    hplain.2.2 hstone hworld, by decide +kernel⟩

/--
An item that is called like a placeholder is read as one, and so is a name between two braces of the template.
-/
theorem fill_reads_values :
    let action := values "\x7baction\x7d" .useItem ⟨"w"⟩ none
    let world := values "world" .useItem ⟨"nether"⟩ none
    fill "\x7bitem\x7d" "\x7baction\x7d" .useItem ⟨"w"⟩ none = "use"
      ∧ substitute action "\x7bitem\x7d".toList = "\x7baction\x7d".toList
      ∧ fill "\x7b\x7bitem\x7d\x7d" "world" .useItem ⟨"nether"⟩ none = "nether"
      ∧ substitute world "\x7b\x7bitem\x7d\x7d".toList = "\x7bworld\x7d".toList := by
  decide +kernel

end Fill

end Embargo.Message
