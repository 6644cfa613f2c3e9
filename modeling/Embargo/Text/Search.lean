namespace Embargo.Text

def occursIn (needle : List Char) : List Char → Bool
  | [] => needle.isEmpty
  | c :: cs => needle.isPrefixOf (c :: cs) || occursIn needle cs

theorem occursIn_iff {needle cs : List Char} :
    occursIn needle cs = true ↔ needle <:+: cs := by
  induction cs with
  | nil => simp [occursIn, List.isEmpty_iff]
  | cons c cs ih => simp [occursIn, List.infix_cons_iff, ih]

/--
Replace the occurrences of `pattern` from left to right. A replaced occurrence does not overlap the
next one.
-/
def replaceAll (pattern replacement : List Char) (cs : List Char) : List Char :=
  go 0 cs
where
  /-- The first `skip` characters belong to an occurrence that was already replaced. -/
  go : Nat → List Char → List Char
    | _, [] => []
    | skip + 1, _ :: cs => go skip cs
    | 0, c :: cs =>
      if pattern.isPrefixOf (c :: cs) then
        replacement ++ go (pattern.length - 1) cs
      else
        c :: go 0 cs

section Replace

variable {pattern replacement cs : List Char}

theorem replaceAll.go_skip (n : Nat) :
    go pattern replacement n cs = replaceAll pattern replacement (cs.drop n) := by
  induction cs generalizing n with
  | nil => cases n <;> rfl
  | cons c cs ih =>
    cases n with
    | zero => rfl
    | succ n => exact ih n

theorem replaceAll_append_self (h : pattern ≠ []) :
    replaceAll pattern replacement (pattern ++ cs) =
      replacement ++ replaceAll pattern replacement cs := by
  cases pattern with
  | nil => exact absurd rfl h
  | cons c pattern =>
    have hprefix : (c :: pattern).isPrefixOf (c :: (pattern ++ cs)) = true :=
      List.isPrefixOf_iff_prefix.2 ⟨cs, rfl⟩
    rw [replaceAll, List.cons_append, replaceAll.go, if_pos hprefix, replaceAll.go_skip,
      List.length_cons, Nat.add_sub_cancel, List.drop_left]

theorem replaceAll_cons_of_not_prefix {c : Char} (h : ¬ pattern <+: c :: cs) :
    replaceAll pattern replacement (c :: cs) = c :: replaceAll pattern replacement cs := by
  rw [replaceAll, replaceAll.go, if_neg (mt List.isPrefixOf_iff_prefix.1 h)]
  rfl

end Replace

def replace (pattern replacement s : String) : String :=
  String.ofList (replaceAll pattern.toList replacement.toList s.toList)

def splitLast? (sep : Char) : List Char → Option (List Char × List Char)
  | [] => none
  | c :: cs =>
    match splitLast? sep cs with
    | some (front, back) => some (c :: front, back)
    | none => if c = sep then some ([], cs) else none

@[simp]
theorem splitLast?_eq_none_iff {sep : Char} {cs : List Char} :
    splitLast? sep cs = none ↔ sep ∉ cs := by
  induction cs with
  | nil => simp [splitLast?]
  | cons c cs ih =>
    simp only [splitLast?]
    split
    · next heq =>
      have : ¬ (splitLast? sep cs = none) := by simp [heq]
      rw [ih] at this
      simp_all
    · next heq =>
      rw [ih] at heq
      by_cases hc : c = sep
      · simp [hc]
      · simp [hc, heq, Ne.symm hc]

theorem eq_of_splitLast? {sep : Char} {cs front back : List Char}
    (h : splitLast? sep cs = some (front, back)) : cs = front ++ sep :: back ∧ sep ∉ back := by
  induction cs generalizing front with
  | nil => simp [splitLast?] at h
  | cons c cs ih =>
    simp only [splitLast?] at h
    split at h
    · next heq =>
      cases h
      simp [ih heq]
    · next heq =>
      split at h
      · next hc =>
        cases h
        exact ⟨by simp [hc], splitLast?_eq_none_iff.1 heq⟩
      · cases h

theorem splitLast?_append {sep : Char} {back : List Char} (h : sep ∉ back) (front : List Char) :
    splitLast? sep (front ++ sep :: back) = some (front, back) := by
  induction front with
  | nil => simp [splitLast?, splitLast?_eq_none_iff.2 h]
  | cons c front ih => simp [splitLast?, ih]

theorem append_cons_inj {sep : Char} {front front' back back' : List Char} (h : sep ∉ back)
    (h' : sep ∉ back') :
    front ++ sep :: back = front' ++ sep :: back' ↔ front = front' ∧ back = back' := by
  constructor
  · intro heq
    have hsplit := splitLast?_append h front
    rw [heq, splitLast?_append h', Option.some.injEq, Prod.mk.injEq] at hsplit
    exact ⟨hsplit.1.symm, hsplit.2.symm⟩
  · rintro ⟨rfl, rfl⟩
    rfl

theorem takeWhile_cut {sep : Char} {front back : List Char} (h : sep ∉ front) :
    (front ++ sep :: back).takeWhile (· != sep) = front := by
  rw [List.takeWhile_append_of_pos, List.takeWhile_cons_of_neg (by simp), List.append_nil]
  intro c hc
  exact bne_iff_ne.2 fun heq => h (heq ▸ hc)

theorem dropWhile_cut {sep : Char} {front back : List Char} (h : sep ∉ front) :
    (front ++ sep :: back).dropWhile (· != sep) = sep :: back := by
  rw [List.dropWhile_append_of_pos, List.dropWhile_cons_of_neg (by simp)]
  intro c hc
  exact bne_iff_ne.2 fun heq => h (heq ▸ hc)

def splitCommas (cs : List Char) : List (List Char) :=
  cs.splitOn ','

end Embargo.Text
