/-!
This module contains the White_Space property of Unicode and the trimming of texts that is defined
by it.
-/

namespace Embargo.Text

def isWhiteSpace (c : Char) : Bool :=
  let n := c.toNat
  (9 ≤ n && n ≤ 13) || n == 0x20 || n == 0x85 || n == 0xA0 || n == 0x1680
    || (0x2000 ≤ n && n ≤ 0x200A) || n == 0x2028 || n == 0x2029 || n == 0x202F || n == 0x205F
    || n == 0x3000

def trimChars (cs : List Char) : List Char :=
  ((cs.dropWhile isWhiteSpace).reverse.dropWhile isWhiteSpace).reverse

def trim (s : String) : String :=
  String.ofList (trimChars s.toList)

@[simp]
theorem toList_trim (s : String) : (trim s).toList = trimChars s.toList := by
  simp [trim]

theorem dropWhile_dropWhile (cs : List Char) :
    (cs.dropWhile isWhiteSpace).dropWhile isWhiteSpace = cs.dropWhile isWhiteSpace := by
  induction cs with
  | nil => rfl
  | cons c cs ih => by_cases hc : isWhiteSpace c = true <;> simp [hc, ih]

theorem isWhiteSpace_of_trimChars {cs rest : List Char} {c : Char} (h : trimChars cs = c :: rest) :
    isWhiteSpace c = false := by
  have hprefix : trimChars cs <+: cs.dropWhile isWhiteSpace := by
    rw [← List.reverse_suffix, trimChars, List.reverse_reverse]
    apply List.dropWhile_suffix
  obtain ⟨back, hback⟩ := hprefix
  rw [h] at hback
  have hne : cs.dropWhile isWhiteSpace ≠ [] := by
    rw [← hback]
    exact List.cons_ne_nil _ _
  have hhead := List.head_dropWhile_not isWhiteSpace hne
  simp only [← hback] at hhead
  exact hhead

theorem trimChars_eq_self {cs : List Char} (hne : cs ≠ []) (hfirst : isWhiteSpace (cs.head hne) = false)
    (hlast : isWhiteSpace (cs.getLast hne) = false) : trimChars cs = cs := by
  have hdrop {ds : List Char} (hds : ds ≠ []) (h : isWhiteSpace (ds.head hds) = false) :
      ds.dropWhile isWhiteSpace = ds := by
    obtain ⟨c, ds, rfl⟩ := List.exists_cons_of_ne_nil hds
    exact List.dropWhile_cons_of_neg (by simpa using h)
  have hreverse : cs.reverse ≠ [] := List.reverse_ne_nil_iff.2 hne
  unfold trimChars
  rw [hdrop hne hfirst, hdrop hreverse (by rwa [List.head_reverse]), List.reverse_reverse]

theorem trimChars_of_forall {cs : List Char} (h : ∀ c ∈ cs, isWhiteSpace c = false) :
    trimChars cs = cs := by
  cases cs with
  | nil => rfl
  | cons c cs =>
    have hne := List.cons_ne_nil c cs
    exact trimChars_eq_self hne (h _ (List.head_mem hne)) (h _ (List.getLast_mem hne))

theorem mem_trimChars {cs : List Char} {c : Char} (hc : c ∈ cs) (hspace : isWhiteSpace c = false) :
    c ∈ trimChars cs := by
  have hdrop (ds : List Char) (hd : c ∈ ds) : c ∈ ds.dropWhile isWhiteSpace := by
    rw [← List.takeWhile_append_dropWhile (p := isWhiteSpace) (l := ds), List.mem_append] at hd
    refine hd.resolve_left fun hfront => ?_
    have hall := List.all_takeWhile (p := isWhiteSpace) (l := ds)
    rw [List.all_eq_true.1 hall c hfront] at hspace
    cases hspace
  rw [trimChars, List.mem_reverse]
  exact hdrop _ (List.mem_reverse.2 (hdrop cs hc))

theorem trimChars_trimChars (cs : List Char) : trimChars (trimChars cs) = trimChars cs := by
  have hfront : (trimChars cs).dropWhile isWhiteSpace = trimChars cs := by
    cases h : trimChars cs with
    | nil => rfl
    | cons c rest =>
      have hc := isWhiteSpace_of_trimChars h
      exact List.dropWhile_cons_of_neg (by rw [hc]; exact Bool.false_ne_true)
  rw [trimChars, hfront]
  unfold trimChars
  rw [List.reverse_reverse, dropWhile_dropWhile]

end Embargo.Text
