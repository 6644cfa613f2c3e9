import Embargo.Text.Lowercase
import Embargo.Text.WhiteSpace
import Mathlib.Data.List.DropRight

/-!
This module contains what trimming and the lowercase mapping leave of the characters of a text. There is
nothing left to map in a text that has been mapped once, and no white space comes in by the mapping.
-/

namespace Embargo

/-! ### White space at the ends -/

namespace Text

theorem trimChars_eq (cs : List Char) :
    trimChars cs = (cs.dropWhile isWhiteSpace).rdropWhile isWhiteSpace := rfl

theorem dropWhile_rdropWhile {α : Type} (p : α → Bool) (l : List α) :
    (l.rdropWhile p).dropWhile p = (l.dropWhile p).rdropWhile p := by
  induction l with
  | nil => rfl
  | cons a l ih =>
    -- the first element is dropped from the end only if nothing behind it is left
    have hcons : (a :: l).rdropWhile p =
        if (l.rdropWhile p).isEmpty then [a].rdropWhile p else a :: l.rdropWhile p := by
      unfold List.rdropWhile
      rw [List.reverse_cons, List.dropWhile_append, List.isEmpty_reverse]
      split
      · rfl
      · exact List.reverse_append
    by_cases ha : p a = true
    · rw [hcons, List.dropWhile_cons_of_pos ha, ← ih]
      split
      · next hnil => simp [List.isEmpty_iff.1 hnil, List.rdropWhile_singleton, ha]
      · rw [List.dropWhile_cons_of_pos ha]
    · rw [List.dropWhile_cons_of_neg ha, hcons]
      split
      · simp [List.rdropWhile_singleton, ha]
      · rw [List.dropWhile_cons_of_neg ha]

theorem trimChars_sublist (cs : List Char) : (trimChars cs).Sublist cs := by
  have hfront := List.dropWhile_sublist isWhiteSpace (l := cs)
  exact (List.rdropWhile_prefix isWhiteSpace (cs.dropWhile isWhiteSpace)).sublist.trans hfront

theorem trimChars_rdropWhile (cs : List Char) :
    trimChars (cs.rdropWhile isWhiteSpace) = trimChars cs := by
  rw [trimChars_eq, dropWhile_rdropWhile, List.rdropWhile_idempotent, ← trimChars_eq]

theorem trimChars_cons {c : Char} (h : isWhiteSpace c = false) (cs : List Char) :
    trimChars (c :: cs) = c :: cs.rdropWhile isWhiteSpace := by
  have hc : ¬ isWhiteSpace c = true := by simp [h]
  have hreverse : (c :: cs).reverse.dropWhile isWhiteSpace = cs.reverse.dropWhile isWhiteSpace ++ [c] := by
    rw [List.reverse_cons, List.dropWhile_append]
    split
    · next hnil => rw [List.isEmpty_iff.1 hnil, List.dropWhile_cons_of_neg hc, List.nil_append]
    · rfl
  rw [trimChars_eq, List.dropWhile_cons_of_neg hc, List.rdropWhile, hreverse, List.reverse_append]
  rfl

theorem trim_trim (s : String) : trim (trim s) = trim s := by
  unfold trim
  rw [String.toList_ofList, trimChars_trimChars]

def EndsInWord (cs : List Char) : Prop :=
  ∀ c ∈ cs.getLast?, isWhiteSpace c = false

theorem endsInWord_trimChars (cs : List Char) : EndsInWord (trimChars cs) := by
  intro c hc
  obtain ⟨hne, rfl⟩ := List.mem_getLast?_eq_getLast hc
  exact Bool.eq_false_iff.2 (List.rdropWhile_last_not isWhiteSpace (cs.dropWhile isWhiteSpace) hne)

theorem EndsInWord.of_suffix {cs ds : List Char} (h : EndsInWord cs) (hds : ds <:+ cs) :
    EndsInWord ds := by
  intro c hc
  obtain ⟨front, rfl⟩ := hds
  exact h c (List.mem_getLast?_append_of_mem_getLast? hc)

theorem EndsInWord.trimChars_eq {cs : List Char} (h : EndsInWord cs) :
    trimChars cs = cs.dropWhile isWhiteSpace := by
  have hlast : cs.rdropWhile isWhiteSpace = cs :=
    List.rdropWhile_eq_self_iff.2 fun hne =>
      Bool.eq_false_iff.1 (h _ (List.getLast_mem_getLast? hne))
  rw [Text.trimChars_eq, ← dropWhile_rdropWhile, hlast]

end Text

/-! ### The runs of the lowercase mapping -/

namespace Unicode

/--
Ranges of code points that no other ones are mapped to: those of white space, of the characters that mark
tokens, of ASCII capitals and of the dotted capital I.
-/
def unmappedRanges : List (Nat × Nat) :=
  [(9, 13), (0x20, 0x21), (0x23, 0x23), (0x2A, 0x2A), (0x2C, 0x2C), (0x41, 0x5A), (0x85, 0x85),
    (0xA0, 0xA0), (0x130, 0x130), (0x1680, 0x1680), (0x2000, 0x200A), (0x2028, 0x2029), (0x202F, 0x202F),
    (0x205F, 0x205F), (0x3000, 0x3000)]

def IsUnmapped (n : Nat) : Prop :=
  ∃ u ∈ unmappedRanges, u.1 ≤ n ∧ n ≤ u.2

instance (n : Nat) : Decidable (IsUnmapped n) :=
  inferInstanceAs (Decidable (∃ u ∈ unmappedRanges, u.1 ≤ n ∧ n ≤ u.2))

theorem isUnmapped_of_isWhiteSpace {c : Char} (h : Text.isWhiteSpace c = true) : IsUnmapped c.toNat := by
  simp only [Text.isWhiteSpace, Bool.or_eq_true, Bool.and_eq_true, decide_eq_true_eq, beq_iff_eq] at h
  simp only [IsUnmapped, unmappedRanges, List.mem_cons, List.not_mem_nil, or_false, exists_eq_or_imp,
    exists_eq_left]
  omega

theorem lowercaseRuns_unmapped :
    ∀ r ∈ lowercaseRuns, ∀ u ∈ unmappedRanges,
      ¬ ((r.first : Int) + r.shift ≤ u.2 ∧ (u.1 : Int) ≤ r.last + r.shift) := by
  decide +kernel

namespace CaseRun

theorem covers_iff {r : CaseRun} {n : Nat} :
    r.covers n = true ↔ r.first ≤ n ∧ n ≤ r.last ∧ (n - r.first) % r.stride = 0 := by
  simp only [covers, Bool.and_eq_true, decide_eq_true_eq, beq_iff_eq, and_assoc]

/--
Whether a run does not cover what another one maps to: it lies elsewhere, or it covers every second code
point and those of the other one lie between them.
-/
def leavesOut (q r : CaseRun) : Bool :=
  Nat.blt (r.image r.last) q.first || Nat.blt q.last (r.image r.first)
    || (q.stride == 2 && (r.image r.first - q.first) % 2 == 1 && (r.stride == 2 || r.first == r.last))

theorem not_covers_image {r q : CaseRun} (hout : q.leavesOut r = true) {n : Nat}
    (h : r.covers n = true) : q.covers (r.image n) = false := by
  obtain ⟨hfirst, hlast, hstep⟩ := covers_iff.1 h
  refine Bool.eq_false_iff.2 fun himage => ?_
  obtain ⟨hqfirst, hqlast, hqstep⟩ := covers_iff.1 himage
  simp only [leavesOut, Bool.or_eq_true, Bool.and_eq_true, Nat.blt_eq, beq_iff_eq] at hout
  simp only [image] at hout hqfirst hqlast hqstep
  rcases hout with (hbelow | habove) | ⟨⟨hstride, hodd⟩, hsteps | hsingle⟩
  · omega
  · omega
  · rw [hstride] at hqstep
    rw [hsteps] at hstep
    omega
  · rw [hstride] at hqstep
    omega

end CaseRun

theorem lowercaseRuns_leaveOut :
    (lowercaseRuns.all fun r => lowercaseRuns.all fun q => q.leavesOut r) = true := by
  decide +kernel

theorem lowercaseCode_cases (n : Nat) :
    lowercaseCode n = n ∨ ∃ r ∈ lowercaseRuns, r.covers n = true ∧ lowercaseCode n = r.image n := by
  unfold lowercaseCode
  split
  · split
    · next hcapital =>
      -- the first run is that of the capitals
      simp only [Bool.and_eq_true, decide_eq_true_eq] at hcapital
      refine .inr ⟨⟨0x41, 0x5A, 1, 32⟩, List.mem_cons_self, ?_, rfl⟩
      exact CaseRun.covers_iff.2 ⟨hcapital.1, hcapital.2, Nat.mod_one _⟩
    · exact .inl rfl
  · cases hrun : lowercaseRuns.find? (·.covers n) with
    | none => exact .inl rfl
    | some r =>
      have hcovers := List.find?_some hrun
      exact .inr ⟨r, List.mem_of_find?_eq_some hrun, hcovers, rfl⟩

theorem lowercaseCode_of_not_covers {n : Nat} (h : ∀ r ∈ lowercaseRuns, r.covers n = false) :
    lowercaseCode n = n := by
  obtain hself | ⟨r, hr, hcovers, -⟩ := lowercaseCode_cases n
  · exact hself
  · rw [h r hr] at hcovers
    cases hcovers

theorem lowercaseCode_lowercaseCode (n : Nat) : lowercaseCode (lowercaseCode n) = lowercaseCode n := by
  obtain hself | ⟨r, hr, hcovers, himage⟩ := lowercaseCode_cases n
  · rw [hself, hself]
  · rw [himage]
    refine lowercaseCode_of_not_covers fun q hq => CaseRun.not_covers_image ?_ hcovers
    exact List.all_eq_true.1 (List.all_eq_true.1 lowercaseRuns_leaveOut r hr) q hq

theorem lowercaseCode_of_isUnmapped {n : Nat} (h : IsUnmapped (lowercaseCode n)) :
    lowercaseCode n = n := by
  obtain hself | ⟨r, hr, hcovers, himage⟩ := lowercaseCode_cases n
  · exact hself
  · have hpositive : ∀ u ∈ unmappedRanges, 0 < u.1 := by decide
    obtain ⟨u, hu, hfirst, hlast⟩ := h
    have hpos := hpositive u hu
    have hrange := lowercaseRuns_unmapped r hr u hu
    obtain ⟨hrfirst, hrlast, -⟩ := CaseRun.covers_iff.1 hcovers
    simp only [himage, CaseRun.image] at hfirst hlast
    omega

/-! ### Single characters -/

theorem toNat_lowercaseChar (c : Char) :
    (lowercaseChar c).toNat = lowercaseCode c.toNat ∨ lowercaseChar c = '\x00' := by
  unfold lowercaseChar Char.ofNat
  by_cases hvalid : (lowercaseCode c.toNat).isValidChar
  · rw [dif_pos hvalid]
    exact .inl rfl
  · rw [dif_neg hvalid]
    exact .inr rfl

theorem lowercaseChar_lowercaseChar (c : Char) : lowercaseChar (lowercaseChar c) = lowercaseChar c := by
  obtain hcode | hnull := toNat_lowercaseChar c
  · rw [lowercaseChar, hcode, lowercaseCode_lowercaseCode]
    rfl
  · rw [hnull]
    decide

theorem lowercaseChar_of_isUnmapped {c : Char} (h : IsUnmapped (lowercaseChar c).toNat) :
    lowercaseChar c = c := by
  obtain hcode | hnull := toNat_lowercaseChar c
  · rw [hcode] at h
    rw [lowercaseChar, lowercaseCode_of_isUnmapped h, Char.ofNat_toNat]
  · -- a number that is no code point stands for the null character, which is in none of the ranges
    rw [hnull] at h
    exact absurd h (by decide)

end Unicode

/-! ### Texts in lowercase -/

namespace Text

open Unicode

/--
A character that the lowercase mapping leaves as it is, wherever it stands.
-/
def IsLowercase (c : Char) : Prop :=
  ∀ before after, lowercaseAt before c after = [c]

theorem isLowercase_of_self {c : Char} (hsigma : c ≠ 'Σ') (hdotted : c ≠ 'İ')
    (h : lowercaseChar c = c) : IsLowercase c := by
  intro before after
  unfold lowercaseAt
  rw [if_neg hsigma, if_neg hdotted, h]

theorem isLowercase_of_ascii {c : Char} (hascii : c.toNat < 0x80)
    (hcapital : ¬ (0x41 ≤ c.toNat ∧ c.toNat ≤ 0x5A)) : IsLowercase c := by
  have hcode : lowercaseCode c.toNat = c.toNat := by
    unfold lowercaseCode
    rw [if_pos hascii, if_neg (by simpa using hcapital)]
  refine isLowercase_of_self ?_ ?_ ?_
  · rintro rfl
    exact absurd hascii (by decide)
  · rintro rfl
    exact absurd hascii (by decide)
  · rw [lowercaseChar, hcode, Char.ofNat_toNat]

theorem IsLowercase.toLower {c : Char} (h : IsLowercase c) : c.toLower = c := by
  have hcapitals : ∀ n ∈ List.range' 0x41 26, lowercaseAt [] (Char.ofNat n) [] ≠ [Char.ofNat n] := by
    decide +kernel
  unfold Char.toLower
  refine dif_neg fun hcapital => ?_
  have hrange : 0x41 ≤ c.toNat ∧ c.toNat ≤ 0x5A := hcapital
  refine hcapitals c.toNat (List.mem_range'_1.2 (by omega)) ?_
  rw [Char.ofNat_toNat]
  exact h [] []

theorem mem_lowercaseAt_cases {before after : List Char} {c d : Char}
    (h : d ∈ lowercaseAt before c after) :
    d ∈ ['σ', 'ς', 'i', '\u0307'] ∨ (c ≠ 'İ' ∧ d = lowercaseChar c) := by
  unfold lowercaseAt at h
  split at h
  · left
    split at h
    · cases List.mem_singleton.1 h
      decide
    · cases List.mem_singleton.1 h
      decide
  · split at h
    · exact .inl (List.mem_cons_of_mem _ (List.mem_cons_of_mem _ h))
    · next hdotted => exact .inr ⟨hdotted, List.mem_singleton.1 h⟩

theorem isLowercase_of_mem_lowercaseAt {before after : List Char} {c d : Char}
    (h : d ∈ lowercaseAt before c after) : IsLowercase d := by
  obtain hspecial | ⟨hdotted, rfl⟩ := mem_lowercaseAt_cases h
  · simp only [List.mem_cons, List.not_mem_nil, or_false] at hspecial
    rcases hspecial with rfl | rfl | rfl | rfl
    · exact isLowercase_of_self (by decide) (by decide) (by decide +kernel)
    · exact isLowercase_of_self (by decide) (by decide) (by decide +kernel)
    · exact isLowercase_of_self (by decide) (by decide) (by decide +kernel)
    · exact isLowercase_of_self (by decide) (by decide) (by decide +kernel)
  · have hself := lowercaseChar_lowercaseChar c
    refine isLowercase_of_self (fun hsigma => ?_) (fun hd => hdotted ?_) hself
    · rw [hsigma] at hself
      exact absurd hself (by decide +kernel)
    · -- the table has no entry for the dotted capital I, but nothing else is mapped to it
      rw [← lowercaseChar_of_isUnmapped (c := c) (by rw [hd]; decide), hd]

theorem eq_of_mem_lowercaseAt {before after : List Char} {c d : Char}
    (hd : d ∈ lowercaseAt before c after) (h : IsUnmapped d.toNat) : d = c := by
  obtain hspecial | ⟨-, rfl⟩ := mem_lowercaseAt_cases hd
  · simp only [List.mem_cons, List.not_mem_nil, or_false] at hspecial
    rcases hspecial with rfl | rfl | rfl | rfl
    · exact absurd h (by decide)
    · exact absurd h (by decide)
    · exact absurd h (by decide)
    · exact absurd h (by decide)
  · exact lowercaseChar_of_isUnmapped h

theorem mem_lowercaseChars {cs : List Char} {d : Char} (h : d ∈ lowercaseChars cs) :
    ∃ before c after, c ∈ cs ∧ d ∈ lowercaseAt before c after := by
  have hgo (before cs : List Char) (h : d ∈ lowercaseChars.go before cs) :
      ∃ before c after, c ∈ cs ∧ d ∈ lowercaseAt before c after := by
    induction cs generalizing before with
    | nil => cases h
    | cons c cs ih =>
      rcases List.mem_append.1 h with h | h
      · exact ⟨before, c, cs, List.mem_cons_self, h⟩
      · obtain ⟨before, b, after, hb, hd⟩ := ih _ h
        exact ⟨before, b, after, List.mem_cons_of_mem c hb, hd⟩
  exact hgo [] cs h

theorem isLowercase_of_mem_lowercaseChars {cs : List Char} {d : Char} (h : d ∈ lowercaseChars cs) :
    IsLowercase d := by
  obtain ⟨before, c, after, -, hd⟩ := mem_lowercaseChars h
  exact isLowercase_of_mem_lowercaseAt hd

theorem lowercaseChars_of_forall {cs : List Char} (h : ∀ c ∈ cs, IsLowercase c) :
    lowercaseChars cs = cs := by
  have hgo (before cs : List Char) (h : ∀ c ∈ cs, IsLowercase c) :
      lowercaseChars.go before cs = cs := by
    induction cs generalizing before with
    | nil => rfl
    | cons c cs ih =>
      rw [lowercaseChars.go, h c List.mem_cons_self, ih _ fun d hd => h d (List.mem_cons_of_mem c hd)]
      rfl
  exact hgo [] cs h

theorem lowercaseAt_ne_nil (before : List Char) (c : Char) (after : List Char) :
    lowercaseAt before c after ≠ [] := by
  unfold lowercaseAt
  split
  · exact List.cons_ne_nil _ _
  · split
    · exact List.cons_ne_nil _ _
    · exact List.cons_ne_nil _ _

theorem isWhiteSpace_of_head?_lowercaseChars {cs : List Char} {d : Char}
    (h : d ∈ (lowercaseChars (trimChars cs)).head?) : isWhiteSpace d = false := by
  cases htrim : trimChars cs with
  | nil =>
    rw [htrim] at h
    cases h
  | cons c rest =>
    rw [htrim, lowercaseChars, lowercaseChars.go,
      List.head?_append_of_ne_nil _ (lowercaseAt_ne_nil _ c rest)] at h
    refine Bool.eq_false_iff.2 fun hspace => ?_
    have hself := eq_of_mem_lowercaseAt (List.mem_of_mem_head? h) (isUnmapped_of_isWhiteSpace hspace)
    rw [hself, isWhiteSpace_of_trimChars htrim] at hspace
    cases hspace

theorem exists_getLast?_of_lowercaseChars {cs : List Char} {d : Char}
    (h : d ∈ (lowercaseChars cs).getLast?) :
    ∃ before, ∃ c ∈ cs.getLast?, d ∈ lowercaseAt before c [] := by
  have hgo (before cs : List Char) (h : d ∈ (lowercaseChars.go before cs).getLast?) :
      ∃ before, ∃ c ∈ cs.getLast?, d ∈ lowercaseAt before c [] := by
    induction cs generalizing before with
    | nil => cases h
    | cons c cs ih =>
      rw [lowercaseChars.go] at h
      cases cs with
      | nil =>
        rw [lowercaseChars.go, List.append_nil] at h
        exact ⟨before, c, rfl, List.mem_of_getLast? h⟩
      | cons b cs =>
        have hne : lowercaseChars.go (c :: before) (b :: cs) ≠ [] :=
          List.append_ne_nil_of_left_ne_nil (lowercaseAt_ne_nil _ b cs) _
        rw [List.getLast?_append_of_ne_nil _ hne] at h
        rw [List.getLast?_cons_cons]
        exact ih _ h
  exact hgo [] cs h

theorem EndsInWord.lowercaseChars {cs : List Char} (h : EndsInWord cs) :
    EndsInWord (lowercaseChars cs) := by
  intro d hd
  refine Bool.eq_false_iff.2 fun hspace => ?_
  obtain ⟨before, c, hc, hd⟩ := exists_getLast?_of_lowercaseChars hd
  rw [eq_of_mem_lowercaseAt hd (isUnmapped_of_isWhiteSpace hspace), h c hc] at hspace
  cases hspace

end Text

end Embargo
