import Embargo.Item.Catalogue
import Embargo.Proofs.Name.Characters

/-!
This module contains what is known of a name that is in canonical form, and for which texts the canonical
form is such a name: each step to it is taken once, so what the later ones bring to the front stays.
-/

namespace Embargo

theorem dropNamespace_suffix (cs : List Char) : dropNamespace cs <:+ cs := by
  unfold dropNamespace
  split
  · exact List.drop_suffix _ _
  · exact List.suffix_rfl

theorem dropNamespace_append (cs : List Char) : dropNamespace (stockNamespace ++ cs) = cs := by
  unfold dropNamespace
  rw [if_pos (List.isPrefixOf_iff_prefix.2 (List.prefix_append _ _)), List.drop_left]

theorem dropNamespace_eq_self_iff {cs : List Char} :
    dropNamespace cs = cs ↔ ¬ stockNamespace <+: cs := by
  constructor
  · rintro hself ⟨rest, rfl⟩
    have hlength := congrArg List.length hself
    have hpositive : 0 < stockNamespace.length := by decide
    rw [dropNamespace_append, List.length_append] at hlength
    omega
  · intro hstock
    unfold dropNamespace
    rw [if_neg (mt List.isPrefixOf_iff_prefix.1 hstock)]

theorem joinWords_append (cs ds : List Char) : joinWords (cs ++ ds) = joinWords cs ++ joinWords ds :=
  List.map_append

theorem joinWords_of_notMem {cs : List Char} (h : ' ' ∉ cs) : joinWords cs = cs := by
  refine (List.map_congr_left fun c hc => if_neg ?_).trans (List.map_id _)
  rintro rfl
  exact h hc

theorem mem_joinWords {cs : List Char} {c : Char} (h : c ∈ joinWords cs) :
    c = '_' ∨ (c ∈ cs ∧ c ≠ ' ') := by
  obtain ⟨d, hd, rfl⟩ := List.mem_map.1 h
  split
  · exact .inl rfl
  · next hspace => exact .inr ⟨hd, hspace⟩

theorem stockNamespace_prefix_joinWords {cs : List Char} :
    stockNamespace <+: joinWords cs ↔ stockNamespace <+: cs := by
  constructor
  · intro h
    obtain ⟨front, hfront, hstock⟩ := List.prefix_map_iff.1 h
    -- the namespace has no underscore that was a space
    have hspace : ' ' ∉ front := by
      intro hmem
      have hjoined : '_' ∈ stockNamespace := by
        rw [hstock]
        exact List.mem_map.2 ⟨' ', hmem, rfl⟩
      exact absurd hjoined (by decide)
    rwa [hstock, ← joinWords, joinWords_of_notMem hspace]
  · rintro ⟨rest, rfl⟩
    rw [joinWords_append, joinWords_of_notMem (by decide)]
    exact List.prefix_append _ _

theorem exists_head?_joinWords {cs : List Char} :
    (∃ c ∈ (joinWords cs).head?, Text.isWhiteSpace c = true) ↔
      ∃ c ∈ cs.head?, Text.isWhiteSpace c = true ∧ c ≠ ' ' := by
  unfold joinWords
  rw [List.head?_map]
  constructor
  · rintro ⟨c, hc, hwhite⟩
    obtain ⟨d, hd, rfl⟩ := Option.map_eq_some_iff.1 hc
    split at hwhite
    · exact absurd hwhite (by decide)
    · next hspace => exact ⟨d, hd, hwhite, hspace⟩
  · rintro ⟨d, hd, hwhite, hspace⟩
    exact ⟨d, Option.map_eq_some_iff.2 ⟨d, hd, if_neg hspace⟩, hwhite⟩

theorem Text.EndsInWord.joinWords {cs : List Char} (h : EndsInWord cs) : EndsInWord (joinWords cs) := by
  intro c hc
  rw [Embargo.joinWords, List.getLast?_map] at hc
  obtain ⟨d, hd, rfl⟩ := Option.map_eq_some_iff.1 hc
  split
  · decide
  · exact h d hd

open Text (IsLowercase EndsInWord)

theorem mem_canonicalName {raw : String} {c : Char} (h : c ∈ (canonicalName raw).toList) :
    c = '_' ∨ (c ∈ Text.lowercaseChars (Text.trimChars raw.toList) ∧ c ≠ ' ') := by
  rw [toList_canonicalName] at h
  obtain rfl | ⟨hc, hspace⟩ := mem_joinWords h
  · exact .inl rfl
  · exact .inr ⟨(dropNamespace_suffix _).subset hc, hspace⟩

def IsNameChar (c : Char) : Prop :=
  IsLowercase c ∧ c ≠ ' '

theorem isNameChar_of_mem_canonicalName {raw : String} {c : Char}
    (h : c ∈ (canonicalName raw).toList) : IsNameChar c := by
  obtain rfl | ⟨hc, hspace⟩ := mem_canonicalName h
  · exact ⟨Text.isLowercase_of_ascii (by decide) (by decide), by decide⟩
  · exact ⟨Text.isLowercase_of_mem_lowercaseChars hc, hspace⟩

theorem endsInWord_canonicalName (raw : String) : EndsInWord (canonicalName raw).toList := by
  rw [toList_canonicalName]
  have hlower := (Text.endsInWord_trimChars raw.toList).lowercaseChars
  exact (hlower.of_suffix (dropNamespace_suffix _)).joinWords

section IsNameChar

variable {name : String} (h : ∀ c ∈ name.toList, IsNameChar c)
include h

theorem toList_canonicalName_of_isNameChar :
    (canonicalName name).toList = dropNamespace (Text.trimChars name.toList) := by
  have htrim (c : Char) (hc : c ∈ Text.trimChars name.toList) : IsNameChar c :=
    h c ((Text.trimChars_sublist _).subset hc)
  have hspace : ' ' ∉ dropNamespace (Text.trimChars name.toList) := fun hmem =>
    (htrim ' ' ((dropNamespace_suffix _).subset hmem)).2 rfl
  rw [toList_canonicalName, Text.lowercaseChars_of_forall fun c hc => (htrim c hc).1,
    joinWords_of_notMem hspace]

theorem length_canonicalName_le : (canonicalName name).toList.length ≤ name.toList.length := by
  rw [toList_canonicalName_of_isNameChar h]
  exact (dropNamespace_suffix _).length_le.trans (Text.trimChars_sublist _).length_le

theorem canonicalName_eq_self_iff :
    canonicalName name = name ↔
      Text.trimChars name.toList = name.toList ∧ ¬ stockNamespace <+: name.toList := by
  rw [← String.toList_inj, toList_canonicalName_of_isNameChar h]
  constructor
  · intro hself
    have hlength := (dropNamespace_suffix (Text.trimChars name.toList)).length_le
    rw [hself] at hlength
    have htrim := (Text.trimChars_sublist name.toList).eq_of_length_le hlength
    rw [htrim] at hself
    exact ⟨htrim, dropNamespace_eq_self_iff.1 hself⟩
  · rintro ⟨htrim, hstock⟩
    rw [htrim, dropNamespace_eq_self_iff.2 hstock]

end IsNameChar

section Canonical

variable {name : String} (h : canonicalName name = name)
include h

theorem isNameChar_of_canonical {c : Char} (hc : c ∈ name.toList) : IsNameChar c := by
  rw [← h] at hc
  exact isNameChar_of_mem_canonicalName hc

theorem trim_of_canonical : Text.trim name = name := by
  have htrim := ((canonicalName_eq_self_iff fun _ => isNameChar_of_canonical h).1 h).1
  rw [← String.toList_inj, Text.toList_trim, htrim]

theorem not_stockNamespace_of_canonical {front back : List Char}
    (hsplit : name.toList = front ++ ':' :: back) :
    Text.equalIgnoringAsciiCase (String.ofList front) "minecraft" = false := by
  refine Bool.eq_false_iff.2 fun hsame => ?_
  have hlower : front.map Char.toLower = front := by
    conv_rhs => rw [← List.map_id front]
    refine List.map_congr_left fun c hc => (isNameChar_of_canonical h ?_).1.toLower
    rw [hsplit]
    exact List.mem_append_left _ hc
  have hfront : front = "minecraft".toList := by
    unfold Text.equalIgnoringAsciiCase at hsame
    rw [beq_iff_eq, String.toList_ofList, hlower] at hsame
    exact hsame
  refine ((canonicalName_eq_self_iff fun _ => isNameChar_of_canonical h).1 h).2 ⟨back, ?_⟩
  rw [hsplit, hfront]
  rfl

end Canonical

/--
Behind its stock namespace, a text begins with something else that the canonical form drops from the
front: the namespace once more, or white space other than a space, which becomes an underscore.
-/
def HidesPrefix (raw : String) : Prop :=
  ∃ rest, Text.lowercaseChars (Text.trimChars raw.toList) = stockNamespace ++ rest
    ∧ (stockNamespace <+: rest ∨ ∃ c ∈ rest.head?, Text.isWhiteSpace c = true ∧ c ≠ ' ')

theorem hidesPrefix_iff {raw : String} :
    HidesPrefix raw ↔
      stockNamespace <+: (canonicalName raw).toList
        ∨ ∃ c ∈ (canonicalName raw).toList.head?, Text.isWhiteSpace c = true := by
  rw [toList_canonicalName, exists_head?_joinWords, stockNamespace_prefix_joinWords]
  by_cases hstock : stockNamespace <+: Text.lowercaseChars (Text.trimChars raw.toList)
  · obtain ⟨rest, hrest⟩ := hstock
    rw [← hrest, dropNamespace_append]
    constructor
    · rintro ⟨other, hother, h⟩
      rwa [List.append_cancel_left (hrest.trans hother)]
    · exact fun h => ⟨rest, hrest.symm, h⟩
  · rw [dropNamespace_eq_self_iff.2 hstock]
    constructor
    · rintro ⟨rest, hrest, -⟩
      exact absurd ⟨rest, hrest.symm⟩ hstock
    · rintro (h | ⟨c, hc, hwhite, -⟩)
      · exact absurd h hstock
      · rw [Text.isWhiteSpace_of_head?_lowercaseChars hc] at hwhite
        cases hwhite

theorem trimChars_canonicalName_eq_self_iff {raw : String} :
    Text.trimChars (canonicalName raw).toList = (canonicalName raw).toList ↔
      ¬ ∃ c ∈ (canonicalName raw).toList.head?, Text.isWhiteSpace c = true := by
  rw [(endsInWord_canonicalName raw).trimChars_eq, List.dropWhile_eq_self_iff]
  cases (canonicalName raw).toList with
  | nil => simp
  | cons c cs => simp

theorem canonicalName_canonicalName_eq_self_iff {raw : String} :
    canonicalName (canonicalName raw) = canonicalName raw ↔ ¬ HidesPrefix raw := by
  rw [canonicalName_eq_self_iff fun _ => isNameChar_of_mem_canonicalName,
    trimChars_canonicalName_eq_self_iff, hidesPrefix_iff, not_or, and_comm]

theorem Catalogue.get?_insert {c : Catalogue} {raw name : String} {i : Identity} :
    (c.insert raw i).get? name =
      if canonicalName raw = canonicalName name then some i
      else (c.forget (canonicalName raw)).get? name := by
  unfold insert register get?
  rw [Table.get?_insert]

/--
The canonical form of a canonical form is what stands behind white space and one more namespace at its
front. It is the same, so that each key is read back from its own name and each custom item is found under
the name that it is stored under, if and only if the text hides no such prefix.
-/
theorem canonicalName_canonicalName (raw : String) :
    (canonicalName (canonicalName raw)).toList =
        dropNamespace ((canonicalName raw).toList.dropWhile Text.isWhiteSpace)
      ∧ (canonicalName (canonicalName raw) = canonicalName raw ↔ ¬ HidesPrefix raw)
      ∧ (∀ r, Key.ofText (Key.ofText raw : Key r).name = (Key.ofText raw : Key r) ↔ ¬ HidesPrefix raw)
      ∧ ∀ i : Identity, (∀ c : Catalogue, (c.insert raw i).get? (canonicalName raw) = some i) ↔
          ¬ HidesPrefix raw := by
  have hself : canonicalName (canonicalName raw) = canonicalName raw ↔ ¬ HidesPrefix raw :=
    canonicalName_canonicalName_eq_self_iff
  refine ⟨?_, hself, fun r => ?_, fun i => ?_⟩
  · rw [toList_canonicalName_of_isNameChar fun _ => isNameChar_of_mem_canonicalName,
      (endsInWord_canonicalName raw).trimChars_eq]
  · rw [← hself]
    exact ⟨congrArg Key.name, Key.ext⟩
  · rw [← hself]
    constructor
    · intro hfound
      by_contra hother
      have hempty := hfound ∅
      rw [Catalogue.get?_insert, if_neg (Ne.symm hother)] at hempty
      cases hempty
    · intro hsame c
      rw [Catalogue.get?_insert, if_pos hsame.symm]

/--
Two namespaces, and a tab behind a namespace.
-/
theorem canonicalName_hidden_prefix :
    canonicalName (canonicalName "minecraft:minecraft:stone") ≠ canonicalName "minecraft:minecraft:stone"
      ∧ canonicalName (canonicalName "minecraft:\tstone") ≠ canonicalName "minecraft:\tstone" := by
  decide +kernel

end Embargo
