import Embargo.Proofs.Item.Entries
import Embargo.Proofs.Name.Canonical

/-!
This module contains the proof that a name of a custom item stays one that can be written as a token:
no reserved character is the lowercase form of another character.
-/

namespace Embargo

theorem isUnmapped_of_isReserved {c : Char} (h : isReserved c = true) : Unicode.IsUnmapped c.toNat := by
  simp only [isReserved, Bool.or_eq_true, beq_iff_eq] at h
  rcases h with (((rfl | rfl) | rfl) | rfl) | hspace
  · decide
  · decide
  · decide
  · decide
  · exact Unicode.isUnmapped_of_isWhiteSpace hspace

theorem exists_reserved_of_canonicalName {raw : String} {d : Char} (hd : d ∈ (canonicalName raw).toList)
    (h : isReserved d = true) : ∃ c ∈ (Text.trim raw).toList, isReserved c = true := by
  obtain rfl | ⟨hlower, -⟩ := mem_canonicalName hd
  · exact absurd h (by decide)
  · obtain ⟨before, c, after, hc, hfrom⟩ := Text.mem_lowercaseChars hlower
    have hself := Text.eq_of_mem_lowercaseAt hfrom (isUnmapped_of_isReserved h)
    rw [Text.toList_trim]
    exact ⟨c, hc, hself ▸ h⟩

theorem notMem_of_trim_not_reserved {s : String} (h : ∀ c ∈ (Text.trim s).toList, isReserved c = false)
    {c : Char} (hreserved : isReserved c = true) (hspace : Text.isWhiteSpace c = false) :
    c ∉ s.toList := by
  intro hc
  have htrim : c ∈ (Text.trim s).toList := by
    rw [Text.toList_trim]
    exact Text.mem_trimChars hc hspace
  rw [h c htrim] at hreserved
  cases hreserved

theorem trim_of_not_reserved {name : String} (h : ∀ c ∈ name.toList, isReserved c = false) :
    Text.trim name = name := by
  have hspace : ∀ c ∈ name.toList, Text.isWhiteSpace c = false := by
    intro c hc
    have hreserved := h c hc
    unfold isReserved at hreserved
    exact (Bool.or_eq_false_iff.1 hreserved).2
  unfold Text.trim
  rw [Text.trimChars_of_forall hspace, String.ofList_toList]

theorem isReserved_of_validateName {raw name : String} (h : validateName raw = .ok name) :
    (∀ c ∈ (Text.trim raw).toList, isReserved c = false)
      ∧ ∀ c ∈ name.toList, isReserved c = false := by
  obtain ⟨-, hraw, rfl⟩ := validateName_eq_ok_iff.1 h
  refine ⟨hraw, ?_⟩
  intro d hd
  refine Bool.eq_false_iff.2 fun hreserved => ?_
  obtain ⟨c, hc, hreserved⟩ := exists_reserved_of_canonicalName hd hreserved
  rw [hraw c hc] at hreserved
  cases hreserved

theorem validateName_of_canonical {raw name : String} (h : validateName raw = .ok name)
    (hname : name ≠ "") (hcanonical : canonicalName name = name) : validateName name = .ok name := by
  have hallowed := (isReserved_of_validateName h).2
  rw [validateName_eq_ok_iff, trim_of_not_reserved hallowed]
  exact ⟨hname, hallowed, hcanonical.symm⟩

theorem canonicalName_eq_self_iff_of_validateName {raw name : String} (h : validateName raw = .ok name) :
    canonicalName name = name ↔ ¬ stockNamespace <+: name.toList := by
  have htrim : Text.trimChars name.toList = name.toList := by
    rw [← Text.toList_trim, trim_of_not_reserved (isReserved_of_validateName h).2]
  obtain rfl := validateName_eq_ok h
  rw [canonicalName_eq_self_iff fun _ => isNameChar_of_mem_canonicalName, and_iff_right htrim]

end Embargo
