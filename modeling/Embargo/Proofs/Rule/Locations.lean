import Embargo.Proofs.Item.Entries
import Embargo.Proofs.Rule.Compilation

namespace Embargo

open Load (reports_foldlM reports_pure)
open Yaml (Value)

namespace RuleSource

variable (source : RuleSource) (roster : Roster) (aliases : Aliases) (legacy : Bool) (engine : Engine)

def sections : List (String × Section) :=
  [("blacklist", source.blacklist), ("whitelist", source.whitelist), ("custom-items", source.customItems)]

/--
A path goes into a section, on to one of its entries and then through text keys of the mappings there.
-/
def Contains (place : Path) : Prop :=
  ∃ s ∈ source.sections, ∃ e ∈ s.2.entries, ∃ keys, e.2.Leads keys ∧
    place.segments = s.1 :: e.1 :: keys

variable {source} in
theorem contains_of_places {name : String} {s : Section} {place : Path}
    (hs : (name, s) ∈ source.sections) (h : s.Places (Path.root.push name) place) :
    source.Contains place := by
  obtain ⟨e, he, keys, hleads, hplace⟩ := h
  exact ⟨(name, s), hs, e, he, keys, hleads, hplace⟩

theorem reports_catalogue (scope : Scope) :
    (source.catalogue scope).Reports
      (source.customItems.Places (Path.root.push "custom-items")) := by
  unfold catalogue
  rw [Catalogue.read_eq]
  apply reports_foldlM
  intro c e he
  have hentry := Catalogue.reports_readEntry scope (Path.root.push "custom-items") e.1 e.2
  exact (hentry.mono fun place hplace => ⟨e, he, hplace⟩).bind fun item => reports_pure _

/--
Every problem points to a place that the configuration has.
-/
theorem contains_of_mem_problems {e : LoadError}
    (he : e ∈ (source.compile roster aliases legacy engine).problems) : source.Contains e.path := by
  rw [problems_compile, List.mem_append] at he
  rcases he with hitems | hrules
  · exact contains_of_places (by simp [sections])
      ((source.reports_catalogue { roster, aliases, legacy, engine }).places e hitems)
  · rcases (source.reports_rules (source.scope roster aliases legacy engine)).places e hrules with
      hblacklist | hwhitelist
    · exact contains_of_places (by simp [sections]) hblacklist
    · exact contains_of_places (by simp [sections]) hwhitelist

theorem contains_of_mem_problems_cooldown :
    let roster := (Roster.stock.add .world ["town"]).add .material ["stone"]
    let options : Value := .mapping [(.text "log", .bool true), (.text "cooldown", .text "soon")]
    let source : RuleSource :=
      { blacklist := .ofList [("town", .mapping [(.text "stone", .mapping [(.text "place", options)])])]
        customItems := .ofList
          [("relic", .mapping [(.text "material", .text "stone"), (.text "glow", .null)])] }
    let e : LoadError :=
      ⟨⟨["blacklist", "town", "stone", "place", "cooldown"]⟩, .invalidValue "cooldown" "soon"⟩
    e ∈ (source.compile roster ∅ false).problems ∧ source.Contains e.path
      ∧ (source.compile roster ∅ false).problems.length = 2 := by
  intro roster options source e
  have he : e ∈ (source.compile roster ∅ false).problems := by decide +kernel
  exact ⟨he, source.contains_of_mem_problems roster ∅ false _ he, by decide +kernel⟩

end RuleSource

end Embargo
