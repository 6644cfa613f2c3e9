import Embargo.Proofs.Load.Additive
import Embargo.Yaml.Value

/-!
This module contains the theory of where problems are reported: the places within a value, and
computations that only add to the trail and report at some places only.
-/

namespace Embargo

open Yaml (Value)

inductive Yaml.Value.Leads : Value → List String → Prop
  | here {v : Value} : Leads v []
  | entry {entries : List (Value × Value)} {key : String} {v : Value} {keys : List String}
      (mem : (key, v) ∈ Value.textEntries entries) (rest : Leads v keys) :
      Leads (.mapping entries) (key :: keys)

namespace Path

def Into (path : Path) (v : Value) (place : Path) : Prop :=
  ∃ keys, v.Leads keys ∧ place.segments = path.segments ++ keys

theorem into_self (path : Path) (v : Value) : path.Into v path :=
  ⟨[], .here, (List.append_nil _).symm⟩

theorem into_entry {path place : Path} {entries : List (Value × Value)} {key : String} {v : Value}
    (mem : (key, v) ∈ Value.textEntries entries) (h : (path.push key).Into v place) :
    path.Into (.mapping entries) place := by
  obtain ⟨keys, hleads, hplace⟩ := h
  refine ⟨key :: keys, .entry mem hleads, ?_⟩
  rw [hplace, segments_push, List.append_assoc]
  rfl

end Path

namespace Load

variable {α β : Type} {p q : Path → Prop}

/--
A computation that only adds to the trail, and only problems at places that satisfy `p`.
-/
structure Reports (p : Path → Prop) (x : Load α) : Prop where
  additive : x.Additive
  places : ∀ e ∈ x.problems, p e.path

theorem Reports.mono {x : Load α} (h : x.Reports p) (hpq : ∀ path, p path → q path) :
    x.Reports q where
  additive := h.additive
  places e he := hpq e.path (h.places e he)

theorem reports_pure (a : α) : (pure a : Load α).Reports p where
  additive := additive_pure a
  places e he := by
    rw [problems_pure] at he
    cases he

theorem reports_report {path : Path} (problem : Problem) (h : p path) :
    (report path problem).Reports p where
  additive := additive_report path problem
  places e he := by
    rw [problems_report, List.mem_singleton] at he
    rw [he]
    exact h

theorem Reports.bind_value {x : Load α} {f : α → Load β} (hx : x.Reports p)
    (hf : ∀ a, (f a).Additive) (hvalue : (f x.value).Reports p) : (x >>= f).Reports p where
  additive := hx.additive.bind hf
  places e he := by
    rw [problems_bind hf, List.mem_append] at he
    rcases he with he | he
    · exact hx.places e he
    · exact hvalue.places e he

theorem Reports.bind {x : Load α} {f : α → Load β} (hx : x.Reports p) (hf : ∀ a, (f a).Reports p) :
    (x >>= f).Reports p :=
  hx.bind_value (fun a => (hf a).additive) (hf x.value)

theorem Reports.watch {x : Load α} (hx : x.Reports p) : (watch x).Reports p where
  additive := hx.additive.watch
  places := hx.places

theorem reports_report_then {path : Path} (problem : Problem) (a : α) (h : p path) :
    (report path problem >>= fun _ => (pure a : Load α)).Reports p :=
  (reports_report problem h).bind fun _ => reports_pure a

theorem reports_foldlM {f : β → α → Load β} {as : List α}
    (hf : ∀ b, ∀ a ∈ as, (f b a).Reports p) (b : β) : (as.foldlM f b).Reports p := by
  induction as generalizing b with
  | nil => exact reports_pure b
  | cons a as ih =>
    rw [List.foldlM_cons]
    exact (hf b a List.mem_cons_self).bind fun b' =>
      ih (fun b a ha => hf b a (List.mem_cons_of_mem _ ha)) b'

theorem reports_mapM {f : α → Load β} {as : List α} (hf : ∀ a ∈ as, (f a).Reports p) :
    (as.mapM f).Reports p := by
  induction as with
  | nil => exact reports_pure []
  | cons a as ih =>
    rw [List.mapM_cons]
    have hrest : (as.mapM f).Reports p := ih fun a ha => hf a (List.mem_cons_of_mem _ ha)
    exact (hf a List.mem_cons_self).bind fun b => hrest.bind fun bs => reports_pure (b :: bs)

end Load

end Embargo
