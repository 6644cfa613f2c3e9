import Embargo.Problem

/-!
This module contains the theory of computations that only add to the trail: neither their answer nor
what they add depends on the problems that are there already.
-/

namespace Embargo

namespace Load

variable {α β : Type}

def value (x : Load α) : α :=
  x.start.1

def problems (x : Load α) : Trail :=
  x.start.2

/--
Whatever the trail is, the answer is the same and the same problems come behind it.
-/
def Additive (x : Load α) : Prop :=
  ∀ trail, x.run trail = (x.value, trail ++ x.problems)

theorem run_bind (x : Load α) (f : α → Load β) (trail : Trail) :
    (x >>= f).run trail = (f (x.run trail).1).run (x.run trail).2 := rfl

theorem start_bind (x : Load α) (f : α → Load β) :
    (x >>= f).start = (f x.value).run x.problems := rfl

@[simp]
theorem value_pure (a : α) : (pure a : Load α).value = a := rfl

@[simp]
theorem problems_pure (a : α) : (pure a : Load α).problems = [] := rfl

@[simp]
theorem problems_report (path : Path) (problem : Problem) :
    (report path problem).problems = [⟨path, problem⟩] := rfl

theorem value_bind {x : Load α} {f : α → Load β} (hf : ∀ a, (f a).Additive) :
    (x >>= f).value = (f x.value).value := by
  unfold value
  rw [start_bind, hf]
  rfl

theorem problems_bind {x : Load α} {f : α → Load β} (hf : ∀ a, (f a).Additive) :
    (x >>= f).problems = x.problems ++ (f x.value).problems := by
  unfold problems
  rw [start_bind, hf]
  rfl

theorem value_bind_pure (x : Load α) (f : α → β) : (x >>= fun a => pure (f a)).value = f x.value := rfl

theorem problems_bind_pure (x : Load α) (f : α → β) :
    (x >>= fun a => pure (f a)).problems = x.problems := rfl

theorem additive_pure (a : α) : (pure a : Load α).Additive := by
  intro trail
  rw [problems_pure, List.append_nil]
  rfl

theorem additive_report (path : Path) (problem : Problem) : (report path problem).Additive := by
  intro trail
  rfl

theorem Additive.bind {x : Load α} {f : α → Load β} (hx : x.Additive) (hf : ∀ a, (f a).Additive) :
    (x >>= f).Additive := by
  intro trail
  rw [run_bind, hx trail, hf, value_bind hf, problems_bind hf, List.append_assoc]

theorem run_watch (x : Load α) (trail : Trail) :
    (watch x).run trail =
      (((x.run trail).1, decide (trail.length < (x.run trail).2.length)), (x.run trail).2) := rfl

@[simp]
theorem value_watch (x : Load α) : (watch x).value = (x.value, !x.problems.isEmpty) := by
  have hlength : decide (0 < x.problems.length) = !x.problems.isEmpty := by
    cases x.problems <;> rfl
  rw [← hlength]
  rfl

@[simp]
theorem problems_watch (x : Load α) : (watch x).problems = x.problems := rfl

theorem Additive.watch {x : Load α} (hx : x.Additive) : (watch x).Additive := by
  intro trail
  have hlonger : decide (trail.length < (trail ++ x.problems).length) = !x.problems.isEmpty := by
    cases x.problems <;> simp
  rw [run_watch, hx trail, hlonger, value_watch, problems_watch]

theorem additive_foldlM {f : β → α → Load β} (hf : ∀ b a, (f b a).Additive) (b : β) (as : List α) :
    (as.foldlM f b).Additive := by
  induction as generalizing b with
  | nil => exact additive_pure b
  | cons a as ih =>
    rw [List.foldlM_cons]
    exact (hf b a).bind fun b' => ih b'

theorem value_foldlM {f : β → α → Load β} (hf : ∀ b a, (f b a).Additive) (b : β) (as : List α) :
    (as.foldlM f b).value = as.foldl (fun b a => (f b a).value) b := by
  induction as generalizing b with
  | nil => rfl
  | cons a as ih =>
    rw [List.foldlM_cons, value_bind fun b' => additive_foldlM hf b' as, ih]
    rfl

theorem problems_foldlM {f : β → α → Load β} {g : α → Trail} (hf : ∀ b a, (f b a).Additive)
    (hg : ∀ b a, (f b a).problems = g a) (b : β) (as : List α) :
    (as.foldlM f b).problems = as.flatMap g := by
  induction as generalizing b with
  | nil => rfl
  | cons a as ih =>
    rw [List.foldlM_cons, problems_bind fun b' => additive_foldlM hf b' as, ih, hg, List.flatMap_cons]

theorem additive_mapM {f : α → Load β} (hf : ∀ a, (f a).Additive) (as : List α) :
    (as.mapM f).Additive := by
  induction as with
  | nil => exact additive_pure []
  | cons a as ih =>
    rw [List.mapM_cons]
    exact (hf a).bind fun b => ih.bind fun bs => additive_pure (b :: bs)

theorem value_mapM {f : α → Load β} (hf : ∀ a, (f a).Additive) (as : List α) :
    (as.mapM f).value = as.map fun a => (f a).value := by
  induction as with
  | nil => rfl
  | cons a as ih =>
    have hrest (b : β) : (as.mapM f >>= fun bs => pure (b :: bs)).Additive :=
      (additive_mapM hf as).bind fun bs => additive_pure (b :: bs)
    rw [List.mapM_cons, value_bind hrest, value_bind_pure, ih]
    rfl

theorem problems_mapM {f : α → Load β} (hf : ∀ a, (f a).Additive) (as : List α) :
    (as.mapM f).problems = as.flatMap fun a => (f a).problems := by
  induction as with
  | nil => rfl
  | cons a as ih =>
    have hrest (b : β) : (as.mapM f >>= fun bs => pure (b :: bs)).Additive :=
      (additive_mapM hf as).bind fun bs => additive_pure (b :: bs)
    rw [List.mapM_cons, problems_bind hrest, problems_bind_pure, ih, List.flatMap_cons]

end Load

end Embargo
