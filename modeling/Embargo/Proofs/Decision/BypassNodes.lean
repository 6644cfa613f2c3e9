import Embargo.Decision.Context
import Embargo.Proofs.Item.Names

/-!
This module contains the theory of what a single permission node lifts. Dots separate the parts of a node,
but a name may contain dots as well, so that one node can be read as the scope of several bans.
-/

namespace Embargo

def IsItemName (name : String) : Prop :=
  ∃ raw canonical, validateName raw = .ok canonical ∧ (name = raw ∨ name = canonical)

theorem IsItemName.star_notMem {name : String} (h : IsItemName name) : '*' ∉ name.toList := by
  obtain ⟨raw, canonical, hvalid, rfl | rfl⟩ := h
  · apply notMem_of_trim_not_reserved (isReserved_of_validateName hvalid).1
    · decide
    · decide
  · intro hstar
    exact absurd ((isReserved_of_validateName hvalid).2 '*' hstar) (by decide)

namespace Action

theorem marks_notMem_name (a : Action) : '.' ∉ a.name.toList ∧ '*' ∉ a.name.toList := by
  cases a <;> decide

theorem name_inj {a b : Action} : a.name = b.name ↔ a = b := by
  have hall : ∀ a ∈ all, ∀ b ∈ all, a.name = b.name → a = b := by decide +kernel
  exact ⟨hall a a.mem_all b b.mem_all, congrArg name⟩

end Action

namespace Bypass

variable {front : String}

def scope (world item : String) : String :=
  world ++ "." ++ item

theorem toList_scope (world item : String) :
    (scope world item).toList = world.toList ++ '.' :: item.toList := by
  simp [scope]

theorem scopeNode_eq (world item : String) :
    scopeNode front world item = front ++ "." ++ scope world item := by
  simp [scopeNode, scope, String.append_assoc]

theorem scope_inj {world world' item item' : String} (h : '.' ∉ item.toList)
    (h' : '.' ∉ item'.toList) :
    scope world item = scope world' item' ↔ world = world' ∧ item = item' := by
  simp only [← String.toList_inj, toList_scope, Text.append_cons_inj h h']

theorem scope_ne_scope_star {world world' item : String} (h : '*' ∉ item.toList) :
    scope world item ≠ scope world' "*" := by
  intro heq
  have hlast : item.toList.getLast?.getD '.' = '*' := by
    have hboth := congrArg (fun s => s.toList.getLast?) heq
    simpa [toList_scope, List.getLast?_append, List.getLast?_cons] using hboth
  cases hitem : item.toList.getLast? with
  | none =>
    rw [hitem] at hlast
    exact absurd hlast (by decide)
  | some c =>
    rw [hitem, Option.getD_some] at hlast
    exact h (hlast ▸ List.mem_of_getLast? hitem)

theorem count_dot_scope (world item : String) :
    (scope world item).toList.count '.' =
      world.toList.count '.' + (item.toList.count '.' + 1) := by
  rw [toList_scope, List.count_append, List.count_cons_self]

theorem scope_inj_of_plain {world world' item item' : String} (h : '.' ∉ world'.toList)
    (h' : '.' ∉ item'.toList) :
    scope world item = scope world' item' ↔ world = world' ∧ item = item' := by
  constructor
  · intro heq
    have hcount := congrArg (fun s => s.toList.count '.') heq
    simp only [count_dot_scope, List.count_eq_zero_of_not_mem h, List.count_eq_zero_of_not_mem h']
      at hcount
    have hitem : '.' ∉ item.toList := List.count_eq_zero.1 (by omega)
    exact (scope_inj hitem h').1 heq
  · rintro ⟨rfl, rfl⟩
    rfl

def actionNode (front world item : String) (a : Action) : String :=
  scopeNode front world item ++ "." ++ a.name

theorem actionNode_eq (world item : String) (a : Action) :
    actionNode front world item a = front ++ "." ++ scope (scope world item) a.name := by
  simp [actionNode, scopeNode, scope, String.append_assoc]

variable {w w' : World} {i i' v x : String} {a a' : Action}

theorem mem_nodes {node : String} :
    node ∈ nodes front w i a ↔ ∃ v ∈ [w.name, "*"], ∃ x ∈ [i, "*"],
      node = actionNode front v x a ∨ node = scopeNode front v x := by
  simp only [nodes, actionNode, List.mem_flatMap, List.mem_cons, List.not_mem_nil, or_false]

theorem holds_sole_iff {actor : Nat} {node : String} :
    holds front ⟨actor, [node]⟩ w i a ↔ node ∈ nodes front w i a := by
  simp [holds, Actor.holdsNode]

theorem actionNode_eq_actionNode_iff :
    actionNode front w.name i a = actionNode front v x a' ↔
      scope w.name i = scope v x ∧ a' = a := by
  rw [actionNode_eq, actionNode_eq, String.append_right_inj,
    scope_inj a.marks_notMem_name.1 a'.marks_notMem_name.1, Action.name_inj, eq_comm (a := a)]

theorem actionNode_eq_scopeNode_iff :
    actionNode front w.name i a = scopeNode front v x ↔
      scope (scope w.name i) a.name = scope v x := by
  rw [actionNode_eq, scopeNode_eq, String.append_right_inj]

theorem actionNode_mem_nodes_iff (hi : IsItemName i) :
    actionNode front w.name i a ∈ nodes front w' i' a' ↔ ∃ v ∈ [w'.name, "*"],
      scope w.name i = scope v i' ∧ a' = a ∨ scope (scope w.name i) a.name = scope v i' := by
  -- neither an item nor an action ends in a star, so that a node for all items is never read into them
  have hitem (v : String) : scope w.name i ≠ scope v "*" := scope_ne_scope_star hi.star_notMem
  have haction (v : String) : scope (scope w.name i) a.name ≠ scope v "*" :=
    scope_ne_scope_star a.marks_notMem_name.2
  rw [mem_nodes]
  refine exists_congr fun v => and_congr_right fun _ => ?_
  simp only [actionNode_eq_actionNode_iff, actionNode_eq_scopeNode_iff, List.mem_cons,
    List.not_mem_nil, or_false, exists_eq_or_imp, exists_eq_left, hitem, haction, false_and]

theorem actionNode_mem_nodes_iff_of_plain (hw : w.name ≠ "*") (hi : IsItemName i)
    (hworld : '.' ∉ w'.name.toList) (hitem : '.' ∉ i'.toList) :
    actionNode front w.name i a ∈ nodes front w' i' a' ↔ w' = w ∧ i' = i ∧ a' = a := by
  rw [actionNode_mem_nodes_iff hi]
  constructor
  · rintro ⟨v, hv, hscope⟩
    rw [List.mem_cons, List.mem_singleton] at hv
    have hplain : '.' ∉ v.toList := by
      rcases hv with rfl | rfl
      · exact hworld
      · decide
    rcases hscope with ⟨hscope, haction⟩ | hscope
    · obtain ⟨rfl, rfl⟩ := (scope_inj_of_plain hplain hitem).1 hscope
      have hsame := hv.resolve_right hw
      exact ⟨(Key.ext hsame).symm, rfl, haction⟩
    · -- the node has a dot more than a scope of plain names
      obtain ⟨rfl, -⟩ := (scope_inj_of_plain hplain hitem).1 hscope
      have hcount := count_dot_scope w.name i
      rw [List.count_eq_zero_of_not_mem hplain] at hcount
      omega
  · rintro ⟨rfl, rfl, rfl⟩
    exact ⟨w'.name, List.mem_cons_self, .inl ⟨rfl, rfl⟩⟩

/--
A node lifts the bans with its own action in the scopes that are written like its own, and the bans with any
action in the scopes that are written like the whole of it. Where no dot is in the names of a ban, only the
node that names just this ban lifts it.
-/
theorem holds_sole_node_iff (front : String) (actor : Nat) {w w' : World} {i i' : String} (a a' : Action)
    (hw : w.name ≠ "*") (hi : IsItemName i) :
    let sole : Actor := ⟨actor, [front ++ "." ++ w.name ++ "." ++ i ++ "." ++ a.name]⟩
    (holds front sole w' i' a' ↔ ∃ v ∈ [w'.name, "*"],
        w.name ++ "." ++ i = v ++ "." ++ i' ∧ a' = a
          ∨ w.name ++ "." ++ i ++ "." ++ a.name = v ++ "." ++ i')
      ∧ ('.' ∉ w'.name.toList → '.' ∉ i'.toList →
          (holds front sole w' i' a' ↔ w' = w ∧ i' = i ∧ a' = a)) := by
  intro sole
  have hholds : holds front sole w' i' a' ↔ actionNode front w.name i a ∈ nodes front w' i' a' :=
    holds_sole_iff
  refine ⟨hholds.trans (actionNode_mem_nodes_iff hi), ?_⟩
  intro hworld hitem
  exact hholds.trans (actionNode_mem_nodes_iff_of_plain hw hi hworld hitem)

theorem holds_sole_node_iff_relic :
    let sole : Actor := ⟨1, ["itemban.bypass.world.relic.place"]⟩
    (⟨"world"⟩ : World).name ≠ "*" ∧ IsItemName "relic"
      ∧ (holds "itemban.bypass" sole ⟨"world"⟩ "relic.place" .attack ↔ ∃ v ∈ ["world", "*"],
          "world" ++ "." ++ "relic" = v ++ "." ++ "relic.place" ∧ Action.attack = .place
            ∨ "world" ++ "." ++ "relic" ++ "." ++ Action.place.name = v ++ "." ++ "relic.place")
      ∧ holds "itemban.bypass" sole ⟨"world"⟩ "relic.place" .attack
      ∧ '.' ∉ (⟨"world"⟩ : World).name.toList ∧ '.' ∉ "relic".toList
      ∧ (holds "itemban.bypass" sole ⟨"world"⟩ "relic" .attack ↔
          (⟨"world"⟩ : World) = ⟨"world"⟩ ∧ "relic" = "relic" ∧ Action.attack = .place)
      ∧ ¬ holds "itemban.bypass" sole ⟨"world"⟩ "relic" .attack := by
  intro sole
  have hw : (⟨"world"⟩ : World).name ≠ "*" := by decide
  have hi : IsItemName "relic" := ⟨"relic", "relic", by rfl, .inl rfl⟩
  have hworld : '.' ∉ (⟨"world"⟩ : World).name.toList := by decide
  have hitem : '.' ∉ "relic".toList := by decide
  have hplace :=
    @holds_sole_node_iff "itemban.bypass" 1 ⟨"world"⟩ ⟨"world"⟩ "relic" "relic.place" .place .attack hw hi
  have hrelic :=
    @holds_sole_node_iff "itemban.bypass" 1 ⟨"world"⟩ ⟨"world"⟩ "relic" "relic" .place .attack hw hi
  exact ⟨hw, hi, hplace.1, by decide +kernel, hworld, hitem, hrelic.2 hworld hitem, by decide +kernel⟩

/--
A dot moves from the item to the world, and the node is the same.
-/
theorem node_lifts_other_bans :
    let sole (node : String) : Actor := ⟨1, [node]⟩
    canonicalName "a" = "a" ∧ canonicalName "a.b" = "a.b"
      ∧ validateName "b.c" = .ok "b.c" ∧ validateName "c" = .ok "c"
      ∧ holds "itemban.bypass" (sole "itemban.bypass.a.b.c.place") ⟨"a.b"⟩ "c" .place
      ∧ ((⟨"a.b"⟩ : World), "c") ≠ (⟨"a"⟩, "b.c")
      ∧ canonicalName "world" = "world"
      ∧ validateName "relic" = .ok "relic" ∧ validateName "relic.place" = .ok "relic.place"
      ∧ holds "itemban.bypass" (sole "itemban.bypass.world.relic.place") ⟨"world"⟩ "relic.place" .attack
      ∧ ("relic.place", Action.attack) ≠ ("relic", .place) := by
  intro sole
  refine ⟨by decide +kernel, by decide +kernel, rfl, rfl, by decide +kernel, by decide,
    by decide +kernel, rfl, rfl, by decide +kernel, by decide⟩

end Bypass

end Embargo
