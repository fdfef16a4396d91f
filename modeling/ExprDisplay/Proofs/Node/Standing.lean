import ExprDisplay.Proofs.Expr.Cut
import ExprDisplay.Proofs.Node.Limit
import ExprDisplay.Proofs.Node.Position

/-!
Which expression a position of a display tree stands for. A sub-expression stands in
a slot of its parent or inside a group; a parameter that a lambda or a capture lists,
and the construction of a list initializer, stand there as expressions of their own. All
other nodes are labels made for the display.

Main statement: under any limit, the node at such a position is the truncated leaf of
the expression, from the limit on, or is assembled from it.
-/

set_option autoImplicit false

namespace ExprDisplay

/-- `Below e path role c`: at `path` from the node of `e` and under no other expression
stands `c` in `role`. -/
inductive Below : Expr → List Nat → Option String → Expr → Prop
  | entry {e c : Expr} {i : Nat} {role : Option String}
      (slot : e.slots[i]? = some (.entry (.sub role c))) : Below e [i] role c
  | grouped {e c : Expr} {i j : Nat} {role : Option String} {head : Node} {entries : List Entry}
      (slot : e.slots[i]? = some (.group head entries))
      (entry : entries[j]? = some (.sub role c)) : Below e [i, j] role c
  | lambdaParameter {name : Option String} {parameters : List Param} {body : Expr}
      {returnType delegateType : Ty} {i : Nat} {p : Param} (listed : parameters[i]? = some p) :
      Below (.lambda name parameters body returnType delegateType) [i] none (.parameter p)
  | captured {locals : List Param} {i : Nat} {p : Param} (listed : locals[i]? = some p) :
      Below (.runtimeVariables locals) [i] none (.parameter p)
  | construction {construction : Construction Expr} {initializers : List (ElementInit Expr)} :
      Below (.listInit construction initializers) [0] none (.new construction)

/-- `Made e step n`: at `step` from the node of `e` and under no other expression stands
`n`, a label that was made for the display, alone or at the head of a group. -/
inductive Made : Expr → List Nat → Node → Prop
  | leaf {e : Expr} {i : Nat} {label : String}
      (slot : e.slots[i]? = some (.entry (.leaf (Node.leaf label)))) : Made e [i] (Node.leaf label)
  | group {e : Expr} {i : Nat} {label : String} {entries : List Entry}
      (slot : e.slots[i]? = some (.group (Node.leaf label) entries)) (children : List Node) :
      Made e [i] ⟨none, label, none, children⟩
  | inside {e : Expr} {i j : Nat} {head : Node} {entries : List Entry} {label : String}
      (slot : e.slots[i]? = some (.group head entries))
      (entry : entries[j]? = some (.leaf (Node.leaf label))) : Made e [i, j] (Node.leaf label)

/-- `StandsAt role e path r c`: in the tree of `e` in `role`, what stands at `path` is
`c` in the role `r`. -/
inductive StandsAt : Option String → Expr → List Nat → Option String → Expr → Prop
  | root {role : Option String} {e : Expr} : StandsAt role e [] role e
  | step {role role' r : Option String} {e d c : Expr} {step path : List Nat}
      (first : Below e step role' d) (rest : StandsAt role' d path r c) :
      StandsAt role e (step ++ path) r c

theorem Below.ne_nil {e c : Expr} {step : List Nat} {role : Option String}
    (below : Below e step role c) : step ≠ [] := by
  cases below <;> simp

theorem Made.kind {e : Expr} {step : List Nat} {n : Node} (made : Made e step n) : n.kind = none := by
  cases made <;> rfl

theorem Made.literal {e : Expr} {step : List Nat} {n : Node} (made : Made e step n) :
    n.literal = none := by
  cases made <;> rfl

namespace Node

/-- `n` is what stands for `e` at `depth`: the truncated leaf, if the limit is reached,
or the node assembled from what stands further down. -/
def StandsFor (limit depth : Nat) (role : Option String) (e : Expr) (n : Node) : Prop :=
  (limit ≤ depth ∧ n = truncated depth role e) ∨
    n = assemble (builderAt limit (depth + 1)) (builderAt limit (depth + 2)) role e

variable {limit depth : Nat}

theorem standsFor_builderAt (role : Option String) (e : Expr) :
    StandsFor limit depth role e (builderAt limit depth role e) := by
  by_cases below : depth < limit
  · exact .inr (by rw [builderAt_of_lt below])
  · have reached := Nat.le_of_not_lt below
    exact .inl ⟨reached, by rw [builderAt_of_le reached]⟩

/-- A node with a kind is not a truncated leaf. -/
theorem ne_truncated_of_kind {role : Option String} {e : Expr} {n : Node}
    (tagged : n.kind ≠ none) : n ≠ truncated depth role e := by
  rintro rfl
  exact tagged rfl

/-- A parameter is shown alike wherever it stands. -/
theorem param_node_eq (near far : Builder) (p : Param) :
    p.node = assemble near far none (.parameter p) := by
  change _ = (⟨some .parameter, p.node.label, some (Expr.parameter p).text, []⟩ : Node)
  rw [Expr.text_parameter, Param.node]

/-- The group of a list initializer is its construction, one level further down. -/
theorem construction_node_eq (near far far' : Builder) (c : Construction Expr) :
    fillSlot near far (.group ⟨some .new, Construction.label, some c.text, []⟩ c.entries) =
      assemble far far' none (.new c) := by
  change (⟨some .new, Construction.label, some c.text, c.entries.map (fillEntry far)⟩ : Node) =
    ⟨some .new, Construction.label, some c.text, (c.entries.map .entry).map (fillSlot far far')⟩
  rw [List.map_map]
  rfl

theorem children_assemble {near far : Builder} {role : Option String} {e : Expr} {i : Nat}
    {slot : Slot} (here : e.slots[i]? = some slot) :
    (assemble near far role e).children[i]? = some (fillSlot near far slot) := by
  simp [assemble, here]

theorem children_group {near far : Builder} {head : Node} {entries : List Entry} {j : Nat}
    {entry : Entry} (here : entries[j]? = some entry) :
    (fillSlot near far (.group head entries)).children[j]? = some (fillEntry far entry) := by
  simp [fillSlot, here]

theorem subtree?_slot {near far : Builder} {role : Option String} {e : Expr} {i : Nat} {slot : Slot}
    (place : e.slots[i]? = some slot) :
    (assemble near far role e).subtree? [i] = some (fillSlot near far slot) :=
  subtree?_cons.mpr ⟨_, children_assemble place, subtree?_nil _⟩

theorem subtree?_grouped {near far : Builder} {role : Option String} {e : Expr} {i j : Nat}
    {head : Node} {entries : List Entry} {entry : Entry}
    (place : e.slots[i]? = some (.group head entries)) (position : entries[j]? = some entry) :
    (assemble near far role e).subtree? [i, j] = some (fillEntry far entry) :=
  subtree?_cons.mpr ⟨_, children_assemble place,
    subtree?_cons.mpr ⟨_, children_group position, subtree?_nil _⟩⟩

/-! ### What is in the slots -/

theorem slots_lambda_eq_leaf {name : Option String} {parameters : List Param} {body : Expr}
    {returnType delegateType : Ty} {i : Nat} {node : Node} :
    (Expr.lambda name parameters body returnType delegateType).slots[i]? =
      some (.entry (.leaf node)) ↔ ∃ p, parameters[i]? = some p ∧ p.node = node := by
  rw [Expr.slots, List.getElem?_append]
  split
  · simp
  · rename_i outside
    rw [List.length_map] at outside
    have last : [Slot.sub "Body" body][i - parameters.length]? ≠ some (.entry (.leaf node)) := by
      simp [List.getElem?_singleton, Slot.sub]
    simp [last, List.getElem?_eq_none (Nat.le_of_not_lt outside)]

theorem slots_runtimeVariables_eq_leaf {locals : List Param} {i : Nat} {node : Node} :
    (Expr.runtimeVariables locals).slots[i]? = some (.entry (.leaf node)) ↔
      ∃ p, locals[i]? = some p ∧ p.node = node := by
  simp [Expr.slots]

theorem eq_leaf_of_optional {role : String} {value : Option Expr} {node : Node}
    (absent : .leaf node = Entry.optional role value) : ∃ label, node = leaf label := by
  cases value with
  | none => exact ⟨_, Entry.leaf.inj absent⟩
  | some e => cases absent

theorem leaf_not_mem_entries {c : Construction Expr} {node : Node} :
    Entry.leaf node ∉ c.entries := by
  simp [Construction.entries]

/-- A leaf in a slot is a label and nothing else, or a parameter that the expression
lists. -/
theorem leaf_slot {e : Expr} {i : Nat} {node : Node}
    (slot : e.slots[i]? = some (.entry (.leaf node))) :
    (∃ label, node = leaf label) ∨ ∃ p, node = p.node ∧ Below e [i] none (.parameter p) := by
  have listed := List.mem_of_getElem? slot
  cases e with
  | debugInfo document span =>
    simp only [Expr.slots, Slot.leaf, List.mem_cons, Slot.entry.injEq, Entry.leaf.injEq,
      List.not_mem_nil, or_false] at listed
    left
    rcases listed with rfl | rfl | rfl | rfl | rfl | rfl | rfl | rfl <;> exact ⟨_, rfl⟩
  | goto kind target value ty =>
    simp only [Expr.slots, Slot.leaf, List.mem_cons, Slot.entry.injEq, Entry.leaf.injEq,
      List.not_mem_nil, or_false] at listed
    rcases listed with rfl | rfl | absent
    · exact .inl ⟨_, rfl⟩
    · exact .inl ⟨_, rfl⟩
    · exact .inl (eq_leaf_of_optional absent)
  | label target value =>
    simp only [Expr.slots, Slot.leaf, List.mem_cons, Slot.entry.injEq, Entry.leaf.injEq,
      List.not_mem_nil, or_false] at listed
    rcases listed with rfl | absent
    · exact .inl ⟨_, rfl⟩
    · exact .inl (eq_leaf_of_optional absent)
  | lambda name parameters body returnType delegateType =>
    obtain ⟨p, parameter, rfl⟩ := slots_lambda_eq_leaf.mp slot
    exact .inr ⟨p, rfl, .lambdaParameter parameter⟩
  | memberInit construction bindings =>
    obtain ⟨b, -, rfl⟩ : ∃ b ∈ bindings, leaf (Expr.partText b.template) = node := by
      simpa [Expr.slots, Slot.leaf] using listed
    exact .inl ⟨_, rfl⟩
  | new construction =>
    exact absurd (by simpa [Expr.slots] using listed) leaf_not_mem_entries
  | runtimeVariables locals =>
    obtain ⟨p, captured, rfl⟩ := slots_runtimeVariables_eq_leaf.mp slot
    exact .inr ⟨p, rfl, .captured captured⟩
  | tryCatch body handlers finalizer ty =>
    have absent : Entry.leaf node = .optional "Finally" finalizer := by
      simpa [Expr.slots, Slot.sub] using listed
    exact .inl (eq_leaf_of_optional absent)
  | _ => simp [Expr.slots, Slot.sub, Slot.plain] at listed

/-- A group is headed by a label, or by the construction of a list initializer. -/
theorem group_slot {e : Expr} {i : Nat} {head : Node} {entries : List Entry}
    (slot : e.slots[i]? = some (.group head entries)) :
    (∃ label, head = leaf label) ∨ ∃ c, Below e [i] none (.new c) := by
  have listed := List.mem_of_getElem? slot
  cases e with
  | listInit construction initializers =>
    obtain rfl : i = 0 := by
      have := (List.getElem?_eq_some_iff.mp slot).1
      simpa [Expr.slots] using this
    exact .inr ⟨construction, .construction⟩
  | switch value cases defaultBody ty =>
    obtain ⟨c, -, rfl, -⟩ : ∃ c ∈ cases, leaf "Case" = head ∧ _ = entries := by
      simpa [Expr.slots] using listed
    exact .inl ⟨_, rfl⟩
  | tryCatch body handlers finalizer ty =>
    obtain ⟨h, -, rfl, -⟩ : ∃ h ∈ handlers, leaf "Catch" = head ∧ _ = entries := by
      simpa [Expr.slots, Slot.sub] using listed
    exact .inl ⟨_, rfl⟩
  | _ => simp [Expr.slots, Slot.sub, Slot.plain, Slot.leaf] at listed

/-- A leaf inside a group is a label and nothing else. -/
theorem leaf_entry {e : Expr} {head node : Node} {entries : List Entry}
    (group : .group head entries ∈ e.slots) (listed : .leaf node ∈ entries) :
    ∃ label, node = leaf label := by
  cases e with
  | listInit construction initializers =>
    obtain ⟨-, rfl⟩ : _ ∧ entries = construction.entries := by simpa [Expr.slots] using group
    exact absurd listed leaf_not_mem_entries
  | switch value cases defaultBody ty =>
    obtain ⟨c, -, -, rfl⟩ : ∃ c ∈ cases, _ = head ∧
        (c.testValues.map fun e => .sub (some "Value") e) ++ [.sub (some "Body") c.body] = entries := by
      simpa [Expr.slots] using group
    simp at listed
  | tryCatch body handlers finalizer ty =>
    obtain ⟨h, -, -, rfl⟩ : ∃ h ∈ handlers, _ = head ∧
        [Entry.optional "Filter" h.filter, .sub (some "Body") h.body] = entries := by
      simpa [Expr.slots, Slot.sub] using group
    exact eq_leaf_of_optional (by simpa using listed)
  | _ => simp [Expr.slots, Slot.sub, Slot.plain, Slot.leaf] at group

/-! ### Steps and runs -/

/-- One step down from an assembled node. -/
theorem subtree?_below (limit depth : Nat) (role : Option String) {role' : Option String}
    {e c : Expr} {step : List Nat} (below : Below e step role' c) :
    ∃ n, (assemble (builderAt limit (depth + 1)) (builderAt limit (depth + 2)) role e).subtree? step =
      some n ∧ StandsFor limit (depth + step.length) role' c n := by
  cases below with
  | entry slot => exact ⟨_, subtree?_slot slot, standsFor_builderAt role' c⟩
  | grouped slot entry => exact ⟨_, subtree?_grouped slot entry, standsFor_builderAt role' c⟩
  | lambdaParameter listed =>
    exact ⟨_, subtree?_slot (slots_lambda_eq_leaf.mpr ⟨_, listed, rfl⟩), .inr (param_node_eq _ _ _)⟩
  | captured listed =>
    have slot := slots_runtimeVariables_eq_leaf.mpr ⟨_, listed, rfl⟩
    exact ⟨_, subtree?_slot slot, .inr (param_node_eq _ _ _)⟩
  | construction => exact ⟨_, subtree?_slot rfl, .inr (construction_node_eq _ _ _ _)⟩

/-- A run of steps down: what stands at a position stands for the expression there. -/
theorem standsFor_subtree? {role r : Option String} {e c : Expr} {path : List Nat} {n m : Node}
    (stands : StandsAt role e path r c) (root : StandsFor limit depth role e n)
    (here : n.subtree? path = some m) : StandsFor limit (depth + path.length) r c m := by
  induction stands generalizing depth n with
  | root =>
    obtain rfl : n = m := Option.some.inj here
    exact root
  | step below _ ih =>
    obtain ⟨n', inner, last⟩ := subtree?_append.mp here
    rcases root with ⟨_, rfl⟩ | rfl
    · -- A truncated leaf has nothing below it.
      exact absurd (eq_nil_of_leaf rfl inner).1 below.ne_nil
    · obtain ⟨m', inner', next⟩ := subtree?_below limit depth _ below
      obtain rfl : m' = n' := Option.some.inj (inner'.symm.trans inner)
      rw [List.length_append, ← Nat.add_assoc]
      exact ih next last

/-- Down to the limit every position where an expression stands is in the tree. -/
theorem exists_subtree? {role r : Option String} {e c : Expr} {path : List Nat} {n : Node}
    (stands : StandsAt role e path r c) (root : StandsFor limit depth role e n)
    (within : depth + path.length ≤ limit) : ∃ m, n.subtree? path = some m := by
  induction stands generalizing depth n with
  | root => exact ⟨n, rfl⟩
  | step below _ ih =>
    rw [List.length_append] at within
    rcases root with ⟨reached, rfl⟩ | rfl
    · have := List.length_pos_iff.mpr below.ne_nil
      omega
    · obtain ⟨m', inner, next⟩ := subtree?_below limit depth _ below
      obtain ⟨m, last⟩ := ih next (by omega)
      exact ⟨m, subtree?_append.mpr ⟨m', inner, last⟩⟩

/-- One step up: what is below an assembled node stands at or below an expression that
stands right below the node's own, or was made for the display. -/
theorem exists_below_or_made {role : Option String} {e : Expr} {i : Nat} {rest : List Nat} {m : Node}
    (here : (assemble (builderAt limit (depth + 1)) (builderAt limit (depth + 2)) role e).subtree?
      (i :: rest) = some m) :
    (∃ step rest' role' d n, i :: rest = step ++ rest' ∧ Below e step role' d ∧
      StandsFor limit (depth + step.length) role' d n ∧ n.subtree? rest' = some m) ∨
    Made e (i :: rest) m := by
  obtain ⟨c, child, inner⟩ := subtree?_cons.mp here
  -- Where an expression stands at `i` itself, what stands there is known from the step down.
  have standing {d : Expr} (below : Below e [i] none d) : ∃ step rest' role' d n,
      i :: rest = step ++ rest' ∧ Below e step role' d ∧
        StandsFor limit (depth + step.length) role' d n ∧ n.subtree? rest' = some m := by
    obtain ⟨n, place, stands⟩ := subtree?_below limit depth role below
    obtain ⟨c', child', last⟩ := subtree?_cons.mp place
    obtain rfl : c' = c := Option.some.inj (child'.symm.trans child)
    obtain rfl : c' = n := Option.some.inj last
    exact ⟨[i], rest, none, d, c', rfl, below, stands, inner⟩
  obtain ⟨slot, place, rfl⟩ : ∃ slot, e.slots[i]? = some slot ∧ fillSlot _ _ slot = c := by
    simpa [assemble] using child
  match slot, rest with
  | .entry (.sub role' d), rest =>
    exact .inl ⟨[i], rest, role', d, _, rfl, .entry place, standsFor_builderAt role' d, inner⟩
  | .entry (.leaf node), rest =>
    rcases leaf_slot place with ⟨label, rfl⟩ | ⟨p, -, below⟩
    · obtain ⟨rfl, rfl⟩ := eq_nil_of_leaf rfl inner
      exact .inr (.leaf place)
    · exact .inl (standing below)
  | .group head entries, [] =>
    rcases group_slot place with ⟨label, rfl⟩ | ⟨c, below⟩
    · obtain rfl : fillSlot _ _ _ = m := Option.some.inj inner
      exact .inr (.group place _)
    · exact .inl (standing below)
  | .group head entries, j :: rest =>
    obtain ⟨c, grandchild, last⟩ := subtree?_cons.mp inner
    obtain ⟨entry, listed, rfl⟩ : ∃ entry, entries[j]? = some entry ∧ fillEntry _ entry = c := by
      simpa [fillSlot] using grandchild
    cases entry with
    | sub role' d =>
      exact .inl ⟨[i, j], rest, role', d, _, rfl, .grouped place listed, standsFor_builderAt role' d, last⟩
    | leaf node =>
      obtain ⟨label, rfl⟩ := leaf_entry (List.mem_of_getElem? place) (List.mem_of_getElem? listed)
      obtain ⟨rfl, rfl⟩ := eq_nil_of_leaf rfl last
      exact .inr (.inside place listed)

/-- Every node stands for an expression, or was made for the display of one above it. -/
theorem stands_or_made {role : Option String} {e : Expr} {path : List Nat} {n m : Node}
    (root : StandsFor limit depth role e n) (here : n.subtree? path = some m) :
    (∃ r c, StandsAt role e path r c) ∨
    ∃ above step r c, path = above ++ step ∧ StandsAt role e above r c ∧ Made c step m := by
  -- A step into a group takes two indices at once, so the induction is on the length.
  induction size : path.length using Nat.strongRecOn generalizing depth role e path n with
  | ind size ih =>
    subst size
    match path with
    | [] => exact .inl ⟨role, e, .root⟩
    | i :: rest =>
      rcases root with ⟨_, rfl⟩ | rfl
      · exact nomatch (eq_nil_of_leaf rfl here).1
      · rcases exists_below_or_made here with
          ⟨step, rest', role', d, n, split, below, next, last⟩ | made
        · have shorter : rest'.length < (i :: rest).length := by
            rw [split, List.length_append]
            exact Nat.lt_add_of_pos_left (List.length_pos_iff.mpr below.ne_nil)
          rcases ih rest'.length shorter next last rfl with
            ⟨r, c, stands⟩ | ⟨above, step', r, c, rfl, stands, made⟩
          · exact .inl ⟨r, c, split ▸ .step below stands⟩
          · refine .inr ⟨step ++ above, step', r, c, ?_, .step below stands, made⟩
            rw [split, List.append_assoc]
        · exact .inr ⟨[], i :: rest, role, e, rfl, .root, made⟩

/-- Every node with a kind stands for an expression. -/
theorem exists_standsAt {role : Option String} {e : Expr} {path : List Nat} {n m : Node}
    (root : StandsFor limit depth role e n) (here : n.subtree? path = some m)
    (tagged : m.kind ≠ none) : ∃ r c, StandsAt role e path r c := by
  rcases stands_or_made root here with stands | ⟨_, _, _, _, _, _, made⟩
  · exact stands
  · exact absurd made.kind tagged

end Node

end ExprDisplay
