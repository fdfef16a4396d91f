import ExprDisplay.Proofs.Node.Standing

/-!
A display tree does not depend on what is around it. A role shows in the label of the
root and nowhere else. The depth at which an expression stands counts only for what the
limit cuts off, so where nothing is cut off a subtree is the tree of its own expression.

Main statement: both facts, the second for every position at which an expression stands,
and these are all the positions of nodes with a kind.
-/

set_option autoImplicit false

namespace ExprDisplay.Node

/-- In the tree `n` of `e`, whose root is at `depth`, no expression is cut off. -/
def Untruncated (depth : Nat) (role : Option String) (e : Expr) (n : Node) : Prop :=
  ∀ path r c, StandsAt role e path r c → n.subtree? path ≠ some (truncated (depth + path.length) r c)

variable {limit depth depth' : Nat}

theorem Untruncated.below {role r : Option String} {e c : Expr} {step : List Nat} {n m : Node}
    (whole : Untruncated depth role e n) (below : Below e step r c) (here : n.subtree? step = some m) :
    Untruncated (depth + step.length) r c m := by
  intro path r' c' stands cutOff
  apply whole (step ++ path) r' c' (.step below stands)
  rw [List.length_append, ← Nat.add_assoc]
  exact subtree?_append.mpr ⟨m, here, cutOff⟩

/-- What stands for an expression and is not cut off is assembled. -/
theorem Untruncated.eq_assemble {role : Option String} {e : Expr} {n : Node}
    (whole : Untruncated depth role e n) (stands : StandsFor limit depth role e n) :
    n = assemble (builderAt limit (depth + 1)) (builderAt limit (depth + 2)) role e := by
  rcases stands with ⟨_, cutOff⟩ | assembled
  · exact absurd (congrArg some cutOff) (whole [] role e .root)
  · exact assembled

/-- A tree that ends before its limit has nothing cut off. -/
theorem untruncated_of_depth_le {role : Option String} {e : Expr}
    (short : (ofExpr limit role e).depth ≤ limit) : Untruncated 0 role e (ofExpr limit role e) := by
  intro path r c stands cutOff
  have inside : path.length < limit := depth_le_iff.mp short path _ cutOff
  have root : StandsFor limit 0 role e (ofExpr limit role e) := standsFor_builderAt role e
  rcases standsFor_subtree? stands root cutOff with ⟨reached, _⟩ | assembled
  · omega
  · exact nomatch congrArg Node.kind assembled

/-! ### Depth -/

theorem assemble_congr {near near' far far' : Builder} {role : Option String} {e : Expr}
    (nearSame : ∀ (i : Nat) r c, e.slots[i]? = some (.entry (.sub r c)) → near r c = near' r c)
    (farSame : ∀ (i j : Nat) head entries r c, e.slots[i]? = some (.group head entries) →
      entries[j]? = some (.sub r c) → far r c = far' r c) :
    assemble near far role e = assemble near' far' role e := by
  have children : e.slots.map (fillSlot near far) = e.slots.map (fillSlot near' far') := by
    apply List.map_congr_left
    intro slot listed
    obtain ⟨i, place⟩ := List.getElem?_of_mem listed
    match slot with
    | .entry (.leaf node) => rfl
    | .entry (.sub r c) => exact nearSame i r c place
    | .group head entries =>
      have inner : entries.map (fillEntry far) = entries.map (fillEntry far') := by
        apply List.map_congr_left
        intro entry inside
        obtain ⟨j, position⟩ := List.getElem?_of_mem inside
        cases entry with
        | leaf node => rfl
        | sub r c => exact farSame i j head entries r c place position
      simp only [fillSlot, inner]
  simp only [assemble, children]

/-- One level of the tree: where nothing is cut off, two depths that agree further down
agree here. -/
theorem assemble_eq_of_untruncated
    (near : ∀ r c, Untruncated (depth + 1) r c (builderAt limit (depth + 1) r c) →
      builderAt limit (depth + 1) r c = builderAt limit (depth' + 1) r c)
    (far : ∀ r c, Untruncated (depth + 2) r c (builderAt limit (depth + 2) r c) →
      builderAt limit (depth + 2) r c = builderAt limit (depth' + 2) r c)
    {role : Option String} {e : Expr} (whole : Untruncated depth role e
      (assemble (builderAt limit (depth + 1)) (builderAt limit (depth + 2)) role e)) :
    assemble (builderAt limit (depth + 1)) (builderAt limit (depth + 2)) role e =
      assemble (builderAt limit (depth' + 1)) (builderAt limit (depth' + 2)) role e := by
  apply assemble_congr
  · intro i r c place
    have inner := whole.below (.entry place) (subtree?_slot place)
    exact near r c inner
  · intro i j head entries r c place position
    have inner := whole.below (.grouped place position) (subtree?_grouped place position)
    exact far r c inner

/-- The run over all depths: a tree with nothing cut off is the same nearer to the root. -/
theorem builderAt_eq_of_untruncated (nearer : depth' ≤ depth) {role : Option String} {e : Expr}
    (whole : Untruncated depth role e (builderAt limit depth role e)) :
    builderAt limit depth role e = builderAt limit depth' role e := by
  refine builderAt_induction (P := fun depth b => ∀ depth', depth' ≤ depth → ∀ role e,
    Untruncated depth role e (b role e) → b role e = builderAt limit depth' role e)
    ?_ ?_ depth depth' nearer role e whole
  · intro depth _ depth' _ role e whole
    exact absurd rfl (whole [] role e .root)
  · intro depth below near far depth' nearer role e whole
    rw [builderAt_of_lt (Nat.lt_of_le_of_lt nearer below)]
    exact assemble_eq_of_untruncated (near (depth' + 1) (by omega)) (far (depth' + 2) (by omega)) whole

/-! ### Positions -/

/-- Where nothing is cut off, every position at which an expression stands is in the tree. -/
theorem subtree?_of_untruncated {role r : Option String} {e c : Expr} {path : List Nat} {n : Node}
    (stands : StandsAt role e path r c) (root : StandsFor limit depth role e n)
    (whole : Untruncated depth role e n) :
    ∃ m, n.subtree? path = some m ∧ StandsFor limit (depth + path.length) r c m ∧
      Untruncated (depth + path.length) r c m := by
  induction stands generalizing depth n with
  | root => exact ⟨n, rfl, root, whole⟩
  | step below _ ih =>
    have assembled := whole.eq_assemble root
    obtain ⟨m', inner, next⟩ := subtree?_below limit depth _ below
    rw [← assembled] at inner
    obtain ⟨m, last, stands, rest⟩ := ih next (whole.below below inner)
    rw [List.length_append, ← Nat.add_assoc]
    exact ⟨m, subtree?_append.mpr ⟨m', inner, last⟩, stands, rest⟩

/-- Under a positive limit, what stands for an expression with nothing cut off is the tree
of that expression. -/
theorem Untruncated.eq_ofExpr {role : Option String} {e : Expr} {n : Node} (positive : 0 < limit)
    (whole : Untruncated depth role e n) (stands : StandsFor limit depth role e n) :
    n = ofExpr limit role e := by
  have assembled := whole.eq_assemble stands
  rw [assembled] at whole ⊢
  rw [ofExpr_eq_builderAt, builderAt_of_lt positive]
  apply assemble_eq_of_untruncated _ _ whole
  · exact fun r c inner => builderAt_eq_of_untruncated (by omega) inner
  · exact fun r c inner => builderAt_eq_of_untruncated (by omega) inner

theorem label_ofExpr_some (limit : Nat) (p : String) (e : Expr) :
    ofExpr limit (some p) e =
      { ofExpr limit none e with label := p ++ " => " ++ (ofExpr limit none e).label } := by
  rw [ofExpr_eq_builderAt]
  by_cases positive : 0 < limit
  · rw [builderAt_of_lt positive]
    rfl
  · rw [builderAt_of_le (Nat.le_of_not_lt positive)]
    rfl

/-- A role is put before the label of the root and changes nothing else. Where nothing is
cut off, what stands at a position for an expression in a role is the tree of that
expression in that role, and every node with a kind is such a tree. -/
theorem ofExpr_in_context (limit : Nat) (role : Option String) (e : Expr) :
    (∀ p : String, ofExpr limit (some p) e =
      { ofExpr limit none e with label := p ++ " => " ++ (ofExpr limit none e).label }) ∧
    (Untruncated 0 role e (ofExpr limit role e) →
      (∀ path r c, StandsAt role e path r c →
        (ofExpr limit role e).subtree? path = some (ofExpr limit r c)) ∧
      ∀ path n, (ofExpr limit role e).subtree? path = some n → n.kind ≠ none →
        ∃ r c, StandsAt role e path r c ∧ n = ofExpr limit r c) := by
  refine ⟨fun p => label_ofExpr_some limit p e, fun whole => ?_⟩
  have root : StandsFor limit 0 role e (ofExpr limit role e) := standsFor_builderAt role e
  have positive : 0 < limit := by
    apply Nat.pos_of_ne_zero
    rintro rfl
    exact whole [] role e .root rfl
  have same (path : List Nat) (r : Option String) (c : Expr) (stands : StandsAt role e path r c) :
      (ofExpr limit role e).subtree? path = some (ofExpr limit r c) := by
    obtain ⟨m, here, inner, rest⟩ := subtree?_of_untruncated stands root whole
    rw [here, rest.eq_ofExpr positive inner]
  refine ⟨same, fun path n here tagged => ?_⟩
  obtain ⟨r, c, stands⟩ := exists_standsAt root here tagged
  exact ⟨r, c, stands, Option.some.inj (here.symm.trans (same path r c stands))⟩

/-- A list initializer as the body of a lambda: its construction, the argument that sets a
member of it, and the parameter of the lambda. -/
theorem ofExpr_in_context_lambda :
    let x : Param := .named .int "x"
    let argument : Expr := .unary .negate (.parameter x) .int
    let construction : Construction Expr := ⟨.named "List" .classType, [argument], some ["Capacity"]⟩
    let e : Expr := .lambda none [x] (.listInit construction []) .int .object
    let tree := ofExpr 5 (some "Left") e
    Untruncated 0 (some "Left") e tree ∧
      tree.subtree? [0] = some (ofExpr 5 none (.parameter x)) ∧
      tree.subtree? [1, 0] = some (ofExpr 5 none (.new construction)) ∧
      tree.subtree? [1, 0, 0] = some (ofExpr 5 (some "Capacity") argument) := by
  intro x argument construction e tree
  have whole : Untruncated 0 (some "Left") e tree := untruncated_of_depth_le (by decide)
  obtain ⟨same, -⟩ := (ofExpr_in_context 5 (some "Left") e).2 whole
  have body : Below e [1] (some "Body") (.listInit construction []) := .entry rfl
  refine ⟨whole, same [0] _ _ ?_, same [1, 0] _ _ ?_, same [1, 0, 0] _ _ ?_⟩
  · exact .step (.lambdaParameter rfl) .root
  · exact .step body (.step .construction .root)
  · exact .step body (.step (.grouped rfl rfl) .root)

end ExprDisplay.Node
