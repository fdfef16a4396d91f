import ExprDisplay.Proofs.Node.Standing

/-!
Trees of one expression under two limits. They are compared position by position, along
the assembly of the trees; which expression and which role a position has is known from
the expression alone.

Main statement: a tree under a smaller limit is a cut of the tree under a greater
one. The two are the same node for node, except where the smaller limit puts a
truncated leaf for an expression that the greater one shows.
-/

set_option autoImplicit false

namespace ExprDisplay.Node

/-! ### Cuts -/

/-- The limit is reached, and where `n'` is the node of an expression `n` is not. -/
structure Stopped (limit depth : Nat) (n n' : Node) : Prop where
  reached : limit ≤ depth
  bare : n.kind = none
  shown : n'.kind ≠ none

/-- At every position of `t`, whose root is at `depth`, the tree `t'` has a node that
is alike or at which `t` stops. -/
def CutOf (limit depth : Nat) (t t' : Node) : Prop :=
  ∀ path n, t.subtree? path = some n → ∃ n', t'.subtree? path = some n' ∧
    (Alike n n' ∨ Stopped limit (depth + path.length) n n')

namespace CutOf

variable {limit depth : Nat}

theorem refl (t : Node) : CutOf limit depth t t :=
  fun _ n here => ⟨n, here, .inl (.refl n)⟩

/-- One step down: nodes that are alike, with cuts below them child by child. -/
theorem of_children {t t' : Node} (root : Alike t t')
    (below : ∀ (i : Nat) c c', t.children[i]? = some c → t'.children[i]? = some c' →
      CutOf limit (depth + 1) c c') : CutOf limit depth t t' := by
  intro path n here
  cases path with
  | nil =>
    obtain rfl : t = n := Option.some.inj here
    exact ⟨t', rfl, .inl root⟩
  | cons i path =>
    obtain ⟨c, child, inner⟩ := subtree?_cons.mp here
    have inside : i < t'.children.length := by
      rw [← root.width]
      exact (List.getElem?_eq_some_iff.mp child).1
    have child' : t'.children[i]? = some (t'.children[i]) := List.getElem?_eq_getElem inside
    obtain ⟨n', inner', rel⟩ := below i c _ child child' path n inner
    refine ⟨n', subtree?_cons.mpr ⟨_, child', inner'⟩, ?_⟩
    rwa [List.length_cons, Nat.add_comm path.length 1, ← Nat.add_assoc]

/-- Nodes with the same data whose children come from one list by two functions. -/
theorem of_map {α : Type} {kind : Option Kind} {label : String} {literal : Option String}
    {items : List α} {f g : α → Node}
    (below : ∀ a ∈ items, CutOf limit (depth + 1) (f a) (g a)) :
    CutOf limit depth ⟨kind, label, literal, items.map f⟩ ⟨kind, label, literal, items.map g⟩ := by
  refine of_children ⟨rfl, rfl, rfl, ?_⟩ ?_
  · simp only [List.length_map]
  · intro i c c' child child'
    simp only [List.getElem?_map, Option.map_eq_some_iff] at child child'
    obtain ⟨a, item, rfl⟩ := child
    obtain ⟨a', item', rfl⟩ := child'
    obtain rfl : a = a' := Option.some.inj (item.symm.trans item')
    exact below a (List.mem_of_getElem? item)

theorem fillEntry {f g : Builder} (sub : ∀ role e, CutOf limit depth (f role e) (g role e)) :
    (entry : Entry) → CutOf limit depth (Node.fillEntry f entry) (Node.fillEntry g entry)
  | .leaf node => refl node
  | .sub role e => sub role e

/-- One level of the tree: a cut one and two levels down is a cut here. -/
theorem assemble {near near' far far' : Builder}
    (nearCut : ∀ role e, CutOf limit (depth + 1) (near role e) (near' role e))
    (farCut : ∀ role e, CutOf limit (depth + 2) (far role e) (far' role e))
    (role : Option String) (e : Expr) :
    CutOf limit depth (Node.assemble near far role e) (Node.assemble near' far' role e) := by
  apply of_map
  intro slot _
  cases slot with
  | entry entry => exact fillEntry nearCut entry
  | group head entries => exact of_map fun entry _ => fillEntry farCut entry

/-- At the limit the tree of every expression stops. -/
theorem truncated (reached : limit ≤ depth) (near far : Builder) (role : Option String)
    (e : Expr) : CutOf limit depth (Node.truncated depth role e) (Node.assemble near far role e) := by
  intro path n here
  obtain ⟨rfl, rfl⟩ := eq_nil_of_leaf rfl here
  exact ⟨_, rfl, .inr ⟨reached, rfl, Option.some_ne_none _⟩⟩

/-- The run over all depths: whatever the two limits, as long as one bounds the other. -/
theorem builderAt {limit' : Nat} (le : limit ≤ limit') (depth : Nat) (role : Option String)
    (e : Expr) :
    CutOf limit depth (Node.builderAt limit depth role e) (Node.builderAt limit' depth role e) := by
  refine builderAt_induction
    (P := fun depth b => ∀ role e, CutOf limit depth (b role e) (Node.builderAt limit' depth role e))
    ?_ ?_ depth role e
  · intro depth reached role e
    by_cases below : depth < limit'
    · rw [builderAt_of_lt below]
      exact truncated reached _ _ role e
    · rw [builderAt_of_le (Nat.le_of_not_lt below)]
      exact refl _
  · intro depth below near far role e
    rw [builderAt_of_lt (Nat.lt_of_lt_of_le below le)]
    exact assemble near far role e

/-- A cut that stops nowhere is the whole tree. -/
theorem eq_of_whole {t t' : Node} (cut : CutOf limit depth t t')
    (whole : ∀ path n n', t.subtree? path = some n → t'.subtree? path = some n' →
      ¬ Stopped limit (depth + path.length) n n') : t = t' := by
  apply eq_of_alike
  intro path n here
  obtain ⟨n', here', alike | stopped⟩ := cut path n here
  · exact ⟨n', here', alike⟩
  · exact absurd stopped (whole path n n' here here')

end CutOf

/-! ### What a cut shows of the expression -/

/-- In the trees of `e` in `role`, `n` is the leaf that stands at `path` under `limit` for the
expression whose node is `n'`. Its label has the role of that expression, its depth and its
kind. -/
structure CutShort (limit : Nat) (role : Option String) (e : Expr) (path : List Nat)
    (n n' : Node) : Prop where
  reached : limit ≤ path.length
  leaf : n.children = []
  kind : n.kind = none
  literal : n.literal = none
  labels : ∃ (r : Option String) (c : Expr), StandsAt role e path r c ∧ n'.kind = some c.kind ∧
    n'.label = r.elim "" (· ++ " => ") ++ c.headline ∧
    n.label = r.elim "" (· ++ " => ") ++
      ("Truncated Node [depth " ++ toString path.length ++ "]: " ++ c.kind.name)

theorem withRole_eq (role : Option String) (label : String) :
    withRole role label = role.elim "" (· ++ " => ") ++ label := by
  cases role with
  | none => exact String.empty_append.symm
  | some role => rfl

/-- Where a tree stops, both trees stand for the same expression: the greater limit shows it,
and the smaller one has its truncated leaf. -/
theorem Stopped.cutShort {m m' : Nat} {role : Option String} {e : Expr} {path : List Nat}
    {n n' : Node} (stopped : Stopped m path.length n n')
    (here : (ofExpr m role e).subtree? path = some n)
    (here' : (ofExpr m' role e).subtree? path = some n') : CutShort m role e path n n' := by
  have root : StandsFor m 0 role e (ofExpr m role e) := standsFor_builderAt role e
  have root' : StandsFor m' 0 role e (ofExpr m' role e) := standsFor_builderAt role e
  obtain ⟨r, c, stands⟩ := exists_standsAt root' here' stopped.shown
  have standing := standsFor_subtree? stands root here
  have standing' := standsFor_subtree? stands root' here'
  rw [Nat.zero_add] at standing standing'
  rcases standing with ⟨-, rfl⟩ | rfl
  · rcases standing' with ⟨-, rfl⟩ | rfl
    · exact absurd rfl stopped.shown
    · exact ⟨stopped.reached, rfl, rfl, rfl, r, c, stands, rfl, withRole_eq r _, withRole_eq r _⟩
  · exact absurd stopped.bare (Option.some_ne_none _)

/-- Raising the limit refines the tree: position by position the nodes are alike or
the lower limit cuts the expression that stands there short, and where nothing is cut short
the trees are equal. -/
theorem ofExpr_refines {m m' : Nat} (le : m ≤ m') (role : Option String) (e : Expr) :
    (∀ path n, (ofExpr m role e).subtree? path = some n →
      ∃ n', (ofExpr m' role e).subtree? path = some n' ∧
        (Alike n n' ∨ CutShort m role e path n n')) ∧
    ((∀ path n n', (ofExpr m role e).subtree? path = some n →
        (ofExpr m' role e).subtree? path = some n' → ¬ CutShort m role e path n n') →
      ofExpr m role e = ofExpr m' role e) := by
  have cut : CutOf m 0 (ofExpr m role e) (ofExpr m' role e) := CutOf.builderAt le 0 role e
  refine ⟨fun path n here => ?_, fun whole => ?_⟩
  · obtain ⟨n', here', alike | stopped⟩ := cut path n here
    · exact ⟨n', here', .inl alike⟩
    · rw [Nat.zero_add] at stopped
      exact ⟨n', here', .inr (stopped.cutShort here here')⟩
  · apply cut.eq_of_whole
    intro path n n' here here' stopped
    rw [Nat.zero_add] at stopped
    exact whole path n n' here here' (stopped.cutShort here here')

/-- The operand of a negation is cut short under limit 1, and limit 2 shows it all. -/
theorem ofExpr_refines_negation :
    let e : Expr := .unary .not (.parameter (.named .bool "x")) .bool
    (∃ n n', (ofExpr 1 none e).subtree? [0] = some n ∧ (ofExpr 2 none e).subtree? [0] = some n' ∧
      CutShort 1 none e [0] n n') ∧
    ofExpr 2 none e = ofExpr 3 none e := by
  intro e
  constructor
  · obtain ⟨n', here', rel⟩ := (ofExpr_refines (by decide : 1 ≤ 2) none e).1 [0] _ rfl
    refine ⟨_, n', rfl, here', rel.resolve_left fun alike => ?_⟩
    obtain rfl := Option.some.inj here'
    exact nomatch alike.kind
  · apply (ofExpr_refines (by decide : 2 ≤ 3) none e).2
    intro path n n' here _ short
    have shallow : (ofExpr 2 none e).depth ≤ 2 := by decide
    have := depth_le_iff.mp shallow path n here
    have := short.reached
    omega

end ExprDisplay.Node
