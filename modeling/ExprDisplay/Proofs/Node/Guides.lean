import ExprDisplay.Proofs.Node.LineFormats
import ExprDisplay.Proofs.Node.PositionOrder

/-!
Guides by position. What a drawing has before the icon of a node depends on the nodes on
the way to it only, and of these only on whether siblings follow them.

Main statement: drawing and outline are made line by line from the nodes of a walk. The
line of a node is its guide or its indentation, both read off its position, and what is
shown of it.
-/

set_option autoImplicit false

namespace ExprDisplay.Node

/-- Whether siblings follow the node at a position. -/
def hasLater (t : Node) (path : List Nat) : Bool :=
  path.getLast?.any fun i => (t.subtree? (path.dropLast ++ [i + 1])).isSome

/-- What a line of a drawing has before the icon: a bar or nothing for each node between
the root and this one, then the connector. -/
def guide (t : Node) (path : List Nat) : String :=
  if path = [] then ""
  else
    String.join ((List.range (path.length - 1)).map fun j =>
      if t.hasLater (path.take (j + 1)) then "│ " else "  ") ++
      if t.hasLater path then "├─ " else "└─ "

/-- The line of a drawing at a place. -/
def lineAt (o : DrawingOptions) (t : Node) (place : List Nat × Node) : String :=
  t.guide place.1 ++ caption o place.2.kind place.2.label place.2.literal

variable {t c : Node} {i : Nat} {path : List Nat}

/-! ### Guides seen from a child -/

theorem hasLater_append (t : Node) (path : List Nat) (i : Nat) :
    t.hasLater (path ++ [i]) = (t.subtree? (path ++ [i + 1])).isSome := by
  simp [hasLater]

theorem hasLater_singleton (t : Node) (i : Nat) :
    t.hasLater [i] = (t.children[i + 1]?).isSome := by
  have siblings : t.hasLater ([] ++ [i]) = _ := hasLater_append t [] i
  rw [List.nil_append, List.nil_append, subtree?] at siblings
  rw [siblings]
  cases t.children[i + 1]? <;> rfl

theorem hasLater_cons (child : t.children[i]? = some c) (deeper : path ≠ []) :
    t.hasLater (i :: path) = c.hasLater path := by
  obtain ⟨parent, last, rfl⟩ : ∃ parent last, path = parent ++ [last] :=
    ⟨_, _, (List.dropLast_concat_getLast deeper).symm⟩
  rw [← List.cons_append, hasLater_append, hasLater_append, List.cons_append, subtree?, child]
  rfl

theorem guide_nil (t : Node) : t.guide [] = "" := rfl

theorem guide_singleton (t : Node) (i : Nat) : t.guide [i] = connector (!t.hasLater [i]) := by
  unfold guide connector
  cases t.hasLater [i] <;> rfl

/-- Further down a child passes on whether siblings follow it. -/
theorem guide_cons (child : t.children[i]? = some c) (deeper : path ≠ []) :
    t.guide (i :: path) = extendGuide "" (!t.hasLater [i]) ++ c.guide path := by
  obtain ⟨k, length⟩ : ∃ k, path.length = k + 1 :=
    Nat.exists_eq_succ_of_ne_zero (mt List.eq_nil_of_length_eq_zero deeper)
  have steps (j : Nat) : t.hasLater ((i :: path).take (j + 1 + 1)) = c.hasLater (path.take (j + 1)) := by
    apply hasLater_cons child
    simp [deeper]
  have first : (i :: path).take (0 + 1) = [i] := rfl
  have unit : extendGuide "" (!t.hasLater [i]) = if t.hasLater [i] then "│ " else "  " := by
    cases t.hasLater [i] <;> rfl
  have units : (List.range ((i :: path).length - 1)).map
        (fun j => if t.hasLater ((i :: path).take (j + 1)) then "│ " else "  ") =
      (if t.hasLater [i] then "│ " else "  ") :: (List.range (path.length - 1)).map
        fun j => if c.hasLater (path.take (j + 1)) then "│ " else "  " := by
    rw [List.length_cons, length, Nat.add_sub_cancel, Nat.add_sub_cancel, List.range_succ_eq_map,
      List.map_cons, first, List.map_map]
    simp only [Function.comp_def, Nat.succ_eq_add_one, steps]
  rw [guide, if_neg (List.cons_ne_nil i path), units, guide, if_neg deeper, String.join_cons, unit,
    hasLater_cons child deeper, String.append_assoc]

/-! ### The lines of a drawing -/

/-- The lines below a node are drawn by the guides of the tree whose root it is. -/
def DrawnBelow (o : DrawingOptions) (t : Node) : Prop :=
  ∀ outer, forestLines o outer t.children =
    (forestPlaces 0 t.children).map fun place => outer ++ t.lineAt o place

/-- A child is drawn by the guides of its parent if what is below it is drawn by its own. -/
theorem DrawnBelow.branchLines_eq {o : DrawingOptions} (drawn : DrawnBelow o c)
    (child : t.children[i]? = some c) (outer : String) :
    branchLines o outer (!t.hasLater [i]) c =
      c.places.map fun place => outer ++ t.lineAt o (under i place) := by
  have own : outer ++ connector (!t.hasLater [i]) ++ caption o c.kind c.label c.literal =
      outer ++ t.lineAt o (under i ([], c)) := by
    rw [lineAt, under, guide_singleton, String.append_assoc]
  have below : ∀ place ∈ forestPlaces 0 c.children,
      extendGuide outer (!t.hasLater [i]) ++ c.lineAt o place =
        outer ++ t.lineAt o (under i place) := by
    intro place listed
    have deeper : place.1 ≠ [] := by
      obtain ⟨j, d, -, inner, -, rfl⟩ := mem_forestPlaces.mp listed
      exact List.cons_ne_nil _ _
    have outward : extendGuide outer (!t.hasLater [i]) =
        outer ++ extendGuide "" (!t.hasLater [i]) := by
      rw [extendGuide, extendGuide, String.empty_append]
    rw [lineAt, lineAt, under, guide_cons child deeper, outward]
    simp only [String.append_assoc]
  have whole : branchLines o outer (!t.hasLater [i]) c =
      (outer ++ connector (!t.hasLater [i]) ++ caption o c.kind c.label c.literal) ::
        forestLines o (extendGuide outer (!t.hasLater [i])) c.children := by
    cases c
    rw [branchLines]
  rw [whole, drawn, places_eq, List.map_cons, own, List.map_congr_left below]

/-- The children of a node from number `first` on. -/
theorem forestLines_eq_of_drawn {o : DrawingOptions} {ns : List Node} {first : Nat}
    (listed : t.children.drop first = ns) (each : ∀ c ∈ ns, DrawnBelow o c) (outer : String) :
    forestLines o outer ns = (forestPlaces first ns).map fun place => outer ++ t.lineAt o place := by
  induction ns generalizing first with
  | nil => rfl
  | cons n ns ih =>
    rw [List.forall_mem_cons] at each
    have child : t.children[first]? = some n := by
      rw [← Nat.add_zero first, ← List.getElem?_drop, listed]
      rfl
    have others : t.children.drop (first + 1) = ns := by
      rw [← List.drop_drop, listed]
      rfl
    -- What is left of the forest after this tree are its later siblings.
    have last : ns.isEmpty = !t.hasLater [first] := by
      rw [hasLater_singleton, ← Nat.add_zero (first + 1), ← List.getElem?_drop, others]
      cases ns <;> rfl
    rw [forestLines, forestPlaces, List.map_append, List.map_map, last,
      each.1.branchLines_eq child, ih others each.2]
    rfl

theorem drawnBelow (o : DrawingOptions) (t : Node) : DrawnBelow o t := by
  induction t using child_induction with
  | step t ih => exact forestLines_eq_of_drawn List.drop_zero ih

theorem drawingLines_eq (o : DrawingOptions) (t : Node) :
    t.drawingLines o = t.places.map (t.lineAt o) := by
  rw [drawingLines, drawnBelow, places_eq, List.map_cons]
  simp [lineAt, guide_nil]

/-! ### The lines of an outline -/

mutual

theorem levels_eq_places (level : Nat) : (n : Node) →
    n.levels level = n.places.map fun place => (level + place.1.length, place.2)
  | ⟨kind, label, literal, children⟩ => by
    rw [levels, places, List.map_cons, forestLevels_eq_places level 0 children]
    rfl

theorem forestLevels_eq_places (level first : Nat) : (ns : List Node) →
    forestLevels (level + 1) ns =
      (forestPlaces first ns).map fun place => (level + place.1.length, place.2)
  | [] => rfl
  | n :: ns => by
    rw [forestLevels, forestPlaces, List.map_append, List.map_map, levels_eq_places (level + 1) n,
      forestLevels_eq_places level (first + 1) ns]
    congr 1
    apply List.map_congr_left
    intro place _
    simp only [Function.comp_apply, under, List.length_cons, Prod.mk.injEq, and_true]
    omega

end

theorem outlineLines_eq (t : Node) :
    t.outlineLines = t.places.map fun place => indent place.1.length ++ place.2.label := by
  rw [outlineLines, outlineLinesAt_eq, levels_eq_places, List.map_map]
  simp [Function.comp_def]

/-- Drawing and outline go through the nodes of a tree in the order of a walk, which is that
of their positions. A node's line in the drawing is its guide and its caption; in the
outline it is two spaces for each step from the root and the label. -/
theorem texts_eq_walk (o : DrawingOptions) (t : Node) :
    t.places.map Prod.snd = t.walk.toList ∧
    (∀ path n, (path, n) ∈ t.places ↔ t.subtree? path = some n) ∧
    (t.places.map Prod.fst).Pairwise (List.Lex (· < ·)) ∧
    t.drawing o = String.join (t.places.map fun place =>
      t.guide place.1 ++ caption o place.2.kind place.2.label place.2.literal ++ "\n") ∧
    t.outline = String.join (t.places.map fun place =>
      String.ofList (List.replicate (2 * place.1.length) ' ') ++ place.2.label ++ "\n") := by
  refine ⟨?_, fun path n => mem_places, pairwise_positions t, ?_, ?_⟩
  · rw [map_snd_places, toList_walk]
  · rw [drawing, drawingLines_eq, List.map_map]
    rfl
  · rw [outline, outlineLines_eq, List.map_map]
    rfl

end ExprDisplay.Node
