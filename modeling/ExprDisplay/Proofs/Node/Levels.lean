import ExprDisplay.Node.Walk
import ExprDisplay.Proofs.Node.Position

/-!
A tree from its levels. Listed in pre-order with their levels, the nodes of a tree
determine its shape: the children of a node are what comes one level further down, until
the level falls back to that of the node.

Main statement: two trees whose levels agree in some data of the nodes have the same
shape, and that data agrees at every position.
-/

set_option autoImplicit false

namespace ExprDisplay.Node

variable {α β : Type} {f : Node → α}

/-- Two trees have the same positions, and what `f` shows of the nodes there is the same. -/
def SameAt (f : Node → α) (t t' : Node) : Prop :=
  ∀ path, (t.subtree? path).map f = (t'.subtree? path).map f

/-- As `SameAt`, for the trees of two forests one by one. -/
def SameForest (f : Node → α) (ns ns' : List Node) : Prop :=
  ∀ (i : Nat) path, (ns[i]?.bind (·.subtree? path)).map f = (ns'[i]?.bind (·.subtree? path)).map f

theorem SameForest.cons {n n' : Node} {ns ns' : List Node} (first : SameAt f n n')
    (others : SameForest f ns ns') : SameForest f (n :: ns) (n' :: ns')
  | 0, path => first path
  | i + 1, path => others i path

theorem SameAt.of_children {t t' : Node} (root : f t = f t')
    (below : SameForest f t.children t'.children) : SameAt f t t'
  | [] => congrArg some root
  | i :: path => below i path

/-- What follows from the data that agrees agrees as well. -/
theorem SameAt.imp {g : Node → β} {t t' : Node} (same : SameAt f t t')
    (follows : ∀ n n', f n = f n' → g n = g n') : SameAt g t t' := by
  intro path
  have here := same path
  cases left : t.subtree? path <;> cases right : t'.subtree? path <;>
    simp only [left, right, Option.map_some, Option.map_none, Option.some.injEq, reduceCtorEq]
      at here ⊢
  exact follows _ _ here

/-- What is shown of a node on its level. -/
def shown (f : Node → α) (entry : Nat × Node) : Nat × α := (entry.1, f entry.2)

theorem levels_eq (level : Nat) (n : Node) :
    n.levels level = (level, n) :: forestLevels (level + 1) n.children := by
  cases n
  rw [levels]

mutual

theorem map_snd_levels (level : Nat) : (n : Node) → (n.levels level).map Prod.snd = n.preorder
  | ⟨kind, label, literal, children⟩ => by
    rw [levels, preorder, List.map_cons, map_snd_forestLevels (level + 1) children]

theorem map_snd_forestLevels (level : Nat) :
    (ns : List Node) → (forestLevels level ns).map Prod.snd = forestPreorder ns
  | [] => rfl
  | n :: ns => by
    rw [forestLevels, forestPreorder, List.map_append, map_snd_levels level n,
      map_snd_forestLevels level ns]

end

theorem mem_preorder_of_mem_levels {level : Nat} {n : Node} {entry : Nat × Node}
    (listed : entry ∈ n.levels level) : entry.2 ∈ n.preorder := by
  rw [← map_snd_levels level]
  exact List.mem_map_of_mem listed

/-- The tree can be read off its levels, up to what `f` shows, when what follows is not
below its root. -/
def ReadsOff (f : Node → α) (t : Node) : Prop :=
  ∀ (level : Nat) (t' : Node) (rest rest' : List (Nat × α)),
    (∀ entry ∈ rest.head?, entry.1 ≤ level) → (∀ entry ∈ rest'.head?, entry.1 ≤ level) →
    (t.levels level).map (shown f) ++ rest = (t'.levels level).map (shown f) ++ rest' →
      SameAt f t t' ∧ rest = rest'

/-- What follows a tree in a forest is not below its root. -/
theorem head_forestLevels {level : Nat} (ns : List Node) {rest : List (Nat × α)}
    (above : ∀ entry ∈ rest.head?, entry.1 < level) :
    ∀ entry ∈ ((forestLevels level ns).map (shown f) ++ rest).head?, entry.1 ≤ level := by
  cases ns with
  | nil => exact fun entry head => Nat.le_of_lt (above entry head)
  | cons n ns => simp [forestLevels, levels_eq, shown]

theorem forestLevels_inj {level : Nat} {ns ns' : List Node} {rest rest' : List (Nat × α)}
    (each : ∀ n ∈ ns, ReadsOff f n) (above : ∀ entry ∈ rest.head?, entry.1 < level)
    (above' : ∀ entry ∈ rest'.head?, entry.1 < level)
    (same : (forestLevels level ns).map (shown f) ++ rest =
      (forestLevels level ns').map (shown f) ++ rest') :
    SameForest f ns ns' ∧ rest = rest' := by
  induction ns generalizing ns' with
  | nil =>
    cases ns' with
    | nil => exact ⟨fun _ _ => rfl, same⟩
    | cons n' ns' =>
      have head : (level, f n') ∈ rest.head? := by
        simp [forestLevels, levels_eq, shown] at same
        simp [same]
      exact absurd (above _ head) (Nat.lt_irrefl level)
  | cons n ns ih =>
    cases ns' with
    | nil =>
      have head : (level, f n) ∈ rest'.head? := by
        simp [forestLevels, levels_eq, shown] at same
        simp [← same]
      exact absurd (above' _ head) (Nat.lt_irrefl level)
    | cons n' ns' =>
      simp only [forestLevels, List.map_append, List.append_assoc] at same
      obtain ⟨first, same⟩ := each n List.mem_cons_self level n' _ _ (head_forestLevels ns above)
        (head_forestLevels ns' above') same
      obtain ⟨others, rests⟩ := ih (fun m later => each m (List.mem_cons_of_mem _ later)) same
      exact ⟨.cons first others, rests⟩

theorem readsOff (f : Node → α) (t : Node) : ReadsOff f t := by
  induction t using child_induction with
  | step t ih =>
    intro level t' rest rest' above above' same
    simp only [levels_eq, List.map_cons, List.cons_append, List.cons.injEq] at same
    have root : f t = f t' := (Prod.mk.inj same.1).2
    have deeper {rest : List (Nat × α)} (above : ∀ entry ∈ rest.head?, entry.1 ≤ level) :
        ∀ entry ∈ rest.head?, entry.1 < level + 1 :=
      fun entry head => Nat.lt_succ_of_le (above entry head)
    obtain ⟨below, rests⟩ := forestLevels_inj ih (deeper above) (deeper above') same.2
    exact ⟨.of_children root below, rests⟩

/-- Trees with the same levels have the same shape. -/
theorem sameAt_of_levels {t t' : Node}
    (same : (t.levels 0).map (shown f) = (t'.levels 0).map (shown f)) : SameAt f t t' :=
  (readsOff f t 0 t' [] [] nofun nofun (by rw [same])).1

end ExprDisplay.Node
