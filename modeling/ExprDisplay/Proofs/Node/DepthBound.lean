import ExprDisplay.Proofs.Node.Standing

/-!
How deep a display tree gets under a limit. The limit is checked where an expression is
built, and a group stands between an expression and what is inside the group without
such a check. A switch, a try or a list initializer right above the limit therefore
puts its groups at the limit and something below them.

Main statement: a tree is at most one level deeper than its limit says, and it keeps
the limit exactly where no such expression stands on the last level before it.
-/

set_option autoImplicit false

namespace ExprDisplay

/-- Whether an expression shows a group that has something in it. -/
def Expr.hasGroup : Expr → Bool
  | .switch _ cases _ _ => !cases.isEmpty
  | .tryCatch _ handlers _ _ => !handlers.isEmpty
  | .listInit construction _ => !construction.arguments.isEmpty
  | _ => false

theorem Construction.entries_eq_nil {c : Construction Expr} : c.entries = [] ↔ c.arguments = [] := by
  rw [← List.length_eq_zero_iff, ← List.length_eq_zero_iff, entries, List.length_map, labelled,
    ← List.length_map (f := Prod.snd), map_snd_pair]

theorem Expr.hasGroup_iff {e : Expr} :
    e.hasGroup = true ↔ ∃ head entries, .group head entries ∈ e.slots ∧ entries ≠ [] := by
  cases e with
  | listInit construction initializers =>
    have arguments : (Expr.listInit construction initializers).hasGroup = true ↔
        construction.entries ≠ [] := by
      simp [hasGroup, Construction.entries_eq_nil]
    rw [arguments]
    constructor
    · exact fun filled => ⟨_, _, List.mem_singleton_self _, filled⟩
    · rintro ⟨head, entries, group, filled⟩
      obtain ⟨-, rfl⟩ : _ ∧ entries = construction.entries := by simpa [slots] using group
      exact filled
  | switch value cases defaultBody ty =>
    cases cases with
    | nil => simp [hasGroup, slots]
    | cons c cases => exact iff_of_true rfl ⟨_, _, List.mem_cons_self, by simp⟩
  | tryCatch body handlers finalizer ty =>
    cases handlers with
    | nil => simp [hasGroup, slots, Slot.sub]
    | cons h handlers =>
      exact iff_of_true rfl ⟨_, _, List.mem_cons_of_mem _ List.mem_cons_self, by simp⟩
  | _ => simp [hasGroup, slots, Slot.sub, Slot.plain, Slot.leaf]

namespace Node

variable {limit depth : Nat}

theorem depth_truncated (role : Option String) (e : Expr) : (truncated depth role e).depth = 1 :=
  depth_leaf rfl

theorem depth_assemble_le {near far : Builder} {role : Option String} {e : Expr} {k : Nat} :
    (assemble near far role e).depth ≤ k + 1 ↔
      ∀ slot ∈ e.slots, (fillSlot near far slot).depth ≤ k := by
  rw [depth_le_succ]
  simp [assemble]

theorem depth_group_le {near far : Builder} {head : Node} {entries : List Entry} {k : Nat} :
    (fillSlot near far (.group head entries)).depth ≤ k + 1 ↔
      ∀ entry ∈ entries, (fillEntry far entry).depth ≤ k := by
  rw [depth_le_succ]
  simp [fillSlot]

theorem depth_leaf_slot {e : Expr} {node : Node} (slot : .entry (.leaf node) ∈ e.slots) :
    node.depth = 1 := by
  obtain ⟨i, place⟩ := List.getElem?_of_mem slot
  rcases leaf_slot place with ⟨label, rfl⟩ | ⟨p, rfl, -⟩ <;> exact depth_leaf rfl

theorem depth_leaf_entry {e : Expr} {head node : Node} {entries : List Entry}
    (group : .group head entries ∈ e.slots) (listed : .leaf node ∈ entries) : node.depth = 1 := by
  obtain ⟨label, rfl⟩ := leaf_entry group listed
  exact depth_leaf rfl

/-- One level of the tree, when there is room for what its slots and groups hold. -/
theorem depth_assemble_le_of {near far : Builder} {role : Option String} {e : Expr} {k : Nat}
    (nearBound : ∀ (i : Nat) r c, e.slots[i]? = some (.entry (.sub r c)) → (near r c).depth ≤ k + 1)
    (farBound : ∀ (i j : Nat) head entries r c, e.slots[i]? = some (.group head entries) →
      entries[j]? = some (.sub r c) → (far r c).depth ≤ k)
    (room : e.hasGroup = true → 1 ≤ k) : (assemble near far role e).depth ≤ k + 2 := by
  rw [depth_assemble_le]
  intro slot listed
  obtain ⟨i, place⟩ := List.getElem?_of_mem listed
  match slot with
  | .entry (.sub r c) => exact nearBound i r c place
  | .entry (.leaf node) =>
    have : node.depth = 1 := depth_leaf_slot listed
    simp only [fillSlot, fillEntry]
    omega
  | .group head entries =>
    rw [depth_group_le]
    intro entry inside
    obtain ⟨j, position⟩ := List.getElem?_of_mem inside
    have levels : 1 ≤ k :=
      room (Expr.hasGroup_iff.mpr ⟨head, entries, listed, List.ne_nil_of_mem inside⟩)
    cases entry with
    | sub r c => exact farBound i j head entries r c place position
    | leaf node =>
      have : node.depth = 1 := depth_leaf_entry listed inside
      simp only [fillEntry]
      omega

/-- Whatever stands at the limit, the tree ends one level below it. -/
theorem depth_builderAt_le (depth : Nat) (role : Option String) (e : Expr) :
    (builderAt limit depth role e).depth ≤ limit - depth + 2 := by
  refine (builderAt_induction (P := fun depth b => ∀ role e,
    (limit ≤ depth → (b role e).depth = 1) ∧ (b role e).depth ≤ limit - depth + 2)
    ?_ ?_ depth role e).2
  · intro depth _ role e
    rw [depth_truncated]
    exact ⟨fun _ => rfl, by omega⟩
  · intro depth below near far role e
    refine ⟨fun reached => by omega, depth_assemble_le_of ?_ ?_ (fun _ => by omega)⟩
    · intro i r c _
      have := (near r c).2
      omega
    · intro i j head entries r c _ _
      have := far r c
      omega

/-- Without a group on the last level before the limit the tree ends at the limit. -/
theorem depth_builderAt_le_of_room (depth : Nat) (role : Option String) (e : Expr)
    (room : ∀ path r c, StandsAt role e path r c → depth + path.length + 1 = limit →
      c.hasGroup = false) :
    (builderAt limit depth role e).depth ≤ limit - depth + 1 := by
  refine builderAt_induction (P := fun depth b => ∀ role e, (∀ path r c, StandsAt role e path r c →
    depth + path.length + 1 = limit → c.hasGroup = false) → (b role e).depth ≤ limit - depth + 1)
    ?_ ?_ depth role e room
  · intro depth _ role e _
    rw [depth_truncated]
    omega
  · intro depth below near far role e room
    -- A group at `e` needs a level for itself and one for what is inside.
    have grouped (has : e.hasGroup = true) : depth + 2 ≤ limit := by
      by_cases last : depth + 1 = limit
      · have empty := room [] role e .root (by simpa using last)
        rw [empty] at has
        cases has
      · omega
    obtain ⟨k, levels⟩ : ∃ k, limit - depth = k + 1 := ⟨limit - depth - 1, by omega⟩
    rw [levels]
    refine depth_assemble_le_of ?_ ?_ (fun has => by have := grouped has; omega)
    · intro i r c place
      have := near r c fun path r' c' stands last =>
        room ([i] ++ path) r' c' (.step (.entry place) stands) (by simp; omega)
      omega
    · intro i j head entries r c place position
      have has : e.hasGroup = true := Expr.hasGroup_iff.mpr
        ⟨head, entries, List.mem_of_getElem? place, List.ne_nil_of_mem (List.mem_of_getElem? position)⟩
      have := grouped has
      have := far r c fun path r' c' stands last =>
        room ([i, j] ++ path) r' c' (.step (.grouped place position) stands) (by simp; omega)
      omega

/-- A group on the last level before the limit puts a node below the limit. -/
theorem exists_below_limit {role r : Option String} {e c : Expr} {path : List Nat}
    (stands : StandsAt role e path r c) (last : path.length + 1 = limit)
    (has : c.hasGroup = true) :
    ∃ i j n, (ofExpr limit role e).subtree? (path ++ [i, j]) = some n := by
  have root : StandsFor limit 0 role e (ofExpr limit role e) := standsFor_builderAt role e
  obtain ⟨m, here⟩ := exists_subtree? stands root (by omega)
  obtain ⟨head, entries, listed, filled⟩ := Expr.hasGroup_iff.mp has
  obtain ⟨i, place⟩ := List.getElem?_of_mem listed
  obtain ⟨entry, inside⟩ := List.exists_mem_of_ne_nil entries filled
  obtain ⟨j, position⟩ := List.getElem?_of_mem inside
  rcases standsFor_subtree? stands root here with ⟨reached, -⟩ | rfl
  · omega
  · exact ⟨i, j, _, subtree?_append.mpr ⟨_, here, subtree?_grouped place position⟩⟩

/-- A tree is at most one level deeper than its limit. No node lies below the limit, and
the nodes at the limit are leaves, exactly where no expression on the last level before
the limit has a group with something in it. -/
theorem ofExpr_within_limit_iff (limit : Nat) (role : Option String) (e : Expr) :
    (ofExpr limit role e).depth ≤ limit + 2 ∧
    (((∀ path n, (ofExpr limit role e).subtree? path = some n → path.length ≤ limit) ∧
        (ofExpr limit role e).depth ≤ limit + 1 ∧
        ∀ path n, (ofExpr limit role e).subtree? path = some n → path.length = limit →
          n.isLeaf = true) ↔
      ∀ path r c, StandsAt role e path r c → path.length + 1 = limit → c.hasGroup = false) := by
  refine ⟨depth_builderAt_le 0 role e, ?_, ?_⟩
  · rintro ⟨short, -, -⟩ path r c stands last
    cases has : c.hasGroup with
    | false => rfl
    | true =>
      obtain ⟨i, j, n, here⟩ := exists_below_limit stands last has
      have deep := short _ n here
      simp only [List.length_append, List.length_cons, List.length_nil] at deep
      omega
  · intro room
    have bound : (ofExpr limit role e).depth ≤ limit + 1 :=
      depth_builderAt_le_of_room 0 role e (by simpa using room)
    have short (path : List Nat) (n : Node)
        (here : (ofExpr limit role e).subtree? path = some n) : path.length ≤ limit :=
      Nat.le_of_lt_succ (depth_le_iff.mp bound path n here)
    refine ⟨short, bound, fun path n here atLimit => ?_⟩
    -- A child would stand below the limit.
    cases children : n.children with
    | nil => simp [isLeaf, children]
    | cons c cs =>
      have child : n.children[0]? = some c := by simp [children]
      have below := short (path ++ [0]) c
        (subtree?_append.mpr ⟨n, here, subtree?_cons.mpr ⟨c, child, subtree?_nil c⟩⟩)
      simp only [List.length_append, List.length_cons, List.length_nil] at below
      omega

/-- The construction of a list initializer at the limit keeps its argument, which stands
below the limit. -/
theorem listInit_exceeds_limit :
    let x : Expr := .parameter (.named .int "x")
    let tree := ofExpr 1 none (.listInit ⟨.named "List" .classType, [x], none⟩ [])
    ¬ tree.depth ≤ 1 + 1 ∧
      ∃ n, tree.subtree? [0] = some n ∧ n.kind = some .new ∧ n.isLeaf = false := by
  refine ⟨?_, _, rfl, rfl, rfl⟩
  decide

end Node

end ExprDisplay
