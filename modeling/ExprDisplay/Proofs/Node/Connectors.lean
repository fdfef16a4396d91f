import ExprDisplay.Proofs.Node.Guides
import ExprDisplay.Proofs.Node.LinePerNode

/-!
Connectors across lines. Siblings that follow a node leave something open in the column of
its connector: a tee in its own line, a bar in the lines of what is below it. It stays open
until the next sibling comes.

Main statement: in a drawing every tee and every bar goes on in the next line, every bar
comes from the line before, and so does every connector unless that is the line of the
parent.
-/

set_option autoImplicit false

namespace ExprDisplay.Node

variable {t : Node} {i m column : Nat} {path p q : List Nat}

/-- Siblings follow the node that is passed at step `m` on the way to a position. -/
def Open (t : Node) (path : List Nat) (m : Nat) : Prop :=
  ∃ x j rest, path = x ++ j :: rest ∧ x.length = m ∧ x ++ [j + 1] ∈ t.positions

/-! ### From one position to the next -/

/-- What is open stays open up to the next sibling. -/
theorem Open.next (left : Open t p m) (here : t.positions[i]? = some p) :
    ∃ q, t.positions[i + 1]? = some q ∧ (Open t q m ∨ m + 1 = q.length) := by
  obtain ⟨x, j, rest, rfl, rfl, sibling⟩ := left
  have before : Before (x ++ j :: rest) (x ++ [j + 1]) := .append x (.rel (Nat.lt_succ_self j))
  obtain ⟨q, next, after, upTo⟩ := exists_next here sibling before
  refine ⟨q, next, ?_⟩
  rcases upTo with rfl | upTo
  · exact .inr (by simp)
  · obtain ⟨z, rfl⟩ := eq_append_cons_of_between after upTo
    exact .inl ⟨x, j, z, rfl, rfl, sibling⟩

/-- What is open above a node was open before it. -/
theorem Open.previous (left : Open t q m) (deeper : m + 1 < q.length)
    (here : t.positions[i]? = some q) :
    ∃ k p, i = k + 1 ∧ t.positions[k]? = some p ∧ Open t p m := by
  obtain ⟨x, j, rest, rfl, rfl, sibling⟩ := left
  have listed := List.mem_of_getElem? here
  cases rest with
  | nil => simp at deeper
  | cons l rest =>
    rw [List.append_cons] at listed here
    obtain ⟨k, p, rfl, previous, before, onward⟩ := exists_previous here
      (mem_positions_of_append listed) (before_append_cons (x ++ [j]) l rest)
    obtain ⟨z, rfl⟩ := eq_append_of_between onward before
    exact ⟨k, _, rfl, previous, x, j, z, (List.append_cons x j z).symm, rfl, sibling⟩

/-- Before a child comes its parent, or something below an earlier child. -/
theorem exists_before_child {parent : List Nat} {j : Nat}
    (here : t.positions[i]? = some (parent ++ [j])) :
    ∃ k p, i = k + 1 ∧ t.positions[k]? = some p ∧ (p = parent ∨ Open t p parent.length) := by
  have listed := List.mem_of_getElem? here
  obtain ⟨k, p, rfl, previous, before, onward⟩ := exists_previous here
    (mem_positions_of_append listed) (before_append_cons parent j [])
  refine ⟨k, p, rfl, previous, ?_⟩
  obtain ⟨z, rfl⟩ := eq_append_of_between onward before
  cases z with
  | nil => exact .inl (List.append_nil parent)
  | cons l z =>
    have earlier : l < j := by
      cases before.of_append with
      | rel less => exact less
      | cons none => exact absurd none List.not_lex_nil
    exact .inr ⟨parent, l, z, rfl, rfl, mem_positions_of_le earlier listed⟩

/-! ### Columns of a guide -/

theorem open_iff : Open t path m ↔ m < path.length ∧ t.hasLater (path.take (m + 1)) := by
  constructor
  · rintro ⟨x, j, rest, rfl, rfl, sibling⟩
    have passed : (x ++ j :: rest).take (x.length + 1) = x ++ [j] := by
      rw [List.take_length_add_append, List.take_succ_cons, List.take_zero]
    rw [passed, hasLater_append]
    exact ⟨by simp, mem_positions.mp sibling⟩
  · rintro ⟨inside, later⟩
    rw [List.take_succ_eq_append_getElem inside, hasLater_append] at later
    refine ⟨path.take m, path[m], path.drop (m + 1), ?_, ?_, mem_positions.mpr later⟩
    · rw [List.getElem_cons_drop, List.take_append_drop]
    · exact List.length_take_of_le (Nat.le_of_lt inside)

/-- Units of two characters, one after another, before something else. -/
theorem getElem?_units (f : Nat → Char) (k column : Nat) (rest : List Char) :
    (((List.range k).flatMap fun j => [f j, ' ']) ++ rest)[column]? =
      if column < 2 * k then some (if column % 2 = 0 then f (column / 2) else ' ')
      else rest[column - 2 * k]? := by
  induction k generalizing f column with
  | zero => simp
  | succ k ih =>
    rw [List.range_succ_eq_map, List.flatMap_cons, List.flatMap_map]
    rcases column with _ | _ | column
    · simp
    · have inside : 1 < 2 * (k + 1) := by omega
      simp [inside]
    · have half : (column + 2) / 2 = column / 2 + 1 := by omega
      have even : (column + 2) % 2 = column % 2 := by omega
      have inside : column + 2 < 2 * (k + 1) ↔ column < 2 * k := by omega
      have beyond : column + 2 - 2 * (k + 1) = column - 2 * k := by omega
      have inner := ih (fun j => f (j + 1)) column
      simp only [Nat.succ_eq_add_one, List.cons_append, List.nil_append, List.getElem?_cons_succ,
        inner, half, even, inside, beyond]

/-- What the guide of a position has for step `m` on the way to it. -/
def markAt (t : Node) (path : List Nat) (m : Nat) : Char :=
  if t.hasLater (path.take (m + 1)) then if m + 1 < path.length then '│' else '├'
  else if m + 1 < path.length then ' ' else '└'

theorem markAt_of_lt (passed : m + 1 < path.length) :
    markAt t path m = if t.hasLater (path.take (m + 1)) then '│' else ' ' := by
  rw [markAt, if_pos passed, if_pos passed]

theorem markAt_of_eq (reached : path.length = m + 1) :
    markAt t path m = if t.hasLater path then '├' else '└' := by
  have stop : ¬ m + 1 < path.length := by omega
  rw [markAt, if_neg stop, if_neg stop, ← reached, List.take_length]

theorem markAt_open_iff (inside : m < path.length) :
    markAt t path m ∈ ['│', '├'] ↔ Open t path m := by
  rw [open_iff, markAt]
  by_cases later : t.hasLater (path.take (m + 1)) <;> by_cases passed : m + 1 < path.length <;>
    simp [later, passed, inside]

theorem markAt_connector_iff (inside : m < path.length) :
    markAt t path m ∈ ['├', '└'] ↔ m + 1 = path.length := by
  rw [markAt]
  by_cases later : t.hasLater (path.take (m + 1)) <;> by_cases passed : m + 1 < path.length <;>
    simp [later, passed] <;> omega

theorem lt_of_markAt_bar (bar : markAt t path m = '│') : m + 1 < path.length := by
  rw [markAt] at bar
  by_cases later : t.hasLater (path.take (m + 1)) <;> by_cases passed : m + 1 < path.length <;>
    simp [later, passed] at bar
  exact passed

theorem toList_guide (below : path ≠ []) :
    (t.guide path).toList =
      ((List.range (path.length - 1)).flatMap fun j =>
        [if t.hasLater (path.take (j + 1)) then '│' else ' ', ' ']) ++
        [if t.hasLater path then '├' else '└', '─', ' '] := by
  have unit (later : Bool) :
      (if later then "│ " else "  ").toList = [if later then '│' else ' ', ' '] := by
    cases later <;> rfl
  have joint (later : Bool) :
      (if later then "├─ " else "└─ ").toList = [if later then '├' else '└', '─', ' '] := by
    cases later <;> rfl
  rw [guide, if_neg below, String.toList_append, joint, String.toList_join, List.flatMap_map]
  simp only [unit]

/-- The steps have the even columns; in the others there is nothing but filling. -/
theorem getElem?_guide_iff {mark : Char} (blank : mark ≠ ' ') (filling : mark ≠ '─') :
    (t.guide path).toList[column]? = some mark ↔
      ∃ m < path.length, column = 2 * m ∧ markAt t path m = mark := by
  rcases Nat.eq_zero_or_pos path.length with empty | below
  · obtain rfl := List.eq_nil_of_length_eq_zero empty
    simp [guide_nil]
  obtain ⟨k, length⟩ : ∃ k, path.length = k + 1 := ⟨path.length - 1, by omega⟩
  rw [toList_guide (List.ne_nil_of_length_pos below), length, Nat.add_sub_cancel, getElem?_units]
  constructor
  · intro found
    split at found
    · rename_i passed
      have inner : column / 2 + 1 < path.length := by omega
      split at found
      · refine ⟨column / 2, by omega, by omega, ?_⟩
        rw [markAt_of_lt inner]
        exact Option.some.inj found
      · exact absurd (Option.some.inj found).symm blank
    · rename_i reached
      obtain ⟨d, rfl⟩ : ∃ d, column = 2 * k + d := ⟨column - 2 * k, by omega⟩
      rw [Nat.add_sub_cancel_left] at found
      rcases d with _ | _ | _ | d
      · refine ⟨k, by omega, rfl, ?_⟩
        rw [markAt_of_eq length]
        exact Option.some.inj found
      · exact absurd (Option.some.inj found).symm filling
      · exact absurd (Option.some.inj found).symm blank
      · cases found
  · rintro ⟨m, inside, rfl, rfl⟩
    have even : 2 * m % 2 = 0 := by omega
    have half : 2 * m / 2 = m := by omega
    have upTo : m ≤ k := by omega
    rcases Nat.lt_or_eq_of_le upTo with passed | rfl
    · have inner : 2 * m < 2 * k := by omega
      rw [if_pos inner, if_pos even, half, markAt_of_lt (by omega)]
    · rw [if_neg (Nat.lt_irrefl _), Nat.sub_self, markAt_of_eq length]
      rfl

/-! ### The guides of the lines -/

/-- What a line has before its icon. -/
def guidePart (line : String) : List Char :=
  line.toList.takeWhile fun c => (kindOfIcon (String.singleton c)).isNone

/-- Line `i` has one of the marks in a column of its guide. -/
def HasMark (drawn : List String) (i column : Nat) (marks : List Char) : Prop :=
  ∃ mark ∈ marks, (drawn[i]?.bind fun line => (guidePart line)[column]?) = some mark

theorem kindOfIcon_of_mem_guide {c : Char} (listed : c ∈ (t.guide path).toList) :
    (kindOfIcon (String.singleton c)).isNone := by
  have drawn : c ∈ [' ', '│', '├', '└', '─'] := by
    by_cases below : path = []
    · rw [below, guide_nil] at listed
      cases listed
    · rw [toList_guide below, List.mem_append, List.mem_flatMap] at listed
      rcases listed with ⟨j, -, unit⟩ | joint
      · split at unit <;> grind
      · split at joint <;> grind
  simp only [List.mem_cons, List.not_mem_nil, or_false] at drawn
  rcases drawn with rfl | rfl | rfl | rfl | rfl <;> decide

theorem guidePart_lineAt (o : DrawingOptions) (t : Node) (place : List Nat × Node) :
    guidePart (t.lineAt o place) = (t.guide place.1).toList := by
  obtain ⟨more, caption⟩ := captionChars_eq o place.2
  obtain ⟨c, mark, -⟩ := icon_eq place.2.kind
  have icon : kindOfIcon (String.singleton c) = some (place.2.kind.getD .extension) := by
    rw [← kindOfIcon_icon]
    congr 1
    rw [← String.toList_inj, mark, String.toList_singleton]
  unfold captionChars at caption
  rw [guidePart, lineAt, String.toList_append, caption, mark,
    List.takeWhile_append_of_pos fun c listed => kindOfIcon_of_mem_guide listed]
  simp [icon]

theorem lines_drawing (o : DrawingOptions)
    (single : ∀ n ∈ t.walk.toList, SingleLine n.label ∧ SingleLines n.literal.toList) :
    lines (t.drawing o) = t.places.map (t.lineAt o) := by
  have captions : ∀ n ∈ t.preorder, '\n' ∉ captionChars o n := by
    intro n visited
    rw [← toList_walk] at visited
    exact singleLine_caption o (single n visited).1 (single n visited).2
  rw [drawing, lines_join (single_drawingLines captions), drawingLines_eq]

/-- A mark stands for a step on the way to the node of its line. -/
theorem hasMark_iff (o : DrawingOptions) {marks : List Char} (blank : ' ' ∉ marks)
    (filling : '─' ∉ marks) :
    HasMark (t.places.map (t.lineAt o)) i column marks ↔
      ∃ path m, t.positions[i]? = some path ∧ m < path.length ∧ column = 2 * m ∧
        markAt t path m ∈ marks := by
  unfold HasMark positions
  constructor
  · rintro ⟨mark, listed, found⟩
    obtain ⟨line, here, found⟩ := Option.bind_eq_some_iff.mp found
    rw [List.getElem?_map, Option.map_eq_some_iff] at here
    obtain ⟨place, here, rfl⟩ := here
    rw [guidePart_lineAt, getElem?_guide_iff (ne_of_mem_of_not_mem listed blank)
      (ne_of_mem_of_not_mem listed filling)] at found
    obtain ⟨m, inside, rfl, rfl⟩ := found
    exact ⟨place.1, m, by rw [List.getElem?_map, here]; rfl, inside, rfl, listed⟩
  · rintro ⟨path, m, here, inside, rfl, listed⟩
    rw [List.getElem?_map, Option.map_eq_some_iff] at here
    obtain ⟨place, here, rfl⟩ := here
    refine ⟨_, listed, ?_⟩
    rw [List.getElem?_map, here, Option.map_some, Option.bind_some, guidePart_lineAt,
      getElem?_guide_iff (ne_of_mem_of_not_mem listed blank)
        (ne_of_mem_of_not_mem listed filling)]
    exact ⟨m, inside, rfl, rfl⟩

theorem HasMark.mono {drawn : List String} {marks marks' : List Char}
    (has : HasMark drawn i column marks) (more : marks ⊆ marks') :
    HasMark drawn i column marks' := by
  obtain ⟨mark, listed, here⟩ := has
  exact ⟨mark, more listed, here⟩

/-- Bars and tees stand where something is open. -/
theorem hasMark_open_iff (o : DrawingOptions) :
    HasMark (t.places.map (t.lineAt o)) i column ['│', '├'] ↔
      ∃ path m, t.positions[i]? = some path ∧ column = 2 * m ∧ Open t path m := by
  rw [hasMark_iff o (by decide) (by decide)]
  constructor
  · rintro ⟨path, m, here, inside, place, mark⟩
    exact ⟨path, m, here, place, (markAt_open_iff inside).mp mark⟩
  · rintro ⟨path, m, here, place, left⟩
    have inside := (open_iff.mp left).1
    exact ⟨path, m, here, inside, place, (markAt_open_iff inside).mpr left⟩

/-- Line `k` is that of the parent of the node in line `i`. -/
def ParentLine (t : Node) (k i : Nat) : Prop :=
  ∃ parent j, t.positions[k]? = some parent ∧ t.positions[i]? = some (parent ++ [j])

/-- In a drawing of a tree with single-line labels and literals every tee and every bar goes
on in the next line, every bar comes from the line before, and every connector comes from
there or from the line of the parent. -/
theorem connectors_meet (o : DrawingOptions) {t : Node}
    (single : ∀ n ∈ t.walk.toList, SingleLine n.label ∧ SingleLines n.literal.toList) :
    let drawn := lines (t.drawing o)
    drawn = t.places.map (t.lineAt o) ∧
    (∀ place ∈ t.places, guidePart (t.lineAt o place) = (t.guide place.1).toList) ∧
    ∀ i column,
      (HasMark drawn i column ['│', '├'] → HasMark drawn (i + 1) column ['│', '├', '└']) ∧
      (HasMark drawn i column ['│'] → 0 < i ∧ HasMark drawn (i - 1) column ['│', '├']) ∧
      (HasMark drawn i column ['├', '└'] → 0 < i ∧
        (ParentLine t (i - 1) i ∨ HasMark drawn (i - 1) column ['│', '├'])) := by
  intro drawn
  have read : drawn = t.places.map (t.lineAt o) := lines_drawing o single
  refine ⟨read, fun place _ => guidePart_lineAt o t place, fun i column => ?_⟩
  rw [read]
  refine ⟨fun mark => ?_, fun mark => ?_, fun mark => ?_⟩
  · -- What is open stays open, or the next line is that of the sibling.
    obtain ⟨path, m, here, rfl, left⟩ := (hasMark_open_iff o).mp mark
    obtain ⟨q, next, left | reached⟩ := left.next here
    · exact ((hasMark_open_iff o).mpr ⟨q, m, next, rfl, left⟩).mono (by simp)
    · have inside : m < q.length := by omega
      have joint := (markAt_connector_iff (t := t) inside).mpr reached
      exact ((hasMark_iff o (by decide) (by decide)).mpr ⟨q, m, next, inside, rfl, joint⟩).mono
        (by simp)
  · obtain ⟨path, m, here, inside, rfl, bar⟩ := (hasMark_iff o (by decide) (by decide)).mp mark
    have left := (markAt_open_iff inside).mp (List.mem_cons.mpr (.inl (List.mem_singleton.mp bar)))
    obtain ⟨k, p, rfl, previous, left⟩ :=
      left.previous (lt_of_markAt_bar (List.mem_singleton.mp bar)) here
    exact ⟨Nat.succ_pos k, (hasMark_open_iff o).mpr ⟨p, m, previous, rfl, left⟩⟩
  · obtain ⟨path, m, here, inside, rfl, joint⟩ := (hasMark_iff o (by decide) (by decide)).mp mark
    have reached := (markAt_connector_iff inside).mp joint
    obtain ⟨parent, j, rfl⟩ : ∃ parent j, path = parent ++ [j] :=
      ⟨_, _, (List.dropLast_concat_getLast (List.ne_nil_of_length_pos (by omega))).symm⟩
    obtain rfl : m = parent.length := by simpa using reached
    obtain ⟨k, p, rfl, previous, rfl | left⟩ := exists_before_child here
    · exact ⟨Nat.succ_pos k, .inl ⟨p, j, previous, here⟩⟩
    · exact ⟨Nat.succ_pos k, .inr ((hasMark_open_iff o).mpr ⟨p, _, previous, rfl, left⟩)⟩

/-- The line of `d` has a bar from the line before to the next one, and its own connector
goes on from a line further down the tree. Labels may look like guides. -/
theorem connectors_meet_nested :
    let t : Node := ⟨some .block, "│ r", none,
      [⟨none, "a", some "├─", [⟨none, "b", none, [.leaf "└─ c"]⟩, .leaf "d"]⟩, .leaf "e"]⟩
    let drawn := lines (t.drawing ⟨0, true⟩)
    drawn = ["▣ │ r", "├─ ○ a  ⟨├─⟩", "│ ├─ ○ b", "│ │ └─ ○ └─ c", "│ └─ ○ d", "└─ ○ e"] ∧
      HasMark drawn 5 0 ['│', '├', '└'] ∧ HasMark drawn 3 0 ['│', '├'] ∧
      (ParentLine t 3 4 ∨ HasMark drawn 3 2 ['│', '├']) := by
  intro t drawn
  have single : ∀ n ∈ t.walk.toList, SingleLine n.label ∧ SingleLines n.literal.toList := by
    rw [toList_walk]
    decide
  obtain ⟨-, -, meet⟩ := connectors_meet ⟨0, true⟩ single
  have written : drawn = ["▣ │ r", "├─ ○ a  ⟨├─⟩", "│ ├─ ○ b", "│ │ └─ ○ └─ c", "│ └─ ○ d",
      "└─ ○ e"] := by decide
  have bar : HasMark drawn 4 0 ['│'] := by
    rw [written]
    exact ⟨'│', by decide, by decide⟩
  have corner : HasMark drawn 4 2 ['├', '└'] := by
    rw [written]
    exact ⟨'└', by decide, by decide⟩
  refine ⟨written, ?_, ?_, ?_⟩
  · exact (meet 4 0).1 (bar.mono (by decide))
  · exact ((meet 4 0).2.1 bar).2
  · exact ((meet 4 2).2.2 corner).2

end ExprDisplay.Node
