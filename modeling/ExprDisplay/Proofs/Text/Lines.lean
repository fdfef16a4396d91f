/-!
Lines of a text. A line is what stands before a line end; what follows the last line end
is no line.

Main statement: lines that are written one after another, each with a line end, are read
back as they are. If one of them has a line end of its own, there are more lines than were
written.
-/

set_option autoImplicit false

namespace ExprDisplay

/-- A text without a line end. -/
def SingleLine (s : String) : Prop := '\n' ∉ s.toList

instance (s : String) : Decidable (SingleLine s) := inferInstanceAs (Decidable ('\n' ∉ s.toList))

@[simp] theorem singleLine_append {s t : String} :
    SingleLine (s ++ t) ↔ SingleLine s ∧ SingleLine t := by
  simp [SingleLine]

theorem singleLine_join {texts : List String} :
    SingleLine (String.join texts) ↔ ∀ s ∈ texts, SingleLine s := by
  induction texts with
  | nil => simp [SingleLine]
  | cons s texts ih => rw [String.join_cons, singleLine_append, ih, List.forall_mem_cons]

theorem singleLine_intercalate {separator : String} {texts : List String}
    (between : SingleLine separator) (each : ∀ s ∈ texts, SingleLine s) :
    SingleLine (separator.intercalate texts) := by
  induction texts with
  | nil =>
    rw [String.intercalate_nil]
    decide
  | cons s texts ih =>
    rw [List.forall_mem_cons] at each
    cases texts with
    | nil =>
      rw [String.intercalate_singleton]
      exact each.1
    | cons t texts =>
      rw [String.intercalate_cons_cons, singleLine_append, singleLine_append]
      exact ⟨⟨each.1, between⟩, ih each.2⟩

theorem singleLine_ofList {cs : List Char} : SingleLine (String.ofList cs) ↔ '\n' ∉ cs := by
  simp [SingleLine]

/-- The lines of a text, in characters. -/
def charLines : List Char → List (List Char)
  | [] => []
  | c :: cs =>
    if c = '\n' then [] :: charLines cs
    else
      match charLines cs with
      | [] => []
      | line :: lines => (c :: line) :: lines

/-- The lines of a text, without their ends. -/
def lines (text : String) : List String := (charLines text.toList).map String.ofList

example : lines "a\n\nb\nc" = ["a", "", "b"] := by decide

theorem length_charLines (cs : List Char) : (charLines cs).length = cs.count '\n' := by
  induction cs with
  | nil => rfl
  | cons c cs ih =>
    rw [charLines]
    split
    · subst c
      rw [List.length_cons, ih, List.count_cons_self]
    · rename_i other
      rw [List.count_cons_of_ne other, ← ih]
      cases charLines cs <;> rfl

theorem charLines_append {line : List Char} (single : '\n' ∉ line) (rest : List Char) :
    charLines (line ++ '\n' :: rest) = line :: charLines rest := by
  induction line with
  | nil => simp [charLines]
  | cons c line ih =>
    rw [List.mem_cons, not_or] at single
    have other : c ≠ '\n' := fun same => single.1 same.symm
    rw [List.cons_append, charLines, if_neg other, ih single.2]

variable {written : List String}

theorem toList_join_ended (line : String) (written : List String) :
    (String.join ((line :: written).map (· ++ "\n"))).toList =
      line.toList ++ '\n' :: (String.join (written.map (· ++ "\n"))).toList := by
  simp [String.join_cons]

/-- Written lines are read back. -/
theorem lines_join (single : ∀ line ∈ written, SingleLine line) :
    lines (String.join (written.map (· ++ "\n"))) = written := by
  induction written with
  | nil => rfl
  | cons line written ih =>
    rw [List.forall_mem_cons] at single
    have others := ih single.2
    unfold lines at others ⊢
    rw [toList_join_ended, charLines_append single.1, List.map_cons, others, String.ofList_toList]

/-- Every line end of a text ends one line. -/
theorem length_lines_join (written : List String) :
    (lines (String.join (written.map (· ++ "\n")))).length =
      written.length + (String.join written).toList.count '\n' := by
  unfold lines
  rw [List.length_map, length_charLines]
  induction written with
  | nil => rfl
  | cons line written ih =>
    rw [toList_join_ended, List.count_append, List.count_cons_self, ih, String.join_cons,
      String.toList_append, List.count_append, List.length_cons]
    omega

/-- There are as many lines as were written exactly where each is single. -/
theorem length_lines_join_iff :
    (lines (String.join (written.map (· ++ "\n")))).length = written.length ↔
      ∀ line ∈ written, SingleLine line := by
  rw [length_lines_join, Nat.add_eq_left, List.count_eq_zero]
  exact singleLine_join

/-- Lines can be told apart by their ends. -/
theorem lines_inj {written' : List String} (single : ∀ line ∈ written, SingleLine line)
    (single' : ∀ line ∈ written', SingleLine line)
    (same : String.join (written.map (· ++ "\n")) = String.join (written'.map (· ++ "\n"))) :
    written = written' := by
  rw [← lines_join single, same, lines_join single']

end ExprDisplay
