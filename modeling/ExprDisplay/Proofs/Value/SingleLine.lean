import ExprDisplay.Proofs.Decimal.Numeral
import ExprDisplay.Proofs.Text.Lines
import ExprDisplay.Proofs.Ty.Characters
import ExprDisplay.Value.Literal

/-!
Types and values on a single line. What is written for a type is its names and brackets,
what is written for a value its texts, numbers and braces.

Main statement: the names of a type and the literal of a value have a line end in them
only where a name, a text or a character in them is or has one.
-/

set_option autoImplicit false

namespace ExprDisplay

/-- None of the strings has a line end in it. -/
def SingleLines (strings : List String) : Prop := ∀ s ∈ strings, SingleLine s

instance (strings : List String) : Decidable (SingleLines strings) :=
  inferInstanceAs (Decidable (∀ s ∈ strings, SingleLine s))

@[simp] theorem singleLines_nil : SingleLines [] := nofun

@[simp] theorem singleLines_cons {s : String} {strings : List String} :
    SingleLines (s :: strings) ↔ SingleLine s ∧ SingleLines strings := List.forall_mem_cons

@[simp] theorem singleLines_append {strings strings' : List String} :
    SingleLines (strings ++ strings') ↔ SingleLines strings ∧ SingleLines strings' :=
  List.forall_mem_append

@[simp] theorem singleLines_flatMap {α : Type} {f : α → List String} {items : List α} :
    SingleLines (items.flatMap f) ↔ ∀ a ∈ items, SingleLines (f a) :=
  List.forall_mem_flatMap

theorem Numeral.singleLine {s : String} (numeral : Numeral s) : SingleLine s :=
  fun listed => absurd (numeral '\n' listed) (by decide)

/-! ### Types -/

namespace Ty

mutual

/-- The names in a type. -/
def strings : Ty → List String
  | .primitive _ => []
  | .named name _ => [name]
  | .generic name _ arguments => name :: stringsOf arguments
  | .array element _ => strings element

def stringsOf : List Ty → List String
  | [] => []
  | t :: ts => strings t ++ stringsOf ts

end

theorem singleLine_brackets (rank : Nat) : SingleLine (brackets rank) := by
  have commas : SingleLine (String.ofList (List.replicate (rank - 1) ',')) := by
    rw [singleLine_ofList]
    exact fun listed => absurd (List.eq_of_mem_replicate listed) (by decide)
  unfold brackets
  simp only [singleLine_append]
  exact ⟨⟨by decide, commas⟩, by decide⟩

theorem singleLine_bareName {name : String} (single : SingleLine name) :
    SingleLine (bareName name) := by
  unfold bareName
  rw [singleLine_ofList]
  exact fun listed => single ((List.takeWhile_sublist _).subset listed)

theorem mem_stringsOf {ts : List Ty} {s : String} :
    s ∈ stringsOf ts ↔ ∃ t ∈ ts, s ∈ t.strings := by
  induction ts with
  | nil => simp [stringsOf]
  | cons t ts ih => simp [stringsOf, ih]

theorem singleLines_simpleNames {t : Ty} (clean : SingleLines t.strings) :
    SingleLines t.simpleNames := by
  induction t using part_induction with
  | primitive p => exact clean
  | named name kind => exact clean
  | generic name kind arguments ih =>
    rw [strings, singleLines_cons] at clean
    rw [simpleNames, singleLines_cons]
    refine ⟨singleLine_bareName clean.1, fun s listed => ?_⟩
    obtain ⟨a, argument, inner⟩ := mem_simpleNamesOf.mp listed
    have own : SingleLines a.strings := fun s listed =>
      clean.2 s (mem_stringsOf.mpr ⟨a, argument, listed⟩)
    exact ih a argument own s inner
  | array element rank ih => exact ih clean

theorem writtenBy_lineEnd : WrittenBy '\n' fun _ => false where
  letter := by decide
  separator := by decide
  plain _ _ := rfl
  angles _ _ _ _ := rfl
  squares _ _ := rfl

theorem singleLine_name {t : Ty} (clean : SingleLines t.strings) : SingleLine t.name :=
  writtenBy_lineEnd.not_mem_name (singleLines_simpleNames clean)

theorem singleLine_runtimeName {t : Ty} (clean : SingleLines t.strings) :
    SingleLine t.runtimeName := by
  induction t using runtimeName.induct with
  | case1 p => cases p <;> decide
  | case2 name kind => exact (singleLines_cons.mp clean).1
  | case3 name kind arguments => exact (singleLines_cons.mp clean).1
  | case4 element rank ih =>
    rw [runtimeName, singleLine_append]
    exact ⟨ih clean, singleLine_brackets rank⟩

end Ty

/-! ### Values -/

namespace Grid

theorem singleLine_copies (n : Nat) {s : String} (single : SingleLine s) : SingleLine (copies n s) :=
  singleLine_join.mpr fun _ listed => List.eq_of_mem_replicate listed ▸ single

theorem singleLine_regroup (outer : Nat) (previous index : List Int) :
    SingleLine (regroup outer previous index) := by
  unfold regroup
  split
  · decide
  · rw [singleLine_append]
    exact ⟨singleLine_copies _ (by decide), singleLine_copies _ (by decide)⟩

theorem singleLine_walkFrom (outer : Nat) {previous : List Int} {cells : List (List Int × String)}
    (clean : ∀ cell ∈ cells, SingleLine cell.2) : SingleLine (walkFrom outer previous cells) := by
  induction cells generalizing previous with
  | nil =>
    rw [walkFrom]
    decide
  | cons cell cells ih =>
    rw [List.forall_mem_cons] at clean
    simp only [walkFrom, singleLine_append]
    exact ⟨⟨⟨singleLine_regroup _ _ _, clean.1⟩, by decide⟩, ih clean.2⟩

theorem singleLine_walk (outer : Nat) {cells : List (List Int × String)}
    (clean : ∀ cell ∈ cells, SingleLine cell.2) : SingleLine (walk outer cells) := by
  cases cells with
  | nil =>
    rw [walk]
    decide
  | cons cell cells =>
    rw [List.forall_mem_cons] at clean
    simp only [walk, singleLine_append]
    exact ⟨⟨⟨singleLine_copies _ (by decide), clean.1⟩, by decide⟩, singleLine_walkFrom _ clean.2⟩

theorem singleLine_braces {g : Grid String} (clean : SingleLines g.cells) : SingleLine g.braces := by
  have cells : ∀ cell ∈ g.indexed, SingleLine cell.2 :=
    fun cell listed => clean cell.2 (List.of_mem_zip listed).2
  have items : SingleLine (String.join (g.cells.map (· ++ ", "))) := by
    rw [singleLine_join, List.forall_mem_map]
    exact fun s listed => singleLine_append.mpr ⟨clean s listed, by decide⟩
  unfold braces
  split
  · decide
  · split
    · simp only [singleLine_append]
      exact ⟨⟨by decide, items⟩, by decide⟩
    · simp only [singleLine_append]
      exact ⟨⟨⟨by decide, singleLine_walk _ cells⟩, singleLine_copies _ (by decide)⟩, by decide⟩

end Grid

namespace Value

mutual

/-- The texts and characters in a value. -/
def strings : Value → List String
  | .null => []
  | .bool _ => []
  | .char c => [String.singleton c]
  | .int _ => []
  | .uint _ => []
  | .float _ => []
  | .str s => [s]
  | .array ⟨_, _, cells⟩ => stringsOf cells
  | .object text => [text]

def stringsOf : List Value → List String
  | [] => []
  | v :: vs => strings v ++ stringsOf vs

end

mutual

theorem singleLine_literal : (v : Value) → (declared : Ty) → SingleLines v.strings →
    SingleLine (v.literal declared)
  | .null, _, _ => by
    rw [literal]
    decide
  | .bool true, _, _ => by
    rw [literal]
    decide
  | .bool false, _, _ => by
    rw [literal]
    decide
  | .char c, _, clean => by
    simp only [literal, singleLine_append]
    exact ⟨⟨by decide, (singleLines_cons.mp clean).1⟩, by decide⟩
  | .int i, _, _ => by
    rw [literal]
    exact (numeral_int i).singleLine
  | .uint n, _, _ => by
    rw [literal]
    exact (numeral_nat n).singleLine
  | .float x, declared, _ => by
    rw [literal]
    split
    · exact (Decimal.Format.numeral_text _ _).singleLine
    · exact (Decimal.Format.numeral_text _ _).singleLine
  | .str s, _, clean => by
    simp only [literal, singleLine_append]
    exact ⟨⟨by decide, (singleLines_cons.mp clean).1⟩, by decide⟩
  | .array ⟨lengths, bounds, cells⟩, declared, clean => by
    rw [literal]
    exact Grid.singleLine_braces (singleLines_literals cells _ clean)
  | .object text, _, clean => by
    rw [literal]
    exact (singleLines_cons.mp clean).1

theorem singleLines_literals : (vs : List Value) → (declared : Ty) → SingleLines (stringsOf vs) →
    SingleLines (literals vs declared)
  | [], _, _ => by
    rw [literals]
    exact singleLines_nil
  | v :: vs, declared, clean => by
    rw [stringsOf, singleLines_append] at clean
    rw [literals, singleLines_cons]
    exact ⟨singleLine_literal v declared clean.1, singleLines_literals vs declared clean.2⟩

end

end Value

end ExprDisplay
