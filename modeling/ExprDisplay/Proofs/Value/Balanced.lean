import ExprDisplay.Proofs.Ty.WellFormed
import ExprDisplay.Proofs.Value.NestedLiteral
import ExprDisplay.Proofs.Value.SingleLine

/-!
Brackets in the texts of types and values. A type's runtime name has a pair of square
brackets for each array level; the text of a grid closes and reopens as many groups as
have changed from one cell to the next.

Main statements: runtime names and literals are balanced, for grids of every shape, as
long as no name, text or character in them has a bracket in it.
-/

set_option autoImplicit false

namespace ExprDisplay

theorem Numeral.unbracketed {s : String} (numeral : Numeral s) : Unbracketed bracketPairs s := by
  intro c listed
  have brackets : ∀ b ∈ bracketPairs.map Prod.fst ++ bracketPairs.map Prod.snd, ¬ IsNumeral b := by
    intro b listed
    simp only [bracketPairs, List.map_cons, List.map_nil, List.cons_append, List.nil_append,
      List.mem_cons, List.not_mem_nil, or_false] at listed
    rcases listed with rfl | rfl | rfl | rfl | rfl | rfl <;> decide
  rw [List.forall_mem_append] at brackets
  exact ⟨fun opening => brackets.1 c opening (numeral c listed),
    fun closing => brackets.2 c closing (numeral c listed)⟩

theorem Numeral.balanced {s : String} (numeral : Numeral s) : Balanced bracketPairs s :=
  numeral.unbracketed.balanced

/-! ### Types -/

namespace Ty

theorem balanced_runtimeName {t : Ty} (plain : ∀ s ∈ t.strings, Unbracketed bracketPairs s) :
    Balanced bracketPairs t.runtimeName := by
  fun_induction runtimeName t with
  | case1 p => cases p <;> decide
  | case2 name kind => exact (plain name List.mem_cons_self).balanced
  | case3 name kind arguments => exact (plain name List.mem_cons_self).balanced
  | case4 element rank ih => exact (ih plain).append (balanced_brackets rfl rfl (by decide) rank)

end Ty

/-! ### Grids -/

namespace Grid

variable {pending : List Char}

theorem scan_open (n : Nat) :
    scan bracketPairs pending (copies n "\x7b ") = some (List.replicate n '\x7d' ++ pending) := by
  induction n generalizing pending with
  | zero => rfl
  | succ n ih =>
    have opened : scan bracketPairs pending "\x7b " = some ('\x7d' :: pending) := rfl
    rw [copies_succ, scan_append, opened, Option.bind_some, ih, List.replicate_succ',
      List.append_assoc, List.singleton_append]

theorem scan_close (n : Nat) :
    scan bracketPairs (List.replicate n '\x7d' ++ pending) (copies n "\x7d, ") = some pending := by
  induction n with
  | zero => rfl
  | succ n ih =>
    have closed (pending : List Char) :
        scan bracketPairs ('\x7d' :: pending) "\x7d, " = some pending := rfl
    rw [copies_succ, scan_append, List.replicate_succ, List.cons_append, closed, Option.bind_some,
      ih]

/-- Between two cells as many groups are opened as are closed, and not more than are open. -/
theorem scan_regroup (outer : Nat) (previous index : List Int) :
    scan bracketPairs (List.replicate outer '\x7d' ++ pending) (regroup outer previous index) =
      some (List.replicate outer '\x7d' ++ pending) := by
  unfold regroup
  split
  · rfl
  next d changed =>
    have split : List.replicate outer '\x7d' =
        List.replicate (outer - d) '\x7d' ++ List.replicate (outer - (outer - d)) '\x7d' := by
      rw [List.replicate_append_replicate]
      congr 1
      omega
    rw [split, List.append_assoc, scan_append, scan_close, Option.bind_some, scan_open]

/-- The groups that are open before a cell are open after it and all others. -/
theorem scan_walkFrom (outer : Nat) {previous : List Int} {cells : List (List Int × String)}
    (each : ∀ cell ∈ cells, Balanced bracketPairs cell.2) :
    scan bracketPairs (List.replicate outer '\x7d' ++ pending) (walkFrom outer previous cells) =
      some (List.replicate outer '\x7d' ++ pending) := by
  have comma : Balanced bracketPairs ", " := by decide
  induction cells generalizing previous with
  | nil => rfl
  | cons cell cells ih =>
    obtain ⟨index, text⟩ := cell
    rw [List.forall_mem_cons] at each
    rw [walkFrom, scan_append, scan_append, scan_append, scan_regroup, Option.bind_some,
      each.1.scan_eq, Option.bind_some, comma.scan_eq, Option.bind_some, ih each.2]

theorem scan_walk (outer : Nat) {cells : List (List Int × String)} (some : cells ≠ [])
    (each : ∀ cell ∈ cells, Balanced bracketPairs cell.2) :
    scan bracketPairs pending (walk outer cells) =
      Option.some (List.replicate outer '\x7d' ++ pending) := by
  have comma : Balanced bracketPairs ", " := by decide
  cases cells with
  | nil => exact absurd rfl some
  | cons cell cells =>
    obtain ⟨index, text⟩ := cell
    rw [List.forall_mem_cons] at each
    rw [walk, scan_append, scan_append, scan_append, scan_open, Option.bind_some,
      each.1.scan_eq, Option.bind_some, comma.scan_eq, Option.bind_some, scan_walkFrom _ each.2]

theorem indexed_ne_nil {α : Type} {g : Grid α} (filled : g.cells ≠ []) : g.indexed ≠ [] := by
  obtain ⟨lengths, bounds, cells⟩ := g
  cases cells with
  | nil => exact absurd rfl filled
  | cons cell cells => exact List.cons_ne_nil _ _

/-- Whatever the shape says, the groups that the text opens are closed at its end. -/
theorem balanced_braces {g : Grid String} (each : ∀ s ∈ g.cells, Balanced bracketPairs s) :
    Balanced bracketPairs g.braces := by
  have cells : ∀ cell ∈ g.indexed, Balanced bracketPairs cell.2 :=
    fun cell listed => each cell.2 (List.of_mem_zip listed).2
  have items : Balanced bracketPairs (String.join (g.cells.map (· ++ ", "))) := by
    apply balanced_join
    rw [List.forall_mem_map]
    exact fun s listed => (each s listed).append (by decide)
  unfold braces
  split
  · decide
  next filled =>
    split
    · unfold Balanced
      simp +decide [scan_append, items.scan_eq]
    · have some : g.indexed ≠ [] := by
        apply indexed_ne_nil
        rintro empty
        exact filled (List.isEmpty_iff.mpr empty)
      have opened : scan bracketPairs [] "\x7b " = Option.some ['\x7d'] := by decide
      have closed : scan bracketPairs ['\x7d'] "\x7d" = Option.some [] := by decide
      unfold Balanced
      rw [scan_append, scan_append, scan_append, opened, Option.bind_some, scan_walk _ some cells,
        Option.bind_some, scan_close, Option.bind_some, closed]

end Grid

/-! ### Values -/

namespace Value

theorem mem_stringsOf {v : Value} {vs : List Value} (member : v ∈ vs) {s : String}
    (listed : s ∈ v.strings) : s ∈ stringsOf vs := by
  induction vs with
  | nil => cases member
  | cons w vs ih =>
    rw [stringsOf, List.mem_append]
    rcases List.mem_cons.mp member with rfl | later
    · exact .inl listed
    · exact .inr (ih later)

theorem balanced_literal {v : Value} (plain : ∀ s ∈ v.strings, Unbracketed bracketPairs s)
    (declared : Ty) : Balanced bracketPairs (v.literal declared) := by
  induction v using cell_induction generalizing declared with
  | single v noGrid =>
    cases v with
    | null => exact (by decide : Balanced bracketPairs nullText)
    | bool b =>
      cases b with
      | false => exact (by decide : Balanced bracketPairs "False")
      | true => exact (by decide : Balanced bracketPairs "True")
    | char c =>
      have quote : Balanced bracketPairs "'" := by decide
      exact (quote.append (plain _ List.mem_cons_self).balanced).append quote
    | int i => exact (numeral_int i).balanced
    | uint n => exact (numeral_nat n).balanced
    | float x =>
      unfold literal
      split
      · exact (Decimal.Format.numeral_text _ _).balanced
      · exact (Decimal.Format.numeral_text _ _).balanced
    | str s =>
      have quote : Balanced bracketPairs "\"" := by decide
      exact (quote.append (plain s List.mem_cons_self).balanced).append quote
    | array g => exact absurd rfl (noGrid g)
    | object text => exact (plain text List.mem_cons_self).balanced
  | array g ih =>
    rw [literal_array]
    apply Grid.balanced_braces
    intro s listed
    obtain ⟨v, member, rfl⟩ := List.mem_map.mp listed
    exact ih v member (fun s inside => plain s (mem_stringsOf member inside)) _

end Value

end ExprDisplay
