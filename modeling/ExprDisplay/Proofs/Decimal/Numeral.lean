import ExprDisplay.Decimal.Shortest

/-!
The characters of numbers. Integers and floats are written with digits, a sign, a point
and the letters of `NaN` and `inf`, so no text of a number has a character in it that
sets other texts apart: a space, a comma, a brace or a line end.
-/

set_option autoImplicit false

namespace ExprDisplay

/-- The characters numbers are written with. -/
def IsNumeral (c : Char) : Prop := c.isDigit = true ∨ c ∈ ['-', '.', 'N', 'a', 'i', 'n', 'f']

instance (c : Char) : Decidable (IsNumeral c) := inferInstanceAs (Decidable (_ ∨ _))

/-- A text of such characters. -/
def Numeral (s : String) : Prop := ∀ c ∈ s.toList, IsNumeral c

@[simp] theorem numeral_append {s t : String} : Numeral (s ++ t) ↔ Numeral s ∧ Numeral t := by
  simp [Numeral, or_imp, forall_and]

theorem numeral_ofList {cs : List Char} (digits : ∀ c ∈ cs, c.isDigit = true) :
    Numeral (String.ofList cs) := by
  intro c listed
  rw [String.toList_ofList] at listed
  exact .inl (digits c listed)

theorem numeral_nat (n : Nat) : Numeral (toString n) := by
  rw [Nat.toString_eq_ofList_toDigits]
  exact numeral_ofList fun c listed => Nat.isDigit_of_mem_toDigits (by decide) (by decide) listed

theorem numeral_int (i : Int) : Numeral (toString i) := by
  cases i with
  | ofNat n => exact numeral_nat n
  | negSucc n =>
    have sign : Numeral "-" := by simp [Numeral, IsNumeral]
    exact numeral_append.mpr ⟨sign, numeral_nat (n + 1)⟩

namespace Decimal

namespace Scaled

/-- Digits and nothing else. -/
def Plain (s : Scaled) : Prop := ∀ c ∈ s.digits, c.isDigit = true

theorem plain_ofCount (count : Nat) (exponent : Int) : (ofCount count exponent).Plain := by
  intro c listed
  have kept : c ∈ ((Nat.toDigits 10 count).reverse.dropWhile (· == '0')).reverse := listed
  have digit : c ∈ Nat.toDigits 10 count := by
    have dropped := (List.dropWhile_sublist _).subset (List.mem_reverse.mp kept)
    exact List.mem_reverse.mp dropped
  exact Nat.isDigit_of_mem_toDigits (by decide) (by decide) digit

theorem numeral_zeros (n : Nat) : Numeral (zeros n) := by
  apply numeral_ofList
  intro c listed
  rw [List.eq_of_mem_replicate listed]
  decide

theorem numeral_positional {s : Scaled} (plain : s.Plain) : Numeral s.positional := by
  have point : Numeral "." := by simp [Numeral, IsNumeral]
  have lead : Numeral "0." := by simp [Numeral, IsNumeral]
  unfold positional
  split
  · exact numeral_append.mpr ⟨numeral_append.mpr ⟨lead, numeral_zeros _⟩, numeral_ofList plain⟩
  · split
    · exact numeral_append.mpr ⟨numeral_ofList plain, numeral_zeros _⟩
    · have whole : ∀ c ∈ s.digits.take s.place.toNat, c.isDigit = true :=
        fun c listed => plain c (List.mem_of_mem_take listed)
      have fraction : ∀ c ∈ s.digits.drop s.place.toNat, c.isDigit = true :=
        fun c listed => plain c (List.mem_of_mem_drop listed)
      exact numeral_append.mpr
        ⟨numeral_append.mpr ⟨numeral_ofList whole, point⟩, numeral_ofList fraction⟩

end Scaled

/-- Whichever number of digits the search stops at, it gives digits. -/
theorem Interval.plain_of_search {i : Interval} {place : Int} {tries digits : Nat} {s : Scaled}
    (found : i.search place tries digits = some s) : s.Plain := by
  induction tries generalizing digits with
  | zero => cases found
  | succ tries ih =>
    unfold search at found
    split at found
    · obtain rfl := Option.some.inj found
      exact Scaled.plain_ofCount _ _
    · exact ih found

theorem numeral_finiteText (f : Format) (significand : Nat) (exponent : Int) :
    Numeral (finiteText f significand exponent) := by
  have zero : Numeral "0" := by simp [Numeral, IsNumeral]
  unfold finiteText
  split
  · exact zero
  · dsimp only
    split
    · rename_i decimal found
      exact Scaled.numeral_positional (Interval.plain_of_search found)
    · exact zero

theorem Format.numeral_text (f : Format) (bits : Nat) : Numeral (f.text bits) := by
  have sign (negative : Bool) : Numeral (if negative then "-" else "") := by
    cases negative <;> simp [Numeral, IsNumeral]
  unfold Format.text
  dsimp only
  split
  · simp [Numeral, IsNumeral]
  · exact numeral_append.mpr ⟨sign _, by simp [Numeral, IsNumeral]⟩
  · exact numeral_append.mpr ⟨sign _, numeral_finiteText f _ _⟩

end Decimal

end ExprDisplay
