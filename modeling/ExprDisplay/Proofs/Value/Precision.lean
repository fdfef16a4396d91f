import ExprDisplay.Proofs.Value.NestedLiteral

/-!
What the declared type does to the text of a value. Going into an array removes one array
level of the type, whatever its rank and the rank of the value; below the last level
everything counts as declared an object. Only floats look at the type that is left, and
only at whether it is the single-precision type.

Main statement: two declared types that say the same about the precision of each float in
a value give the same text, so a value without floats reads the same under all types.
-/

set_option autoImplicit false

namespace ExprDisplay

/-- The type with array levels removed, whatever their ranks. It is the object type as soon as
there is no level to remove. -/
def Ty.strip : Ty → (levels : Nat) → Ty
  | t, 0 => t
  | .array element _, levels + 1 => element.strip levels
  | _, _ + 1 => .object

@[simp] theorem Ty.strip_zero (t : Ty) : t.strip 0 = t := by
  cases t <;> rfl

theorem Ty.strip_object (levels : Nat) : object.strip levels = object := by
  cases levels <;> rfl

/-- The cells of a grid are declared with one level less. -/
theorem Ty.strip_elementOrObject (t : Ty) (levels : Nat) :
    t.elementOrObject.strip levels = t.strip (levels + 1) := by
  cases t with
  | array element rank => rfl
  | primitive p => exact strip_object levels
  | named name kind => exact strip_object levels
  | generic name kind arguments => exact strip_object levels

namespace Value

/-- `v.FloatUnder k`: a float stands in `v` with exactly `k` arrays around it. -/
inductive FloatUnder : Value → Nat → Prop where
  | here (x : Float) : FloatUnder (.float x) 0
  | cell {g : Grid Value} {v : Value} {k : Nat} (member : v ∈ g.cells) (inside : FloatUnder v k) :
    FloatUnder (.array g) (k + 1)

/-- The types say the same about the precision of each float in the value. -/
def SamePrecision (v : Value) (t t' : Ty) : Prop :=
  ∀ k, v.FloatUnder k → (t.strip k = .single ↔ t'.strip k = .single)

/-- Going into a grid takes the same step in both types. -/
theorem SamePrecision.cell {g : Grid Value} {v : Value} {t t' : Ty}
    (agree : SamePrecision (.array g) t t') (member : v ∈ g.cells) :
    SamePrecision v t.elementOrObject t'.elementOrObject := by
  intro k inside
  rw [Ty.strip_elementOrObject, Ty.strip_elementOrObject]
  exact agree (k + 1) (.cell member inside)

theorem literal_float_congr {x : Float} {t t' : Ty} (agree : t = .single ↔ t' = .single) :
    (Value.float x).literal t = (Value.float x).literal t' := by
  unfold literal
  by_cases single : t = .single
  · rw [if_pos single, if_pos (agree.mp single)]
  · rw [if_neg single, if_neg (mt agree.mpr single)]

/-- By induction on the nesting of grids; the types are peeled together. -/
theorem SamePrecision.literal_eq {v : Value} {t t' : Ty} (agree : SamePrecision v t t') :
    v.literal t = v.literal t' := by
  induction v using cell_induction generalizing t t' with
  | single v noGrid =>
    cases v with
    | array g => exact absurd rfl (noGrid g)
    | float x =>
      have here := agree 0 (.here x)
      rw [Ty.strip_zero, Ty.strip_zero] at here
      exact literal_float_congr here
    | bool b => cases b <;> rfl
    | _ => rfl
  | array g ih =>
    have texts : cellTexts g t = cellTexts g t' := by
      unfold cellTexts
      rw [← elementOrObject_eq_cellType, ← elementOrObject_eq_cellType,
        List.map_congr_left fun v member => ih v member (agree.cell member)]
    rw [literal_array, literal_array, texts]

/-- The declared type matters only at floats, and there only by being the single-precision
type or not after one array level is removed for each array around the float. Without floats
it does not matter at all. -/
theorem literal_of_precision (v : Value) (t t' : Ty) :
    ((∀ k, v.FloatUnder k → (t.strip k = .single ↔ t'.strip k = .single)) →
      v.literal t = v.literal t') ∧
    ((∀ k, ¬ v.FloatUnder k) → v.literal t = v.literal t') :=
  ⟨SamePrecision.literal_eq, fun noFloat =>
    SamePrecision.literal_eq fun k inside => absurd inside (noFloat k)⟩

/-- A float inside a vector, declared in single precision as if there were no vector. The types
differ in the precision of a float outside, but there is none. -/
theorem literal_of_precision_vector :
    let v : Value := .array (.vector [.null, .float 0.1])
    v.FloatUnder 1 ∧
      (∀ k, v.FloatUnder k → (Ty.single.strip k = .single ↔ Ty.object.strip k = .single)) ∧
      ¬ (Ty.single.strip 0 = .single ↔ Ty.object.strip 0 = .single) ∧
      v.literal .single = v.literal .object := by
  intro v
  have agree : ∀ k, (Value.array (.vector [.null, .float 0.1])).FloatUnder k →
      (Ty.single.strip k = .single ↔ Ty.object.strip k = .single) := by
    intro k inside
    cases inside with
    | cell member deeper => exact Iff.rfl
  refine ⟨?_, agree, by decide, (literal_of_precision v .single .object).1 agree⟩
  exact .cell (List.mem_cons_of_mem _ List.mem_cons_self) (.here 0.1)

end Value

end ExprDisplay
