/-!
Grids: cells in row-major order (the last index varies fastest) with a length and a
lower bound for every dimension. Shapes are validated when a grid is made, against a
product of the lengths that wraps around: a grid made here has as many cells as its
lengths multiply to as long as that is a count.
-/
namespace ExprDisplay

structure Grid (α : Type) where
  lengths : List Nat
  lowerBounds : List Int
  cells : List α
  deriving DecidableEq, Repr

/-- Why a shape is refused. -/
inductive ShapeError where
  | zeroRank
  | cellCount (expected actual : Nat)
  | boundsRank (rank bounds : Nat)
  | boundsOverflow (dimension : Nat)
  deriving DecidableEq, Repr

def ShapeError.message : ShapeError → String
  | .zeroRank => "Array value must have at least one dimension"
  | .cellCount expected actual =>
    "Array shape holds " ++ toString expected ++ " element(s) but " ++ toString actual ++
      " were supplied"
  | .boundsRank rank bounds =>
    "Array of rank " ++ toString rank ++ " needs " ++ toString rank ++ " lower bound(s), got " ++
      toString bounds
  | .boundsOverflow dimension =>
    "Lower bound of dimension " ++ toString dimension ++ " overflows with the dimension's length"

namespace Grid

variable {α β : Type}

/-- A zero-based grid of one dimension. -/
def vector (cells : List α) : Grid α := ⟨[cells.length], [0], cells⟩

/-- The greatest count. -/
def greatestSize : Nat := 0xffffffffffffffff

/-- The least index a dimension may start at. -/
def leastIndex : Int := -0x8000000000000000

/-- The greatest index a dimension may end at. -/
def greatestIndex : Int := 0x7fffffffffffffff

/-- A number past the greatest count starts over at zero. -/
def wrapSize (n : Nat) : Nat := n % (greatestSize + 1)

/-- A number past the greatest index starts over at the least one. -/
def wrapIndex (i : Int) : Int := i.bmod (greatestSize + 1)

/-- The product of the lengths, which wraps around. -/
def cellCount (lengths : List Nat) : Nat :=
  lengths.foldl (fun count length => wrapSize (count * length)) 1

/-- A zero-based grid of the given lengths. -/
def ofCells (lengths : List Nat) (cells : List α) : Except ShapeError (Grid α) :=
  if lengths.isEmpty then .error .zeroRank
  else if cellCount lengths ≠ cells.length then
    .error (.cellCount (cellCount lengths) cells.length)
  else .ok ⟨lengths, lengths.map fun _ => 0, cells⟩

/-- Whether a dimension that starts at `bound` ends past the greatest index. -/
def endsTooFar (bound : Int) (length : Nat) : Bool :=
  greatestIndex < (length : Int) || greatestIndex < bound + length

/-- The first dimension that would end past the greatest index. -/
def overflow? (bounds : List Int) (lengths : List Nat) : Option Nat :=
  (bounds.zip lengths).findIdx? fun (bound, length) => endsTooFar bound length

/-- Moves every dimension to start at its new bound. -/
def withLowerBounds (g : Grid α) (bounds : List Int) : Except ShapeError (Grid α) :=
  if bounds.length ≠ g.lengths.length then
    .error (.boundsRank g.lengths.length bounds.length)
  else match overflow? bounds g.lengths with
    | some dimension => .error (.boundsOverflow dimension)
    | none => .ok { g with lowerBounds := bounds }

def rank (g : Grid α) : Nat := g.lengths.length

def size (g : Grid α) : Nat := g.cells.length

def isEmpty (g : Grid α) : Bool := g.cells.isEmpty

def isZeroBased (g : Grid α) : Bool := g.lowerBounds.all (· == 0)

end Grid

end ExprDisplay
