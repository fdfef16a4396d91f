/-!
Templates: text with holes. A template says how one thing is written around the
things inside it and leaves their texts open.
-/
namespace ExprDisplay

inductive Piece (ε : Type) where
  | text (s : String)
  | hole (e : ε)
  deriving DecidableEq, Repr

instance {ε : Type} : Coe String (Piece ε) := ⟨.text⟩

abbrev Template (ε : Type) := List (Piece ε)

namespace Template

variable {ε : Type}

/-- The text of a piece, given a text for what is in its hole. -/
def fillPiece (write : ε → String) : Piece ε → String
  | .text s => s
  | .hole e => write e

/-- The text of a template, given a text for what is in its holes. -/
def fill (write : ε → String) (t : Template ε) : String :=
  String.join (t.map (fillPiece write))

/-- What is in the holes, in order. -/
def holes : Template ε → List ε
  | [] => []
  | .text _ :: rest => holes rest
  | .hole e :: rest => e :: holes rest

/-- Templates one after another, with a comma between two. -/
def separated : List (Template ε) → Template ε
  | [] => []
  | [t] => t
  | t :: ts => t ++ .text ", " :: separated ts

/-- Holes with a comma between two. -/
def list (es : List ε) : Template ε := separated (es.map fun e => [.hole e])

end Template

end ExprDisplay
