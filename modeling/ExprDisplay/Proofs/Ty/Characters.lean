import ExprDisplay.Proofs.Ty.Skeleton

/-!
Characters in a source name. The punctuation of a name comes from the parts of the type:
angle brackets from a generic with arguments, square brackets from an array level.
Everything else in it is a simple name, a keyword or a separator.

Main statement: a character that is in no simple name, keyword or separator is in the name
as often as the parts write it.
-/

set_option autoImplicit false

namespace ExprDisplay.Ty

mutual

/-- The types that a type is made of, itself included. -/
def parts : Ty → List Ty
  | .primitive p => [.primitive p]
  | .named name kind => [.named name kind]
  | .generic name kind arguments => .generic name kind arguments :: partsOf arguments
  | .array element rank => .array element rank :: parts element

def partsOf : List Ty → List Ty
  | [] => []
  | t :: ts => parts t ++ partsOf ts

end

theorem mem_partsOf {ts : List Ty} {u : Ty} : u ∈ partsOf ts ↔ ∃ t ∈ ts, u ∈ t.parts := by
  induction ts with
  | nil => simp [partsOf]
  | cons t ts ih => simp [partsOf, ih]

theorem isLower_keyword (q : Primitive) : q.keyword.toList.all Char.isLower = true := by
  cases q <;> rfl

/-- A character that names have for some parts of a type only, once for each of them. -/
structure WrittenBy (x : Char) (p : Ty → Bool) : Prop where
  letter : x.isLower = false
  separator : x ∉ [',', ' ']
  plain {t : Ty} (core : t.isArray = false) (none : t.arguments = []) : p t = false
  angles (name : String) (kind : TypeKind) (t : Ty) (ts : List Ty) :
    ['<', '>'].count x = if p (.generic name kind (t :: ts)) then 1 else 0
  squares (element : Ty) (rank : Nat) :
    ['[', ']'].count x = if p (.array element rank) then 1 else 0

variable {x : Char} {p : Ty → Bool}

theorem WrittenBy.not_mem_keyword (written : WrittenBy x p) (q : Primitive) :
    x ∉ q.keyword.toList := by
  intro listed
  have lower := List.all_eq_true.mp (isLower_keyword q) x listed
  rw [written.letter] at lower
  cases lower

theorem WrittenBy.count_brackets (written : WrittenBy x p) (element : Ty) (rank : Nat) :
    (brackets rank).toList.count x = if p (.array element rank) then 1 else 0 := by
  have commas : (List.replicate (rank - 1) ',').count x = 0 := by
    rw [List.count_eq_zero]
    intro listed
    exact written.separator (List.eq_of_mem_replicate listed ▸ List.mem_cons_self)
  rw [← written.squares element rank, toList_brackets]
  simp only [List.count_cons, List.count_append, commas, Nat.zero_add]

/-- The character is in a name as often as parts of the type write it. -/
def Counted (x : Char) (p : Ty → Bool) (t : Ty) : Prop :=
  ∀ passed, (t.nameWith passed).toList.count x = t.parts.countP p + passed.toList.count x

theorem WrittenBy.count_nameTail (written : WrittenBy x p) {ts : List Ty}
    (each : ∀ t ∈ ts, Counted x p t) : (nameTail ts).toList.count x = (partsOf ts).countP p := by
  have comma : (", ").toList.count x = 0 := List.count_eq_zero.mpr written.separator
  induction ts with
  | nil => rfl
  | cons t ts ih =>
    rw [List.forall_mem_cons] at each
    simp only [nameTail, String.toList_append, List.count_append, comma, each.1 "", ih each.2]
    rw [partsOf, List.countP_append]
    simp

theorem WrittenBy.counted (written : WrittenBy x p) {t : Ty}
    (names : ∀ s ∈ t.simpleNames, x ∉ s.toList) : Counted x p t := by
  induction t using part_induction with
  | primitive q =>
    intro passed
    have own : p (.primitive q) = false := written.plain rfl rfl
    have word : q.keyword.toList.count x = 0 := List.count_eq_zero.mpr (written.not_mem_keyword q)
    simp [nameWith, parts, own, word]
  | named name kind =>
    intro passed
    have own : p (.named name kind) = false := written.plain rfl rfl
    have word : name.toList.count x = 0 := List.count_eq_zero.mpr (names name List.mem_cons_self)
    simp [nameWith, parts, own, word]
  | generic name kind arguments ih =>
    intro passed
    have word : (bareName name).toList.count x = 0 :=
      List.count_eq_zero.mpr (names _ List.mem_cons_self)
    have each : ∀ a ∈ arguments, Counted x p a := fun a argument => ih a argument fun s listed =>
      names s (List.mem_cons_of_mem _ (mem_simpleNamesOf.mpr ⟨a, argument, listed⟩))
    cases arguments with
    | nil =>
      have own : p (.generic name kind []) = false := written.plain rfl rfl
      simp [nameWith, parts, partsOf, own, word]
    | cons t ts =>
      rw [List.forall_mem_cons] at each
      have own : "<".toList.count x + ">".toList.count x =
          if p (.generic name kind (t :: ts)) then 1 else 0 :=
        List.count_append.symm.trans (written.angles name kind t ts)
      -- An argument starts with no groups; those of the levels outside come after the arguments.
      have first : (t.nameWith "").toList.count x = t.parts.countP p := each.1 ""
      simp only [nameWith, String.toList_append, List.count_append, word, first,
        written.count_nameTail each.2]
      rw [parts, partsOf, List.countP_cons, List.countP_append]
      omega
  | array element rank ih =>
    intro passed
    -- The level is counted here, where its group joins those passed.
    rw [nameWith, ih names, parts, List.countP_cons, String.toList_append, List.count_append,
      written.count_brackets element rank]
    omega

theorem WrittenBy.count_name (written : WrittenBy x p) {t : Ty}
    (names : ∀ s ∈ t.simpleNames, x ∉ s.toList) : t.name.toList.count x = t.parts.countP p :=
  written.counted names ""

/-- A character that no part writes is not in the name. -/
theorem WrittenBy.not_mem_name (written : WrittenBy x fun _ => false) {t : Ty}
    (names : ∀ s ∈ t.simpleNames, x ∉ s.toList) : x ∉ t.name.toList := by
  rw [← List.count_eq_zero, written.count_name names, List.countP_eq_zero]
  simp

end ExprDisplay.Ty
