import ExprDisplay.Proofs.Text.Balanced
import ExprDisplay.Proofs.Ty.Characters

/-!
Well-formed source names. A name is put together from pieces whose brackets are properly
nested, if no simple name in it has a bracket.

Main statement: the name of a type has no backtick, its brackets are properly nested, one
pair for each part that writes one, and it is not empty, as long as the simple names in it
allow it.
-/

set_option autoImplicit false

namespace ExprDisplay.Ty

/-- Angle and square brackets. -/
def namePairs : List (Char × Char) := [('<', '>'), ('[', ']')]

/-! ### Brackets -/

theorem balanced_brackets {pairs : List (Char × Char)} (opens : scan pairs [] "[" = some [']'])
    (closes : scan pairs [']'] "]" = some []) (comma : Unbracketed pairs ",") (rank : Nat) :
    Balanced pairs (brackets rank) := by
  have commas : Unbracketed pairs (String.ofList (List.replicate (rank - 1) ',')) := by
    intro c listed
    rw [String.toList_ofList] at listed
    rw [List.eq_of_mem_replicate listed]
    exact comma ',' List.mem_cons_self
  exact commas.balanced.between opens closes

theorem balanced_nameTail {ts : List Ty} (each : ∀ t ∈ ts, Balanced namePairs t.name) :
    Balanced namePairs (nameTail ts) := by
  induction ts with
  | nil => rfl
  | cons t ts ih =>
    rw [List.forall_mem_cons] at each
    have comma : Balanced namePairs ", " := by decide
    exact (comma.append each.1).append (ih each.2)

theorem balanced_argumentText {ts : List Ty} (each : ∀ t ∈ ts, Balanced namePairs t.name) :
    Balanced namePairs (argumentText ts) := by
  cases ts with
  | nil => rfl
  | cons t ts =>
    rw [List.forall_mem_cons] at each
    have grouped : "<" ++ t.name ++ nameTail ts = "<" ++ (t.name ++ nameTail ts) :=
      String.append_assoc
    rw [argumentText, grouped]
    exact (each.1.append (balanced_nameTail each.2)).between rfl rfl

theorem balanced_word {t : Ty} (plain : ∀ s ∈ t.simpleNames, Unbracketed namePairs s) :
    Balanced namePairs t.word := by
  rcases word_mem t with ⟨p, keyword⟩ | listed
  · rw [keyword]
    cases p <;> decide
  · exact (plain _ listed).balanced

/-- A name is put together from balanced pieces: the word, the arguments in angle brackets,
and a bracket group for each level. -/
theorem balanced_name {t : Ty} (plain : ∀ s ∈ t.simpleNames, Unbracketed namePairs s) :
    Balanced namePairs t.name := by
  induction t using argument_induction with
  | step t ih =>
    have arguments : ∀ a ∈ t.core.arguments, Balanced namePairs a.name := fun a argument =>
      ih a argument fun s listed => plain s (mem_simpleNames_of_argument argument listed)
    have levels : Balanced namePairs (groups t.ranks) := by
      apply balanced_join
      rw [List.forall_mem_map]
      exact fun rank _ => balanced_brackets rfl rfl (by decide) rank
    rw [name_eq]
    exact ((balanced_word plain).append (balanced_argumentText arguments)).append levels

/-! ### Well-formed names -/

/-- Simple names are those of the parts. -/
theorem exists_part_of_mem_simpleNames {t : Ty} {s : String} (listed : s ∈ t.simpleNames) :
    (∃ kind, .named s kind ∈ t.parts) ∨
      ∃ name kind arguments, .generic name kind arguments ∈ t.parts ∧ s = bareName name := by
  induction t using part_induction with
  | primitive p => cases listed
  | named name kind =>
    obtain rfl := List.mem_singleton.mp listed
    exact .inl ⟨kind, List.mem_singleton_self _⟩
  | generic name kind arguments ih =>
    rw [simpleNames, List.mem_cons, mem_simpleNamesOf] at listed
    rcases listed with rfl | ⟨a, argument, listed⟩
    · exact .inr ⟨name, kind, arguments, List.mem_cons_self, rfl⟩
    · have inner {u : Ty} (part : u ∈ a.parts) : u ∈ (Ty.generic name kind arguments).parts :=
        List.mem_cons_of_mem _ (mem_partsOf.mpr ⟨a, argument, part⟩)
      rcases ih a argument listed with ⟨kind, part⟩ | ⟨name, kind, arguments, part, rfl⟩
      · exact .inl ⟨kind, inner part⟩
      · exact .inr ⟨name, kind, arguments, inner part, rfl⟩
  | array element rank ih =>
    rcases ih listed with ⟨kind, part⟩ | ⟨name, kind, arguments, part, rfl⟩
    · exact .inl ⟨kind, List.mem_cons_of_mem _ part⟩
    · exact .inr ⟨name, kind, arguments, List.mem_cons_of_mem _ part, rfl⟩

theorem writtenBy_backtick : WrittenBy '\x60' fun _ => false where
  letter := by decide
  separator := by decide
  plain _ _ := rfl
  angles _ _ _ _ := rfl
  squares _ _ := rfl

/-- An opening angle bracket is written by a generic with arguments. -/
theorem writtenBy_angle : WrittenBy '<' fun t => !t.arguments.isEmpty where
  letter := by decide
  separator := by decide
  plain _ none := by simp [none]
  angles _ _ _ _ := rfl
  squares _ _ := rfl

/-- An opening square bracket is written by an array level. -/
theorem writtenBy_square : WrittenBy '[' isArray where
  letter := by decide
  separator := by decide
  plain core _ := core
  angles _ _ _ _ := rfl
  squares _ _ := rfl

/-- If no declared name has a backtick in it, the name of a type has none, whatever the
arity suffixes. If no simple name has a bracket in it, the brackets are properly nested, with
an opening angle bracket for each generic that has arguments and an opening square bracket
for each array level. If no simple name is empty, neither is the name. -/
theorem name_wellFormed (t : Ty) :
    ((∀ name kind, .named name kind ∈ t.parts → '\x60' ∉ name.toList) →
      '\x60' ∉ t.name.toList) ∧
    ((∀ s ∈ t.simpleNames, Unbracketed namePairs s) →
      Balanced namePairs t.name ∧
      t.name.toList.count '<' = t.parts.countP (fun u => !u.arguments.isEmpty) ∧
      t.name.toList.count '[' = t.parts.countP isArray) ∧
    ((∀ s ∈ t.simpleNames, s ≠ "") → t.name ≠ "") := by
  refine ⟨fun declared => ?_, fun plain => ?_, fun filled empty => ?_⟩
  · have names : ∀ s ∈ t.simpleNames, '\x60' ∉ s.toList := by
      intro s listed
      rcases exists_part_of_mem_simpleNames listed with ⟨kind, part⟩ | ⟨name, _, _, _, rfl⟩
      · exact declared s kind part
      · exact (bareName_eq_iff.mp rfl).1
    exact writtenBy_backtick.not_mem_name names
  · have names {c : Char} (bracket : c ∈ namePairs.map Prod.fst) :
        ∀ s ∈ t.simpleNames, c ∉ s.toList :=
      fun s listed inside => (plain s listed c inside).1 bracket
    exact ⟨balanced_name plain, writtenBy_angle.count_name (names (by decide)),
      writtenBy_square.count_name (names (by decide))⟩
  · have word : t.word = "" := by
      rw [name_eq] at empty
      simp only [String.append_eq_empty_iff] at empty
      exact empty.1.1
    rcases word_mem t with ⟨p, keyword⟩ | listed
    · rw [keyword] at word
      cases p <;> exact absurd word (by decide)
    · exact filled _ listed word

/-- `Map<Color, List<Set>[][,]>[,,]`: two generics with arguments, one without, and three
array levels. -/
theorem name_wellFormed_map :
    let lists : Ty := .generic "List\x601" .classType [.generic "Set\x601" .interface []]
    let t : Ty :=
      .array (.generic "Map\x602" .classType [.named "Color" .enum, .array (.array lists 2) 1]) 3
    (∀ name kind, .named name kind ∈ t.parts → '\x60' ∉ name.toList) ∧
      (∀ s ∈ t.simpleNames, Unbracketed namePairs s) ∧ (∀ s ∈ t.simpleNames, s ≠ "") ∧
      '\x60' ∉ t.name.toList ∧ Balanced namePairs t.name ∧
      t.name.toList.count '<' = 2 ∧ t.name.toList.count '[' = 3 ∧ t.name ≠ "" := by
  intro lists t
  have declared : ∀ name kind, .named name kind ∈ t.parts → '\x60' ∉ name.toList := by
    intro name kind part
    obtain ⟨rfl, -⟩ : name = "Color" ∧ kind = .enum := by
      simpa [t, lists, parts, partsOf] using part
    decide
  have plain : ∀ s ∈ t.simpleNames, Unbracketed namePairs s := by decide
  have filled : ∀ s ∈ t.simpleNames, s ≠ "" := by decide
  obtain ⟨backtick, brackets, some⟩ := name_wellFormed t
  obtain ⟨nested, angles, squares⟩ := brackets plain
  exact ⟨declared, plain, filled, backtick declared, nested, angles, squares, some filled⟩

end ExprDisplay.Ty
