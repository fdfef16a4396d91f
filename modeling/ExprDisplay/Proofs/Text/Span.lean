/-!
Runs of characters. A text that starts with characters of one kind and goes on with
another one splits in one way only; runs of one character are compared by their
lengths.
-/

set_option autoImplicit false

namespace ExprDisplay

variable {cs ds rest rest' : List Char}

/-- A run of characters with a property ends where the property does. -/
theorem span_inj {p : Char → Prop} (all : ∀ c ∈ cs, p c) (all' : ∀ c ∈ ds, p c)
    (stop : ∀ c ∈ rest.head?, ¬ p c) (stop' : ∀ c ∈ rest'.head?, ¬ p c)
    (same : cs ++ rest = ds ++ rest') : cs = ds ∧ rest = rest' := by
  induction cs generalizing ds with
  | nil =>
    cases ds with
    | nil => exact ⟨rfl, same⟩
    | cons d ds =>
      rw [List.nil_append] at same
      exact absurd (all' d List.mem_cons_self) (stop d (by rw [same]; rfl))
  | cons c cs ih =>
    cases ds with
    | nil =>
      rw [List.nil_append] at same
      exact absurd (all c List.mem_cons_self) (stop' c (by rw [← same]; rfl))
    | cons d ds =>
      obtain ⟨rfl, tails⟩ := List.cons.inj same
      obtain ⟨rfl, rests⟩ := ih (fun c member => all c (List.mem_cons_of_mem _ member))
        (fun c member => all' c (List.mem_cons_of_mem _ member)) tails
      exact ⟨rfl, rests⟩

theorem replicate_append_inj {a b : Nat} {c : Char} (stop : ∀ d ∈ rest.head?, d ≠ c)
    (stop' : ∀ d ∈ rest'.head?, d ≠ c)
    (same : List.replicate a c ++ rest = List.replicate b c ++ rest') : a = b ∧ rest = rest' := by
  obtain ⟨runs, rests⟩ := span_inj (p := (· = c)) (fun _ => List.eq_of_mem_replicate)
    (fun _ => List.eq_of_mem_replicate) stop stop' same
  exact ⟨by simpa using congrArg List.length runs, rests⟩

end ExprDisplay
