import ExprDisplay.Text.Template

/-!
Templates as texts with holes: how filling, the holes and the two ways of replacing
what is in the holes (`mapHoles`, by something else; `plug`, by a template) act on
templates put together.
-/

set_option autoImplicit false

namespace ExprDisplay.Template

variable {ε δ : Type}

@[simp] theorem fill_nil (write : ε → String) : fill write [] = "" := String.join_nil

@[simp] theorem fill_text (write : ε → String) (s : String) (t : Template ε) :
    fill write (.text s :: t) = s ++ fill write t := String.join_cons

@[simp] theorem fill_hole (write : ε → String) (e : ε) (t : Template ε) :
    fill write (.hole e :: t) = write e ++ fill write t := String.join_cons

@[simp] theorem fill_append (write : ε → String) (t u : Template ε) :
    fill write (t ++ u) = fill write t ++ fill write u := by
  simp [fill, String.join_append]

@[simp] theorem holes_nil : holes ([] : Template ε) = [] := rfl

@[simp] theorem holes_text (s : String) (t : Template ε) : holes (.text s :: t) = holes t := rfl

@[simp] theorem holes_hole (e : ε) (t : Template ε) : holes (.hole e :: t) = e :: holes t := rfl

@[simp] theorem holes_append (t u : Template ε) : holes (t ++ u) = holes t ++ holes u := by
  induction t with
  | nil => rfl
  | cons piece t ih => cases piece <;> simp [ih]

@[simp] theorem holes_flatMap {α : Type} (g : α → Template ε) (xs : List α) :
    holes (xs.flatMap g) = xs.flatMap fun x => holes (g x) := by
  induction xs with
  | nil => rfl
  | cons x xs ih => simp [ih]

@[simp] theorem holes_texts {α : Type} (s : α → String) (xs : List α) :
    holes (xs.map fun x => (.text (s x) : Piece ε)) = [] := by
  induction xs with
  | nil => rfl
  | cons x xs ih => simp [ih]

@[simp] theorem holes_separated (ts : List (Template ε)) :
    holes (separated ts) = ts.flatMap holes := by
  induction ts with
  | nil => rfl
  | cons t ts ih =>
    cases ts with
    | nil => simp [separated]
    | cons u us => simp only [separated, holes_append, holes_text, ih, List.flatMap_cons]

@[simp] theorem holes_list (es : List ε) : holes (list es) = es := by
  simp [list, List.flatMap_map]

theorem mem_holes {t : Template ε} {e : ε} : e ∈ holes t ↔ .hole e ∈ t := by
  induction t with
  | nil => simp
  | cons piece t ih => cases piece <;> simp [ih]

/-- Filling looks at nothing but what is in the holes. -/
theorem fill_congr {t : Template ε} {write write' : ε → String}
    (same : ∀ e ∈ holes t, write e = write' e) : fill write t = fill write' t := by
  induction t with
  | nil => rfl
  | cons piece t ih =>
    cases piece with
    | text s => rw [fill_text, fill_text, ih same]
    | hole e =>
      rw [fill_hole, fill_hole, same e (by simp), ih fun d member => same d (by simp [member])]

/-- Puts something else into every hole. -/
def mapHoles (f : ε → δ) : Template ε → Template δ
  | [] => []
  | .text s :: t => .text s :: mapHoles f t
  | .hole e :: t => .hole (f e) :: mapHoles f t

@[simp] theorem mapHoles_nil (f : ε → δ) : mapHoles f [] = [] := rfl

@[simp] theorem mapHoles_text (f : ε → δ) (s : String) (t : Template ε) :
    mapHoles f (.text s :: t) = .text s :: mapHoles f t := rfl

@[simp] theorem mapHoles_hole (f : ε → δ) (e : ε) (t : Template ε) :
    mapHoles f (.hole e :: t) = .hole (f e) :: mapHoles f t := rfl

@[simp] theorem mapHoles_append (f : ε → δ) (t u : Template ε) :
    mapHoles f (t ++ u) = mapHoles f t ++ mapHoles f u := by
  induction t with
  | nil => rfl
  | cons piece t ih => cases piece <;> simp [ih]

@[simp] theorem mapHoles_flatMap {α : Type} (f : ε → δ) (g : α → Template ε) (xs : List α) :
    mapHoles f (xs.flatMap g) = xs.flatMap fun x => mapHoles f (g x) := by
  induction xs with
  | nil => rfl
  | cons x xs ih => simp [ih]

@[simp] theorem mapHoles_texts {α : Type} (f : ε → δ) (s : α → String) (xs : List α) :
    mapHoles f (xs.map fun x => .text (s x)) = xs.map fun x => .text (s x) := by
  induction xs with
  | nil => rfl
  | cons x xs ih => simp [ih]

@[simp] theorem mapHoles_separated (f : ε → δ) (ts : List (Template ε)) :
    mapHoles f (separated ts) = separated (ts.map (mapHoles f)) := by
  induction ts with
  | nil => rfl
  | cons t ts ih =>
    cases ts with
    | nil => rfl
    | cons u us => simp only [separated, List.map_cons, mapHoles_append, mapHoles_text, ih]

@[simp] theorem mapHoles_list (f : ε → δ) (es : List ε) :
    mapHoles f (list es) = list (es.map f) := by
  simp [list, Function.comp_def]

theorem fill_mapHoles (write : δ → String) (f : ε → δ) (t : Template ε) :
    fill write (mapHoles f t) = fill (fun e => write (f e)) t := by
  induction t with
  | nil => rfl
  | cons piece t ih => cases piece <;> simp [ih]

/-- Puts a template into every hole. -/
def plug (f : ε → Template δ) : Template ε → Template δ
  | [] => []
  | .text s :: t => .text s :: plug f t
  | .hole e :: t => f e ++ plug f t

theorem fill_plug (write : δ → String) (f : ε → Template δ) (t : Template ε) :
    fill write (plug f t) = fill (fun e => fill write (f e)) t := by
  induction t with
  | nil => rfl
  | cons piece t ih => cases piece <;> simp [plug, ih]

theorem holes_plug (f : ε → Template δ) (t : Template ε) :
    holes (plug f t) = (holes t).flatMap fun e => holes (f e) := by
  induction t with
  | nil => rfl
  | cons piece t ih => cases piece <;> simp [plug, ih]

end ExprDisplay.Template
