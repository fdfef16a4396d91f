import ExprDisplay.Json.Reader
import ExprDisplay.Json.Writer

/-!
Reading back what was written. Compact and pretty text differ only in the blanks that a
layout puts before items and after colons, and the reader skips blanks. It has to be let
down as deep as the value is nested; the length of the text is always enough.

Main statement: JSON without numbers is read back from its text in every layout, so from
its compact and its pretty text.
-/

set_option autoImplicit false

namespace ExprDisplay.Json

/-! ### Strings -/

theorem hexValue?_hexDigit {n : Nat} (digit : n < 16) : hexValue? (hexDigit n) = some n := by
  have all : ∀ n < 16, hexValue? (hexDigit n) = some n := by decide
  exact all n digit

theorem characters?_short {c x : Char} (short : escaped? x = some c) (cs : List Char) :
    characters? ('\\' :: x :: cs) = joinChar c (characters? cs) := by
  have other : x ≠ 'u' := by
    rintro rfl
    simp [escaped?] at short
  rw [characters?]
  · rw [short]
  · intro _ _ _ _ _ unicode
    exact absurd unicode other

theorem characters?_plain {c : Char} (quote : c ≠ '"') (backslash : c ≠ '\\')
    (printed : ¬ c.toNat < 32) (cs : List Char) :
    characters? (c :: cs) = joinChar c (characters? cs) := by
  rw [characters?]
  · simp [backslash, printed]
  · exact quote
  · rintro a b d e rest rfl
    exact absurd rfl backslash
  · rintro a b d
    exact absurd d backslash

theorem characters?_control {c : Char} (control : c.toNat < 32) (cs : List Char) :
    characters? ('\\' :: 'u' :: '0' :: '0' :: hexDigit (c.toNat / 16) ::
      hexDigit (c.toNat % 16) :: cs) = joinChar c (characters? cs) := by
  have high := hexValue?_hexDigit (n := c.toNat / 16) (by omega)
  have low := hexValue?_hexDigit (n := c.toNat % 16) (by omega)
  have zero : hexValue? '0' = some 0 := by decide
  have unit : unit? '0' '0' (hexDigit (c.toNat / 16)) (hexDigit (c.toNat % 16)) = some c.toNat := by
    have value : c.toNat / 16 * 16 + c.toNat % 16 = c.toNat := by omega
    simp [unit?, zero, high, low, value]
  have lone : lone? c.toNat = some c := by
    have small : c.toNat < 0xd800 := by omega
    simp [lone?, small]
  rw [characters?.eq_def]
  simp only [unit, Option.bind_some, lone]

/-- Each character is read from its escape. -/
theorem characters?_escapeChar (c : Char) (cs : List Char) :
    characters? (escapeChar c ++ cs) = joinChar c (characters? cs) := by
  unfold escapeChar
  split
  next quote =>
    subst quote
    exact characters?_short rfl cs
  next quote =>
  split
  next backslash =>
    subst backslash
    exact characters?_short rfl cs
  next backslash =>
  -- The five control characters with short names.
  iterate 5
    split
    next short =>
      subst short
      exact characters?_short rfl cs
  split
  next control => exact characters?_control control cs
  next printed => exact characters?_plain quote backslash printed cs

/-- The characters of a string and its closing quote. -/
theorem characters?_escaped (s rest : List Char) :
    characters? (s.flatMap escapeChar ++ '"' :: rest) = some (s, rest) := by
  induction s with
  | nil => rw [List.flatMap_nil, List.nil_append, characters?]
  | cons c s ih =>
    rw [List.flatMap_cons, List.append_assoc, characters?_escapeChar, ih]
    rfl

/-! ### Layouts -/

/-- The blanks of a written text: before what stands at a level, and after a colon. -/
structure Layout where
  gap : (level : Nat) → List Char
  space : List Char
  blank_gap : ∀ level, ∀ c ∈ gap level, isBlank c = true
  blank_space : ∀ c ∈ space, isBlank c = true

def Layout.compact : Layout := ⟨fun _ => [], [], nofun, nofun⟩

def Layout.pretty : Layout where
  gap level := (newLine level).toList
  space := [' ']
  blank_gap level c member := by
    simp only [newLine, String.toList_append, String.toList_ofList, List.mem_append] at member
    rcases member with line | indent
    · obtain rfl : c = '\n' := List.mem_singleton.mp line
      rfl
    · rw [List.eq_of_mem_replicate indent]
      rfl
  blank_space c member := by
    obtain rfl : c = ' ' := List.mem_singleton.mp member
    rfl

def quoted (s : String) : List Char := '"' :: (s.toList.flatMap escapeChar ++ ['"'])

/-- A field: its name, a colon and the text of its value. -/
def fieldText (l : Layout) (name : String) (value : List Char) : List Char :=
  quoted name ++ ':' :: (l.space ++ value)

mutual

/-- Text in a layout, for a value that stands at the given level. -/
def write (l : Layout) : (level : Nat) → Json → List Char
  | _, .null => ['n', 'u', 'l', 'l']
  | _, .bool true => ['t', 'r', 'u', 'e']
  | _, .bool false => ['f', 'a', 'l', 's', 'e']
  | _, .number literal => literal.toList
  | _, .string s => quoted s
  | _, .array [] => ['[', ']']
  | level, .array (item :: items) =>
    '[' :: (l.gap (level + 1) ++ write l (level + 1) item ++ writeItems l (level + 1) items ++
      l.gap level ++ [']'])
  | _, .object [] => ['\x7b', '\x7d']
  | level, .object ((name, value) :: fields) =>
    '\x7b' :: (l.gap (level + 1) ++ fieldText l name (write l (level + 1) value) ++
      writeFields l (level + 1) fields ++ l.gap level ++ ['\x7d'])

/-- The items after the first. -/
def writeItems (l : Layout) : (level : Nat) → List Json → List Char
  | _, [] => []
  | level, item :: items => ',' :: (l.gap level ++ write l level item ++ writeItems l level items)

/-- The fields after the first. -/
def writeFields (l : Layout) : (level : Nat) → List (String × Json) → List Char
  | _, [] => []
  | level, (name, value) :: fields =>
    ',' :: (l.gap level ++ fieldText l name (write l level value) ++ writeFields l level fields)

end

theorem toList_quote (s : String) : (quote s).toList = quoted s := by
  simp [quote, quoted]

mutual

theorem toList_compact (level : Nat) : (j : Json) → j.compact.toList = write .compact level j
  | .null => rfl
  | .bool true => rfl
  | .bool false => rfl
  | .number _ => rfl
  | .string s => toList_quote s
  | .array [] => rfl
  | .array (item :: items) => by
    simp [compact, write, Layout.compact, toList_compact (level + 1) item,
      toList_compactItems (level + 1) items]
  | .object [] => rfl
  | .object ((name, value) :: fields) => by
    simp [compact, write, Layout.compact, fieldText, toList_quote, toList_compact (level + 1) value,
      toList_compactFields (level + 1) fields]

theorem toList_compactItems (level : Nat) :
    (items : List Json) → (compactItems items).toList = writeItems .compact level items
  | [] => rfl
  | item :: items => by
    simp [compactItems, writeItems, Layout.compact, toList_compact level item,
      toList_compactItems level items]

theorem toList_compactFields (level : Nat) : (fields : List (String × Json)) →
    (compactFields fields).toList = writeFields .compact level fields
  | [] => rfl
  | (name, value) :: fields => by
    simp [compactFields, writeFields, Layout.compact, fieldText, toList_quote,
      toList_compact level value, toList_compactFields level fields]

end

mutual

theorem toList_prettyAt (level : Nat) :
    (j : Json) → (j.prettyAt level).toList = write .pretty level j
  | .null => by simp [prettyAt, write]
  | .bool true => by simp [prettyAt, write]
  | .bool false => by simp [prettyAt, write]
  | .number _ => by simp [prettyAt, write]
  | .string s => by simp [prettyAt, write, toList_quote]
  | .array [] => by simp [prettyAt, write]
  | .array (item :: items) => by
    simp [prettyAt, write, Layout.pretty, toList_prettyAt (level + 1) item,
      toList_prettyItems (level + 1) items]
  | .object [] => by simp [prettyAt, write]
  | .object ((name, value) :: fields) => by
    simp [prettyAt, write, Layout.pretty, fieldText, toList_quote,
      toList_prettyAt (level + 1) value, toList_prettyFields (level + 1) fields]

theorem toList_prettyItems (level : Nat) :
    (items : List Json) → (prettyItems level items).toList = writeItems .pretty level items
  | [] => rfl
  | item :: items => by
    simp [prettyItems, writeItems, Layout.pretty, toList_prettyAt level item,
      toList_prettyItems level items]

theorem toList_prettyFields (level : Nat) : (fields : List (String × Json)) →
    (prettyFields level fields).toList = writeFields .pretty level fields
  | [] => rfl
  | (name, value) :: fields => by
    simp [prettyFields, writeFields, Layout.pretty, fieldText, toList_quote,
      toList_prettyAt level value, toList_prettyFields level fields]

end

/-! ### Reading -/

/-- Values without numbers in them. -/
inductive Numberless : Json → Prop where
  | null : Numberless .null
  | bool (b : Bool) : Numberless (.bool b)
  | string (s : String) : Numberless (.string s)
  | array {items : List Json} (each : ∀ item ∈ items, Numberless item) : Numberless (.array items)
  | object {fields : List (String × Json)} (each : ∀ field ∈ fields, Numberless field.2) :
    Numberless (.object fields)

theorem skipBlanks_append {blanks : List Char} (blank : ∀ c ∈ blanks, isBlank c = true)
    (cs : List Char) : skipBlanks (blanks ++ cs) = skipBlanks cs :=
  List.dropWhile_append_of_pos blank

theorem skipBlanks_cons {c : Char} (solid : isBlank c = false) (cs : List Char) :
    skipBlanks (c :: cs) = c :: cs :=
  List.dropWhile_cons_of_neg (by simp [solid])

theorem value?_blanks {blanks : List Char} (blank : ∀ c ∈ blanks, isBlank c = true) (fuel : Nat)
    (cs : List Char) : value? fuel (blanks ++ cs) = value? fuel cs := by
  cases fuel with
  | zero => rw [value?, value?]
  | succ depth => simp only [value?, skipBlanks_append blank]

theorem items?_blanks {blanks : List Char} (blank : ∀ c ∈ blanks, isBlank c = true) (fuel : Nat)
    (cs : List Char) : items? fuel (blanks ++ cs) = items? fuel cs := by
  cases fuel with
  | zero => rw [items?, items?]
  | succ depth => simp only [items?, value?_blanks blank]

theorem fields?_blanks {blanks : List Char} (blank : ∀ c ∈ blanks, isBlank c = true) (fuel : Nat)
    (cs : List Char) : fields? fuel (blanks ++ cs) = fields? fuel cs := by
  cases fuel with
  | zero => rw [fields?, fields?]
  | succ depth => simp only [fields?, skipBlanks_append blank]

/-- A value's text starts with a character that is neither blank nor closes a list. -/
theorem write_eq_cons (l : Layout) (level : Nat) {j : Json} (numberless : j.Numberless) :
    ∃ c cs, write l level j = c :: cs ∧ isBlank c = false ∧ c ≠ ']' := by
  cases numberless with
  | null => exact ⟨_, _, rfl, rfl, by decide⟩
  | bool b => cases b <;> exact ⟨_, _, rfl, rfl, by decide⟩
  | string s => exact ⟨_, _, rfl, rfl, by decide⟩
  | @array items _ => cases items <;> exact ⟨_, _, rfl, rfl, by decide⟩
  | @object fields _ => cases fields <;> exact ⟨_, _, rfl, rfl, by decide⟩

/-- Let down deeper than the text is long, the reader takes the value off its text. -/
def Reads (l : Layout) (j : Json) : Prop := ∀ (level fuel : Nat) (rest : List Char),
  (write l level j).length < fuel → value? fuel (write l level j ++ rest) = some (j, rest)

theorem Reads.of_succ {l : Layout} {j : Json} (reads : ∀ (level depth : Nat) (rest : List Char),
    (write l level j).length ≤ depth →
      value? (depth + 1) (write l level j ++ rest) = some (j, rest)) : Reads l j
  | _, 0, _, deep => absurd deep (Nat.not_lt_zero _)
  | level, depth + 1, rest, deep => reads level depth rest (Nat.le_of_lt_succ deep)

/-- The items of a list up to its closing bracket, by induction on the items. -/
theorem items?_write {l : Layout} {item : Json} {items : List Json}
    (each : ∀ i ∈ item :: items, Reads l i) {close : List Char}
    (blank : ∀ c ∈ close, isBlank c = true) (level fuel : Nat) (rest : List Char)
    (deep : (write l level item ++ (writeItems l level items ++ close)).length + 1 < fuel) :
    items? fuel (write l level item ++ (writeItems l level items ++ (close ++ ']' :: rest))) =
      some (item :: items, rest) := by
  induction items generalizing item fuel with
  | nil =>
    obtain ⟨depth, rfl⟩ := Nat.exists_eq_succ_of_ne_zero (Nat.ne_zero_of_lt deep)
    simp only [List.length_append] at deep
    rw [items?, each item List.mem_cons_self level depth _ (by omega)]
    simp only [writeItems, List.nil_append, skipBlanks_append blank,
      skipBlanks_cons (show isBlank ']' = false from rfl)]
  | cons next items ih =>
    obtain ⟨depth, rfl⟩ := Nat.exists_eq_succ_of_ne_zero (Nat.ne_zero_of_lt deep)
    simp only [writeItems, List.length_append, List.length_cons] at deep
    have others := ih (fun i later => each i (List.mem_cons_of_mem _ later)) depth
      (by simp only [List.length_append]; omega)
    rw [items?, each item List.mem_cons_self level depth _ (by omega)]
    simp only [writeItems, List.cons_append, List.append_assoc,
      skipBlanks_cons (show isBlank ',' = false from rfl), items?_blanks (l.blank_gap level),
      others, Option.map_some]

/-- One field is read, and then a brace ends the object or a comma goes on to the others. -/
theorem fields?_fieldText {l : Layout} {name : String} {value : Json} (reads : Reads l value)
    {level depth : Nat} (deep : (fieldText l name (write l level value)).length ≤ depth)
    (more rest : List Char) :
    let read := fields? (depth + 1) (fieldText l name (write l level value) ++ more)
    (skipBlanks more = '\x7d' :: rest → read = some ([(name, value)], rest)) ∧
    (skipBlanks more = ',' :: rest → ∀ fields end', fields? depth rest = some (fields, end') →
      read = some ((name, value) :: fields, end')) := by
  intro read
  have text : read = fields? (depth + 1) ('"' :: (name.toList.flatMap escapeChar ++ '"' ::
      ':' :: (l.space ++ (write l level value ++ more)))) := by
    simp [read, fieldText, quoted]
  have inner : (write l level value).length < depth := by
    simp only [fieldText, quoted, List.length_append, List.length_cons] at deep
    omega
  refine ⟨fun ends => ?_, fun goes fields end' others => ?_⟩
  all_goals
    rw [text, fields?, skipBlanks_cons (by rfl)]
    simp only [characters?_escaped, skipBlanks_cons (show isBlank ':' = false from rfl),
      value?_blanks l.blank_space, reads level depth more inner, String.ofList_toList]
  · simp only [ends]
  · simp only [goes, others, Option.map_some]

/-- The fields of an object up to its closing brace, by induction on the fields. -/
theorem fields?_write {l : Layout} {name : String} {value : Json} {fields : List (String × Json)}
    (each : ∀ f ∈ (name, value) :: fields, Reads l f.2) {close : List Char}
    (blank : ∀ c ∈ close, isBlank c = true) (level fuel : Nat) (rest : List Char)
    (deep : (fieldText l name (write l level value) ++
      (writeFields l level fields ++ close)).length + 1 < fuel) :
    fields? fuel (fieldText l name (write l level value) ++ (writeFields l level fields ++
      (close ++ '\x7d' :: rest))) = some ((name, value) :: fields, rest) := by
  have here : Reads l value := each (name, value) List.mem_cons_self
  induction fields generalizing name value fuel with
  | nil =>
    obtain ⟨depth, rfl⟩ := Nat.exists_eq_succ_of_ne_zero (Nat.ne_zero_of_lt deep)
    simp only [List.length_append] at deep
    refine (fields?_fieldText here (by omega) _ rest).1 ?_
    rw [writeFields, List.nil_append, skipBlanks_append blank, skipBlanks_cons (by rfl)]
  | cons next fields ih =>
    obtain ⟨depth, rfl⟩ := Nat.exists_eq_succ_of_ne_zero (Nat.ne_zero_of_lt deep)
    obtain ⟨name', value'⟩ := next
    simp only [writeFields, List.length_append, List.length_cons] at deep
    have later (f) (member : f ∈ (name', value') :: fields) : Reads l f.2 :=
      each f (List.mem_cons_of_mem _ member)
    have others := ih later depth (by simp only [List.length_append]; omega)
      (later (name', value') List.mem_cons_self)
    rw [writeFields, List.cons_append, List.append_assoc, List.append_assoc]
    refine (fields?_fieldText here (by omega) _ _).2 (skipBlanks_cons (by rfl) _) _ _ ?_
    rw [fields?_blanks (l.blank_gap level), others]

/-- A list that does not end at once has items. -/
theorem value?_items {c : Char} {cs more : List Char} (first : skipBlanks cs = c :: more)
    (opens : c ≠ ']') (depth : Nat) :
    value? (depth + 1) ('[' :: cs) =
      (items? depth (c :: more)).map fun read => (.array read.1, read.2) := by
  rw [value?, skipBlanks_cons (by rfl)]
  simp only [first]
  split
  next ended => exact absurd (List.cons.inj ended).1 opens
  · rfl

/-- An object that does not end at once has fields. -/
theorem value?_fields {c : Char} {cs more : List Char} (first : skipBlanks cs = c :: more)
    (opens : c ≠ '\x7d') (depth : Nat) :
    value? (depth + 1) ('\x7b' :: cs) =
      (fields? depth (c :: more)).map fun read => (.object read.1, read.2) := by
  rw [value?, skipBlanks_cons (by rfl)]
  simp only [first]
  split
  next ended => exact absurd (List.cons.inj ended).1 opens
  · rfl

theorem reads_array {l : Layout} {items : List Json}
    (numberless : ∀ item ∈ items, item.Numberless) (each : ∀ item ∈ items, Reads l item) :
    Reads l (.array items) := by
  refine .of_succ fun level depth rest deep => ?_
  cases items with
  | nil => simp [write, value?, skipBlanks, isBlank]
  | cons item items =>
    obtain ⟨c, cs, start, solid, opens⟩ :=
      write_eq_cons l (level + 1) (numberless item List.mem_cons_self)
    have text : write l level (.array (item :: items)) ++ rest =
        '[' :: (l.gap (level + 1) ++ (write l (level + 1) item ++
          (writeItems l (level + 1) items ++ (l.gap level ++ ']' :: rest)))) := by
      simp [write]
    simp only [write, List.length_append, List.length_cons] at deep
    have inner := items?_write each (l.blank_gap level) (level + 1) depth rest
      (by simp only [List.length_append]; omega)
    rw [start, List.cons_append] at inner text
    have first := skipBlanks_append (l.blank_gap (level + 1)) (c :: (cs ++
      (writeItems l (level + 1) items ++ (l.gap level ++ ']' :: rest))))
    rw [skipBlanks_cons solid] at first
    rw [text, value?_items first opens, inner]
    rfl

theorem reads_object {l : Layout} {fields : List (String × Json)}
    (each : ∀ field ∈ fields, Reads l field.2) : Reads l (.object fields) := by
  refine .of_succ fun level depth rest deep => ?_
  cases fields with
  | nil => simp [write, value?, skipBlanks, isBlank]
  | cons field fields =>
    obtain ⟨name, value⟩ := field
    have text : write l level (.object ((name, value) :: fields)) ++ rest =
        '\x7b' :: (l.gap (level + 1) ++ (fieldText l name (write l (level + 1) value) ++
          (writeFields l (level + 1) fields ++ (l.gap level ++ '\x7d' :: rest)))) := by
      simp [write]
    simp only [write, List.length_append, List.length_cons] at deep
    have inner := fields?_write each (l.blank_gap level) (level + 1) depth rest
      (by simp only [List.length_append]; omega)
    have first := skipBlanks_append (l.blank_gap (level + 1))
      (fieldText l name (write l (level + 1) value) ++
        (writeFields l (level + 1) fields ++ (l.gap level ++ '\x7d' :: rest)))
    rw [fieldText, quoted, List.cons_append, List.cons_append] at inner text first
    rw [skipBlanks_cons (by rfl)] at first
    rw [text, value?_fields first (by decide), inner]
    rfl

/-- Every value without numbers is read back, by induction on the value. -/
theorem Numberless.reads {j : Json} (numberless : j.Numberless) (l : Layout) : Reads l j := by
  induction numberless with
  | null =>
    refine .of_succ fun level depth rest _ => ?_
    simp [write, value?, skipBlanks, isBlank]
  | bool b =>
    refine .of_succ fun level depth rest _ => ?_
    cases b <;> simp [write, value?, skipBlanks, isBlank]
  | string s =>
    refine .of_succ fun level depth rest _ => ?_
    simp [write, quoted, value?, skipBlanks, isBlank, characters?_escaped]
  | array numberless ih => exact reads_array numberless ih
  | object _ ih => exact reads_object ih

theorem Numberless.parse?_write {j : Json} (numberless : j.Numberless) (l : Layout) (level : Nat)
    {text : String} (written : text.toList = write l level j) : parse? text = some j := by
  have whole := numberless.reads l level (text.toList.length + 1) [] (by rw [written]; omega)
  rw [List.append_nil, ← written] at whole
  rw [parse?, whole]
  rfl

theorem Numberless.parse?_compact {j : Json} (numberless : j.Numberless) :
    parse? j.compact = some j :=
  numberless.parse?_write .compact 0 (toList_compact 0 j)

theorem Numberless.parse?_pretty {j : Json} (numberless : j.Numberless) :
    parse? j.pretty = some j :=
  numberless.parse?_write .pretty 0 (toList_prettyAt 0 j)

end ExprDisplay.Json
