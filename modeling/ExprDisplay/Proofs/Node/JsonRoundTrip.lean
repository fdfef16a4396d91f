import ExprDisplay.Format.Basic
import ExprDisplay.Proofs.Json.RoundTrip

/-!
Display trees read back from JSON. A tree becomes an object without numbers, whose absent
fields are left out, and the decoder takes an absent field for none.

Main statement: every tree is decoded from its text, in the JSON format as well as
written compactly.
-/

set_option autoImplicit false

namespace ExprDisplay.Node

/-- Decodes the text of a tree. -/
def ofText? (text : String) : Option Node := (Json.parse? text).bind ofJson?

theorem ofName?_name (kind : Kind) : Kind.ofName? kind.name = some kind := by
  cases kind <;> decide

mutual

theorem ofJson?_toJson : (n : Node) → ofJson? n.toJson = some n
  | ⟨kind, label, literal, children⟩ => by
    have below := ofList?_forestToJson children
    cases kind <;> cases literal <;>
      simp [toJson, optionalField, ofJson?, ofFields?, ofItems?, below, labelOfJson?, kindOfJson?,
        literalOfJson?, ofName?_name, once?, Draft.empty, Draft.node?]

theorem ofList?_forestToJson : (ns : List Node) → ofList? (forestToJson ns) = some ns
  | [] => rfl
  | n :: ns => by
    rw [forestToJson, ofList?, ofJson?_toJson n, ofList?_forestToJson ns]

end

theorem numberless_optionalField (name : String) (text : Option String) :
    ∀ field ∈ optionalField name text, field.2.Numberless := by
  cases text with
  | none => exact nofun
  | some s =>
    intro field member
    obtain rfl := List.mem_singleton.mp member
    exact .string s

mutual

theorem numberless_toJson : (n : Node) → n.toJson.Numberless
  | ⟨kind, label, literal, children⟩ => by
    refine .object ?_
    simp only [List.forall_mem_append, List.forall_mem_singleton]
    exact ⟨⟨⟨numberless_optionalField _ _, .string label⟩, numberless_optionalField _ _⟩,
      .array (numberless_forestToJson children)⟩

theorem numberless_forestToJson : (ns : List Node) → ∀ j ∈ forestToJson ns, j.Numberless
  | [] => nofun
  | n :: ns => by
    rw [forestToJson, List.forall_mem_cons]
    exact ⟨numberless_toJson n, numberless_forestToJson ns⟩

end

/-- Every tree can be written in the JSON format and is decoded from the text, and from
its compact text as well. -/
theorem ofText?_json (t : Node) :
    (∃ text, Formatter.json.write t = .ok text ∧ ofText? text = some t) ∧
    ofText? t.toJson.compact = some t := by
  have numberless := numberless_toJson t
  refine ⟨⟨t.toJson.pretty, rfl, ?_⟩, ?_⟩
  · rw [ofText?, numberless.parse?_pretty, Option.bind_some, ofJson?_toJson]
  · rw [ofText?, numberless.parse?_compact, Option.bind_some, ofJson?_toJson]

end ExprDisplay.Node
