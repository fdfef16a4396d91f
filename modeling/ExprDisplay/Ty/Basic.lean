/-!
Described types. A description is never laid out or evaluated: it is asked for its
kind, element, rank and arguments, and it is named (`ExprDisplay.Ty.Name`).
-/
namespace ExprDisplay

/-- Declared kind of a type. -/
inductive TypeKind where
  | classType | struct | interface | delegate | enum
  deriving DecidableEq, Repr

namespace TypeKind

def all : List TypeKind := [.classType, .struct, .interface, .delegate, .enum]

def name : TypeKind → String
  | .classType => "class"
  | .struct => "struct"
  | .interface => "interface"
  | .delegate => "delegate"
  | .enum => "enum"

/-- The word that names the kind of a default value; an enumeration is a value type. -/
def word : TypeKind → String
  | .enum => TypeKind.struct.name
  | kind => kind.name

end TypeKind

/-- Built-in types. -/
inductive Primitive where
  | byte | sbyte | int16 | uint16 | int32 | uint32 | int64 | uint64
  | single | double | decimal | char | string | boolean | object | void
  deriving DecidableEq, Repr

namespace Primitive

def all : List Primitive :=
  [.byte, .sbyte, .int16, .uint16, .int32, .uint32, .int64, .uint64,
    .single, .double, .decimal, .char, .string, .boolean, .object, .void]

/-- The name a running program reports. -/
def runtimeName : Primitive → String
  | .byte => "Byte"
  | .sbyte => "SByte"
  | .int16 => "Int16"
  | .uint16 => "UInt16"
  | .int32 => "Int32"
  | .uint32 => "UInt32"
  | .int64 => "Int64"
  | .uint64 => "UInt64"
  | .single => "Single"
  | .double => "Double"
  | .decimal => "Decimal"
  | .char => "Char"
  | .string => "String"
  | .boolean => "Boolean"
  | .object => "Object"
  | .void => "Void"

/-- The name a programmer writes. -/
def keyword : Primitive → String
  | .byte => "byte"
  | .sbyte => "sbyte"
  | .int16 => "short"
  | .uint16 => "ushort"
  | .int32 => "int"
  | .uint32 => "uint"
  | .int64 => "long"
  | .uint64 => "ulong"
  | .single => "float"
  | .double => "double"
  | .decimal => "decimal"
  | .char => "char"
  | .string => "string"
  | .boolean => "bool"
  | .object => "object"
  | .void => "void"

def kind : Primitive → TypeKind
  | .string | .object => .classType
  | _ => .struct

def ofName? (name : String) : Option Primitive :=
  all.find? (·.runtimeName == name)

end Primitive

/-- A type's description. A generic without arguments is an open definition; an
array whose element is an array is jagged. -/
inductive Ty where
  | primitive (p : Primitive)
  | named (name : String) (kind : TypeKind)
  | generic (name : String) (kind : TypeKind) (arguments : List Ty)
  | array (element : Ty) (rank : Nat)
  deriving Repr

namespace Ty

def int : Ty := .primitive .int32
def long : Ty := .primitive .int64
def single : Ty := .primitive .single
def bool : Ty := .primitive .boolean
def char : Ty := .primitive .char
def string : Ty := .primitive .string
def object : Ty := .primitive .object
def void : Ty := .primitive .void

/-- An array of this type; its rank is at least one. -/
def arrayOf (element : Ty) (rank : Nat) : Ty := .array element (max rank 1)

def kind : Ty → TypeKind
  | .primitive p => p.kind
  | .named _ kind => kind
  | .generic _ kind _ => kind
  | .array .. => .classType

def isPrimitive : Ty → Bool
  | .primitive _ => true
  | _ => false

def isGeneric : Ty → Bool
  | .generic .. => true
  | _ => false

def isGenericDefinition : Ty → Bool
  | .generic _ _ arguments => arguments.isEmpty
  | _ => false

def isArray : Ty → Bool
  | .array .. => true
  | _ => false

def element? : Ty → Option Ty
  | .array element _ => some element
  | _ => none

def rank? : Ty → Option Nat
  | .array _ rank => some rank
  | _ => none

def arguments : Ty → List Ty
  | .generic _ _ arguments => arguments
  | _ => []

/-- The type of an array's elements; what is no array holds objects. -/
def elementOrObject (t : Ty) : Ty := t.element?.getD .object

mutual

/-- Structural equality. -/
def beq : Ty → Ty → Bool
  | .primitive p, .primitive q => p == q
  | .named n k, .named m l => n == m && k == l
  | .generic n k as, .generic m l bs => n == m && k == l && beqList as bs
  | .array s m, .array t n => beq s t && m == n
  | _, _ => false

def beqList : List Ty → List Ty → Bool
  | [], [] => true
  | s :: ss, t :: ts => beq s t && beqList ss ts
  | _, _ => false

end

instance : BEq Ty := ⟨beq⟩

mutual

theorem beq_self : (t : Ty) → beq t t = true
  | .primitive _ => by simp [beq]
  | .named .. => by simp [beq]
  | .generic _ _ as => by simp [beq, beqList_self as]
  | .array s _ => by simp [beq, beq_self s]

theorem beqList_self : (ts : List Ty) → beqList ts ts = true
  | [] => by simp [beqList]
  | t :: ts => by simp [beqList, beq_self t, beqList_self ts]

end

mutual

theorem eq_of_beq : (s t : Ty) → beq s t = true → s = t
  | .primitive p, t, h => by cases t <;> simp_all [beq]
  | .named n k, t, h => by cases t <;> simp_all [beq]
  | .generic n k as, t, h => by
    cases t with
    | generic m l bs =>
      simp only [beq, Bool.and_eq_true, beq_iff_eq] at h
      rw [h.1.1, h.1.2, eq_of_beqList as bs h.2]
    | _ => simp [beq] at h
  | .array s m, t, h => by
    cases t with
    | array u n =>
      simp only [beq, Bool.and_eq_true, beq_iff_eq] at h
      rw [eq_of_beq s u h.1, h.2]
    | _ => simp [beq] at h

theorem eq_of_beqList : (ss ts : List Ty) → beqList ss ts = true → ss = ts
  | [], ts, h => by cases ts <;> simp_all [beqList]
  | s :: ss, ts, h => by
    cases ts with
    | nil => simp [beqList] at h
    | cons t ts =>
      simp only [beqList, Bool.and_eq_true] at h
      rw [eq_of_beq s t h.1, eq_of_beqList ss ts h.2]

end

instance : LawfulBEq Ty where
  eq_of_beq := eq_of_beq _ _
  rfl := beq_self _

instance : DecidableEq Ty := fun s t =>
  decidable_of_iff (beq s t = true) ⟨eq_of_beq s t, fun h => h ▸ beq_self s⟩

end Ty

end ExprDisplay
