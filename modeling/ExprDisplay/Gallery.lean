import ExprDisplay.Expr.Infer

/-!
A gallery of named expressions that together show every kind of node.
-/
namespace ExprDisplay.Gallery

open ExprDisplay.Expr

def int (i : Int) : Expr := .constant (.int i) .int

def string (s : String) : Expr := .constant (.str s) .string

def classNamed (name : String) : Ty := .named name .classType

def car : Ty := classNamed "Car"

/-- A call of a method of the console that returns nothing. -/
def consoleCall (method text : String) : Expr :=
  .methodCall none ⟨classNamed "Console", method, .void⟩ [string text]

def integers (is : List Int) : List Value := is.map .int

/-- A zero-based grid of integers. -/
def matrix (lengths : List Nat) (is : List Int) : Value :=
  .array ⟨lengths, lengths.map fun _ => 0, integers is⟩

def vector (values : List Value) : Value := .array (.vector values)

def binarySample : Expr := inferBinary .greaterThan (int 1) (int 2)

def conditionalSample : Expr :=
  inferConditional (.constant (.bool true) .bool) (string "yes") (string "no")

/-- An array of arrays of arrays …, the ranks given from the innermost outward. -/
def jagged (element : Ty) (ranks : List Nat) : Ty := ranks.foldl Ty.arrayOf element

/-- Scalars, nulls and arrays of many shapes. -/
def constants : Expr :=
  inferBlock []
    [.constant .null (.generic "Nullable\x601" .struct [.int]),
      .constant .null .string,
      string "null",
      string "str",
      string " ",
      string "\t",
      .constant (.char ' ') .char,
      .constant (.char '\t') .char,
      .constant (.float 1.5) .single,
      .constant (vector [.null, matrix [2, 2] [1, 11, 2, 22]]) (jagged .int [2, 1]),
      .constant (vector (List.replicate 6 .null)) (jagged (classNamed "Program") [5, 1, 4, 1, 3, 1, 2, 1]),
      .constant (vector (integers [0, 1])) (.arrayOf .int 1),
      .constant (vector [.null, .str "null", .str " "]) (.arrayOf .string 1),
      .constant (matrix [2, 3] [1, 11, 111, 2, 22, 222]) (.arrayOf .int 2),
      .constant (matrix [2, 2, 2] [1, 11, 2, 22, 3, 33, 4, 44]) (.arrayOf .int 3),
      .constant (matrix [2, 2, 2, 2] [1, 11, 2, 22, 3, 33, 4, 44, 5, 55, 6, 66, 7, 77, 8, 88])
        (.arrayOf .int 4)]

def debugInfoSample : Expr := .debugInfo (.ofFile "debug") ⟨1, 2, 3, 4⟩

def defaults : Expr :=
  inferBlock []
    [.default (.generic "IEnumerable\x601" .interface [.int]),
      .default (.generic "Func\x601" .delegate [.int]),
      .default (classNamed "Program"),
      .default .int,
      .default (.named "DayOfWeek" .enum)]

def dynamicSample : Expr :=
  inferDynamic "GetMember Id"
    (.generic "Func\x603" .delegate [classNamed "CallSite", .object, .object])
    [.parameter (.named .object "o")]

def gotoSample : Expr := gotoTarget ⟨some "label", .void⟩

def returnSample : Expr := .goto .return ⟨none, .void⟩ (some (int 1)) .long

def indexVector : Expr :=
  arrayAccess (.constant (vector (integers [0, 1, 2, 3])) (.arrayOf .int 1)) [int 2]

def indexMatrix : Expr :=
  arrayAccess (.constant (matrix [2, 4] [0, 1, 2, 3, 10, 11, 12, 13]) (.arrayOf .int 2))
    [int 1, int 3]

def indexParam : Expr :=
  arrayAccess (.parameter (.named (.arrayOf .int 1) "Array")) [.parameter (.named .int "Index")]

/-- The function `(num1, num2) => ((num1 + num2) > 1000)`. -/
def lambdaSample : Expr :=
  let num1 : Param := .named .int "num1"
  let num2 : Param := .named .int "num2"
  inferLambda [num1, num2]
    (inferBinary .greaterThan (inferBinary .add (.parameter num1) (.parameter num2)) (int 1000))

def invocationSample : Expr := inferInvocation lambdaSample [int 10, int 20]

def labelSample : Expr := .label ⟨some "label", .void⟩ none

def labelDefault : Expr := .label ⟨some "labelType", .string⟩ (some (string "str"))

def listInitSample : Expr :=
  .listInit ⟨.generic "Dictionary\x602" .classType [.int, .string], [], none⟩
    [⟨"Add", [int 5, string "maple"]⟩, ⟨"Add", [int 3, string "oak"]⟩]

def loopSample : Expr := endlessLoop (int 1)

def memberSample : Expr :=
  .member (some (.constant (.object "Car") car)) ⟨car, "Name"⟩ .string

def memberInitSample : Expr :=
  let weight : Expr := .parameter (.named .int "weight")
  let height : Expr := .parameter (.named .int "height")
  .memberInit ⟨car, [weight, height], none⟩ [.assign "Weight" weight, .assign "Height" height]

def methodCallSample : Expr := consoleCall "Write" "Hello"

def newArraySample : Expr :=
  newArrayInit .string [string "oak", string "fir", string "spruce", string "alder"]

def newSample : Expr := .new ⟨.int, [], none⟩

/-- The construction `new { Name = "C#", IsSelected = true }`. -/
def newAnonymous : Expr :=
  .new ⟨classNamed "<>f__AnonymousType0", [string "C#", .constant (.bool true) .bool],
    some ["Name", "IsSelected"]⟩

def parameterSample : Expr := .parameter (.named .int "a")

def runtimeVariablesSample : Expr := .runtimeVariables [.named .int "x", .named .string "name"]

def switchSample : Expr := inferSwitch (int 1) none [⟨[int 1], consoleCall "WriteLine" "Second"⟩]

def tryFinally : Expr := inferTry (int 3) [] (some (consoleCall "WriteLine" "Second"))

def tryCatchSample : Expr :=
  inferTry (int 3)
    [⟨classNamed "Exception", some (.named (classNamed "Exception") "e"),
        some (.constant (.bool true) .bool), int 0⟩,
      ⟨.object, none, none, int (-1)⟩]
    none

def typeBinarySample : Expr := typeIs (int 3) .int

def unarySample : Expr := convert (int 2) .long

/-- The samples of single kinds, by name. -/
def single : List (String × Expr) :=
  [("binary", binarySample),
    ("conditional", conditionalSample),
    ("constants", constants),
    ("debug_info", debugInfoSample),
    ("defaults", defaults),
    ("dynamic", dynamicSample),
    ("goto", gotoSample),
    ("return", returnSample),
    ("index_vector", indexVector),
    ("index_matrix", indexMatrix),
    ("index_param", indexParam),
    ("invocation", invocationSample),
    ("label", labelSample),
    ("label_default", labelDefault),
    ("lambda", lambdaSample),
    ("list_init", listInitSample),
    ("loop", loopSample),
    ("member", memberSample),
    ("member_init", memberInitSample),
    ("method_call", methodCallSample),
    ("new_array", newArraySample),
    ("new", newSample),
    ("new_anonymous", newAnonymous),
    ("parameter", parameterSample),
    ("runtime_variables", runtimeVariablesSample),
    ("switch", switchSample),
    ("try_finally", tryFinally),
    ("try_catch", tryCatchSample),
    ("type_binary", typeBinarySample),
    ("unary", unarySample)]

/-- All samples; the last is a block of all others. -/
def samples : List (String × Expr) :=
  single ++ [("all", inferBlock [] (single.map Prod.snd))]

def names : List String := samples.map Prod.fst

def sample? (name : String) : Option Expr := samples.lookup name

end ExprDisplay.Gallery
