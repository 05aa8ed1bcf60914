import SlashLine.Scalar
import SlashLine.Slots
import SlashLine.Text.Quoted

/-!
# Flags

The values flags carry, the declarations of flags, and the splitting of tokens into flags and
arguments.
-/

namespace SlashLine.Command

/-! ## Values -/

/-- What a flag carries: a text, its mere presence, or a number. -/
inductive FlagValue where
  | text (s : String)
  | present (b : Bool)
  | number (x : Binary64)
  deriving DecidableEq

/-- Why a value cannot be a flag's. -/
inductive WrapError where
  /-- Values of that kind are not carried. -/
  | unsupported (kind : String)
  /-- The whole number is beyond every floating-point number. -/
  | tooLarge
  deriving DecidableEq, Repr

namespace WrapError

/-- The text of the error. -/
def message : WrapError → String
  | unsupported kind => "Cannot convert " ++ kind ++ " to a flag value"
  | tooLarge => "int too large to convert to float"

end WrapError

namespace FlagValue

instance : Inhabited FlagValue := ⟨present true⟩

/-- The plain value a flag carries. -/
def toScalar : FlagValue → Scalar
  | text s => .text s
  | present b => .bool b
  | number x => .float x

/-- The flag value that carries a plain value. Whole numbers become floating-point numbers. -/
def wrap : Scalar → Except WrapError FlagValue
  | .text s => .ok (text s)
  | .bool b => .ok (present b)
  | .float x => .ok (number x)
  | .int i =>
    match Binary64.ofInt? i with
    | some x => .ok (number x)
    | none => .error .tooLarge
  | .null => .error (.unsupported "NoneType")
  | .moment _ => .error (.unsupported "date")
  | .bytes _ => .error (.unsupported "bytes")
  | .unpaired letters => .ok (text (String.ofList letters.chars))

/-- A list of values is no flag value. -/
def wrapList (_ : List Scalar) : Except WrapError FlagValue := .error (.unsupported "list")

/-- The text of a flag value. A number without a fraction is written as a whole number. -/
def render : FlagValue → Except Binary64.NoWholePart String
  | text s => .ok s
  | present b => .ok (if b then "true" else "false")
  | number x =>
    match x.truncate with
    | .error e => .error e
    | .ok whole => .ok (if x.isIntegral then toString whole else Scalar.floatStyle.write x)

end FlagValue

/-! ## Declarations -/

/-- The kinds of value a flag is declared to take. -/
inductive FlagKind where
  | string
  | boolean
  | number
  deriving DecidableEq, Repr

namespace FlagKind

instance : Inhabited FlagKind := ⟨string⟩

/-- The name a kind is declared by. -/
def name : FlagKind → String
  | string => "string"
  | boolean => "boolean"
  | number => "number"

/-- The kind of a name. -/
def ofName? (name : String) : Option FlagKind :=
  [string, boolean, number].find? (·.name == name)

/-- What is said about a name that is no kind's. -/
def unknownMessage (name : String) : String := Text.notAMember name "FlagType"

end FlagKind

/-- The declaration of a flag: its name, perhaps a second, short one, and what it takes. -/
structure FlagSpec where
  name : String
  description : String := ""
  kind : FlagKind := .string
  short : Option String := none
  required : Bool := false
  default : Scalar := .null
  deriving DecidableEq

namespace FlagSpec

/-- A key that is given refers to this flag. -/
def matchesKey (spec : FlagSpec) (key : String) : Bool :=
  key == spec.name || spec.short == some key

/-- The first flag that a key refers to. -/
def find? (specs : List FlagSpec) (key : String) : Option FlagSpec :=
  specs.find? (·.matchesKey key)

end FlagSpec

/-! ## Splitting tokens -/

/-- The token starts with a dash. -/
def startsDash (token : String) : Bool := token.toList.head? == some '-'

/-- A dash and more: such a token gives flags. -/
def isFlagToken (token : String) : Bool :=
  match token.toList with
  | '-' :: _ :: _ => true
  | _ => false

/-- The flags a token gives, if the last of them takes the given value. After two dashes all of the
rest is one name; after one dash every character is a name, and those before the last are merely
present. -/
def flagWrites (token : String) (value : FlagValue) : List (String × FlagValue) :=
  match token.toList with
  | '-' :: '-' :: name => [(String.ofList name, value)]
  | '-' :: group =>
    group.dropLast.map (fun c => (String.singleton c, .present true)) ++
      (group.getLast?.map fun c => (String.singleton c, value)).toList
  | _ => []

/-- The flags that tokens give, in order, and the arguments among them. A flag takes the token
after it as its value unless that starts with a dash. -/
def splitTokens : List String → List (String × FlagValue) × List String
  | [] => ([], [])
  | [token] =>
    if isFlagToken token then (flagWrites token (.present true), []) else ([], [token])
  | token :: next :: rest =>
    if isFlagToken token then
      if startsDash next then
        let (writes, arguments) := splitTokens (next :: rest)
        (flagWrites token (.present true) ++ writes, arguments)
      else
        let (writes, arguments) := splitTokens rest
        (flagWrites token (.text next) ++ writes, arguments)
    else
      let (writes, arguments) := splitTokens (next :: rest)
      (writes, token :: arguments)

/-- The flags, each holding what was given last, and the arguments. -/
def parseFlags (tokens : List String) : Slots String FlagValue × List String :=
  (Slots.ofList (splitTokens tokens).1, (splitTokens tokens).2)

end SlashLine.Command
