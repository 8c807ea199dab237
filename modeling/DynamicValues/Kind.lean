/-!
# The kinds of values
-/

set_option autoImplicit false

namespace DynamicValues

/-- The seven kinds. Undefined is a content of scalars, not a kind. -/
inductive Kind where
  | scalar
  | array
  | hash
  | code
  | glob
  | handle
  | regex
  deriving Repr, DecidableEq, Inhabited

namespace Kind

def all : List Kind := [scalar, array, hash, code, glob, handle, regex]

/-- The name of a kind as programs see it. -/
def name : Kind → String
  | scalar => "SCALAR"
  | array => "ARRAY"
  | hash => "HASH"
  | code => "CODE"
  | glob => "GLOB"
  | handle => "IO"
  | regex => "Regexp"

/-- Whether the name takes `an`. -/
def startsWithVowel : Kind → Bool
  | array => true
  | handle => true
  | _ => false

/-- The name with its article, for messages. -/
def withArticle (kind : Kind) : String :=
  (if kind.startsWithVowel then "an " else "a ") ++ kind.name

/-- The kind with this name. -/
def ofName? (name : String) : Option Kind := all.find? (·.name == name)

end Kind

end DynamicValues
