import MagnetStream.Failure

/-!
# Checked values

What comes from outside is checked all at once: everything that is wrong with a value is reported
together with the way to the place where it stands.
-/

namespace MagnetStream

inductive Problem where
  /-- A value of the right type that is refused for a reason. -/
  | refused (reason : String)
  | stringType
  | intType
  | intParsing
  | intTooLong
  | intFromFloat
  | notFinite
  | floatType
  | floatParsing
  | listType
  | literal
  | sectionType
  | objectType
  | missing
  | tooShort
  | boolParsing
  | malformedJson
deriving DecidableEq, Repr

def Problem.code : Problem → String
  | refused _ => "value_error"
  | stringType => "string_type"
  | intType => "int_type"
  | intParsing => "int_parsing"
  | intTooLong => "int_parsing_size"
  | intFromFloat => "int_from_float"
  | notFinite => "finite_number"
  | floatType => "float_type"
  | floatParsing => "float_parsing"
  | listType => "list_type"
  | literal => "literal_error"
  | sectionType => "model_type"
  | objectType => "model_attributes_type"
  | missing => "missing"
  | tooShort => "string_too_short"
  | boolParsing => "bool_parsing"
  | malformedJson => "json_invalid"

/-- One step on the way to a value. -/
inductive Place where
  | member (name : String)
  | item (index : Nat)
deriving DecidableEq, Repr

/-- A problem and the way to the value that has it. -/
structure Issue where
  path : List Place
  problem : Problem
deriving DecidableEq, Repr

/-- What reading gives: a value, all issues, or a failure that leaves nothing to report. -/
inductive Checked (α : Type) where
  | valid (value : α)
  | invalid (issues : List Issue)
  | broken (failure : Failure)
deriving Repr

namespace Checked

variable {α β : Type}

/-- Applies a function to a value. -/
def map (f : α → β) : Checked α → Checked β
  | valid value => valid (f value)
  | invalid issues => invalid issues
  | broken failure => broken failure

/-- Reads on whatever the first part has brought, and joins the issues of both. -/
def both : Checked (α → β) → Checked α → Checked β
  | broken failure, _ => broken failure
  | _, broken failure => broken failure
  | invalid issues, invalid more => invalid (issues ++ more)
  | invalid issues, valid _ => invalid issues
  | valid _, invalid issues => invalid issues
  | valid f, valid value => valid (f value)

instance : Functor Checked := ⟨map, fun value => map fun _ => value⟩
instance : Pure Checked := ⟨valid⟩
instance : Seq Checked := ⟨fun f x => both f (x ())⟩

/-- Reads on with a value. -/
def bind : Checked α → (α → Checked β) → Checked β
  | valid value, next => next value
  | invalid issues, _ => invalid issues
  | broken failure, _ => broken failure

/-- One issue, right here. -/
def problem (problem : Problem) : Checked α := invalid [⟨[], problem⟩]

/-- A value, or an issue right here. -/
def ofExcept : Except Problem α → Checked α
  | .ok value => valid value
  | .error found => problem found

/-- Moves the issues to a place. -/
def under (place : Place) : Checked α → Checked α
  | invalid issues => invalid (issues.map fun issue => ⟨place :: issue.path, issue.problem⟩)
  | other => other

/-- Refuses a value for a reason unless it satisfies a condition. -/
def require (condition : α → Bool) (reason : String) (checked : Checked α) : Checked α :=
  checked.bind fun value =>
    if condition value then valid value else problem (.refused reason)

end Checked

end MagnetStream
