import Gatehouse.Value.Literal
import Gatehouse.Value.Order

/-!
# What is wrong with a declaration

Each constructor is one way in which a declaration of routes cannot be used. Most
say what the declaration should have been; three come from values that do not
have the expected parts at all.
-/

namespace Gatehouse

inductive SpecError (κ : Type) where
  | notMapping (found : String)
  | unknownKeys (sorted : List (Value κ))
  | badUrl (found : Value κ)
  | badVersion (found : Value κ)
  | notCallable (verb : Value κ)
  | badVerbAccess (verb found : Value κ)
  | badAccess (found : Value κ)
  | badRoles (found : Value κ)
  | emptyNode (path : String)
  | rootWithoutUrl
  /-- A value of this type has no pairs to go through. -/
  | noPairs (typeName : String)
  /-- Values of these types have no order. -/
  | unordered (left right : String)
  /-- A value of this type has no items to go through. -/
  | notIterable (typeName : String)

namespace SpecError

variable {κ : Type}

/-- Which part of the checks an error comes from. -/
inductive Source where
  /-- The declaration breaks a rule. -/
  | rule
  /-- A value lacks a part that was asked for. -/
  | part
  /-- A value is of the wrong type for an operation. -/
  | operand
deriving DecidableEq, Repr

def source : SpecError κ → Source
  | .noPairs _ => .part
  | .unordered _ _ | .notIterable _ => .operand
  | _ => .rule

def message : SpecError κ → String
  | .notMapping found => "route spec must be a mapping, got " ++ found
  | .unknownKeys keys => "unknown route spec keys: " ++ Value.literal (.list keys)
  | .badUrl found => "url must be a string, got " ++ found.literal
  | .badVersion found => "version must be a string, got " ++ found.literal
  | .notCallable verb => "handler for " ++ verb.literal ++ " is not callable"
  | .badVerbAccess verb found =>
    "access for " ++ verb.literal ++ " must be 'public', got " ++ found.literal
  | .badAccess found =>
    "access must be 'public' or a mapping of verb to 'public', got " ++ found.literal
  | .badRoles found => "roles must be a list of role names, got " ++ found.literal
  | .emptyNode path =>
    "route node at " ++ Text.Quoted.text path ++ " has neither methods nor children"
  | .rootWithoutUrl => "root route view has no url"
  | .noPairs typeName => "'" ++ typeName ++ "' object has no attribute 'items'"
  | .unordered left right =>
    "'<' not supported between instances of '" ++ left ++ "' and '" ++ right ++ "'"
  | .notIterable typeName => "'" ++ typeName ++ "' object is not iterable"

end SpecError

end Gatehouse
