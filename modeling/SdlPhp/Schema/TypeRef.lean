/-!
# Type references

A reference to a type of a schema: the name of a type under any number of list and non-null
modifiers, its text in the schema language, and the two things that matter for what is emitted, the
innermost name and whether there is a list anywhere.
-/

namespace SdlPhp

inductive TypeRef
  | named (name : String)
  | list (element : TypeRef)
  | nonNull (nullable : TypeRef)
  deriving DecidableEq, Repr

namespace TypeRef

/-- The reference in the schema language: `[…]` for a list, a final `!` for non-null. -/
def text : TypeRef → String
  | named name => name
  | list t => "[" ++ t.text ++ "]"
  | nonNull t => t.text ++ "!"

/-- The name under all modifiers. -/
def innermost : TypeRef → String
  | named name => name
  | list t => t.innermost
  | nonNull t => t.innermost

/-- Some modifier is a list. -/
def hasList : TypeRef → Bool
  | named _ => false
  | list _ => true
  | nonNull t => t.hasList

/-- The outermost modifier is non-null. -/
def isNonNull : TypeRef → Bool
  | nonNull _ => true
  | _ => false

/-- No non-null modifier stands directly on another one; only such references can be written. -/
def isWritable : TypeRef → Bool
  | named _ => true
  | list t => t.isWritable
  | nonNull t => !t.isNonNull && t.isWritable

end TypeRef

end SdlPhp
