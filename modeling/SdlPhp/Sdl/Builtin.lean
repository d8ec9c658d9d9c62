import SdlPhp.Sdl.Document

/-!
# What every schema has

The standard scalars, the types of introspection and the directives that need no definition. A
definition with the name of one of these types has no effect; a definition of one of these
directives takes its place.
-/

namespace SdlPhp.Sdl

def standardScalars : List String := ["String", "Int", "Float", "Boolean", "ID"]

/-! ## Introspection -/

namespace Introspection

def required (name : String) : TypeRef := .nonNull (.named name)

/-- A list whose items are required. -/
def listOf (name : String) : TypeRef := .list (required name)

def field (name : String) (type : TypeRef) (text : Option String := none)
    (arguments : List InputDef := []) : FieldDef :=
  ⟨text, name, arguments, type, []⟩

/-- The argument by which deprecated items are asked for. -/
def includeDeprecated : InputDef :=
  ⟨none, "includeDeprecated", .named "Boolean", some (.bool false), []⟩

def object (name text : String) (fields : List FieldDef) : TypeNode :=
  ⟨false, some text, name, [], .object [] fields⟩

def enum (name text : String) (values : List (String × String)) : TypeNode :=
  ⟨false, some text, name, [], .enum (values.map fun (v, t) => ⟨some t, v, []⟩)⟩

def schemaType : TypeNode :=
  object "__Schema"
    ("A GraphQL Schema defines the capabilities of a GraphQL server. " ++
      "It exposes all available types and directives on the server, as well as the " ++
      "entry points for query, mutation, and subscription operations.")
    [field "description" (.named "String"),
     field "types" (.nonNull (listOf "__Type"))
      (some "A list of all types supported by this server."),
     field "queryType" (required "__Type")
      (some "The type that query operations will be rooted at."),
     field "mutationType" (.named "__Type")
      (some ("If this server supports mutation, the type that mutation operations " ++
        "will be rooted at.")),
     field "subscriptionType" (.named "__Type")
      (some ("If this server support subscription, the type that subscription operations " ++
        "will be rooted at.")),
     field "directives" (.nonNull (listOf "__Directive"))
      (some "A list of all directives supported by this server.")]

def directiveType : TypeNode :=
  object "__Directive"
    ("A Directive provides a way to describe alternate runtime execution and type " ++
      "validation behavior in a GraphQL document.\n\n" ++
      "In some cases, you need to provide options to alter GraphQL's execution behavior " ++
      "in ways field arguments will not suffice, such as conditionally including or " ++
      "skipping a field. Directives provide this by describing additional information " ++
      "to the executor.")
    [field "name" (required "String"),
     field "description" (.named "String"),
     field "isRepeatable" (required "Boolean"),
     field "locations" (.nonNull (listOf "__DirectiveLocation")),
     field "args" (.nonNull (listOf "__InputValue")) none [includeDeprecated]]

def directiveLocationType : TypeNode :=
  enum "__DirectiveLocation"
    ("A Directive can be adjacent to many parts of the GraphQL language, " ++
      "a __DirectiveLocation describes one such possible adjacencies.")
    [("QUERY", "Location adjacent to a query operation."),
     ("MUTATION", "Location adjacent to a mutation operation."),
     ("SUBSCRIPTION", "Location adjacent to a subscription operation."),
     ("FIELD", "Location adjacent to a field."),
     ("FRAGMENT_DEFINITION", "Location adjacent to a fragment definition."),
     ("FRAGMENT_SPREAD", "Location adjacent to a fragment spread."),
     ("INLINE_FRAGMENT", "Location adjacent to an inline fragment."),
     ("VARIABLE_DEFINITION", "Location adjacent to a variable definition."),
     ("SCHEMA", "Location adjacent to a schema definition."),
     ("SCALAR", "Location adjacent to a scalar definition."),
     ("OBJECT", "Location adjacent to an object type definition."),
     ("FIELD_DEFINITION", "Location adjacent to a field definition."),
     ("ARGUMENT_DEFINITION", "Location adjacent to an argument definition."),
     ("INTERFACE", "Location adjacent to an interface definition."),
     ("UNION", "Location adjacent to a union definition."),
     ("ENUM", "Location adjacent to an enum definition."),
     ("ENUM_VALUE", "Location adjacent to an enum value definition."),
     ("INPUT_OBJECT", "Location adjacent to an input object type definition."),
     ("INPUT_FIELD_DEFINITION", "Location adjacent to an input object field definition.")]

def typeType : TypeNode :=
  object "__Type"
    ("The fundamental unit of any GraphQL Schema is the type. There are many kinds of " ++
      "types in GraphQL as represented by the `__TypeKind` enum.\n\n" ++
      "Depending on the kind of a type, certain fields describe information about that type. " ++
      "Scalar types provide no information beyond a name, description and optional " ++
      "`specifiedByURL`, while Enum types provide their values. Object and Interface types " ++
      "provide the fields they describe. Abstract types, Union and Interface, provide the " ++
      "Object types possible at runtime. List and NonNull types compose other types.")
    [field "kind" (required "__TypeKind"),
     field "name" (.named "String"),
     field "description" (.named "String"),
     field "specifiedByURL" (.named "String"),
     field "fields" (listOf "__Field") none [includeDeprecated],
     field "interfaces" (listOf "__Type"),
     field "possibleTypes" (listOf "__Type"),
     field "enumValues" (listOf "__EnumValue") none [includeDeprecated],
     field "inputFields" (listOf "__InputValue") none [includeDeprecated],
     field "ofType" (.named "__Type")]

def fieldType : TypeNode :=
  object "__Field"
    ("Object and Interface types are described by a list of Fields, each of which has a " ++
      "name, potentially a list of arguments, and a return type.")
    [field "name" (required "String"),
     field "description" (.named "String"),
     field "args" (.nonNull (listOf "__InputValue")) none [includeDeprecated],
     field "type" (required "__Type"),
     field "isDeprecated" (required "Boolean"),
     field "deprecationReason" (.named "String")]

def inputValueType : TypeNode :=
  object "__InputValue"
    ("Arguments provided to Fields or Directives and the input fields of an InputObject are " ++
      "represented as Input Values which describe their type and optionally a default value.")
    [field "name" (required "String"),
     field "description" (.named "String"),
     field "type" (required "__Type"),
     field "defaultValue" (.named "String")
      (some ("A GraphQL-formatted string representing the default value for this " ++
        "input value.")),
     field "isDeprecated" (required "Boolean"),
     field "deprecationReason" (.named "String")]

def enumValueType : TypeNode :=
  object "__EnumValue"
    ("One possible value for a given Enum. Enum values are unique values, not a placeholder " ++
      "for a string or numeric value. However an Enum value is returned in a JSON response " ++
      "as a string.")
    [field "name" (required "String"),
     field "description" (.named "String"),
     field "isDeprecated" (required "Boolean"),
     field "deprecationReason" (.named "String")]

def typeKindType : TypeNode :=
  enum "__TypeKind" "An enum describing what kind of type a given `__Type` is."
    [("SCALAR", "Indicates this type is a scalar."),
     ("OBJECT", "Indicates this type is an object. `fields` and `interfaces` are valid fields."),
     ("INTERFACE", "Indicates this type is an interface. " ++
      "`fields`, `interfaces`, and `possibleTypes` are valid fields."),
     ("UNION", "Indicates this type is a union. `possibleTypes` is a valid field."),
     ("ENUM", "Indicates this type is an enum. `enumValues` is a valid field."),
     ("INPUT_OBJECT", "Indicates this type is an input object. `inputFields` is a valid field."),
     ("LIST", "Indicates this type is a list. `ofType` is a valid field."),
     ("NON_NULL", "Indicates this type is a non-null. `ofType` is a valid field.")]

end Introspection

def introspectionTypes : List TypeNode :=
  [Introspection.schemaType, Introspection.directiveType, Introspection.directiveLocationType,
   Introspection.typeType, Introspection.fieldType, Introspection.inputValueType,
   Introspection.enumValueType, Introspection.typeKindType]

/-- The types that every schema has. -/
def standardTypes : List TypeNode :=
  standardScalars.map (fun s => ⟨false, none, s, [], .scalar⟩) ++ introspectionTypes

def standardTypeNames : List String := standardTypes.map (·.name)

/-! ## Directives -/

def conditionalDirective (name : String) : DirectiveDef :=
  ⟨name, [⟨none, "if", .nonNull (.named "Boolean"), none, []⟩], false,
    [.field, .fragmentSpread, .inlineFragment]⟩

def deprecatedDirective : DirectiveDef :=
  ⟨"deprecated",
    [⟨none, "reason", .named "String", some (.string "No longer supported" false), []⟩], false,
    [.fieldDefinition, .argumentDefinition, .inputFieldDefinition, .enumValue]⟩

def specifiedByDirective : DirectiveDef :=
  ⟨"specifiedBy", [⟨none, "url", .nonNull (.named "String"), none, []⟩], false, [.scalar]⟩

def standardDirectives : List DirectiveDef :=
  [conditionalDirective "include", conditionalDirective "skip", deprecatedDirective,
   specifiedByDirective]

end SdlPhp.Sdl
