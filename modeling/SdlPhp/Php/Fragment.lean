import SdlPhp.Naming.Reserved
import SdlPhp.Php.Declaration
import SdlPhp.Php.TypeMap

/-!
# Fragments

What a definition of a schema becomes in a file. An enum becomes an enumeration with a case for each
of its values, an input object becomes a class whose constructor promotes its fields, and each field
of an object that takes arguments becomes such a class for its arguments. A definition is first made
into such items, and the text of the items is the fragment of the definition. The text of an enum
needs its literals, then its indentation and then its name.
-/

namespace SdlPhp.Php

/-! ## Items -/

structure Enumeration where
  name : String
  cases : List String
  /-- What is put before the cases. -/
  indent : String
  description : Option String
  deriving DecidableEq, Repr

/-- A parameter of a constructor, without a prefix of its name. -/
structure Parameter where
  type : String
  name : String
  deriving DecidableEq, Repr

/-- A class that holds the parameters of its constructor. -/
structure DataClass where
  name : String
  parameters : List Parameter
  deriving DecidableEq, Repr

/-- Why a definition has no fragment. -/
inductive FragmentFault
  | type (fault : TypeFault)
  | indentation (fault : IndentFault)
  | misuse (fault : Misuse)
  deriving Repr

def FragmentFault.message : FragmentFault → String
  | type fault => fault.message
  | indentation fault => fault.message
  | misuse fault => fault.message

/-- The fault breaks off a run, rather than make it fail. -/
def FragmentFault.isBreak : FragmentFault → Bool
  | type _ => false
  | _ => true

/-- What a file declares. -/
inductive Item
  | enumeration (e : Enumeration)
  | dataClass (c : DataClass)
  deriving DecidableEq, Repr

def Item.name : Item → String
  | enumeration e => e.name
  | dataClass c => c.name

/-! ## Text of items -/

/-- The cases on lines of their own in a declaration. -/
def Enumeration.text (o : Options) (e : Enumeration) : String :=
  let lines := "\n".intercalate (e.cases.map fun c => "case " ++ c ++ ";")
  let declaration : Declaration :=
    { indent := e.indent
      name := some e.name
      kind := some .enumKind
      block := some (Text.indentBy e.indent lines)
      comment := if o.addComments.isTrue then docComment (e.description.getD "") else "" }
  declaration.text

def Parameter.text (o : Options) (p : Parameter) : String :=
  "public readonly " ++ p.type ++ " $" ++ o.membersPrefix.text ++ p.name

/-- The layout of these classes does not depend on the indentation of the options. -/
def DataClass.text (o : Options) (c : DataClass) : String :=
  "class " ++ c.name ++ "\n\x7b\n\tpublic function __construct(" ++
    ",".intercalate (c.parameters.map (Parameter.text o)) ++ ") \x7b\x7d\n\x7d"

def Item.text (o : Options) : Item → String
  | enumeration e => e.text o
  | dataClass c => c.text o

/-! ## From definitions to items -/

/-- The literal that the options give a value of an enum, or else its name. -/
def enumLiteral (o : Options) (enum value : String) : Except Misuse Json :=
  (o.enumLiteral? enum value).map (·.getD (.text value))

/-- The name of the case for a value of an enum. Only a text can be one. -/
def caseName (o : Options) (enum value : String) : Except Misuse String := do
  match ← enumLiteral o enum value with
  | .text literal => return ReservedWords.caseNames.escape literal
  | literal => throw (.noOperation literal "strip")

namespace TypeMap

variable (m : TypeMap)

def parameter (v : InputValue) : Except TypeFault Parameter := do
  return ⟨(← m.resolve v.type).name.text, v.name⟩

/-- The class of the given name for input values. -/
def dataClass (name : String) (values : List InputValue) : Except TypeFault DataClass := do
  return ⟨name, ← values.mapM m.parameter⟩

/-- The name of a field as a part of the name of a class. -/
def fieldName (name : String) : Except TypeFault String :=
  (m.options.nameCase.mapError .convention).map (Naming.convert · name)

/-- The class for the arguments of a field. -/
def argumentsClass (type : String) (f : ObjectField) : Except TypeFault DataClass := do
  m.dataClass ((← m.name type) ++ (← m.fieldName f.name) ++ "Args") f.arguments

def enumeration (name : String) (values : List EnumValue) (description : Option String) :
    Except FragmentFault Enumeration := do
  let cases ← (values.mapM fun v => caseName m.options name v.name).mapError .misuse
  let indent ← m.options.indent.mapError .indentation
  return ⟨← (m.name name).mapError .type, cases, indent, description⟩

/-- The fields that take arguments. -/
def calledFields (fields : List ObjectField) : List ObjectField :=
  fields.filter (!·.arguments.isEmpty)

/-- What a definition makes a file declare. -/
def items : Definition → Except FragmentFault (List Item)
  | .enum name values description => do
    return [.enumeration (← m.enumeration name values description)]
  | .input name fields _ => do
    let c ← (do m.dataClass (← m.inputName name) fields).mapError .type
    return [.dataClass c]
  | .object name fields _ =>
    (calledFields fields).mapM fun f =>
      ((m.argumentsClass name f).map .dataClass).mapError .type

/-- The text of a definition; none if it declares nothing. -/
def fragment (d : Definition) : Except FragmentFault (Option String) :=
  (m.items d).map fun items =>
    if items.isEmpty then none else some ("\n".intercalate (items.map (Item.text m.options)))

end TypeMap

end SdlPhp.Php
