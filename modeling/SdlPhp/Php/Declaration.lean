import SdlPhp.Entries
import SdlPhp.Php.Comment
import SdlPhp.Text.Indent
import SdlPhp.Text.Quoted

/-!
# Declarations

The declaration of a class, an interface or an enum: its header, members, methods, nested
declarations and free text, set one after the other by calls, and its text. Nothing is checked when
it is printed: what was set is printed.

Nested declarations are named by their identifiers in a table of declarations, so that one of them
may be changed after it was nested, and may be nested in several others.
-/

namespace SdlPhp.Php

/-- A visibility, or any other text in its place. -/
inductive Access
  | isPrivate
  | isPublic
  | isProtected
  | absent
  | other (text : String)
  deriving DecidableEq, Repr

def Access.text : Access → String
  | isPrivate => "private"
  | isPublic => "public"
  | isProtected => "protected"
  | absent => ""
  | other text => text

inductive DeclarationKind
  | classKind
  | interfaceKind
  | enumKind
  deriving DecidableEq, Repr

namespace DeclarationKind

def all : List DeclarationKind := [classKind, interfaceKind, enumKind]

def text : DeclarationKind → String
  | classKind => "class"
  | interfaceKind => "interface"
  | enumKind => "enum"

def ofText? (s : String) : Option DeclarationKind := all.find? (·.text == s)

end DeclarationKind

/-- A property of a declaration or a parameter of a method. -/
structure Member where
  name : String := ""
  type : String := ""
  value : Option String := none
  annotations : List String := []
  access : Access := .absent
  isFinal : Bool := false
  isStatic : Bool := false
  deriving DecidableEq, Repr

structure Method where
  name : String
  returnType : Option String := none
  implementation : String := ""
  parameters : List Member := []
  returnTypeAnnotations : List String := []
  access : Access := .absent
  isFinal : Bool := false
  isStatic : Bool := false
  annotations : List String := []
  deriving DecidableEq, Repr

structure Declaration where
  /-- The text of one level of nesting. -/
  indent : String := "    "
  name : Option String := none
  parents : List String := []
  interfaces : List String := []
  kind : Option DeclarationKind := none
  access : Access := .absent
  isFinal : Bool := false
  isStatic : Bool := false
  /-- Free text after the nested declarations. -/
  block : Option String := none
  comment : String := ""
  annotations : List String := []
  members : List Member := []
  methods : List Method := []
  /-- The identifiers of the nested declarations. -/
  nested : List String := []
  deriving DecidableEq, Repr

/-! ## Setting -/

/-- A call that sets a part of a declaration or adds one to it. -/
inductive Call
  | nest (id : String)
  | setAccess (access : Access)
  | setKind (word : String)
  | makeFinal
  | makeStatic
  | annotate (annotations : List String)
  | setComment (description : String)
  | setBlock (text : Option String)
  | extend (names : List String)
  | implement (names : List String)
  | setName (name : String)
  | addMember (m : Member)
  | addMethod (m : Method)
  deriving DecidableEq, Repr

/-- A word that names no kind of declaration. -/
structure KindFault where
  word : String
  deriving DecidableEq, Repr

def KindFault.message (f : KindFault) : String := Text.quoted f.word ++ " is not a valid Kind"

namespace Declaration

/-- Carries out a call; an empty description leaves the comment as it is. -/
def apply (d : Declaration) : Call → Except KindFault Declaration
  | .nest id => .ok { d with nested := d.nested ++ [id] }
  | .setAccess access => .ok { d with access }
  | .setKind word =>
    match DeclarationKind.ofText? word with
    | some kind => .ok { d with kind := some kind }
    | none => .error ⟨word⟩
  | .makeFinal => .ok { d with isFinal := true }
  | .makeStatic => .ok { d with isStatic := true }
  | .annotate annotations => .ok { d with annotations }
  | .setComment description =>
    .ok (if description.isEmpty then d else { d with comment := docComment description })
  | .setBlock block => .ok { d with block }
  | .extend parents => .ok { d with parents }
  | .implement interfaces => .ok { d with interfaces }
  | .setName name => .ok { d with name := some name }
  | .addMember m => .ok { d with members := d.members ++ [m] }
  | .addMethod m => .ok { d with methods := d.methods ++ [m] }

end Declaration

/-! ## Printing -/

/-- The pieces that are not empty, with single spaces between them. -/
def spaced (pieces : List String) : String := " ".intercalate (pieces.filter (!·.isEmpty))

def word (present : Bool) (text : String) : String := if present then text else ""

def annotation (a : String) : String := "@" ++ a

namespace Member

def text (m : Member) : String :=
  let head := spaced
    ([m.access.text, word m.isStatic "static", word m.isFinal "final"] ++
      m.annotations.map annotation ++ [m.type, m.name])
  match m.value with
  | some v => if v.isEmpty then head else head ++ " = " ++ v
  | none => head

end Member

namespace Method

def signature (m : Method) : String :=
  spaced
    (m.annotations.map (fun a => annotation a ++ "\n") ++
      [m.access.text, word m.isStatic "static", word m.isFinal "final"] ++
      m.returnTypeAnnotations.map annotation ++ [m.returnType.getD "", m.name])

/-- The method with its body one level in. -/
def text (indent : String) (m : Method) : String :=
  m.signature ++ "(" ++ ",".intercalate (m.parameters.map Member.text) ++ ") \x7b\n" ++
    Text.indentBy indent m.implementation ++ "\n\x7d"

end Method

namespace Declaration

def annotationLines (d : Declaration) : String :=
  String.join (d.annotations.map fun a => annotation a ++ "\n")

def parentList (keyword : String) (names : List String) : String :=
  if names.isEmpty then "" else " " ++ keyword ++ " " ++ ", ".intercalate names

def header (d : Declaration) : String :=
  match d.kind with
  | none => ""
  | some kind =>
    d.annotationLines ++ d.access.text ++ word d.isStatic " static" ++ word d.isFinal " final" ++
      " " ++ kind.text ++ " " ++ d.name.getD "" ++ parentList "extends" d.parents ++
      parentList "implements" d.interfaces ++ " "

/-- The parts between the braces, given the texts of the nested declarations; some may be empty. -/
def parts (d : Declaration) (nestedTexts : List String) : List String :=
  [if d.members.isEmpty then ""
    else Text.reindentBy d.indent ("\n".intercalate (d.members.map fun m => m.text ++ ";")),
   if d.methods.isEmpty then ""
    else Text.reindentBy d.indent ("\n\n".intercalate (d.methods.map (Method.text d.indent))),
   "\n\n".intercalate (nestedTexts.map fun t =>
      Text.reindentBy d.indent (String.ofList (Text.dropTrailing '\n' t.toList))),
   d.block.getD ""]

/-- The text of a declaration, given the texts of the nested ones. -/
def textWith (d : Declaration) (nestedTexts : List String) : String :=
  let body := ["\x7b"] ++ (d.parts nestedTexts).filter (!·.isEmpty) ++ ["\x7d"]
  d.comment ++ d.header ++ "\n".intercalate body ++ "\n"

/-- The text of a declaration in which none is nested. -/
def text (d : Declaration) : String := d.textWith []

end Declaration

/-! ## Tables -/

/-- Declarations by their identifiers. -/
abbrev Declarations := Entries Declaration

namespace Declarations

/-- Carries out a call on the declaration with this identifier. -/
def apply (t : Declarations) (id : String) (call : Call) : Except KindFault Declarations :=
  match t.get? id with
  | none => .ok t
  | some d => (d.apply call).map (t.put id)

/-- The text of a declaration with those that are nested in it, at most `depth` levels deep. -/
def textWithin (t : Declarations) : Nat → String → Option String
  | 0, _ => none
  | depth + 1, id => do
    let d ← t.get? id
    let texts ← d.nested.mapM (textWithin t depth)
    return d.textWith texts

/-- The text of a declaration; none if one is nested in itself. -/
def text? (t : Declarations) (id : String) : Option String := t.textWithin t.length id

end Declarations

end SdlPhp.Php
