import SdlPhp.Naming.Case

/-!
# Flags

The flags of the command line in the order in which they are listed, with their names and whether
they take a value.
-/

namespace SdlPhp

inductive Flag
  | help
  | output
  | config
  | timeout
  | verbose
  | version
  | phpNamespace
  | importName
  | listType
  | membersPrefix
  | typesPrefix
  | namingConvention
  | scalar
  | enumValue
  | noComments
  | noOpenTag
  | useTabs
  | indentSize
  deriving DecidableEq, Repr

namespace Flag

def all : List Flag :=
  [help, output, config, timeout, verbose, version, phpNamespace, importName, listType,
   membersPrefix, typesPrefix, namingConvention, scalar, enumValue, noComments, noOpenTag,
   useTabs, indentSize]

/-- The names, each of which stands for the flag. -/
def names : Flag → List String
  | help => ["-h", "--help"]
  | output => ["--output", "-o"]
  | config => ["--config"]
  | timeout => ["--timeout"]
  | verbose => ["--verbose"]
  | version => ["--version"]
  | phpNamespace => ["--namespace"]
  | importName => ["--import"]
  | listType => ["--list-type"]
  | membersPrefix => ["--members-prefix"]
  | typesPrefix => ["--types-prefix"]
  | namingConvention => ["--naming-convention"]
  | scalar => ["--scalar"]
  | enumValue => ["--enum-value"]
  | noComments => ["--no-comments"]
  | noOpenTag => ["--no-open-tag"]
  | useTabs => ["--use-tabs"]
  | indentSize => ["--indent-size"]

/-- The flag is followed by a value. -/
def takesValue : Flag → Bool
  | help | verbose | version | noComments | noOpenTag | useTabs => false
  | _ => true

/-- All names with their flags, in the order of the list. -/
def named : List (String × Flag) := all.flatMap fun f => f.names.map (·, f)

def ofName? (name : String) : Option Flag := (named.find? (·.1 == name)).map Prod.snd

/-- How a message calls the flag. -/
def label (f : Flag) : String := "/".intercalate f.names

theorem ofName?_of_mem_names {f : Flag} {name : String} (h : name ∈ f.names) :
    ofName? name = some f := by
  have named : ∀ f ∈ all, ∀ n ∈ f.names, ofName? n = some f := by decide
  exact named f (by cases f <;> decide) name h

end Flag

end SdlPhp
