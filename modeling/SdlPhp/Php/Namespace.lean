import SdlPhp.Options.Basic
import SdlPhp.World.Path

/-!
# Namespaces

The namespace of a file: the one that the options name, or one that is derived from the directory
into which the file is written, or a default. Each part of the path that names a directory gives a
segment in pascal case; parts without an ASCII letter or digit give none.
-/

namespace SdlPhp.Php

/-- The namespace where nothing else gives one. -/
def defaultNamespace : String := "App\\Generated"

/-- The part is a name, and not a root or a step upwards. -/
def isDirectoryName (part : String) : Bool :=
  part ≠ "/" && part ≠ "." && part ≠ ".." && !":\\".toList.isSuffixOf part.toList

/-- The segments that a path gives, none of them empty. -/
def namespaceSegments (path : Path) : List String :=
  ((path.allParts.filter isDirectoryName).map Naming.toPascal).filter (!·.isEmpty)

/-- The segments with backslashes between them; the default if there is none. -/
def namespaceOfSegments (segments : List String) : String :=
  if segments.isEmpty then defaultNamespace else "\\".intercalate segments

/-- The namespace for files in a directory. -/
def namespaceOfDirectory (directory : String) : String :=
  namespaceOfSegments (namespaceSegments (Path.ofText directory))

/-- The namespace that the options name; an empty one counts as none. -/
def givenNamespace? (o : Options) : Option (Setting String) :=
  match o.phpNamespace with
  | .value ns => (ns.filter (!·.isEmpty)).map .value
  | .other v => if v.isTrue then some (.other v) else none

/-- The namespace for the file that the options name, or the default without one. -/
def derivedNamespace (o : Options) : Except Misuse String :=
  match o.outputFile with
  | .value file =>
    match file.filter (!·.isEmpty) with
    | some file => .ok (namespaceOfDirectory (Path.ofText file).parent.text)
    | none => .ok defaultNamespace
  | .other v => if v.isTrue then .error (.noPath v) else .ok defaultNamespace

/-- The namespace that the options ask for. -/
def resolveNamespace (o : Options) : Except Misuse (Setting String) :=
  match givenNamespace? o with
  | some ns => .ok ns
  | none => (derivedNamespace o).map .value

theorem namespaceOfDirectory_empty : namespaceOfDirectory "" = defaultNamespace := by
  decide

theorem ne_empty_of_mem_namespaceSegments {path : Path} {segment : String}
    (h : segment ∈ namespaceSegments path) : segment ≠ "" := by
  simp only [namespaceSegments, List.mem_filter] at h
  rintro rfl
  simp at h

end SdlPhp.Php
