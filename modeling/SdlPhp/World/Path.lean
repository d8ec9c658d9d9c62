import SdlPhp.Text.LowerCase
import SdlPhp.Text.Pieces

/-!
# Paths

Paths of files as their root and their parts. Empty parts and parts `.` are dropped and `..` is
kept; a path that starts with exactly two slashes has them both as its root. Main statement: the
parts of a path hold neither an empty part nor a dot.
-/

namespace SdlPhp

/-- Where a path starts. -/
inductive PathRoot
  | relative
  | slash
  | doubleSlash
  deriving DecidableEq, Repr

def PathRoot.text : PathRoot → String
  | relative => ""
  | slash => "/"
  | doubleSlash => "//"

structure Path where
  root : PathRoot
  parts : List String
  deriving DecidableEq, Repr

namespace Path

def rootOf (cs : List Char) : PathRoot :=
  match cs with
  | '/' :: '/' :: '/' :: _ => .slash
  | '/' :: '/' :: _ => .doubleSlash
  | '/' :: _ => .slash
  | _ => .relative

/-- A part that is dropped. -/
def isIdle (part : List Char) : Bool := part.isEmpty || part == ['.']

def ofText (s : String) : Path where
  root := rootOf s.toList
  parts := ((Text.pieces '/' s.toList).filter (!isIdle ·)).map String.ofList

/-- The path as text; a dot if it has neither root nor parts. -/
def text (p : Path) : String :=
  let s := p.root.text ++ "/".intercalate p.parts
  if s.isEmpty then "." else s

/-- The root, if there is one, and the parts. -/
def allParts (p : Path) : List String :=
  if p.root = .relative then p.parts else p.root.text :: p.parts

/-- The path without its last part. -/
def parent (p : Path) : Path := { p with parts := p.parts.dropLast }

/-- The last part. -/
def name (p : Path) : String := p.parts.getLastD ""

/-- The path with more parts. -/
def append (p : Path) (parts : List String) : Path := { p with parts := p.parts ++ parts }

/-- The end of a name from its last dot on; none if the dot is its first or last character. -/
def suffixChars (cs : List Char) : List Char :=
  let tail := (cs.reverse.takeWhile (· ≠ '.')).reverse
  if tail.isEmpty || cs.length ≤ tail.length + 1 then [] else '.' :: tail

/-- The extension of the name in lower case, with its dot. -/
def extension (p : Path) : String :=
  String.ofList (Text.lowerCase (suffixChars p.name.toList))

theorem mem_parts_ofText {s part : String} (h : part ∈ (ofText s).parts) :
    part ≠ "" ∧ part ≠ "." := by
  simp only [ofText, List.mem_map, List.mem_filter] at h
  obtain ⟨cs, ⟨_, hcs⟩, rfl⟩ := h
  constructor
  · intro he
    have : cs = [] := by simpa using congrArg String.toList he
    simp [isIdle, this] at hcs
  · intro he
    have : cs = ['.'] := by simpa using congrArg String.toList he
    simp [isIdle, this] at hcs

end Path

end SdlPhp
