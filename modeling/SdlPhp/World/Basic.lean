import SdlPhp.Entries
import SdlPhp.Text.Quoted
import SdlPhp.World.Path

/-!
# The world of a run

The files and directories around the working directory, the answers of the network, and what a run
finds of its interpreter: the room on the stack and the output. A place is the list of names that
leads to it from the working directory; places above it start with `..`, and absolute ones with `/`.
The working directory, what is above it and the root are always there. Names and paths have a greatest
length, and a path that has no bytes or a null character leads nowhere.
-/

namespace SdlPhp

/-- What the network does when it is asked for an address. -/
inductive Answer
  | response (body : String) (status : Nat)
  | timeout
  | noConnection
  | failed (message : String)
  deriving DecidableEq, Repr

/-- The names that lead to a file or directory. -/
abbrev Place := List String

structure World where
  files : List (Place × ByteArray) := []
  /-- Directories that hold no file. -/
  directories : List Place := []
  urls : Entries Answer := []
  /-- How deeply lists and objects in a file of options may nest before the stack of the interpreter
  is used up, if it ever is. -/
  room : Option Nat := some 1000
  /-- The output takes the text; one that encodes texts refuses those that have no bytes in its
  encoding. -/
  outputTakes : String → Bool := fun _ => true

/-- Why the file system refuses something. -/
inductive SystemFault
  | notFound
  | fileExists
  | notDirectory
  | isDirectory
  | nameTooLong
  /-- The path holds a null character. -/
  | nullCharacter
  /-- The path holds half a surrogate pair that stands for no byte. -/
  | unencodable
  deriving DecidableEq, Repr

/-- The message about a path. -/
def SystemFault.message (fault : SystemFault) (path : Path) : String :=
  let about (reason : String) : String := reason ++ ": " ++ Text.quoted path.text
  match fault with
  | notFound => about "[Errno 2] No such file or directory"
  | fileExists => about "[Errno 17] File exists"
  | notDirectory => about "[Errno 20] Not a directory"
  | isDirectory => about "[Errno 21] Is a directory"
  | nameTooLong => about "[Errno 36] File name too long"
  | nullCharacter => "embedded null byte"
  | unencodable => "surrogates not allowed"

/-- The file system is not asked, as the path is none. -/
def SystemFault.isNoPath (fault : SystemFault) : Bool :=
  fault = nullCharacter || fault = unencodable

namespace World

/-! ## Places -/

/-- The place that holds a place. -/
def holder (place : Place) : Place :=
  if place.getLastD ".." = ".." then place ++ [".."]
  else if place = ["/"] then place
  else place.dropLast

def file? (w : World) (place : Place) : Option ByteArray :=
  (w.files.find? (·.1 == place)).map Prod.snd

/-- Always there: the working directory, the directories above it and the root. -/
def isAnchor (place : Place) : Bool := place.all (· == "..") || place == ["/"]

def isDirectoryAt (w : World) (place : Place) : Bool :=
  isAnchor place || w.directories.any place.isPrefixOf ||
    w.files.any fun f => place.isPrefixOf f.1 && f.1 ≠ place

def isFileAt (w : World) (place : Place) : Bool := (w.file? place).isSome

/-- The bytes of a code point in a name. Halves of surrogate pairs from U+DC80 to U+DCFF stand for
single bytes that are no text. -/
def pointSize? : Text.CodePoint → Option Nat
  | .char c => some c.utf8Size
  | .half unit => if 0xdc80 ≤ unit && unit ≤ 0xdcff then some 1 else none

/-- The number of bytes of a name. -/
def nameSize? (name : String) : Option Nat :=
  ((Text.codePoints name.toList).mapM pointSize?).map (·.foldl (· + ·) 0)

/-- The greatest length of a name, in bytes. -/
def longestName : Nat := 255

/-- The greatest length of a path, in bytes. -/
def longestPath : Nat := 4095

/-- One step of a path, out of a place that has to be a directory. -/
def step (w : World) (place : Place) (part : String) : Except SystemFault Place :=
  if w.isDirectoryAt place then
    if part = ".." then .ok (holder place)
    else if longestName < (nameSize? part).getD 0 then .error .nameTooLong
    else .ok (place ++ [part])
  else if w.isFileAt place then .error .notDirectory
  else .error .notFound

def start : PathRoot → Place
  | .relative => []
  | _ => ["/"]

/-- The place to which a path leads; there need not be anything. -/
def locate (w : World) (path : Path) : Except SystemFault Place :=
  match nameSize? path.text with
  | none => .error .unencodable
  | some size =>
    if path.parts.any (·.toList.contains '\x00') then .error .nullCharacter
    else if longestPath < size then .error .nameTooLong
    else path.parts.foldlM w.step (start path.root)

/-- What holds of the place of a path; nothing does if there is no such place, but a name that is
too long is refused. -/
def holdsAt (w : World) (path : Path) (p : Place → Bool) : Except SystemFault Bool :=
  match w.locate path with
  | .ok place => .ok (p place)
  | .error .nameTooLong => .error .nameTooLong
  | .error _ => .ok false

def isDirectory (w : World) (path : Path) : Except SystemFault Bool :=
  w.holdsAt path w.isDirectoryAt

def existsAt (w : World) (path : Path) : Except SystemFault Bool :=
  w.holdsAt path fun place => w.isDirectoryAt place || w.isFileAt place

/-! ## Reading and writing -/

def read (w : World) (path : Path) : Except SystemFault ByteArray := do
  let place ← w.locate path
  if w.isDirectoryAt place then throw .isDirectory
  else
    match w.file? place with
    | some bytes => return bytes
    | none => throw .notFound

/-- The files with one of them changed in its place, or with a new one at the end. -/
def putFile (files : List (Place × ByteArray)) (place : Place) (bytes : ByteArray) :
    List (Place × ByteArray) :=
  match files with
  | [] => [(place, bytes)]
  | f :: fs => if f.1 = place then (place, bytes) :: fs else f :: putFile fs place bytes

def write (w : World) (path : Path) (bytes : ByteArray) : Except SystemFault World := do
  let place ← w.locate path
  if w.isDirectoryAt place then throw .isDirectory
  else return { w with files := putFile w.files place bytes }

def makeDirectory (w : World) (path : Path) : Except SystemFault World := do
  let place ← w.locate path
  if w.isDirectoryAt place || w.isFileAt place then throw .fileExists
  else return { w with directories := w.directories ++ [place] }

/-- Makes a directory that may be there already; reports the path if that fails. -/
def ensureLast (w : World) (path : Path) : World × Option (SystemFault × Path) :=
  match w.makeDirectory path with
  | .ok w => (w, none)
  | .error fault =>
    if fault ≠ .notFound && w.isDirectory path matches .ok true then (w, none)
    else (w, some (fault, path))

/-- Makes a directory and the missing ones on the way to it; reports the path that failed. The ones
that could be made stay. -/
def ensureDirectory (w : World) (path : Path) : Nat → World × Option (SystemFault × Path)
  | 0 => w.ensureLast path
  | depth + 1 =>
    match w.makeDirectory path with
    | .error .notFound =>
      if path.parts.isEmpty then (w, some (.notFound, path))
      else
        match w.ensureDirectory path.parent depth with
        | (w, none) => w.ensureLast path
        | failed => failed
    | _ => w.ensureLast path

/-! ## Listing -/

def lexBefore : List String → List String → Bool
  | [], _ => true
  | _, [] => false
  | a :: as, b :: bs => if a = b then lexBefore as bs else Text.inOrder a b

/-- The way down from one place to another, if it leads down. -/
def below? (place other : Place) : Option (List String) :=
  let way := other.drop place.length
  if place.isPrefixOf other && !way.isEmpty && way.head? ≠ some ".." && way.head? ≠ some "/" then
    some way
  else none

/-- A directory above the working directory. -/
def isAbove (place : Place) : Bool := place.all (· == "..") && !place.isEmpty

/-- The way from the working directory to what is below a directory above it: beside the working
directory or in it, or beside one between the two. -/
def aside? (place other : Place) : Option (List String) :=
  let steps := other.takeWhile (· == "..")
  if steps.length ≤ place.length && (below? steps other).isSome then some other else none

/-- The way to what is below a directory. A directory above the working directory holds it under no
name that is known, so that the ways to what is below such a one start from the working directory. -/
def way? (place other : Place) : Option (List String) :=
  if isAbove place then aside? place other else below? place other

/-- Where the ways to what is below a directory start. -/
def listedFrom (place : Place) (path : Path) : Path :=
  if isAbove place then Path.ofText "" else path

/-- The paths of those of the places that are below a directory. -/
def pathsBelow (w : World) (path : Path) (places : List Place) : List Path :=
  match w.locate path with
  | .error _ => []
  | .ok place => (places.filterMap (way? place)).map (listedFrom place path).append

/-- The paths of the files below a directory, sorted by their parts. -/
def filesBelow (w : World) (path : Path) : List Path :=
  (w.pathsBelow path (w.files.map Prod.fst)).mergeSort fun p q => lexBefore p.parts q.parts

/-- The paths of all that is below a directory, but for directories on the way to something else, as
they happen to be listed. -/
def entriesBelow (w : World) (path : Path) : List Path :=
  w.pathsBelow path (w.files.map Prod.fst ++ w.directories)

/-! ## The output -/

/-- An output that encodes texts in UTF-8, in which half a surrogate pair has no bytes. -/
def utf8Output (text : String) : Bool := (Text.encode? text).isSome

/-! ## The network -/

/-- An address without an answer cannot be reached. -/
def fetch (w : World) (url : String) : Answer := w.urls.getD url .noConnection

end World

end SdlPhp
