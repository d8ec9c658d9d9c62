import SdlPhp.Delivery.Command

/-!
# The program

The command in the real world. What the arguments name is read into a world, the command runs in it,
and the files that are new or changed are written back. Addresses of the network have no answer.
-/

namespace SdlPhp.Program

/-- The text of what the system gives. -/
def textOf (s : String) : String := String.ofList (Text.ofChars s.toList)

/-- What the system is given for a text; halves of surrogate pairs are escaped. -/
def plainOf (s : String) : String :=
  String.ofList ((Text.codePoints s.toList).flatMap fun
    | .char c => [c]
    | .half unit => Text.CodePoint.halfEscape unit)

/-- The entry of a path in the file system. -/
def entry (path : Path) : IO.FS.DirEntry := { root := ".", fileName := plainOf path.text }

/-- The place to which a path leads, whatever is there. -/
def placeOf (path : Path) : Place :=
  path.parts.foldl (fun place part => if part = ".." then World.holder place else place ++ [part])
    (World.start path.root)

/-- The world with a file or a directory that is at a path, and with what the directory holds. -/
partial def look (w : World) (path : Path) (deep : Bool) : IO World := do
  let here := (entry path).path
  if ← here.isDir then
    let mut w := { w with directories := w.directories ++ [placeOf path] }
    if deep then
      for e in ← here.readDir do
        w ← look w (path.append [textOf e.fileName]) deep
    return w
  else if ← here.pathExists then
    try
      let bytes ← IO.FS.readBinFile here
      return { w with files := World.putFile w.files (placeOf path) bytes }
    catch _ => return w
  else return w

/-- The world with what is at a path and on the way to it. -/
def lookAlong (w : World) (path : Path) (deep : Bool) : IO World := do
  let mut w := w
  for n in List.range path.parts.length do
    w ← look w { path with parts := path.parts.take n } false
  look w path deep

/-- The part of the world that arguments name. -/
def survey (a : Arguments) : IO World := do
  let mut w : World := { outputTakes := World.utf8Output }
  for source in a.sources do
    w ← lookAlong w (Path.ofText source) true
  for name in a.config.toList ++ a.output.toList do
    w ← lookAlong w (Path.ofText name) false
  return w

def pathOf : Place → Path
  | "/" :: parts => ⟨.slash, parts⟩
  | parts => ⟨.relative, parts⟩

/-- Writes the files that are new or changed. -/
def writeBack (before after : World) : IO Unit := do
  for (place, bytes) in after.files do
    if before.file? place != some bytes then
      let path := pathOf place
      IO.FS.createDirAll (entry path.parent).path
      IO.FS.writeBinFile (entry path).path bytes

def exitCode : Ending → UInt32
  | .exited code => code.toUInt32
  | .refused _ => 2
  | .escaped _ => 1

def endMessage : Ending → List String
  | .exited _ => []
  | .refused fault => [s!"{Command.programName}: error: {fault.message}"]
  | .escaped fault => [fault.message]

end SdlPhp.Program

open SdlPhp in
def main (arguments : List String) : IO UInt32 := do
  let words := arguments.map Program.textOf
  let before ← match Arguments.read words with
    | .ok a => Program.survey a
    | .error _ => pure {}
  let outcome := Command.run before words
  Program.writeBack before outcome.world
  (← IO.getStdout).putStr (Program.plainOf outcome.stdout)
  for message in outcome.messages ++ Program.endMessage outcome.ending do
    IO.eprintln (Program.plainOf message)
  return Program.exitCode outcome.ending
