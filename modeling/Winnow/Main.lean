import Winnow.CommandLine.Run

/-! # The command line program

Reads the files that a run may look at, runs it, and writes what came of it.
-/

namespace Winnow.Main

/-- What stands at a place of the file system. -/
def entryAt? (path : FilePath) : IO (Option FileEntry) := do
  try
    let bytes ← IO.FS.readBinFile path.text
    return some (match String.fromUTF8? bytes with
      | some text => .text text
      | none => .binary bytes.toList)
  catch _ =>
    try
      let place ← IO.FS.realPath path.text
      if ← place.isDir then return some .directory
      else if ← place.pathExists then return some .closed
      else return none
    catch _ => return none

/-- The places that a run may look at. -/
def placesOf (home workingDirectory : FilePath) (words : List String) : List FilePath :=
  let settings :=
    Configuration.homeFile home
      :: (Configuration.candidates workingDirectory.text).map FilePath.ofText
  let filters := match Invocation.read words with
    | .ok invocation =>
        match invocation.command.filterPath? with
        | some path => (FilePath.start workingDirectory path).walk (FilePath.parts path)
        | none => []
    | .error _ => []
  settings ++ filters ++ (FilePath.walk ⟨true, []⟩ workingDirectory.names)
    ++ (FilePath.walk ⟨home.fromRoot, []⟩ (Configuration.homeFile home).names)

/-- The files at some places. -/
def treeOf (places : List FilePath) : IO FileTree := do
  let found ← places.eraseDups.mapM fun path => do
    return (← entryAt? path).map fun entry => (path, entry)
  return ⟨found.filterMap id⟩

/-- Writes the texts of a tree that the tree before it did not hold. -/
def writeChanges (before after : FileTree) : IO Unit :=
  for (path, entry) in after.entries do
    match entry with
    | .text contents =>
        if before.entries.lookup path != some entry then IO.FS.writeFile path.text contents
    | _ => pure ()

end Winnow.Main

open Winnow in
/-- Runs the words of the command line, and gives the exit code. -/
def main (words : List String) : IO UInt32 := do
  let workingDirectory := FilePath.ofText (← IO.currentDir).toString
  let home := FilePath.ofText ((← IO.getEnv "HOME").getD "/")
  let tree ← Main.treeOf (Main.placesOf home workingDirectory words)
  let place : Surroundings :=
    { tree, home, workingDirectory
      logDirectives := ← IO.getEnv "RUST_LOG"
      isTerminal := ← (← IO.getStdout).isTty
      -- No grammars are at hand, so a document has one colour throughout.
      highlighter := .uniform }
  let outcome := place.run words
  Main.writeChanges tree outcome.tree
  for event in outcome.events do IO.eprintln event.text
  for notice in outcome.notices do IO.eprintln notice.text
  IO.print outcome.stdout
  return outcome.code.toUInt32
