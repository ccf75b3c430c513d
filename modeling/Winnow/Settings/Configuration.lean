import Winnow.FileTree
import Winnow.Settings.Layer

/-! # Configuration

The settings files that apply to a working directory are those in the directory and
above it, nearest first, and last the file in the home directory. A file may declare
itself the root, and then no file behind it counts. The directories above are those of the
path as it is written, so that `..` is a name like any other.
-/

namespace Winnow

/-- The settings in force, and where they come from. -/
structure Configuration where
  settings : Settings
  /-- The directory of the strongest file. -/
  directory : Option String
  /-- The files, the strongest first. -/
  sources : List String
  deriving DecidableEq, Inhabited

/-- Why no configuration could be loaded. -/
inductive ConfigurationError where
  /-- A file could not be read. -/
  | unreadable (path : String) (error : FileError)
  /-- The text of a file was refused. -/
  | refused (path : String) (error : LayerError)
  deriving DecidableEq, Inhabited

/-- The message of an error. What is wrong with the text of a file stands on a line of its
    own. -/
def ConfigurationError.message : ConfigurationError → String
  | unreadable path error => "failed to read config file " ++ path ++ ": " ++ error.message
  | refused path error =>
      "failed to parse config file " ++ path ++ (error.message?.map ("\n" ++ ·)).getD ""

namespace Configuration

/-- The configuration of settings files with their layers, the strongest first. -/
def ofLayers (layers : List (String × SettingsLayer)) : Configuration where
  settings := Settings.ofLayers (layers.map (·.2))
  directory := (layers.head?).bind fun (path, _) => FilePath.directoryText? path
  sources := layers.map (·.1)

/-- Reads one settings file. -/
def readLayer (file : String × Except FileError String) :
    Except ConfigurationError (String × SettingsLayer) :=
  match file with
  | (path, .error e) => .error (.unreadable path e)
  | (path, .ok text) =>
      match SettingsLayer.parse text with
      | .ok layer => .ok (path, layer)
      | .error e => .error (.refused path e)

/-- The configuration of settings files with their contents, the strongest first. The
    first file that cannot be read or is refused is the error. -/
def ofFiles (files : List (String × Except FileError String)) :
    Except ConfigurationError Configuration :=
  (files.mapM readLayer).map ofLayers

/-! ## Which files apply -/

/-- The name of settings files. -/
def fileName : String :=
  ".esq.toml"

/-- The settings file of the home directory. -/
def homeFile (home : FilePath) : FilePath :=
  home.child fileName

/-- Whether a written path is that of the settings file of the home directory. -/
def isHomeFile (home : FilePath) (path : String) : Bool :=
  FilePath.ofText path == homeFile home

/-- The text of the settings file at a written path, which no working directory changes. -/
def textAt (tree : FileTree) (path : String) : Except FileError String :=
  tree.readAt .openStart path

/-- Whether a settings file declares itself the root. A file that cannot be used does
    not. -/
def isRoot (tree : FileTree) (path : String) : Bool :=
  match textAt tree path with
  | .error _ => false
  | .ok text =>
      match SettingsLayer.parse text with
      | .ok layer => layer.isRoot == some true
      | .error _ => false

/-- The settings files among some paths up to the first root, and whether there was a
    root. -/
def upToRoot (tree : FileTree) : List String → List String × Bool
  | [] => ([], false)
  | path :: rest =>
      if tree.hasFileAt .openStart path then
        if isRoot tree path then ([path], true)
        else
          let (files, stopped) := upToRoot tree rest
          (path :: files, stopped)
      else upToRoot tree rest

/-- The written paths at which settings files are looked for, from a written directory
    upwards. -/
def candidates (directory : String) : List String :=
  (FilePath.writtenAncestors directory.length directory).map
    (FilePath.writtenChild · fileName)

/-- The settings files that apply to a written directory, the strongest first. -/
def discover (tree : FileTree) (home : FilePath) (directory : String) : List String :=
  let (files, stopped) := upToRoot tree (candidates directory)
  let path := (homeFile home).text
  if stopped ∨ !tree.hasFileAt .openStart path ∨ files.any (isHomeFile home) then files
  else files ++ [path]

/-- The configuration of a written directory. -/
def load (tree : FileTree) (home : FilePath) (directory : String) :
    Except ConfigurationError Configuration :=
  ofFiles ((discover tree home directory).map fun path => (path, textAt tree path))

end Configuration

end Winnow
