import AdvisoryFeed.Files.Path
import AdvisoryFeed.Keyed
import AdvisoryFeed.Store.Tables

/-!
# Workspaces

The files that a run finds and leaves, by their paths in normal form. Directories are there as far
as there are files in them.
-/

namespace AdvisoryFeed.Files

open AdvisoryFeed.Store

/-- A file. -/
inductive File where
  | text (content : String)
  | database (tables : Tables)

/-- The files by their paths. -/
structure Workspace where
  files : List (String × File)

/-- Why a directory cannot be made. -/
inductive DirectoryError where
  /-- There is a file of the name. -/
  | isFile
  /-- One of the directories above is a file. -/
  | notDirectory
deriving DecidableEq, Repr

/-- A file. -/
def Workspace.find? (workspace : Workspace) (path : String) : Option File :=
  workspace.files.lookup path

/-- Puts a file. -/
def Workspace.put (workspace : Workspace) (path : String) (file : File) : Workspace :=
  ⟨putPair path file workspace.files⟩

/-- A path is below a directory. -/
def isBelow (directory path : String) : Bool :=
  directory = hereMark || (directory ++ "/").toList.isPrefixOf path.toList

/-- A path is that of a directory. -/
def Workspace.isDirectory (workspace : Workspace) (path : String) : Bool :=
  leadsUp path || workspace.files.any fun file => isBelow path file.1

/-- What keeps a directory from being made. -/
def Workspace.obstacle? (workspace : Workspace) (directory : String) : Option DirectoryError :=
  if (workspace.find? directory).isSome then some .isFile
  else if (pathsUpTo directory).any fun path => (workspace.find? path).isSome then
    some .notDirectory
  else none

/-- The files below a directory, with their names in it. -/
def Workspace.below (workspace : Workspace) (directory : String) : List (String × File) :=
  let files := workspace.files.filter fun file => isBelow directory file.1
  if directory = hereMark then files
  else files.map fun file =>
    (String.ofList (file.1.toList.drop (directory.length + 1)), file.2)

/-- The workspace without the files below a directory. -/
def Workspace.without (workspace : Workspace) (directory : String) : Workspace :=
  ⟨workspace.files.filter fun file => !isBelow directory file.1⟩

end AdvisoryFeed.Files
