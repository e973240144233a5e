/-
Configurations in files.

A `Folder` holds files by their names; its own name stands for an absolute path.  A path
is walked one name at a time, so that a file in the middle of a path, a missing name and
a folder at the end are told apart.
-/
import RowScope.Config.Reader

namespace RowScope.Config

/-- Why a file cannot be read. -/
inductive FileError where
  | notFound
  | isFolder
  /-- A file stands where the path needs a folder. -/
  | notAFolder
  /-- The bytes are no text. -/
  | invalidText
deriving DecidableEq, Repr, Inhabited

/-- A folder with all the files below it. -/
structure Folder where
  name : String
  /-- The files, by the parts of their paths from the folder on. -/
  files : List (List String × List UInt8)
deriving Inhabited

/-- Why a configuration could not be loaded. -/
inductive LoadError where
  | decode (e : Yaml.DecodeError)
  | file (e : FileError)
  /-- There is no file at the path that was made out. -/
  | missing (path : String)
deriving Repr, Inhabited

/-- The text of an error that is told by a message. -/
def LoadError.message : LoadError → String
  | decode .malformed => "YAML parse error"
  | decode (.problem place p) => "YAML parse error: " ++ p.message place
  | file _ => "IO error"
  | missing path => "Configuration error: discriminator rules not found at " ++ path

/-! ### Paths -/

namespace Folder

/-- What is left of a path behind the name of the folder, if it starts with it. -/
def inside? (f : Folder) (path : String) : Option (List Char) :=
  if f.name.toList.isPrefixOf path.toList then some (path.toList.drop f.name.length) else none

/-- Whether a path says where it starts. -/
def isAbsolute (f : Folder) (path : String) : Bool :=
  path.toList.head? == some '/' || (f.inside? path).isSome

/-- A path seen from another one; an absolute path is its own. -/
def join (f : Folder) (base path : String) : String :=
  if f.isAbsolute path then path
  else if base.isEmpty || base.toList.getLast? == some '/' then base ++ path
  else base ++ "/" ++ path

/-- The parts of a path between its slashes. -/
def parts : List Char → List String
  | [] => [""]
  | c :: cs =>
    if c = '/' then "" :: parts cs
    else match parts cs with
      | p :: ps => (String.singleton c ++ p) :: ps
      | [] => [String.singleton c]

/-- Whether there is a folder at some parts below this one. -/
def hasFolder (f : Folder) (at_ : List String) : Bool :=
  at_.isEmpty || f.files.any fun (parts, _) => at_.isPrefixOf parts && at_ != parts

/-- What is found at the end of a path. -/
inductive Entry where
  | folder
  | file (bytes : List UInt8)

/--
Walks a path from a folder below this one.  An empty part or a dot stays where it is, two
dots go up; above the folder there are only folders.
-/
def walk (f : Folder) : (at_ : List String) → (path : List String) → Except FileError Entry
  | _, [] => .ok .folder
  | at_, part :: rest =>
    if part.isEmpty || part == "." then walk f at_ rest
    else if part == ".." then
      if at_.isEmpty then
        if rest.all fun p => p.isEmpty || p == "." || p == ".." then .ok .folder
        else .error .notFound
      else walk f at_.dropLast rest
    else
      let here := at_ ++ [part]
      match f.files.lookup here with
      | some bytes => if rest.isEmpty then .ok (.file bytes) else .error .notAFolder
      | none => if f.hasFolder here then walk f here rest else .error .notFound

/-- Reads the text at a path. -/
def read (f : Folder) (path : String) : Except FileError String := do
  let entry ← match f.inside? path with
    | some ('/' :: rest) => f.walk [] (parts rest)
    | some [] => .ok .folder
    | some _ => .error .notFound
    | none =>
      if !path.isEmpty && path.toList.all (fun c => c == '/' || c == '.') then .ok .folder
      else .error .notFound
  match entry with
  | .folder => .error .isFolder
  | .file bytes =>
    match String.fromUTF8? ⟨bytes.toArray⟩ with
    | some text => .ok text
    | none => .error .invalidText

/-! ### Loading -/

/-- Loads the configuration at a path. -/
def load (f : Folder) (path : String) : Except LoadError Config := do
  let text ← (f.read path).mapError .file
  (Config.ofYaml text).mapError .decode

/--
Loads the configuration at a path seen from another one.  If there is none, the error
names the place.
-/
def loadFrom (f : Folder) (base path : String) : Except LoadError Config :=
  let whole := f.join base path
  match f.read whole with
  | .error .notFound => .error (.missing whole)
  | .error e => .error (.file e)
  | .ok text => (Config.ofYaml text).mapError .decode

end Folder

end RowScope.Config
