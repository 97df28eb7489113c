import PatchBay.Config.File

/-!
# A folder of configuration files

The files that a program finds where it runs, by their names. A path goes from one part to the next;
an empty part and a single dot stay where they are, and only a folder can be gone on from. There are
no other folders inside this one, and nothing is known of what is around it.
-/

namespace PatchBay.Config

/-- The files of a folder, by their names. -/
structure Folder where
  /-- The names and the bytes. -/
  files : List (String × ByteArray) := []

namespace Folder

/-- The bytes of a file. -/
def file? (f : Folder) (name : String) : Option ByteArray := f.files.lookup name

/-- Puts a file into the folder, in place of one of the same name. -/
def put (f : Folder) (name : String) (bytes : ByteArray) : Folder :=
  ⟨(name, bytes) :: f.files.filter (·.1 != name)⟩

/-- The problem with a name that is too long. -/
def nameTooLong : FileProblem := .other "File name too long (os error 36)"

/-- Goes along the parts of a path, `inside` the folder or around it. Gives the name within the
folder that the path ends with, or none if it ends at a folder. -/
def walk (f : Folder) (inside : Bool) : List String → Except FileProblem (Option String)
  | [] => .ok none
  | part :: rest =>
    if part.isEmpty || part == "." then f.walk inside rest
    else if part == ".." then f.walk false rest
    else if 255 < part.utf8ByteSize then .error nameTooLong
    else if !inside then .error .notFound
    else if rest.isEmpty then .ok (some part)
    else .error (if (f.file? part).isSome then .notDirectory else .notFound)

/-- The name that a path stands for. -/
def find (f : Folder) (path : String) : Except FileProblem String :=
  if path.isEmpty then .error .notFound
  else if path.contains '\x00' then .error (.other "file name contained an unexpected NUL byte")
  else if 4095 < path.utf8ByteSize then .error nameTooLong
  else (f.walk (!path.startsWith "/") (path.splitOn "/")).bind fun name =>
    name.elim (.error .isDirectory) .ok

/-- Reads the file that a path leads to. -/
def read (f : Folder) (path : String) : Except FileProblem ByteArray :=
  (f.find path).bind fun name => (f.file? name).elim (.error .notFound) .ok

/-- Writes the file that a path leads to. -/
def write (f : Folder) (path : String) (bytes : ByteArray) : Except FileProblem Folder :=
  (f.find path).map fun name => f.put name bytes

/-- The configuration in a file of the folder. -/
def load (f : Folder) (path : String) : Except Error Config := ofFile path (f.read path)

/-- Saves a configuration in a file of the folder. -/
def save (f : Folder) (path : String) (c : Config) : Except Error Folder :=
  (f.write path c.toYaml.toUTF8).mapError (.unwritable path)

end Folder

end PatchBay.Config
