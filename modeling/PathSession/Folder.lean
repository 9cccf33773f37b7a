/-!
# Folders

The files of a folder, and the names by which they are found.

* `Folder`: the files of a folder with their contents;
* `Folder.walk?`: where the steps of a name lead to;
* `Folder.read?`: the content of the file that a name leads to.

Slashes separate the steps of a name.  A step of one point stays in its folder, one of two points
leads back out of it.
-/

namespace PathSession

/-- The files of a folder by name. -/
abbrev Folder := List (String × String)

namespace Folder

/-- The parts of a name between its slashes. -/
def parts (name : String) : List String := name.splitOn "/"

/-- The steps of a name that lead somewhere. -/
def steps (name : String) : List String := (parts name).filter fun s => s ≠ "" && s ≠ "."

/-- Whether a name can only mean a folder. -/
def namesFolder (name : String) : Bool := ["", "."].contains ((parts name).getLastD "")

/-- Whether steps lead to a folder, one with a file in it. -/
def hasFolder (folder : Folder) (path : List String) : Bool :=
  path.isEmpty ||
    folder.any fun (name, _) => path.isPrefixOf (steps name) && path.length < (steps name).length

/-- Where steps lead to from a place in the folder. -/
def walk? (folder : Folder) (place : List String) : List String → Option (List String)
  | [] => some place
  | step :: rest =>
    if folder.hasFolder place then
      if step = ".." then
        if place.isEmpty then none else walk? folder place.dropLast rest
      else
        walk? folder (place ++ [step]) rest
    else
      none

/-- The content of the file that a name leads to: the one of that name, else the one that its
steps lead to from within the folder. -/
def read? (folder : Folder) (name : String) : Option String :=
  match folder.lookup name with
  | some text => some text
  | none =>
    if name.startsWith "/" || namesFolder name then
      none
    else
      (walk? folder [] (steps name)).bind fun place =>
        (folder.find? fun (file, _) => steps file == place).map (·.2)

end Folder

end PathSession
