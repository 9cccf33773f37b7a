import PathSession.Config.Basic
import PathSession.Config.Toml
import PathSession.Folder

/-!
# Configuration files

Finding a configuration file by name, and reading it in the format that its extension names.

* `ConfigFormat`, `ConfigFormat.ofName?`: the formats, and the one of a file by its name;
* `Folder.configFile?`: the configuration file that a name means;
* `NodeConfig.ofFolder`: the configuration in a file of a folder.

A name that is no file's may lack the extension.
-/

namespace PathSession

/-- The formats of configuration files. -/
inductive ConfigFormat
  | toml
  | json
  deriving DecidableEq, Repr

namespace ConfigFormat

/-- Every format. -/
def all : List ConfigFormat := [toml, json]

/-- The extension of a format's files. -/
def extension : ConfigFormat → String
  | toml => "toml"
  | json => "json"

/-- The content of a text in a format. -/
def read? : ConfigFormat → String → Option ConfigValue
  | toml, text => Toml.read? text
  | json, text => Json.read? text

/-- The format of a file by its name.  A name that only starts with a point has no extension. -/
def ofName? (name : String) : Option ConfigFormat :=
  match ((name.splitOn "/").getLastD "").splitOn "." with
  | [] => none
  | ["", _] => none
  | _ :: rest => rest.getLast?.bind fun last => all.find? fun f => f.extension = last

end ConfigFormat

namespace Folder

/-- A name to which an extension can be added: what only says that it is a folder's is left out,
and its last step leads to something. -/
def stem? (name : String) : Option String :=
  let kept := ((parts name).reverse.dropWhile fun s => s = "" || s = ".").reverse
  if kept.isEmpty || kept.getLast? == some ".." then none else some ("/".intercalate kept)

/-- The configuration file that a name means, with its format: the file of that name, else one
with an extension added. -/
def configFile? (folder : Folder) (name : String) : Option (ConfigFormat × String) :=
  match folder.read? name with
  | some text => (ConfigFormat.ofName? name).map fun f => (f, text)
  | none =>
    (stem? name).bind fun stem =>
      ConfigFormat.all.findSome? fun f =>
        (folder.read? s!"{stem}.{f.extension}").map fun text => (f, text)

end Folder

/-- The configuration in a file of a folder. -/
def NodeConfig.ofFolder (folder : Folder) (name : String) : Except Fault NodeConfig :=
  match folder.configFile? name with
  | none => .error (.configFile s!"no configuration file {name}")
  | some (f, text) => NodeConfig.load (f.read? text)

end PathSession
