import PathSession.Config.Value

/-!
# Paths of a configuration

A key at the root of a configuration file may be a path that leads into sections and lists, such as
`session.keepalive` or `general.peers[0]`.

* `ConfigStep`, `ConfigStep.path?`: the steps of a path, and those that a key describes;
* `ConfigValue.assign`, `ConfigValue.place`: a value put under a key, or where a path leads to;
* `ConfigValue.root?`: the root of a file with its paths followed and its keys in lower case.
-/

namespace PathSession

/-- A step of a path. -/
inductive ConfigStep
  | field (name : String)
  /-- an item of a list; below zero they count from the end -/
  | item (index : Int)
  deriving DecidableEq, Repr

namespace ConfigStep

/-- Whether a character may stand in a name. -/
def isName (c : Char) : Bool := c.isAlphanum || c = '_' || c = '-' || c = ' '

/-- Read a name. -/
def name? (cs : List Char) : Option (String × List Char) :=
  let name := cs.takeWhile isName
  if name.isEmpty then none else some (String.ofList name, cs.dropWhile isName)

/-- Read the index of an item up to its closing bracket.  Blanks may stand around it. -/
def index? (cs : List Char) : Option (Int × List Char) :=
  let isBlank (c : Char) := c = ' ' || c = '\t'
  let cs := cs.dropWhile isBlank
  let (negative, cs) := match cs with
    | '-' :: rest => (true, rest)
    | cs => (false, cs)
  let digits := cs.takeWhile Char.isDigit
  let n : Int := digits.foldl (fun n c => n * 10 + (c.toNat - 48)) 0
  match (cs.drop digits.length).dropWhile isBlank with
  | ']' :: rest =>
    if digits.isEmpty || ConfigValue.signedLimit ≤ n then none
    else some (if negative then -n else n, rest)
  | _ => none

/-- Read the steps behind the first name of a path; `n` bounds their number. -/
def steps? : Nat → List Char → Option (List ConfigStep)
  | _, [] => some []
  | n + 1, '.' :: rest =>
    match name? rest with
    | some (name, rest) => (steps? n rest).map (field name :: ·)
    | none => none
  | n + 1, '[' :: rest =>
    match index? rest with
    | some (index, rest) => (steps? n rest).map (item index :: ·)
    | none => none
  | _, _ => none

/-- The path that a key describes, if it describes one. -/
def path? (key : String) : Option (List ConfigStep) :=
  (name? key.toList).bind fun (name, rest) => (steps? rest.length rest).map (field name :: ·)

end ConfigStep

namespace ConfigValue

mutual

/-- Put a value under a key in lower case.  The entries of a table are put into the one that was
there. -/
def assign (into : Entries) (key : String) (v : ConfigValue) : Entries :=
  match v with
  | table [] => put into (lower key) ((into.lookup (lower key)).getD (table []))
  | table (e :: incoming) =>
    let old := ((into.lookup (lower key)).getD null).entries
    put into (lower key) (table (assignAll old (e :: incoming)))
  | v => put into (lower key) v

/-- Put all entries of a table. -/
def assignAll (into : Entries) : Entries → Entries
  | [] => into
  | (key, v) :: rest => assignAll (assign into key v) rest

end

/-- Put an item into a list, which is filled up with nothing if it is too short. -/
def putItem (items : List ConfigValue) (index : Int) (v : ConfigValue) : List ConfigValue :=
  if 0 ≤ index then
    let padding := List.replicate (index.toNat + 1 - items.length) null
    (items ++ padding).set index.toNat v
  else
    let padding := List.replicate ((-index).toNat - items.length) null
    (padding ++ items).set (items.length - (-index).toNat) v

/-- The item of a list, nothing if there is none. -/
def getItem (items : List ConfigValue) (index : Int) : ConfigValue :=
  let i := if 0 ≤ index then index else items.length + index
  if 0 ≤ i then items.getD i.toNat null else null

/-- Put a value where steps lead to from another value, which becomes what they ask for. -/
def place (v : ConfigValue) : List ConfigStep → ConfigValue → ConfigValue
  | [], _ => v
  | [.field name], old => table (assign old.entries name v)
  | .field name :: rest, old =>
    let inner := (old.entries.lookup (lower name)).getD null
    table (put old.entries (lower name) (place v rest inner))
  | .item index :: rest, old =>
    list (putItem old.items index (place v rest (getItem old.items index)))

/-- Put a value where a key at the root leads to. -/
def placeAt (root : Entries) (key : String) (v : ConfigValue) : Entries :=
  match ConfigStep.path? key with
  | some path => (place v path (table root)).entries
  | none => assign root key v

/-- The root of a file with its paths followed.  Keys may only become paths in lower case, so that
paths are followed twice. -/
def root? : ConfigValue → Option Entries
  | table entries =>
    let follow (es : Entries) : Entries := es.foldl (fun root (key, v) => placeAt root key v) []
    some (follow (follow entries))
  | _ => none

end ConfigValue

end PathSession
