import PathSession.Config.Toml.Node
import PathSession.Config.Toml.Scalar

/-!
# Configuration in TOML

Reading a TOML text: sections, and keys with their values.

* `Toml.value?`: a value of any kind;
* `Toml.read?`: the table of a whole text.
-/

namespace PathSession

namespace Toml

mutual

/-- Read a value with at most `depth` values around each other; `n` bounds the number of steps. -/
def value? (depth : Nat) : Nat → List Char → Option (ConfigValue × List Char)
  | 0, _ => none
  | n + 1, cs =>
    match cs, depth with
    | '"' :: _, _ => (string? cs).map fun (s, rest) => (.text s, rest)
    | '\'' :: _, _ => (string? cs).map fun (s, rest) => (.text s, rest)
    | '[' :: rest, depth + 1 => (items? depth n [] rest).map fun (vs, rest) => (.list vs, rest)
    | '\x7b' :: rest, depth + 1 =>
      match skip rest with
      | '\x7d' :: rest => some (.table [], rest)
      | rest =>
        (members? depth n [] rest).map fun (es, rest) => (.table (TomlNode.contents es), rest)
    | cs, _ => scalar? cs

/-- Read the items of a list up to its end; a comma may follow the last one. -/
def items? (depth : Nat) :
    Nat → List ConfigValue → List Char → Option (List ConfigValue × List Char)
  | 0, _, _ => none
  | n + 1, acc, cs =>
    match skipLines cs.length cs with
    | ']' :: rest => some (acc.reverse, rest)
    | cs =>
      match value? depth n cs with
      | none => none
      | some (v, rest) =>
        match skipLines rest.length rest with
        | ',' :: rest => items? depth n (v :: acc) rest
        | ']' :: rest => some ((v :: acc).reverse, rest)
        | _ => none

/-- Read the members of a table on one line up to its end. -/
def members? (depth : Nat) :
    Nat → TomlNode.Entries → List Char → Option (TomlNode.Entries × List Char)
  | 0, _, _ => none
  | n + 1, acc, cs =>
    match key? cs with
    | some (key, '=' :: rest) =>
      match value? depth n (skip rest) with
      | none => none
      | some (v, rest) =>
        match TomlNode.assign? key v false acc, skip rest with
        | some acc, ',' :: rest => members? depth n acc rest
        | some acc, '\x7d' :: rest => some (acc, rest)
        | _, _ => none
    | _ => none

end

/-- A text that is being read: what it holds so far, and the section it is in. -/
structure Draft where
  root : TomlNode.Entries := []
  path : List String := []

/-- Read the head of a section behind its opening bracket. -/
def head? (d : Draft) (cs : List Char) : Option (Draft × List Char) :=
  match cs with
  | '[' :: rest =>
    match key? rest with
    | some (path, ']' :: ']' :: rest) =>
      (TomlNode.append? path d.root).map fun root => ({ root, path }, rest)
    | _ => none
  | cs =>
    match key? cs with
    | some (path, ']' :: rest) =>
      (TomlNode.open? path d.root).map fun root => ({ root, path }, rest)
    | _ => none

/-- Read a key with its value. -/
def member? (d : Draft) (cs : List Char) : Option (Draft × List Char) :=
  match key? cs with
  | some (key, '=' :: rest) =>
    (value? (limit - 1) (rest.length + 1) (skip rest)).bind fun (v, rest) =>
      (TomlNode.assignIn? d.path key v d.root).map fun root => ({ d with root }, rest)
  | _ => none

/-- Read one line. -/
def line? (d : Draft) (cs : List Char) : Option (Draft × List Char) :=
  let ended (read : Option (Draft × List Char)) : Option (Draft × List Char) :=
    read.bind fun (d, rest) => (endLine? rest).map fun rest => (d, rest)
  match skip cs with
  | '[' :: rest => ended (head? d rest)
  | cs =>
    match endLine? cs with
    | some rest => some (d, rest)
    | none => ended (member? d cs)

/-- Read all lines; `n` bounds their number. -/
def document? : Nat → Draft → List Char → Option Draft
  | 0, _, _ => none
  | n + 1, d, cs =>
    if cs.isEmpty then
      some d
    else
      match line? d cs with
      | some (d, rest) => document? n d rest
      | none => none

/-- The table of a whole text.  A mark of the byte order may go in front. -/
def read? (text : String) : Option ConfigValue :=
  let cs := match text.toList with
    | '\ufeff' :: rest => rest
    | cs => cs
  (document? (cs.length + 1) {} cs).map fun d => .table (TomlNode.contents d.root)

end Toml

end PathSession
