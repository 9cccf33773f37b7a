import PathSession.Folder
import PathSession.Text.Alphanumeric

/-!
# The environment

The variables that the program sees: those given to it, and those that the file `.env` of its
folder adds.

* `Environment.text?`: the text that is written as the value of a variable;
* `Environment.Entry.ofLine?`: what one line of an environment file says;
* `Environment.extend`, `Environment.inFolder`: the environment with what a file adds.

Values may be quoted, in whole or in part.  Between single quotes everything stands for itself;
elsewhere a backslash escapes, and a dollar sign stands for the value of the variable behind it,
which is empty if there is none.  A variable that is there already keeps its value, and reading
ends at the first line that makes no sense.
-/

namespace PathSession

/-- Variables with their values. -/
abbrev Environment := List (String × String)

namespace Environment

/-- The value that a variable stands for in front of a text that is held backwards. -/
def put (env : Environment) (name out : List Char) : List Char :=
  ((env.lookup (String.ofList name.reverse)).getD "").toList.reverse ++ out

/-- What may stand behind a value: blanks and a comment. -/
def closes : List Char → Bool
  | [] => true
  | '#' :: _ => true
  | c :: rest => (c = ' ' || c = '\t') && closes rest

mutual

/-- The text that is written by some characters, in front of which `out` was read, last first.
`weak` tells whether they stand between double quotes. -/
def text? (env : Environment) (weak : Bool) (out : List Char) : List Char → Option (List Char)
  | [] => if weak then none else some out.reverse
  | c :: rest =>
    if c = '$' then named? env weak out [] rest
    else if c = '\\' then escaped? env weak out rest
    else if c = '"' then text? env (!weak) out rest
    else if weak then text? env weak (c :: out) rest
    else if c = '\'' then literal? env out rest
    else if c = ' ' ∨ c = '\t' then if closes rest then some out.reverse else none
    else text? env weak (c :: out) rest
termination_by structural cs => cs

/-- As `text?`, behind a backslash. -/
def escaped? (env : Environment) (weak : Bool) (out : List Char) :
    List Char → Option (List Char)
  | [] => if weak then none else some out.reverse
  | c :: rest =>
    if c = 'n' then text? env weak ('\n' :: out) rest
    else if ['\\', '\'', '"', '$', ' '].contains c then text? env weak (c :: out) rest
    else none
termination_by structural cs => cs

/-- As `text?`, between single quotes. -/
def literal? (env : Environment) (out : List Char) : List Char → Option (List Char)
  | [] => none
  | c :: rest => if c = '\'' then text? env false out rest else literal? env (c :: out) rest
termination_by structural cs => cs

/-- As `text?`, behind a dollar sign and the characters of `name`, last first.  The character that
ends the name stands for itself, unless it is another dollar sign. -/
def named? (env : Environment) (weak : Bool) (out name : List Char) :
    List Char → Option (List Char)
  | [] => if weak then none else some (put env name out).reverse
  | c :: rest =>
    if CharSet.alphanumeric.contains c then named? env weak out (c :: name) rest
    else if c = '\x7b' ∧ name = [] then enclosed? env weak out [] rest
    else if c = '$' then named? env weak (put env name out) [] rest
    else text? env weak (c :: put env name out) rest
termination_by structural cs => cs

/-- As `text?`, behind a dollar sign, an opening brace and the characters of `name`. -/
def enclosed? (env : Environment) (weak : Bool) (out name : List Char) :
    List Char → Option (List Char)
  | [] => none
  | c :: rest =>
    if c = '\x7d' then text? env weak (put env name out) rest
    else enclosed? env weak out (c :: name) rest
termination_by structural cs => cs

end

/-- Split the name of a variable off the front of a text. -/
def name? (cs : List Char) : Option (String × List Char) :=
  let isName (c : Char) := c.isAlphanum || c = '_' || c = '.'
  match cs with
  | [] => none
  | c :: _ =>
    if c.isAlpha || c = '_' then
      some (String.ofList (cs.takeWhile isName), CharSet.trimStart (cs.dropWhile isName))
    else
      none

/-- Skip an equals sign and the blanks behind it. -/
def skipEquals? : List Char → Option (List Char)
  | '=' :: rest => some (CharSet.trimStart rest)
  | _ => none

/-- The name on the left of an equals sign, and what is on the right of it.  The word `export` may
go in front of the name. -/
def sides? (cs : List Char) : Option (String × List Char) := do
  let (name, rest) ← name? cs
  match skipEquals? rest with
  | some value => some (name, value)
  | none =>
    if name = "export" then
      let (name, rest) ← name? rest
      (skipEquals? rest).map fun value => (name, value)
    else
      none

/-- Whether a text holds nothing but a comment. -/
def isBlank : List Char → Bool
  | [] => true
  | c :: _ => c = '#'

/-- What one line of an environment file says. -/
inductive Entry
  | blank
  | assignment (name value : String)
  deriving DecidableEq, Repr

/-- What a line of an environment file says; a line may make no sense. -/
def Entry.ofLine? (env : Environment) (line : String) : Option Entry :=
  let cs := CharSet.trim line.toList
  if isBlank cs then
    some .blank
  else
    (sides? cs).bind fun (name, value) =>
      if isBlank value then
        some (.assignment name "")
      else
        (text? env false [] value).map fun text => .assignment name (String.ofList text)

/-- The environment with what the lines of a file add. -/
def extend (env : Environment) : List String → Environment
  | [] => env
  | line :: rest =>
    match Entry.ofLine? env line with
    | none => env
    | some .blank => extend env rest
    | some (.assignment name value) =>
      if (env.lookup name).isSome then extend env rest
      else extend (env ++ [(name, value)]) rest

/-- The environment of a program in a folder. -/
def inFolder (env : Environment) (folder : Folder) : Environment :=
  match folder.read? ".env" with
  | some text => extend env (text.splitOn "\n")
  | none => env

end Environment

end PathSession
