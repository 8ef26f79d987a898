import SessionTokens.Config.Environment
import SessionTokens.Text.Alphanumeric
import SessionTokens.Text.Blank

/-! # Files of variables

A file sets variables, one a line, unless they are set already. Values may be quoted, go over several
lines within quotes, escape characters and refer to variables that were set before. The first line
with a fault ends the reading of a file; what was set before it stays set.
-/

namespace SessionTokens.VariablesFile

open Text

/-! ## Lines -/

/-- Where a line stands at some point: within quotes, behind a backslash, or behind a blank, where a
comment may begin. -/
inductive LineState where
  | complete
  | escape
  | blank
  | strong
  | strongEscape
  | weak
  | weakEscape
  deriving DecidableEq, Repr

/-- What a character outside of quotes makes of a line. -/
def LineState.outside (c : Char) : LineState :=
  if c == '\\' then .escape
  else if c == '"' then .weak
  else if c == '\'' then .strong
  else .complete

/-- What a character makes of a line, unless it begins a comment. -/
def LineState.next? (state : LineState) (c : Char) : Option LineState :=
  match state with
  | .blank => if c == '#' then none else some (.outside c)
  | .escape => some .complete
  | .complete =>
      if isBlank c && c != '\n' && c != '\r' then some .blank else some (.outside c)
  | .weak => some (if c == '\\' then .weakEscape else if c == '"' then .complete else .weak)
  | .weakEscape => some .weak
  | .strong => some (if c == '\\' then .strongEscape else if c == '\'' then .complete else .strong)
  | .strongEscape => some .strong

/-- Follows a line up to a comment: what comes before the comment, and the state at the end of the
line if there is none. -/
def follow (state : LineState) : List Char → List Char × Option LineState
  | [] => ([], some state)
  | c :: rest =>
      match state.next? c with
      | none => ([], none)
      | some state => let (kept, last) := follow state rest; (c :: kept, last)

/-- The lines of a text, with their line feeds. -/
def physicalLines : List Char → List (List Char)
  | [] => []
  | c :: rest =>
      if c == '\n' then [c] :: physicalLines rest
      else
        match physicalLines rest with
        | [] => [[c]]
        | line :: others =>
            (c :: line) :: others

/-- A line without its end. -/
def withoutLineEnd (line : List Char) : List Char :=
  match line.reverse with
  | '\n' :: '\r' :: rest => rest.reverse
  | '\n' :: rest => rest.reverse
  | _ => line

/-- Joins lines that end within quotes, behind a backslash or behind a blank with the next ones, and
drops comments. A text that ends so has a fault there. -/
def logicalLines : LineState → List Char → List (List Char) → List (Option (List Char))
  | state, _, [] => if state = .complete then [] else [none]
  | state, before, line :: rest =>
      let whole := before ++ line
      if (trimStart whole).head? == some '#' then some [] :: logicalLines .complete [] rest
      else
        match follow state line with
        | (kept, none) => some (before ++ kept) :: logicalLines .complete [] rest
        | (_, some .complete) => some (withoutLineEnd whole) :: logicalLines .complete [] rest
        | (_, some state) => logicalLines state whole rest

/-! ## Values -/

/-- The quotes that a value is within. -/
inductive Quotes where
  | strong
  | weak
  deriving DecidableEq, Repr

/-- A value in the making. -/
structure Value where
  written : List Char := []
  quotes : Option Quotes := none
  escaped : Bool := false
  /-- Whether only blanks and a comment may follow. -/
  finished : Bool := false
  /-- The name of the variable that is referred to, and whether it is in braces. -/
  reference : Option (Bool × List Char) := none
  deriving Repr

namespace Value

/-- A value with a further character. -/
def push (v : Value) (c : Char) : Value := { v with written := v.written ++ [c] }

/-- A value in which a reference is replaced by what the variable holds. -/
def resolve (vars : Variables) (v : Value) (name : List Char) : Value :=
  let held := (vars.value? (String.ofList name)).getD ""
  { v with written := v.written ++ held.toList, reference := none }

/-- What a character after a backslash stands for. -/
def unescape? (c : Char) : Option Char :=
  if c == 'n' then some '\n'
  else if c == '\\' || c == '\'' || c == '"' || c == '$' || c == ' ' then some c
  else none

/-- Takes a character within a reference. -/
def takeReferenceChar (vars : Variables) (v : Value) (braced : Bool) (name : List Char)
    (c : Char) : Value :=
  if isAlphanumeric c || (braced && c != '\x7d') then
    { v with reference := some (braced, name ++ [c]) }
  else if braced then v.resolve vars name
  else if c == '\x7b' && name.isEmpty then { v with reference := some (true, []) }
  else
    let v := v.resolve vars name
    if c == '$' then { v with reference := some (false, []) } else v.push c

/-- Takes a character outside of references, escapes and strong quotes. -/
def takePlainChar (v : Value) (c : Char) : Value :=
  if c == '$' then { v with reference := some (false, []) }
  else if c == '\\' then { v with escaped := true }
  else if v.quotes = some .weak then
    if c == '"' then { v with quotes := none } else v.push c
  else if c == '\'' then { v with quotes := some .strong }
  else if c == '"' then { v with quotes := some .weak }
  else if c == ' ' || c == '\t' then { v with finished := true }
  else v.push c

/-- Takes a character that is no part of a comment. -/
def take? (vars : Variables) (v : Value) (c : Char) : Option Value :=
  if v.finished then if c == ' ' || c == '\t' then some v else none
  else if v.escaped then (unescape? c).map fun c => { v.push c with escaped := false }
  else if v.quotes = some .strong then
    some (if c == '\'' then { v with quotes := none } else v.push c)
  else
    match v.reference with
    | some (braced, name) => some (v.takeReferenceChar vars braced name c)
    | none => some (v.takePlainChar c)

/-- The text of a value whose characters were all taken. Quotes and braces have to be closed. -/
def text? (vars : Variables) (v : Value) : Option (List Char) :=
  if v.quotes.isSome then none
  else
    match v.reference with
    | some (true, _) => none
    | some (false, name) => some (v.resolve vars name).written
    | none => some v.written

/-- Reads the rest of a value. -/
def read? (vars : Variables) (v : Value) : List Char → Option (List Char)
  | [] => v.text? vars
  | c :: rest =>
      if v.finished && c == '#' then v.text? vars
      else (v.take? vars c).bind fun v => read? vars v rest

end Value

/-! ## Variables -/

/-- Whether a name may begin with a character. -/
def isNameStart (c : Char) : Bool := c.isAlpha || c == '_'

/-- Whether a character may be part of a name. -/
def isNameChar (c : Char) : Bool := c.isAlphanum || c == '_' || c == '.'

/-- Takes a name and the blanks behind it. -/
def takeName (line : List Char) : Option (List Char × List Char) :=
  match line with
  | c :: _ =>
      if isNameStart c then
        some (line.takeWhile isNameChar, trimStart (line.dropWhile isNameChar))
      else none
  | [] => none

/-- Takes the name that a line sets, behind an optional `export`, and the equals sign. -/
def takeTarget (line : List Char) : Option (String × List Char) :=
  match takeName line with
  | none => none
  | some (name, '=' :: rest) => some (String.ofList name, rest)
  | some (name, rest) =>
      if String.ofList name == "export" then
        match takeName rest with
        | some (name, '=' :: rest) => some (String.ofList name, rest)
        | _ => none
      else none

/-- Whether nothing but a comment is left of a line. -/
def isVoid (line : List Char) : Bool := line.isEmpty || line.head? == some '#'

/-- What a line sets, if it sets anything. The outer option is empty when the line has a fault. -/
def readLine (vars : Variables) (line : List Char) : Option (Option (String × String)) :=
  let line := trim line
  if isVoid line then some none
  else
    (takeTarget line).bind fun (name, rest) =>
      let rest := trimStart rest
      if isVoid rest then some (some (name, ""))
      else (Value.read? vars {} rest).map fun value => some (name, String.ofList value)

/-- Sets a variable, unless it is set already. -/
def setIfUnset (vars : Variables) (name value : String) : Variables :=
  match vars.value? name with
  | some _ => vars
  | none => vars ++ [(name, value)]

/-- Loads lines up to the first fault. -/
def loadLines (vars : Variables) : List (Option (List Char)) → Variables
  | some line :: rest =>
      match readLine vars line with
      | none => vars
      | some none => loadLines vars rest
      | some (some (name, value)) => loadLines (setIfUnset vars name value) rest
  | _ => vars

/-- The variables after a file was loaded, whose text may begin with a byte order mark. -/
def load (vars : Variables) (text : String) : Variables :=
  let text :=
    match text.toList with
    | c :: rest => if c.toNat == 0xFEFF then rest else c :: rest
    | [] => []
  loadLines vars (logicalLines .complete [] (physicalLines text))

/-- The variables after a file among some was loaded, if it is there. -/
def loadNamed (files : List (String × String)) (vars : Variables) (name : String) :
    Variables :=
  match files.lookup name with
  | none => vars
  | some text => load vars text

end SessionTokens.VariablesFile
