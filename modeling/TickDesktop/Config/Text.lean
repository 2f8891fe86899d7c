import TickDesktop.Config.Field

/-!
# Configuration texts

A configuration text has headers in brackets, assignments of the form `key = value`, comments after
`#` or `;`, and blank lines. A field takes the value of the last assignment that names it under the
header above and whose value can be read. What cannot be understood is passed over.
-/
namespace TickDesktop.Config

/-- What one line of a configuration text says. -/
inductive Line where
  | header (name : List Char)
  | setting (key value : List Char)
  | nothing
  deriving DecidableEq

/-- The meaning of a line. -/
def Line.ofChars (s : List Char) : Line :=
  match Text.trim s with
  | [] | '#' :: _ | ';' :: _ => nothing
  | '[' :: s =>
    if s.getLast? = some ']' then header s.dropLast
    else settingOf ('[' :: s)
  | s => settingOf s
where
  settingOf (s : List Char) : Line :=
    if '=' ∈ s then
      setting (Text.trim (s.takeWhile (· ≠ '='))) (Text.trim ((s.dropWhile (· ≠ '=')).drop 1))
    else nothing

/-- A key and a value under a header. -/
structure Assignment where
  header : List Char
  key : List Char
  value : List Char
  deriving DecidableEq

/-- The assignments of a sequence of lines, the header above them given. -/
def assignments (header : List Char) : List (List Char) → List Assignment
  | [] => []
  | l :: ls =>
    match Line.ofChars l with
    | .header name => assignments name ls
    | .setting key value => ⟨header, key, value⟩ :: assignments header ls
    | .nothing => assignments header ls

/-- The configuration after one assignment. -/
def assign (c : Config) (a : Assignment) : Config :=
  match Field.named? a.header a.key with
  | none => c
  | some f =>
    match f.kind.read? a.value with
    | none => c
    | some v => f.set v c

/-- The configuration that a text describes. -/
def parse (text : String) : Config :=
  (assignments [] (Text.lines text.toList)).foldl assign {}

/-- The written line of a field. -/
def writeField (c : Config) (f : Field) : String :=
  f.keys.headD "" ++ " = " ++ f.kind.write (f.get c) ++ "\n"

/-- The written form of a section. -/
def writeSection (c : Config) (s : Section) : String :=
  "[" ++ s.names.headD "" ++ "]\n" ++ String.join (s.fields.map (writeField c))

/-- A configuration text that gives every field its value. -/
def write (c : Config) : String :=
  "# QARMA configuration\n\n" ++ "\n".intercalate (Section.all.map (writeSection c))

end TickDesktop.Config
