-- SUMMARY: Settings files: sections of options over lines, with comments, continued values and two delimiters; reading the entry that names the backend.
import LinearDispatch.Event.Basic
import LinearDispatch.Text.Blank
import LinearDispatch.Text.Case
import LinearDispatch.Table

/-!
# Settings files

A settings file is UTF-8 text. Its lines open sections, set options, continue
the value of the option before, or say nothing. The text starts inside the
section `properties`; options of the section `DEFAULT` count wherever a section
does not set them itself.

A line that starts with `#` or `;` is a comment. A line that is indented deeper
than the last option or section line continues the value of the current
option, and so does a blank line. Any other line starts a section with `[…]`, or
sets an option: the name stands in front of the first `=` or `:`, in any case,
and the value behind it. A name given twice in a section, or a section that
comes twice, ends the reading at once; a line of no such form, or without a
name, is remembered and the file is then refused as a whole.
-/
namespace LinearDispatch.Settings

open Text

/-! ## Files -/

/-- What is found under the path of the settings. -/
inductive File where
  | absent
  | directory
  /-- A file that the system refuses to read, in its own words. -/
  | unreadable (text : String)
  | content (bytes : ByteArray)

/-! ## Lines -/

/-- Text with every line end written as one line feed. -/
def unifyLineEnds : List Char → List Char
  | []                  => []
  | '\r' :: '\n' :: rest => '\n' :: unifyLineEnds rest
  | '\r' :: rest        => '\n' :: unifyLineEnds rest
  | c :: rest           => c :: unifyLineEnds rest

/-- The lines of a text, without their ends; what follows the last line feed is the last line. -/
def lines : List Char → List (List Char)
  | []        => [[]]
  | c :: rest =>
    if c = '\n' then [] :: lines rest
    else
      match lines rest with
      | []      => [[c]]
      | l :: ls => (c :: l) :: ls

/-- How many blanks a line starts with. -/
def indent (line : List Char) : Nat :=
  (line.takeWhile isBlank).length

/-- What follows a prefix that ends in the last closing bracket: the text up to that bracket. -/
def upToLastBracket (cs : List Char) : Option (List Char) :=
  match cs.reverse.dropWhile (· ≠ ']') with
  | []        => none
  | _ :: rest => some rest.reverse

/-- The name of the section that a line opens. -/
def header? : List Char → Option String
  | '[' :: rest =>
    match upToLastBracket rest with
    | some (c :: name) => some (String.ofList (c :: name))
    | _                => none
  | _ => none

/-- The name and the value of the option that a line sets. -/
def option? (line : List Char) : Option (String × List Char) :=
  match line.dropWhile fun c => c ≠ '=' && c ≠ ':' with
  | []         => none
  | _ :: value =>
    let name := trimEnd (line.takeWhile fun c => c ≠ '=' && c ≠ ':')
    some (lower (String.ofList name), trim value)

/-! ## Reading -/

/-- The options of a section, each with the lines of its value, last line first. -/
abbrev Options := Table (List (List Char))

/-- What has been read: the sections, the section and the option that a continuation belongs to,
the last indentation, and the lines that fit nowhere. -/
structure Reader where
  sections : Table Options
  current : String
  option : Option String
  level : Nat
  unparsable : List (Nat × String)

/-- The section that a text starts in. -/
def firstSection : String := "properties"

/-- The section whose options count everywhere. -/
def defaultSection : String := "DEFAULT"

def Reader.start : Reader where
  sections := Table.empty.insert firstSection .empty
  current := firstSection
  option := none
  level := 0
  unparsable := []

/-- The options of a section; one that was never opened has none. -/
def Reader.options (r : Reader) (name : String) : Options :=
  (r.sections.get? name).getD .empty

/-- Add a line to the value of an option of the current section. -/
def Reader.append (r : Reader) (option : String) (line : List Char) : Reader :=
  let options := r.options r.current
  let value := (options.get? option).getD []
  { r with sections := r.sections.insert r.current (options.insert option (line :: value)) }

/-- The option whose value may go on: one with a name. -/
def Reader.continued? (r : Reader) : Option String :=
  r.option.filter (· ≠ "")

/-- Open a section. -/
def Reader.openSection (r : Reader) (number : Nat) (name : String) :
    Except SettingsFault Reader :=
  if r.sections.contains name then
    if name = defaultSection then .ok { r with current := name, option := none }
    else .error (.duplicateSection number name)
  else
    .ok { r with
      sections := r.sections.insert name .empty
      current := name
      option := none }

/-- Set an option of the current section. -/
def Reader.setOption (r : Reader) (number : Nat) (line : List Char) (name : String)
    (value : List Char) : Except SettingsFault Reader :=
  if (r.options r.current).contains name then
    .error (.duplicateOption number name r.current)
  else
    let noted := if name = "" then [(number, String.ofList line)] else []
    .ok { r with
      sections := r.sections.insert r.current ((r.options r.current).insert name [value])
      option := some name
      unparsable := r.unparsable ++ noted }

/-- Read a line that neither is blank nor continues a value. -/
def Reader.readEntry (r : Reader) (number : Nat) (line : List Char) :
    Except SettingsFault Reader :=
  match header? line with
  | some name => r.openSection number name
  | none      =>
    match option? line with
    | some (name, value) => r.setOption number line name value
    | none               =>
      .ok { r with unparsable := r.unparsable ++ [(number, String.ofList line)] }

/-- Whether a line without the blanks around it is a comment. -/
def isComment : List Char → Bool
  | c :: _ => c = '#' || c = ';'
  | []     => false

/-- Read one line. -/
def Reader.readLine (r : Reader) (number : Nat) (line : List Char) :
    Except SettingsFault Reader :=
  let body := trim line
  if isComment body then .ok r
  else if body.isEmpty then
    match r.continued? with
    | some option => .ok (r.append option [])
    | none        => .ok r
  else
    match r.continued?, decide (r.level < indent line) with
    | some option, true => .ok (r.append option body)
    | _,           _    => { r with level := indent line }.readEntry number body

/-- Read the lines, the first of which has this number. -/
def Reader.readLines (number : Nat) : List (List Char) → Reader → Except SettingsFault Reader
  | [], r => .ok r
  | line :: rest, r =>
    match r.readLine number line with
    | .error e => .error e
    | .ok r    => Reader.readLines (number + 1) rest r

/-- Lines joined by line feeds. -/
def joinLines : List (List Char) → List Char
  | []           => []
  | [line]       => line
  | line :: rest => line ++ '\n' :: joinLines rest

/-- The value of an option from its lines, last line first. -/
def valueOf (reversed : List (List Char)) : String :=
  String.ofList (trimEnd (joinLines reversed.reverse))

/-- Read a text. The line with the name of the first section counts as its line 1. -/
def read (text : String) : Except SettingsFault Reader :=
  match Reader.readLines 2 (lines (unifyLineEnds text.toList)) .start with
  | .error e => .error e
  | .ok r    => if r.unparsable.isEmpty then .ok r else .error (.unparsable r.unparsable)

/-- The value of an option of the first section, or of the section that counts everywhere. -/
def Reader.value? (r : Reader) (option : String) : Option String :=
  (((r.options firstSection).get? option).or ((r.options defaultSection).get? option)).map valueOf

/-! ## The entry of the backend -/

/-- The option that names the backend. -/
def backendOption : String := "solver"

/-- The backend that a text names, without blanks at the ends; an empty name is none. -/
def backendIn (text : String) : Except SettingsFault (Option String) :=
  match read text with
  | .error e => .error e
  | .ok r    => .ok (((r.value? backendOption).map strip).filter (· ≠ ""))

/-- The backend that a file names. Where there is no file it names none. -/
def backendOf : File → Except SettingsFault (Option String)
  | .absent          => .ok none
  | .directory       => .ok none
  | .unreadable text => .error (.unreadable text)
  | .content bytes   =>
    match String.fromUTF8? bytes with
    | none      => .error .notUtf8
    | some text => backendIn text

/-- The backend that a file names, where one that cannot be read names none. -/
def named? (file : File) : Option String :=
  match backendOf file with
  | .ok name => name
  | .error _ => none

end LinearDispatch.Settings
