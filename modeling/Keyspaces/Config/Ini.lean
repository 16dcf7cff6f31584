import Keyspaces.FileTree
import Keyspaces.Table
import Keyspaces.Text.Blank
import Keyspaces.Text.LowerCase

/-
  This file defines configuration files: sections of options,
  whose values may go on over several lines, and the reading
  of such files one on top of the other.

  Main definitions:
    * `Ini`
    * `Ini.Line`
    * `Ini.linesOf`
    * `Ini.Reader`
    * `Ini.readFile`
    * `Ini.readFiles`
-/

namespace Keyspaces

open Text

------------------------------------------------------------
-- Sections and Options
------------------------------------------------------------

/- The options of a section, each with the lines of its value. -/
abbrev Options :=
  Table String (List (List Char))

/-
  Sections by name, and the options that all of them have
  unless they set them.
-/
structure Ini where
  defaults : Options
  sections : Table String Options
deriving Inhabited

namespace Ini

/- The name of the section that sets options for all others. -/
def defaultSection : String := "DEFAULT"

/- The sections of no file. -/
def empty : Ini :=
  ⟨Table.empty, Table.empty⟩

/- Change the options of a section that is present. -/
def modify
    (ini : Ini)
    (name : String)
    (change : Options → Options) : Ini :=
  if name = defaultSection then
    { ini with defaults := change ini.defaults }
  else
    match ini.sections.get? name with
    | some options =>
        { ini with
          sections :=
            ini.sections.insert name (change options) }
    | none => ini

/- Make sure that a section is present. -/
def addSection
    (ini : Ini)
    (name : String) : Ini :=
  if name = defaultSection || ini.sections.contains name then
    ini
  else
    { ini with
      sections := ini.sections.insert name Table.empty }

/- Add a line to the value of an option. -/
def appendLine
    (name : String)
    (line : List Char)
    (options : Options) : Options :=
  match options.get? name with
  | some lines => options.insert name (lines ++ [line])
  | none => options

/- The value of an option as one text. -/
def valueOf (lines : List (List Char)) : List Char :=
  trimRight (List.intercalate ['\n'] lines)

------------------------------------------------------------
-- Lines of a File
------------------------------------------------------------

/-
  The text of a file up to the first place that is not in
  UTF-8, and what is wrong there.
-/
structure Content where
  chars : List Char
  fault : Option Utf8.Fault
deriving Repr

/- Files are read in portions of this many bytes. -/
def portionSize : Nat := 8192

/-
  Read the portions of a file. The place of a fault counts
  from the first byte of the portion it is found in, or of the
  incomplete character left over from the one before.
-/
def readPortions :
    (fuel : Nat) → (pending rest : List UInt8) → Content
| 0, _, _ => ⟨[], none⟩
| fuel + 1, pending, rest =>
    if rest.isEmpty then
      match Utf8.decode pending with
      | .ok chars => ⟨chars, none⟩
      | .error fault => ⟨[], some fault⟩
    else
      match Utf8.decodePart
          (pending ++ rest.take portionSize) with
      | .error fault => ⟨[], some fault⟩
      | .ok part =>
          let more :=
            readPortions fuel part.pending
              (rest.drop portionSize)
          { more with chars := part.chars ++ more.chars }

/- The text of a file. -/
def contentOf (bytes : List UInt8) : Content :=
  readPortions (bytes.length / portionSize + 2) [] bytes

/-
  Divide a text at its line ends, of which there are three
  forms. Each line is given with a mark whether an end follows
  it; `line` holds the characters of the line in reverse.
-/
def splitLines
    (line : List Char) :
    List Char → List (List Char × Bool)
| [] => if line.isEmpty then [] else [(line.reverse, false)]
| '\r' :: '\n' :: rest =>
    (line.reverse, true) :: splitLines [] rest
| c :: rest =>
    if c = '\n' || c = '\r' then
      (line.reverse, true) :: splitLines [] rest
    else
      splitLines (c :: line) rest

/-
  A line that is served to a reader: its number and its
  characters, the line end included as a line feed.
-/
structure Line where
  number : Nat
  chars : List Char
deriving DecidableEq, Repr

/- Number lines from one on. -/
def numberLines
    (number : Nat) :
    List (List Char × Bool) → List Line
| [] => []
| (chars, ended) :: rest =>
    ⟨number, if ended then chars ++ ['\n'] else chars⟩ ::
      numberLines (number + 1) rest

/-
  The lines of a text. When a fault follows the text, only the
  lines that have ended before it are served.
-/
def linesOf (content : Content) : List Line :=
  match content.fault with
  | none => numberLines 1 (splitLines [] content.chars)
  | some _ =>
      let chars :=
        if content.chars.getLast? = some '\r' then
          content.chars.dropLast
        else
          content.chars
      numberLines 1
        ((splitLines [] chars).filter fun line => line.2)

------------------------------------------------------------
-- Reading Lines
------------------------------------------------------------

/- What the reader of a file knows between two lines. -/
structure Reader where
  ini : Ini
  header : Option String
  option : Option String
  indent : Nat
  seenSections : List String
  seenOptions : List (String × String)
  malformed : List (Nat × String)

namespace Reader

/- The reader at the start of a file. -/
def start (ini : Ini) : Reader :=
  { ini := ini
    header := none
    option := none
    indent := 0
    seenSections := []
    seenOptions := []
    malformed := [] }

/-
  The section and the option whose value a line can go on
  with. An option with an empty name has no such value.
-/
def open? (reader : Reader) : Option (String × String) :=
  match reader.header, reader.option with
  | some header, some option =>
      if option.isEmpty then none else some (header, option)
  | _, _ => none

/- Go on with the value of the current option. -/
def continueValue
    (reader : Reader)
    (header option : String)
    (line : List Char) : Reader :=
  { reader with
    ini := reader.ini.modify header (appendLine option line) }

/- Note a line that is neither a header nor an option. -/
def noteMalformed
    (reader : Reader)
    (line : Line) : Reader :=
  { reader with
    malformed :=
      reader.malformed ++
        [(line.number, String.ofList line.chars)] }

/-
  The name in a section header: the text between the bracket
  a line starts with and the last closing one.
-/
def headerName? : List Char → Option String
| '[' :: rest =>
    match cutLast? ']' rest with
    | some (name, _) =>
        if name.isEmpty then none
        else some (String.ofList name)
    | none => none
| _ => none

/-
  The name and the value of an option, divided at the first
  equality sign or colon.
-/
def optionParts?
    (line : List Char) : Option (List Char × List Char) :=
  let isSign := fun c => c = '=' || c = ':'
  match line.dropWhile fun c => !isSign c with
  | [] => none
  | _ :: value =>
      some (line.takeWhile (fun c => !isSign c), value)

/-
  Start a section. A file has each section once, except for
  the one of the defaults.
-/
def startSection
    (reader : Reader)
    (path : String)
    (line : Line)
    (name : String) : Except Failure.FileFault Reader :=
  if reader.seenSections.contains name then
    .error (.repeatedSection path line.number name)
  else
    .ok
      { reader with
        ini := reader.ini.addSection name
        header := some name
        option := none
        seenSections :=
          if name = defaultSection then reader.seenSections
          else name :: reader.seenSections }

/- Set an option. A file sets an option of a section once. -/
def setOption
    (reader : Reader)
    (path : String)
    (line : Line)
    (header : String)
    (name value : List Char) :
    Except Failure.FileFault Reader :=
  let option := String.ofList (lowerChars (trimRight name))
  if reader.seenOptions.contains (header, option) then
    .error (.repeatedOption path line.number header option)
  else
    .ok
      { reader with
        ini := reader.ini.modify header fun options =>
          options.insert option [trimChars value]
        option := some option
        seenOptions := (header, option) :: reader.seenOptions }

/- Read a line that starts a section or sets an option. -/
def readStatement
    (reader : Reader)
    (path : String)
    (line : Line)
    (body : List Char) :
    Except Failure.FileFault Reader :=
  match headerName? body with
  | some name => reader.startSection path line name
  | none =>
      match reader.header with
      | none =>
          .error (.missingHeader path line.number
            (String.ofList line.chars))
      | some header =>
          match optionParts? body with
          | none => .ok (reader.noteMalformed line)
          | some (name, value) =>
              let noted :=
                if name.isEmpty then
                  reader.noteMalformed line
                else
                  reader
              noted.setOption path line header name value

/- A line that is a remark. -/
def isRemark (body : List Char) : Bool :=
  match body with
  | c :: _ => c = '#' || c = ';'
  | [] => false

/-
  Read one line. Remarks are skipped, a blank line and a line
  that is indented deeper go on with the current value.
-/
def readLine
    (reader : Reader)
    (path : String)
    (line : Line) : Except Failure.FileFault Reader :=
  let body := trimChars line.chars
  let indent := (line.chars.takeWhile isBlank).length
  if isRemark body then
    .ok reader
  else if body.isEmpty then
    match reader.open? with
    | some (header, option) =>
        .ok (reader.continueValue header option [])
    | none => .ok reader
  else
    match reader.open?, decide (reader.indent < indent) with
    | some (header, option), true =>
        .ok (reader.continueValue header option body)
    | _, _ =>
        readStatement { reader with indent := indent } path
          line body

/- Read lines in order up to the first that fails. -/
def readLines
    (reader : Reader)
    (path : String) :
    List Line → Except Failure.FileFault Reader
| [] => .ok reader
| line :: lines =>
    match reader.readLine path line with
    | .ok next => next.readLines path lines
    | .error fault => .error fault

end Reader

------------------------------------------------------------
-- Reading Files
------------------------------------------------------------

/- Read the content of a file on top of what is known. -/
def readContent
    (ini : Ini)
    (path : String)
    (bytes : List UInt8) : Except Failure Ini :=
  let content := contentOf bytes
  match (Reader.start ini).readLines path (linesOf content) with
  | .error fault => .error (.unreadableFile fault)
  | .ok reader =>
      match content.fault with
      | some fault => .error (.undecodable fault)
      | none =>
          if reader.malformed.isEmpty then
            .ok reader.ini
          else
            .error (.unreadableFile
              (.malformedLines path reader.malformed))

/- Read a file, if there is one. -/
def readFile
    (ini : Ini)
    (tree : FileTree)
    (path : String) : Except Failure Ini :=
  match tree.read (.text path) with
  | .ok bytes => ini.readContent path bytes
  | .error _ => .ok ini

/- Read files in order. -/
def readFiles
    (ini : Ini)
    (tree : FileTree) :
    List String → Except Failure Ini
| [] => .ok ini
| path :: paths =>
    match ini.readFile tree path with
    | .ok next => next.readFiles tree paths
    | .error failure => .error failure

end Ini

end Keyspaces
