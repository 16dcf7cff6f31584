import Keyspaces.Text.Split
import Keyspaces.Text.Utf8
import Keyspaces.Value
import Keyspaces.Xml.Fault

/-
  This file defines why an operation fails. A failure is its
  cause; its message, its kind and the kind of the failure it
  was raised from are functions of it.

  Main definitions:
    * `Failure.Kind`
    * `Failure`
    * `Failure.message`
    * `Failure.kind`
    * `Failure.cause?`
    * `Failure.showing`
    * `Failure.writing`
-/

namespace Keyspaces

open Text

namespace Failure

------------------------------------------------------------
-- Kinds
------------------------------------------------------------

/- The kinds that callers tell failures apart by. -/
inductive Kind
| configuration
| invalidInput
| nameNotFound
| wrongType
| wrongValue
| missingAttribute
| overflow
| missingKey
| unknownName
| assertion
| unicode
| undecodable
| fileNotFound
| isDirectory
| notDirectory
| system
| connection
| moduleNotFound
| malformedDocument
| duplicateOption
| duplicateSection
| missingSectionHeader
| malformedFile
| interpolationMissing
| interpolationSyntax
| interpolationDepth
deriving DecidableEq, Repr

namespace Kind

/- Kinds that are reported as wrong values. -/
def isValue : Kind → Bool
| .wrongValue | .configuration | .unicode
| .undecodable => true
| _ => false

/- Kinds that are reported as wrong types. -/
def isType : Kind → Bool
| .wrongType | .invalidInput => true
| _ => false

/- Kinds raised while a resource is resolved. -/
def isResource : Kind → Bool
| .configuration | .invalidInput | .nameNotFound => true
| _ => false

/- Kinds reported by the operating system. -/
def isSystem : Kind → Bool
| .fileNotFound | .isDirectory | .notDirectory
| .system | .connection => true
| _ => false

end Kind

------------------------------------------------------------
-- Configuration Files
------------------------------------------------------------

/- What is wrong with the text of a configuration file. -/
inductive FileFault
| repeatedSection
    (path : String) (line : Nat) (name : String)
| repeatedOption
    (path : String) (line : Nat) (header option : String)
| missingHeader (path : String) (line : Nat) (content : String)
| malformedLines
    (path : String) (lines : List (Nat × String))
deriving DecidableEq, Repr

namespace FileFault

/- A line number in a field of two columns. -/
def lineField (line : Nat) : String :=
  if line < 10 then " " ++ toString line else toString line

/- The account of what is wrong. -/
def message : FileFault → String
| .repeatedSection path line name =>
    "While reading from " ++ quoted path ++ " [line " ++
      lineField line ++ "]: section " ++ quoted name ++
      " already exists"
| .repeatedOption path line header option =>
    "While reading from " ++ quoted path ++ " [line " ++
      lineField line ++ "]: option " ++ quoted option ++
      " in section " ++ quoted header ++ " already exists"
| .missingHeader path line content =>
    "File contains no section headers.\nfile: " ++
      quoted path ++ ", line: " ++ toString line ++ "\n" ++
      quoted content
| .malformedLines path lines =>
    "Source contains parsing errors: " ++ quoted path ++
      String.join (lines.map fun entry =>
        "\n\t[line " ++ lineField entry.1 ++ "]: " ++
          quoted entry.2)

/- The kind of each fault. -/
def kind : FileFault → Kind
| .repeatedSection .. => .duplicateSection
| .repeatedOption .. => .duplicateOption
| .missingHeader .. => .missingSectionHeader
| .malformedLines .. => .malformedFile

end FileFault

/- What is wrong with a reference inside an option's value. -/
inductive InterpolationFault
| missing (option header key raw : String)
| tooDeep (option header raw : String)
| unclosed (rest : String)
| stray (rest : String)
deriving DecidableEq, Repr

namespace InterpolationFault

/- The account of what is wrong. -/
def message : InterpolationFault → String
| .missing option header key raw =>
    "Bad value substitution: option " ++ quoted option ++
      " in section " ++ quoted header ++
      " contains an interpolation key " ++ quoted key ++
      " which is not a valid option name. Raw value: " ++
      quoted raw
| .tooDeep option header raw =>
    "Recursion limit exceeded in value substitution: option " ++
      quoted option ++ " in section " ++ quoted header ++
      " contains an interpolation key which cannot be" ++
      " substituted in 10 steps. Raw value: " ++ quoted raw
| .unclosed rest =>
    "bad interpolation variable reference " ++ quoted rest
| .stray rest =>
    "'%' must be followed by '%' or '(', found: " ++
      quoted rest

/- The kind of each fault. -/
def kind : InterpolationFault → Kind
| .missing .. => .interpolationMissing
| .tooDeep .. => .interpolationDepth
| .unclosed .. | .stray .. => .interpolationSyntax

end InterpolationFault

end Failure

------------------------------------------------------------
-- Failures
------------------------------------------------------------

/- Why an operation fails. -/
inductive Failure
-- values and settings
| notText
| notTruthValue
| notInteger
| outOfRange (bits : Nat)
| tooManyDigits (digits : Nat)
| unwritableInteger
| noIntegerOfKind (kindName : String)
| integerLiteral (record : String)
| integerOfNotANumber
| integerOfInfinity
| invalidValue (value : Value) (key : String) (cause : Failure)
| defaultOfNoItems
| defaultOfManyItems
| formatNotCallable
| notCallable (kindName : String)
| unhashable (kindName : String)
| noMember (kindName member : String)
| bytesRequired
-- the configuration
| notPair (value : Value)
| notKeyValue (argument : String)
| notAnUpdate (value : Value)
| environmentOption (option : String)
| noClosingQuotation
| noEscapedCharacter
| emptyModuleName
| relativeModule (path : String)
| unreadableFile (fault : Failure.FileFault)
| interpolation (fault : Failure.InterpolationFault)
| undecodable (fault : Utf8.Fault)
-- hosts and their options
| noHosts
| emptyHost (hosts : Value)
| invalidPort (host : String)
| noAddress (host : String)
| portOutOfRange (host : String)
| unknownOption (option : Value)
| incomparable (relation kindName : String)
| quotientTooLarge
| negativeDelay
| notAnIntegerCount (kindName : String)
| countTooLarge
-- references and declarations
| notReference (value : Value)
| notAttribute (value : Value)
| requiredAttribute (name : String)
| resourceWithoutName
| resourceWithoutFactory (name : String)
| resourceRepeated (name : String)
| parametersOfUndeclared (name : Option String)
| parameterWithoutName (resource : String)
| malformedDocument (fault : Xml.Fault)
| unknownCodec (name : String)
| codecOfNoText (name : String)
| multiByteCodec
-- factories and contexts
| factoryNotDotted (path : String)
| factoryModule (path : String)
| factoryMember (member module : String)
| unexpectedArgument (callee argument : String)
| missingArguments (callee : String) (arguments : List String)
| noNamedArguments (callee : String)
| alreadyBound (name : String)
| withoutFactory (name : String)
| notBound (name : String)
-- files
| fileNotFound (path : Value)
| isDirectory (path : Value)
| notDirectory (path : Value)
| fileNameTooLong (path : Value)
| badDescriptor
| negativeDescriptor
| nullInPath
| notPath (kindName : String)
-- what a function handed in by the caller reports
| reported (kind : Failure.Kind) (message : String)
deriving Repr, Inhabited

namespace Failure

/- Words with commas between them and an "and" at the end. -/
def enumeration : List String → String
| [] => ""
| [word] => word
| [first, second] => first ++ " and " ++ second
| words =>
    join ", " words.dropLast ++ ", and " ++
      words.getLastD ""

/- The account of a failure. -/
def message : Failure → String
| .notText => "not a string"
| .notTruthValue => "expected \"true\" or \"false\""
| .notInteger => "not an integer"
| .outOfRange bits =>
    "out of range for a " ++ toString bits ++ " bit integer"
| .tooManyDigits digits =>
    "Exceeds the limit (4300 digits) for integer string" ++
      " conversion: value has " ++ toString digits ++
      " digits; use sys.set_int_max_str_digits() to" ++
      " increase the limit"
| .unwritableInteger =>
    "Exceeds the limit (4300 digits) for integer string" ++
      " conversion; use sys.set_int_max_str_digits() to" ++
      " increase the limit"
| .noIntegerOfKind kindName =>
    "int() argument must be a string, a bytes-like object" ++
      " or a real number, not '" ++ kindName ++ "'"
| .integerLiteral record =>
    "invalid literal for int() with base 10: " ++
      String.ofList (record.toList.take 200)
| .integerOfNotANumber =>
    "cannot convert float NaN to integer"
| .integerOfInfinity =>
    "cannot convert float infinity to integer"
| .invalidValue value key cause =>
    "Invalid value " ++ value.record ++ " for " ++ key ++
      ": " ++ cause.message
| .defaultOfNoItems => "not enough arguments for format string"
| .defaultOfManyItems =>
    "not all arguments converted during string formatting"
| .formatNotCallable => ""
| .notCallable kindName =>
    "'" ++ kindName ++ "' object is not callable"
| .unhashable kindName => "unhashable type: '" ++ kindName ++ "'"
| .noMember kindName member =>
    "'" ++ kindName ++ "' object has no attribute '" ++
      member ++ "'"
| .bytesRequired =>
    "a bytes-like object is required, not 'str'"
| .notPair value =>
    value.record ++ " is not a (key, value) pair"
| .notKeyValue argument =>
    quoted argument ++ " is not formatted as \"key=value\""
| .notAnUpdate value =>
    "Unable to update configuration with " ++ value.record
| .environmentOption option =>
    option ++ " not in key=value format in CASSRES_CONF" ++
      " environment variable"
| .noClosingQuotation => "No closing quotation"
| .noEscapedCharacter => "No escaped character"
| .emptyModuleName => "Empty module name"
| .relativeModule path =>
    "the 'package' argument is required to perform a" ++
      " relative import for " ++ quoted path
| .unreadableFile fault =>
    "Unable to read cassres.ini: " ++ fault.message
| .interpolation fault => fault.message
| .undecodable fault => fault.message
| .noHosts => "No hosts given"
| .emptyHost hosts => "Empty entry in hosts " ++ hosts.record
| .invalidPort host => "Invalid port in host " ++ quoted host
| .noAddress host => "No address in host " ++ quoted host
| .portOutOfRange host =>
    "Port of host " ++ quoted host ++ " out of range"
| .unknownOption option =>
    "Unknown host configuration option " ++ option.record
| .incomparable relation kindName =>
    "'" ++ relation ++
      "' not supported between instances of '" ++ kindName ++
      "' and 'int'"
| .quotientTooLarge =>
    "integer division result too large for a float"
| .negativeDelay => "delay must not be negative"
| .notAnIntegerCount kindName =>
    "'" ++ kindName ++
      "' object cannot be interpreted as an integer"
| .countTooLarge =>
    "Python int too large to convert to C ssize_t"
| .notReference value =>
    value.record ++ " is not a cassres.naming.Reference"
| .notAttribute value => value.record ++ " is not a RefAddr"
| .requiredAttribute name =>
    "The " ++ name ++ " attribute of the resource is required"
| .resourceWithoutName => "Resource declared without a name"
| .resourceWithoutFactory name =>
    "Resource " ++ name ++ " declared without a factory"
| .resourceRepeated name =>
    "Resource " ++ name ++ " declared more than once"
| .parametersOfUndeclared name =>
    "ResourceParams for undeclared resource " ++
      Value.nameText name
| .parameterWithoutName resource =>
    "Parameter without a name in ResourceParams of " ++ resource
| .malformedDocument fault =>
    "Unable to parse resource declarations: " ++ fault.message
| .unknownCodec name => "unknown encoding: " ++ name
| .codecOfNoText name =>
    "'" ++ name ++ "' is not a text encoding; use" ++
      " codecs.decode() to handle arbitrary codecs"
| .multiByteCodec => "multi-byte encodings are not supported"
| .factoryNotDotted path =>
    "Factory " ++ quoted path ++ " is not a dotted path"
| .factoryModule path => "Unable to import factory " ++ path
| .factoryMember member module =>
    "Factory " ++ member ++ " not found in " ++ module
| .unexpectedArgument callee argument =>
    callee ++ " got an unexpected keyword argument '" ++
      argument ++ "'"
| .missingArguments callee arguments =>
    callee ++ " missing " ++ toString arguments.length ++
      " required positional argument" ++
      (if arguments.length = 1 then "" else "s") ++ ": " ++
      enumeration (arguments.map quoted)
| .noNamedArguments callee =>
    callee ++ " takes no keyword arguments"
| .alreadyBound name => name ++ " is already bound"
| .withoutFactory name => "No factory for resource " ++ name
| .notBound name => "Name " ++ name ++ " is not bound"
| .fileNotFound path =>
    "[Errno 2] No such file or directory: " ++ path.record
| .isDirectory path =>
    "[Errno 21] Is a directory: " ++ path.record
| .notDirectory path =>
    "[Errno 20] Not a directory: " ++ path.record
| .fileNameTooLong path =>
    "[Errno 36] File name too long: " ++ path.record
| .badDescriptor => "[Errno 9] Bad file descriptor"
| .negativeDescriptor => "negative file descriptor"
| .nullInPath => "embedded null byte"
| .notPath kindName =>
    "expected str, bytes or os.PathLike object, not " ++
      kindName
| .reported _ message => message

/- The kind of a failure. -/
def kind : Failure → Kind
| .invalidValue ..
| .notPair _ | .notKeyValue _ | .notAnUpdate _
| .environmentOption _ | .unreadableFile _
| .noHosts | .emptyHost _ | .invalidPort _ | .noAddress _
| .portOutOfRange _
| .requiredAttribute _ | .resourceWithoutName
| .resourceWithoutFactory _ | .resourceRepeated _
| .parametersOfUndeclared _ | .parameterWithoutName _
| .malformedDocument _
| .factoryNotDotted _ | .factoryModule _
| .factoryMember .. | .alreadyBound _ | .withoutFactory _ =>
    .configuration
| .notReference _ => .invalidInput
| .notBound _ => .nameNotFound
| .noIntegerOfKind _ | .defaultOfNoItems | .defaultOfManyItems
| .notCallable _ | .unhashable _ | .bytesRequired
| .relativeModule _ | .unknownOption _ | .incomparable ..
| .notAnIntegerCount _ | .notAttribute _
| .unexpectedArgument .. | .missingArguments ..
| .noNamedArguments _
| .notPath _ =>
    .wrongType
| .notText | .notTruthValue | .notInteger | .outOfRange _
| .tooManyDigits _ | .unwritableInteger | .integerLiteral _
| .integerOfNotANumber | .noClosingQuotation
| .noEscapedCharacter | .emptyModuleName | .negativeDelay
| .multiByteCodec | .negativeDescriptor | .nullInPath =>
    .wrongValue
| .noMember .. => .missingAttribute
| .integerOfInfinity | .quotientTooLarge | .countTooLarge =>
    .overflow
| .formatNotCallable => .assertion
| .unknownCodec _ | .codecOfNoText _ => .unknownName
| .interpolation fault => fault.kind
| .undecodable _ => .undecodable
| .fileNotFound _ => .fileNotFound
| .isDirectory _ => .isDirectory
| .notDirectory _ => .notDirectory
| .fileNameTooLong _ | .badDescriptor => .system
| .reported kind _ => kind

/-
  The kind of the failure that a failure was raised from, for
  those that carry it.
-/
def cause? : Failure → Option Kind
| .invalidValue _ _ cause => some cause.kind
| .unreadableFile fault => some fault.kind
| .malformedDocument _ => some .malformedDocument
| .factoryModule _ => some .moduleNotFound
| .factoryMember .. => some .missingAttribute
| _ => none

/-
  A failure whose message shows a value. It gives way to that
  of writing the value if this has no record.
-/
def showing
    (value : Value)
    (failure : Failure) : Failure :=
  if value.isWritable then failure else .unwritableInteger

/- What shows a value that has a record is as it is. -/
theorem showing_of_writable
    {value : Value}
    (hValue : value.isWritable = true)
    (failure : Failure) : showing value failure = failure :=
  if_pos hValue

/- Nothing shows a value that has no record. -/
theorem showing_of_unwritable
    {value : Value}
    (hValue : value.isWritable = false)
    (failure : Failure) :
    showing value failure = .unwritableInteger :=
  if_neg (by simp [hValue])

/- A text that is only written if all values in it can be. -/
def writing
    (isWritable : Bool)
    (text : String) : Except Failure String :=
  if isWritable then .ok text else .error .unwritableInteger

end Failure

end Keyspaces
