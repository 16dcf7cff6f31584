/-
  This file defines what can be wrong with an XML document and
  how it is reported: a reason, and the line and column of the
  place.

  Main definitions:
    * `Xml.Reason`
    * `Xml.Reason.message`
    * `Xml.Fault`
    * `Xml.Fault.message`
-/

namespace Keyspaces

namespace Xml

/- What is wrong with a document. -/
inductive Reason
| noElement
| malformedSyntax
| invalidToken
| unclosedToken
| partialCharacter
| mismatchedTag
| duplicateAttribute
| junkAfterRoot
| parameterReference
| undefinedEntity
| undeclaredEntity (shown : String)
| recursiveEntity
| asynchronousEntity
| invalidCharacterNumber
| binaryEntity
| externalEntityInAttribute
| misplacedDeclaration
| unknownEncoding
| incorrectEncoding
| unclosedCData
| declarationNotWellFormed
| unboundPrefix
| reservedPrefixUndeclared
| reservedPrefixXml
| reservedPrefixXmlns
| reservedNamespace
| publicIdCharacter
deriving DecidableEq, Repr

namespace Reason

/- The words for what is wrong. -/
def message : Reason → String
| .noElement => "no element found"
| .malformedSyntax => "syntax error"
| .invalidToken => "not well-formed (invalid token)"
| .unclosedToken => "unclosed token"
| .partialCharacter => "partial character"
| .mismatchedTag => "mismatched tag"
| .duplicateAttribute => "duplicate attribute"
| .junkAfterRoot => "junk after document element"
| .parameterReference =>
    "illegal parameter entity reference"
| .undefinedEntity => "undefined entity"
| .undeclaredEntity shown => "undefined entity " ++ shown
| .recursiveEntity => "recursive entity reference"
| .asynchronousEntity => "asynchronous entity"
| .invalidCharacterNumber =>
    "reference to invalid character number"
| .binaryEntity => "reference to binary entity"
| .externalEntityInAttribute =>
    "reference to external entity in attribute"
| .misplacedDeclaration =>
    "XML or text declaration not at start of entity"
| .unknownEncoding => "unknown encoding"
| .incorrectEncoding =>
    "encoding specified in XML declaration is incorrect"
| .unclosedCData => "unclosed CDATA section"
| .declarationNotWellFormed =>
    "XML declaration not well-formed"
| .unboundPrefix => "unbound prefix"
| .reservedPrefixUndeclared => "must not undeclare prefix"
| .reservedPrefixXml =>
    "reserved prefix (xml) must not be undeclared or bound" ++
      " to another namespace name"
| .reservedPrefixXmlns =>
    "reserved prefix (xmlns) must not be declared or undeclared"
| .reservedNamespace =>
    "prefix must not be bound to one of the reserved" ++
      " namespace names"
| .publicIdCharacter =>
    "illegal character(s) in public id"

end Reason

/-
  A reason and its place. Lines are counted from one, columns
  from zero.
-/
structure Fault where
  reason : Reason
  line : Nat
  column : Nat
deriving DecidableEq, Repr

namespace Fault

/- The report of a fault. -/
def message (fault : Fault) : String :=
  fault.reason.message ++ ": line " ++ toString fault.line ++
    ", column " ++ toString fault.column

end Fault

end Xml

end Keyspaces
