import KeyedCoding.Declaration.Marker
import KeyedCoding.Grammar.Source

/-!
# Declarations and their members

## Main definitions

* `Member`: a member of a type declaration.
* `Declaration`: a type declaration with its members.
* `DeclarationKind.ofText?`: the kind that a word in either case names.
-/

namespace KeyedCoding

/-- The kinds of members of a type. -/
inductive MemberKind where
  | computedProperty
  | initializer
  | method
  | nestedType
  | storedProperty
  deriving DecidableEq, Repr

namespace MemberKind

/-- The name of a kind. -/
def name : MemberKind → String
  | computedProperty => "ComputedProperty"
  | initializer => "Initializer"
  | method => "Method"
  | nestedType => "NestedType"
  | storedProperty => "StoredProperty"

/-- The kind with a name. -/
def ofName? (text : String) : Option MemberKind :=
  [computedProperty, initializer, method, nestedType, storedProperty].find? (·.name == text)

end MemberKind

/-- A member of a type: its kind and name, and as far as they are given its type, its initial value
and its markers. -/
structure Member where
  kind : MemberKind
  ident : Ident
  ty : Option Ty
  initial : Option Expr
  markers : List Marker

/-- The kinds of type declarations. -/
inductive DeclarationKind where
  | actor
  | classType
  | enumeration
  | extension
  | protocol
  | structType
  deriving DecidableEq, Repr

/-- A text with its ASCII letters in lower case. -/
def lowerCase (text : String) : String := String.ofList (text.toList.map Char.toLower)

namespace DeclarationKind

/-- The name of a kind. -/
def name : DeclarationKind → String
  | actor => "Actor"
  | classType => "Class"
  | enumeration => "Enum"
  | extension => "Extension"
  | protocol => "Protocol"
  | structType => "Struct"

/-- The kind that a word names, in either case. -/
def ofText? (text : String) : Option DeclarationKind :=
  [actor, classType, enumeration, extension, protocol, structType].find? fun kind =>
    lowerCase kind.name == lowerCase text

/-- How it is told that a text names no kind. -/
def unknownMessage : String := "Invalid `DeclarationKind` string representation"

/-- Whether a declaration of a kind is one of a class. -/
def isClassLike (kind : DeclarationKind) : Bool := kind == classType

end DeclarationKind

/-- A type declaration. -/
structure Declaration where
  ident : Ident
  kind : DeclarationKind
  visibility : Visibility
  members : List Member

end KeyedCoding
