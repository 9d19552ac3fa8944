import Companion.Declaration.Manifest
import Companion.Data.Vocabulary

/-!
# The words of declarations

How manifests spell the enumerations of a declaration. Every enumeration lists its values in the
order in which positions count them.
-/

namespace Companion

instance : Vocabulary Accessibility where
  all := [.publicAccess, .internalAccess, .protectedAccess, .protectedInternal, .privateProtected,
    .privateAccess, .notApplicable]
  word
    | .publicAccess => "public"
    | .internalAccess => "internal"
    | .protectedAccess => "protected"
    | .protectedInternal => "protected-internal"
    | .privateProtected => "private-protected"
    | .privateAccess => "private"
    | .notApplicable => "not-applicable"

instance : Vocabulary DeclarationKind where
  all := [.classType, .recordType, .structType, .recordStruct, .interfaceType]
  word
    | .classType => "class"
    | .recordType => "record"
    | .structType => "struct"
    | .recordStruct => "record-struct"
    | .interfaceType => "interface"

instance : Vocabulary MethodKind where
  all := [.ordinary, .constructor, .staticConstructor, .destructor, .operator, .conversion,
    .propertyAccessor, .eventAccessor, .explicitInterfaceImplementation, .localFunction]
  word
    | .ordinary => "ordinary"
    | .constructor => "constructor"
    | .staticConstructor => "static-constructor"
    | .destructor => "destructor"
    | .operator => "operator"
    | .conversion => "conversion"
    | .propertyAccessor => "property-accessor"
    | .eventAccessor => "event-accessor"
    | .explicitInterfaceImplementation => "explicit-interface-implementation"
    | .localFunction => "local-function"

instance : Vocabulary Passing where
  all := [.byValue, .byRef, .byOut, .byIn, .byRefReadOnly]
  word
    | .byValue => "none"
    | .byRef => "ref"
    | .byOut => "out"
    | .byIn => "in"
    | .byRefReadOnly => "ref-readonly"

instance : Vocabulary ReturnPassing where
  all := [.byValue, .byRef, .byRefReadOnly]
  word
    | .byValue => "none"
    | .byRef => "ref"
    | .byRefReadOnly => "ref-readonly"

instance : Vocabulary OtherMemberKind where
  all := [.field, .event, .nestedType]
  word
    | .field => "field"
    | .event => "event"
    | .nestedType => "nested-type"

end Companion
