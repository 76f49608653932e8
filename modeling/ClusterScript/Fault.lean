import ClusterScript.Registry.Arity
import ClusterScript.Text.Quoted
import ClusterScript.Text.Utf8

/-!
# What can go wrong

A call that cannot be answered ends in a `Fault`. Most are refusals: the
arguments of a call do not fit, and `Refusal` says in which way. Every cause
has one text, given by `Refusal.message` and `Fault.message`.
-/
namespace ClusterScript

/-- Why a call is refused because of what it was given. -/
inductive Refusal
  /-- A selector key of blanks. -/
  | blankKey
  /-- A presence check with values. -/
  | presenceWithValues (key : String)
  /-- A comparison without values. -/
  | noValues (key : String)
  /-- A presence check in a field selector. -/
  | fieldPresence (key : String)
  /-- A table of names among the operands of a match. -/
  | mapOperand
  | blankOperand (text : String)
  | operandType (found : String)
  /-- A selector constructor without its one argument. -/
  | blockCount (given : Nat)
  | blockType (found : String)
  | keyNameType
  | blankKeyName
  /-- A match on a key that was made outside of a collector. -/
  | detachedKey (name : String)
  | tooManyQueryArguments
  /-- A second glob or a second selector in a query. -/
  | secondArgument (what : String)
  | globSequence
  | queryArgumentType (found : String)
  | invalidGlob
  | tableKeyType (context found : String)
  | unknownKey (context : String) (allowed : List String) (key : String)
  | wrongValue (key wanted : String)
  | missingKey (context key : String)
  /-- A wrong number of arguments; the method is named where it is known. -/
  | arity (method : Option String) (given : Nat) (expected : Arity)
  | wrongReceiver (method cls : String)
  | noLength (cls : String)
  | undefinedMethod (name cls : String)
  | indexType (found : String)
  | nameless (kind : String)
  | noPodSelector (kind ns name : String)
  | noNameInImage (image : String)
  | podParameters
  | objectName (verb : String)
  | noPattern
  | patternType (found : String)
  /-- An expression that does not compile. -/
  | badPattern (text : String)
  | namespaceArgument
  | cannotImport (path cause : String)
  /-- A refusal that a method states in its own words. -/
  | stated (text : String)
deriving DecidableEq, Repr

def Refusal.message : Refusal → String
  | .blankKey => "selector key must not be blank"
  | .presenceWithValues key => s!"presence check on '{key}' takes no values"
  | .noValues key => s!"'{key}' needs at least one value"
  | .fieldPresence key => s!"field selectors cannot test for presence of '{key}'"
  | .mapOperand => "a map is an invalid operand for a selector expression"
  | .blankOperand text => "found an invalid string " ++ Text.quoted text
  | .operandType found => s!"{found} is an invalid operand for a selector expression"
  | .blockCount given => s!"Exactly one argument must be supplied (given {given})"
  | .blockType found => s!"Argument must be a function, found {found}"
  | .keyNameType => "key name must be a string"
  | .blankKeyName => "key name must be a non-empty string"
  | .detachedKey name => s!"key '{name}' is not attached to a collector"
  | .tooManyQueryArguments => "Maximum 2 arguments allowed"
  | .secondArgument what => s!"Found second {what} argument, only single one is allowed"
  | .globSequence => "Multiple glob queries are not implemented"
  | .queryArgumentType found => s!"Unsupported query argument of type {found}"
  | .invalidGlob =>
    "Invalid glob expression - try `pods \"<namespace>/\"`, `pods \"*/\"` or `pods \"*/foo-*\"`"
  | .tableKeyType context found => s!"{context}: keys must be strings, found {found}"
  | .unknownKey context allowed key =>
    s!"{context} only accepts keys: " ++ ", ".intercalate allowed ++ s!", found '{key}'"
  | .wrongValue key wanted => s!"Value for key \"{key}\" must be {wanted}"
  | .missingKey context key => s!"{context} requires key '{key}'"
  | .arity method given expected =>
    (method.map (· ++ ": ")).getD "" ++
      s!"wrong number of arguments (given {given}, expected {expected.describe})"
  | .wrongReceiver method cls => s!"{method} must be called on a {cls} instance (use ':')"
  | .noLength cls => s!"{cls} has no length"
  | .undefinedMethod name cls => s!"undefined method '{name}' for {cls}"
  | .indexType found => s!"index must be an integer, found {found}"
  | .nameless kind => s!"{kind} has no name"
  | .noPodSelector kind ns name => s!"{kind} {ns}/{name} has no pod selector"
  | .noNameInImage image =>
    "cannot derive a pod name from image " ++ Text.quoted image ++ ", pass `name`"
  | .podParameters => "make_pod expects a single table of parameters"
  | .objectName verb => s!"{verb} expects a single \"name\" or \"namespace/name\" argument"
  | .noPattern => "At least one argument must be specified"
  | .patternType found => s!"grep patterns must be strings, found {found}"
  | .badPattern text => text
  | .namespaceArgument => "namespace takes at most one string argument"
  | .cannotImport path cause => s!"cannot import {path}: {cause}"
  | .stated text => text

/-- A script value of a type that a host function cannot take. -/
structure Coercion where
  /-- The type of the value. -/
  found : String
  wanted : String
  detail : Option String
deriving DecidableEq, Repr

def Coercion.message (c : Coercion) : String :=
  s!"error converting Lua {c.found} to {c.wanted}" ++
    (c.detail.map fun d => s!" ({d})").getD ""

namespace Coercion

/-- A script string that is no text. -/
def notText (m : Text.Malformed) : Coercion := ⟨"string", "&str", some m.message⟩

/-- A value without a string form. -/
def notString (found : String) : Coercion :=
  ⟨found, "String", some "expected string or number"⟩

/-- A class member that is no function. -/
def notFunction (found : String) : Coercion := ⟨found, "function", none⟩

end Coercion

/-- Why a script value is no JSON tree. -/
inductive Undecodable
  | unsupported (type : String)
  /-- A table key that is no string. -/
  | keyType (found : String)
  /-- A string that is no text. -/
  | rawBytes
  /-- A table that contains itself. -/
  | recursive
deriving DecidableEq, Repr

def Undecodable.message : Undecodable → String
  | .unsupported type => s!"unsupported value type `{type}`"
  | .keyType found => s!"invalid type: {found}, expected a string key"
  | .rawBytes => "invalid type: byte array, expected any valid JSON value"
  | .recursive => "recursive table detected"

/-- How a converter comes to a stop that is not the value's fault. -/
inductive ConverterFault
  /-- A converter converts one value only. -/
  | used
  /-- A finished value that no key waits for. -/
  | noPendingKey
  /-- A branch that is not there. -/
  | noBranch
deriving DecidableEq, Repr

def ConverterFault.message : ConverterFault → String
  | .used => "converter already used, create a new one for each conversion"
  | .noPendingKey => "conversion failed: value without a pending key"
  | .noBranch => "conversion failed: no such branch"

/-- `BridgeError`: how a call fails. -/
inductive Fault
  | refused (r : Refusal)
  /-- The cluster's own message. -/
  | cluster (text : String)
  | noInstance (cls : String) (handle : Nat)
  | classDefinition (name : String)
  | converter (c : ConverterFault)
  /-- An object that cannot be decoded. -/
  | conversion (text : String)
  /-- An error of the script itself. -/
  | script (text : String)
  /-- A script text that does not parse. -/
  | unparsable
  | coercion (c : Coercion)
  /-- A value of the wrong type for a parameter. -/
  | badArgument (position : Nat) (c : Coercion)
  | undecodable (u : Undecodable)
  /-- The native stack has overflowed, which ends the process; no script sees it. -/
  | overflow
deriving DecidableEq, Repr

/-- What stands in the message of a text that does not parse. -/
def Fault.nearEquals : String := "unexpected symbol near '='"

/-- `describe`: the message of a fault, as the host shows it. -/
def Fault.message : Fault → String
  | .refused r => r.message
  | .cluster text => text
  | .noInstance cls handle => s!"could not find {cls} instance for handle {handle}"
  | .classDefinition name => s!"failed to define class '{name}'"
  | .converter c => c.message
  | .conversion text => "conversion failed: " ++ text
  | .script text => text
  | .unparsable => nearEquals
  | .coercion c => c.message
  | .badArgument position c => s!"bad argument #{position}: " ++ c.message
  | .undecodable u => "deserialize error: " ++ u.message
  | .overflow => "stack overflow"

end ClusterScript
