import ClusterScript.Cluster.Http
import ClusterScript.Cluster.Resource
import ClusterScript.Json.Basic

/-!
# What comes from outside

Expressions are compiled, bodies are decoded and choices at random are made by
code that is no part of the program. A `Library` is all that the program takes
from it. The development holds for every library; what is known of one is
stated as a property of it, and only where a result needs it.

Here and in all that follows, a docstring opens with the program's own name
for what is defined, where it has one.
-/
namespace ClusterScript

/-- The members of an object. -/
abbrev Members := List (String × Json)

/-- A page of a list: its objects, and the token of its metadata, which may be empty. -/
structure Page where
  items : List Members
  next : Option String

/-- The functions from outside. -/
class Library where
  /-- The test that an expression stands for, or why it does not compile. -/
  compile : String → Except String (String → Bool)
  /-- The account of an error, from the status and the body of a reply. -/
  report : Nat → String → Http.ErrorReport
  /-- The object that a body is. -/
  object : String → Option Members
  /-- The page that a body is. -/
  page : String → Option Page
  /-- Whether a body answers a deletion. -/
  deleted : String → Bool
  /-- A tree as an object of whatever kind, or why it is none. -/
  adopt : Json → Except String Members
  /-- A tree as an object of a kind, or why it is none. -/
  decode : Resource → Json → Except String Json
  /-- A choice among so many; the first number tells it from other choices. -/
  choose : Nat → Nat → Nat

end ClusterScript
