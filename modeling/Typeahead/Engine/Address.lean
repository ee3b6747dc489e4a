import Typeahead.Text.Basic

/-!
# Addresses of the engine

An engine listens on a socket in the file system or on one that has only a name.
-/

namespace Typeahead

/-- Where the engine listens. -/
inductive Address where
  /-- A socket in the file system. -/
  | path (location : Text)
  /-- A socket known by its name alone. -/
  | named (name : Text)
deriving Repr, DecidableEq

namespace Address

/-- An address as it stands in messages. -/
def display : Address → String
  | .path location => String.ofList location
  | .named name => "@" ++ String.ofList name

/-- The path of `name` in a directory. An absolute name is a path by itself, and a
    directory that ends in a slash needs no other one. -/
def join (directory name : Text) : Text :=
  if name.head? = some '/' ∨ directory = [] then name
  else if directory.getLast? = some '/' then directory ++ name
  else directory ++ '/' :: name

end Address

end Typeahead
