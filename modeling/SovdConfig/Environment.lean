import SovdConfig.Path

namespace SovdConfig

/-!
# The environment

Main definitions:

* `Environment` — the variables a program is started with;
* `Environment.get?` — the value of a variable;
* `Environment.home?` — the user's home directory.
-/

/-- The variables, names and values as bytes, in the order in which they are listed; and the home
    directory of the user's account. -/
structure Environment where
  bindings : List (Bytes × Bytes) := []
  accountHome : Option Path := none
deriving Repr

namespace Environment

/-- The value of a variable. -/
def get? (env : Environment) (name : String) : Option Bytes :=
  env.bindings.lookup (Text.encodeUtf8 name)

/-- Whether a variable is set. -/
def isSet (env : Environment) (name : String) : Bool := (env.get? name).isSome

/-- The value of a variable, unless it is empty. -/
def nonEmpty? (env : Environment) (name : String) : Option Bytes :=
  (env.get? name).filter fun value => !value.isEmpty

/-- The user's home directory. -/
def home? (env : Environment) : Option Path :=
  (env.nonEmpty? "HOME").map Path.mk <|> env.accountHome

end Environment

end SovdConfig
