import CardConnector.Text.LetterCase

/-! # Profiles

A profile selects variants of the configuration files. Two have fixed names, each with a
short form; any other name is a profile of its own.
-/

namespace CardConnector

inductive Profile where
  | development
  | production
  /-- A profile by its name in lower case. -/
  | custom (name : String)
deriving DecidableEq, Repr

namespace Profile

instance : Inhabited Profile := ⟨development⟩

def text : Profile → String
  | development => "development"
  | production => "production"
  | custom name => name

/-- The profile of a name in any mixture of cases. -/
def ofName (name : String) : Profile :=
  let lower := Text.lowerCase name
  if lower = "production" ∨ lower = "prod" then production
  else if lower = "development" ∨ lower = "dev" then development
  else custom lower

def variableName : String := "ECARD_PROFILE"

/-- The profile that the environment selects, or the one for development. -/
def ofEnvironment (lookup : String → Option String) : Profile :=
  match lookup variableName with
  | some name => ofName name
  | none => development

end Profile

end CardConnector
