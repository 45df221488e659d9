import ForkCensus.Text.Quoted

/-
# Credentials

A user name and, if known, a password.  The password is never shown:
`Credentials.display` says only whether there is one.
-/

namespace ForkCensus

/-- Who asks, for HTTP basic authentication. -/
structure Credentials where
  user : String
  password : Option String
deriving DecidableEq, Inhabited

namespace Credentials

/-- Reads `user:password`, cut at the first colon, or a user name alone. -/
def ofText (text : String) : Credentials :=
  match Text.cut ':' text.toList with
  | some (user, password) => ⟨String.ofList user, some (String.ofList password)⟩
  | none => ⟨text, none⟩

/-- The credentials as a log shows them. -/
def display (c : Credentials) : String :=
  s!"Credentials \x7b username: {Text.quoted c.user}, " ++
    s!"has_password: {Text.truth c.password.isSome} \x7d"

end Credentials

end ForkCensus
