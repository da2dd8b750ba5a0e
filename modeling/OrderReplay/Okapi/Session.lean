import OrderReplay.Json.Printer
import OrderReplay.Text.Quoted

/-! Who logs in, and what a login yields. Both are shown without their secret. -/
namespace OrderReplay.Okapi

structure Credentials where
  username : Text
  password : Text
  deriving DecidableEq, Repr

def redacted : Text := "<redacted>".toList

def shownFields (name : String) (fields : List (String × Text)) : Text :=
  let written := fields.map fun (field, value) => field.toList ++ ": ".toList ++ value
  name.toList ++ " \x7b ".toList ++ (", ".toList).intercalate written ++ " \x7d".toList

/-- A login is refreshed by none of its holders: a token that has expired shows only in
rejected updates. -/
structure Session where
  token : Text
  deriving DecidableEq, Repr

namespace Credentials

def value (c : Credentials) : Json.Value :=
  .object [("username".toList, .string c.username), ("password".toList, .string c.password)]

def written (c : Credentials) : Text := c.value.written

def shown (c : Credentials) : Text :=
  shownFields "Credentials"
    [("username", Text.Quoted.render c.username), ("password", Text.Quoted.render redacted)]

end Credentials

def Session.shown (_ : Session) : Text :=
  shownFields "Session" [("token", Text.Quoted.render redacted)]

end OrderReplay.Okapi
