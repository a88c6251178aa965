import RemoteShell.Kerberos
import RemoteShell.Text.Blank

/-!
# Credentials

How a client shows who it is: with a user name and a password, with a Kerberos ticket, or with a
token that was issued before.  Descriptions never hold a password or a token.
-/

namespace RemoteShell

open Text (Shown)

/-- The ways to authenticate. -/
inductive AuthMethod where
  | basic
  | kerberos
  | token
  deriving DecidableEq, Repr

namespace AuthMethod

/-- All methods. -/
def all : List AuthMethod := [basic, kerberos, token]

/-- The name of a method in settings. -/
def name : AuthMethod → String
  | basic => "basic"
  | kerberos => "kerberos"
  | token => "token"

/-- The method with a name, which may be written in capitals. -/
def read (text : String) : Except Failure AuthMethod :=
  let name := Text.lower text
  if name = "basic" then .ok basic
  else if name = "kerberos" || name = "negotiate" then .ok kerberos
  else if name = "token" then .ok token
  else .error (.badSetting
    ("Unknown authentication method '" ++ name ++ "'. Supported: basic, kerberos, token"))

end AuthMethod

/-- Who a client is, and how it proves it. -/
inductive Credentials where
  | basic (username password : String)
  | kerberos (username password : String) (settings : Kerberos)
  /-- A complete authorization value. -/
  | token (token : String)
  deriving DecidableEq, Repr

namespace Credentials

/-- The name of the authentication scheme. -/
def scheme : Credentials → String
  | basic .. => "Basic"
  | kerberos .. => "Negotiate"
  | token _ => "Token"

/-- The user name; a token has none. -/
def username : Credentials → String
  | basic u _ => u
  | kerberos u _ _ => u
  | token _ => ""

/-- What must stay secret. -/
def secret : Credentials → String
  | basic _ p => p
  | kerberos _ p _ => p
  | token t => t

/-- What stands in descriptions for a secret. -/
def hidden : Shown := .text "***"

/-- The description of the credentials. -/
def shown : Credentials → Shown
  | basic u _ => .record "Basic" [("username", .text u), ("password", hidden)] false
  | kerberos u _ k =>
    .record "Kerberos" [("username", .text u), ("password", hidden), ("kerberos", k.shown)] false
  | token _ => .record "Token" [("token", hidden)] false

end Credentials

end RemoteShell
