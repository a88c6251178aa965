import RemoteShell.Failure
import RemoteShell.Text.Blank

/-!
# How requests travel

Requests go over plain HTTP, or over HTTPS with or without a check of the server's certificate.
-/

namespace RemoteShell

/-- How requests travel. -/
inductive Protocol where
  | http
  /-- HTTPS with a check of the server's certificate. -/
  | https
  /-- HTTPS with any certificate. -/
  | httpsLazy
  deriving DecidableEq, Repr

namespace Protocol

/-- All protocols. -/
def all : List Protocol := [http, https, httpsLazy]

/-- The name of a protocol in settings. -/
def name : Protocol → String
  | http => "http"
  | https => "https"
  | httpsLazy => "https-lazy"

/-- The name of a protocol in descriptions. -/
def title : Protocol → String
  | http => "Http"
  | https => "Https"
  | httpsLazy => "HttpsLazy"

/-- The scheme of URLs. -/
def scheme : Protocol → String
  | http => "http"
  | https => "https"
  | httpsLazy => "https"

/-- The port of a server that is not told another one. -/
def defaultPort : Protocol → UInt16
  | http => 5985
  | https => 5986
  | httpsLazy => 5986

/-- The protocol with a name, which may be written in capitals. -/
def read (text : String) : Except Failure Protocol :=
  let name := Text.lower text
  if name = "http" then .ok http
  else if name = "https" then .ok https
  else if name = "https-lazy" || name = "https_lazy" then .ok httpsLazy
  else .error (.badSetting
    ("Unknown WinRM protocol '" ++ name ++ "'. Supported: http, https, https-lazy"))

end Protocol

end RemoteShell
