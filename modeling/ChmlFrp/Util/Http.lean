/-
# ChmlFrp.Util.Http — host names and basic authentication

`pkg/util/util/http.go`, and the same parser of `net/http` behind `Request.BasicAuth`.
-/
import ChmlFrp.Lib.Base64
import ChmlFrp.Lib.GoString

namespace ChmlFrp.Util

set_option autoImplicit false

open ChmlFrp.Lib
open ChmlFrp.Lib.GoString

/-- Whether the host contains a port number. -/
def hasPort (host : GoString) : Bool :=
  match host.count colon with
  | 0 => false
  | 1 => true
  | _ => host.head? == some openBracket && contains host [closeBracket, colon]

/-- `CanonicalHost`: the host name in lower case, without port and final dot. -/
def canonicalHost (unicode : GoString → GoString) (host : GoString) :
    Except AddrError GoString :=
  let host := toLower unicode host
  if hasPort host then
    match splitHostPort host with
    | .ok (host, _) => .ok (trimSuffix host dot)
    | .error err => .error err
  else .ok (trimSuffix host dot)

/-- The first result of `CanonicalHost`, which its callers in the proxies use alone. -/
def hostName (unicode : GoString → GoString) (host : GoString) : GoString :=
  match canonicalHost unicode host with
  | .ok name => name
  | .error _ => []

/-- `parseBasicAuth`: user name and password, or `none` for its `ok = false`. -/
def parseBasicAuth (auth : GoString) : Option (GoString × GoString) :=
  let basic := lit "Basic "
  if auth.length < basic.length then none
  else if !equalFold (auth.take basic.length) basic then none
  else (Base64.decode (auth.drop basic.length)).bind fun cs => cut cs colon

/-- The parsed pair, as the callers that ignore `ok` see it. -/
def basicAuth (auth : GoString) : GoString × GoString := (parseBasicAuth auth).getD ([], [])

example : basicAuth (lit "basic YWxpY2U6c2VjcmV0") = (lit "alice", lit "secret") := by decide

example : hostName id (lit "Web.Example.com.:8080") = lit "web.example.com" := by decide

end ChmlFrp.Util
