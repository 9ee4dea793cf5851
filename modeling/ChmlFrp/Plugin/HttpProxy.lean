/-
# ChmlFrp.Plugin.HttpProxy — the http_proxy plugin of the client

`pkg/plugin/client/http_proxy.go`.  `Handle` reads once from a work connection.  If it gets
the seven bytes `CONNECT`, the plugin reads the request itself and joins what is behind it with
the remote; any other connection goes to the http server of the plugin, whose `ServeHTTP`
takes a `CONNECT` over with `Hijack`.  So a `CONNECT` comes to one or the other as its stream
is split.

What `net/http` makes of the bytes and what `Hijack` returns are parameters.

* `remote_needs_credentials`: however the stream is split, a remote is reached only for a
  request with the credentials, which it does not get to see.
* `connect_lossless_iff`: the bytes behind a `CONNECT` all go to the remote iff the first
  read has seven bytes or the reader of the server holds none of them.
-/
import ChmlFrp.Lib.Base64
import ChmlFrp.Tcpmux.Tunnel

namespace ChmlFrp.Plugin.HttpProxy

set_option autoImplicit false

open ChmlFrp.Lib
open ChmlFrp.Lib.GoString
open ChmlFrp.Tcpmux.Tunnel (IsHead Hijacked Read readHead readHead_spec)

/-! ## Requests -/

/-- `http.Request`, the names of its header in canonical form. -/
structure Request where
  method : GoString
  urlHost : GoString
  header : List (GoString × GoString)
  deriving DecidableEq, Repr

/-- `Header.Get` -/
def Request.get (req : Request) (name : GoString) : GoString :=
  ((req.header.find? fun field => field.1 = name).map Prod.snd).getD []

def hopHeaders : List GoString :=
  [lit "Proxy-Connection", lit "Connection", lit "Proxy-Authenticate", lit "Proxy-Authorization",
    lit "Te", lit "Trailers", lit "Transfer-Encoding", lit "Upgrade"]

def removeProxyHeaders (req : Request) : Request :=
  { req with header := req.header.filter fun field => hopHeaders.all fun name => field.1 ≠ name }

/-- What is done for a connection. -/
inductive Event where
  | respond (statusCode : Nat)
  | dial (host : GoString)
  /-- `libio.Join`; all that the remote gets. -/
  | tunnel (host toRemote : GoString)
  | roundTrip (req : Request)
  | close
  deriving DecidableEq, Repr

/-- A request that the http server reads from a connection, and what comes of the operations
on it.  `hijack` is `none` if it fails. -/
structure Served where
  req : Request
  hijack : Option Hijacked
  dialled : Bool
  /-- The status of the response to the round trip. -/
  response : Option Nat
  deriving DecidableEq, Repr

/-! ## The plugin -/

structure HTTPProxy where
  authUser : GoString
  authPasswd : GoString
  deriving DecidableEq, Repr

def space : UInt8 := 32

def upperByte (b : UInt8) : UInt8 := if 97 ≤ b ∧ b ≤ 122 then b - 32 else b

/-- `strings.ToUpper`, like `toLower`. -/
def toUpper (unicode : GoString → GoString) (s : GoString) : GoString :=
  if isASCII s then s.map upperByte else unicode s

def connect : GoString := lit "CONNECT"

/-- `firstBytes` after the first read. -/
def firstBytes (chunk : GoString) : GoString := chunk.take 7 ++ List.replicate (7 - chunk.length) 0

/-- What reads of `sc` return after the first read of `rd`. -/
def shared (chunk : GoString) (reads : List GoString) : List GoString :=
  chunk.take 7 :: if chunk.drop 7 = [] then reads else chunk.drop 7 :: reads

namespace HTTPProxy

variable (hp : HTTPProxy)

def auth (req : Request) : Bool :=
  if hp.authUser = [] ∧ hp.authPasswd = [] then true
  else
    match cut (req.get (lit "Proxy-Authorization")) space with
    | none => false
    | some (_, code) =>
        match Base64.decode code with
        | none => false
        | some b =>
            match cut b colon with
            | none => false
            | some (user, passwd) => user = hp.authUser ∧ passwd = hp.authPasswd

section Handle

variable (unicode : GoString → GoString) (readRequest : GoString → Option Request)
  (join : List GoString → GoString)

def handleConnectReq (dialled : Bool) (req : Request) (reads : List GoString) : List Event :=
  if hp.auth req = false then [.respond 407, .close]
  else if dialled then
    [.dial req.urlHost, .respond 200, .tunnel req.urlHost (join reads), .close]
  else [.dial req.urlHost, .respond 400, .close]

/-- `ConnectHandler`; nothing can be written to a connection that is taken over. -/
def connectHandler (served : Served) : List Event :=
  match served.hijack with
  | none => [.respond 500]
  | some client =>
      if served.dialled then
        [.dial served.req.urlHost, .respond 200,
          .tunnel served.req.urlHost (join client.reads)]
      else [.dial served.req.urlHost, .close]

def httpHandler (served : Served) : List Event :=
  [.roundTrip (removeProxyHeaders served.req), .respond (served.response.getD 500)]

def serveHTTP (served : Served) : List Event :=
  if hp.auth served.req = false then [.respond 407]
  else if served.req.method = connect then connectHandler join served
  else httpHandler served

/-- `Handle`.  `server` is what the http server reads from a connection, `put` says whether
`PutConn` succeeds, and `dialled` whether `net.Dial` does for the plugin's own request. -/
def handle (server : List GoString → List Served) (put dialled : Bool) :
    List GoString → List Event
  | [] => [.close]
  | chunk :: reads =>
      let sc := shared chunk reads
      if toUpper unicode (firstBytes chunk) = connect then
        match readHead [] sc with
        | none => [.close]
        | some r =>
            match readRequest r.head with
            | none => [.close]
            | some req => hp.handleConnectReq join dialled req (r.buffered :: r.reads)
      else if put then (server sc).flatMap (hp.serveHTTP join) else []

end Handle

end HTTPProxy

/-! ## The credentials -/

section Auth

variable {hp : HTTPProxy} {req : Request}

/-- The request has the credentials, or there are none.  The scheme may be any, and a user
name with a colon cannot be sent. -/
def HTTPProxy.Authorized (hp : HTTPProxy) (req : Request) : Prop :=
  hp.authUser = [] ∧ hp.authPasswd = [] ∨
    colon ∉ hp.authUser ∧ ∃ scheme code, space ∉ scheme ∧
      req.get (lit "Proxy-Authorization") = scheme ++ space :: code ∧
      Base64.decode code = some (hp.authUser ++ colon :: hp.authPasswd)

theorem auth_iff : hp.auth req = true ↔ hp.Authorized req := by
  unfold HTTPProxy.auth HTTPProxy.Authorized
  by_cases none_ : hp.authUser = [] ∧ hp.authPasswd = []
  · exact iff_of_true (by rw [if_pos none_]) (.inl none_)
  rw [if_neg none_, or_iff_right none_]
  constructor
  · intro passes
    split at passes
    · cases passes
    · rename_i scheme code cuts
      obtain ⟨is, absent⟩ := cut_eq_some_iff.1 cuts
      split at passes
      · cases passes
      · rename_i b decodes
        split at passes
        · cases passes
        · rename_i user passwd pair
          obtain ⟨rfl, clear⟩ := cut_eq_some_iff.1 pair
          obtain ⟨rfl, rfl⟩ := of_decide_eq_true passes
          exact ⟨clear, scheme, code, absent, is, decodes⟩
  · rintro ⟨clear, scheme, code, absent, is, decodes⟩
    have pair := cut_eq_some_iff.2 ⟨(rfl : hp.authUser ++ colon :: hp.authPasswd = _), clear⟩
    simp [cut_eq_some_iff.2 ⟨is, absent⟩, decodes, pair]

end Auth

/-! ## The head of a stream -/

section Heads

variable {seen buffered : GoString} {reads : List GoString} {r : Read}

theorem isHead_of_afterHead {line : Tcpmux.Tunnel.Line} {s rest : GoString}
    (found : Tcpmux.Tunnel.afterHead line s = some rest) :
    ∃ head, s = head ++ rest ∧ Tcpmux.Tunnel.afterHead line head = some [] := by
  induction s generalizing line with
  | nil => cases found
  | cons b s ih =>
      rw [Tcpmux.Tunnel.afterHead] at found
      split at found
      · rename_i ends
        cases found
        exact ⟨[b], rfl, by rw [Tcpmux.Tunnel.afterHead, if_pos ends]⟩
      · rename_i goesOn
        obtain ⟨head, rfl, isHead⟩ := ih found
        refine ⟨b :: head, rfl, ?_⟩
        rw [Tcpmux.Tunnel.afterHead, if_neg goesOn, isHead]

theorem take_of_found (found : Tcpmux.Tunnel.afterHead .request seen = some buffered) :
    IsHead (seen.take (seen.length - buffered.length)) ∧
      seen.take (seen.length - buffered.length) ++ buffered = seen := by
  obtain ⟨head, rfl, isHead⟩ := isHead_of_afterHead found
  rw [List.length_append, Nat.add_sub_cancel, List.take_left]
  exact ⟨isHead, rfl⟩

/-- What is read is a head, and what is behind it is still there. -/
theorem readHead_sound (read : readHead seen reads = some r) :
    IsHead r.head ∧ r.head ++ (r.buffered ++ r.reads.flatten) = seen ++ reads.flatten := by
  induction reads generalizing seen with
  | nil =>
      obtain ⟨buffered, found, rfl⟩ := Option.map_eq_some_iff.1 read
      obtain ⟨isHead, whole⟩ := take_of_found found
      refine ⟨isHead, ?_⟩
      rw [← List.append_assoc, whole]
  | cons chunk reads ih =>
      rw [readHead] at read
      split at read
      · rename_i buffered found
        cases read
        obtain ⟨isHead, whole⟩ := take_of_found found
        refine ⟨isHead, ?_⟩
        rw [← List.append_assoc, whole]
      · obtain ⟨isHead, whole⟩ := ih read
        refine ⟨isHead, ?_⟩
        rw [whole, List.append_assoc, List.flatten_cons]

theorem flatten_shared (chunk : GoString) (reads : List GoString) :
    (shared chunk reads).flatten = (chunk :: reads).flatten := by
  unfold shared
  rw [List.flatten_cons, List.flatten_cons]
  split
  · rename_i short
    have whole := List.take_append_drop 7 chunk
    rw [short, List.append_nil] at whole
    rw [whole]
  · rw [List.flatten_cons, ← List.append_assoc, List.take_append_drop]

end Heads

/-! ## Results -/

section Results

variable {hp : HTTPProxy} {unicode : GoString → GoString}
  {readRequest : GoString → Option Request} {join : List GoString → GoString}
  {server : List GoString → List Served} {put dialled : Bool}

/-- The request is on the connection: at its head, or among what the http server reads. -/
def Asked (readRequest : GoString → Option Request) (server : List GoString → List Served)
    (reads : List GoString) (req : Request) : Prop :=
  (∃ head payload, reads.flatten = head ++ payload ∧ IsHead head ∧
    readRequest head = some req) ∨
  ∃ chunk rest served, reads = chunk :: rest ∧ served ∈ server (shared chunk rest) ∧
    served.req = req

/-- What a remote sees of a request. -/
def Event.Sends (req : Request) : Event → Prop
  | .dial host | .tunnel host _ => host = req.urlHost
  | .roundTrip sent => sent.method = req.method ∧ sent.urlHost = req.urlHost ∧
      ∀ field, field ∈ sent.header ↔ field ∈ req.header ∧ field.1 ∉ hopHeaders
  | .respond _ | .close => False

def Event.remote : Event → Bool
  | .dial _ | .tunnel _ _ | .roundTrip _ => true
  | .respond _ | .close => false

theorem sends_of_handleConnectReq {req : Request} {reads : List GoString} {e : Event}
    (mem : e ∈ hp.handleConnectReq join dialled req reads) (remote : e.remote = true) :
    hp.Authorized req ∧ e.Sends req := by
  unfold HTTPProxy.handleConnectReq at mem
  split at mem
  · rcases List.mem_pair.1 mem with rfl | rfl <;> cases remote
  · rename_i passes
    refine ⟨auth_iff.1 (Bool.not_eq_false _ ▸ passes), ?_⟩
    split at mem
    · simp only [List.mem_cons, List.not_mem_nil, or_false] at mem
      rcases mem with rfl | rfl | rfl | rfl
      · rfl
      · cases remote
      · rfl
      · cases remote
    · simp only [List.mem_cons, List.not_mem_nil, or_false] at mem
      rcases mem with rfl | rfl | rfl
      · rfl
      · cases remote
      · cases remote

theorem sends_of_serveHTTP {served : Served} {e : Event}
    (mem : e ∈ hp.serveHTTP join served) (remote : e.remote = true) :
    hp.Authorized served.req ∧ e.Sends served.req := by
  unfold HTTPProxy.serveHTTP at mem
  split at mem
  · cases List.mem_singleton.1 mem
    cases remote
  · rename_i passes
    refine ⟨auth_iff.1 (Bool.not_eq_false _ ▸ passes), ?_⟩
    split at mem
    · unfold HTTPProxy.connectHandler at mem
      split at mem
      · cases List.mem_singleton.1 mem
        cases remote
      · split at mem
        · simp only [List.mem_cons, List.not_mem_nil, or_false] at mem
          rcases mem with rfl | rfl | rfl
          · rfl
          · cases remote
          · rfl
        · rcases List.mem_pair.1 mem with rfl | rfl
          · rfl
          · cases remote
    · rcases List.mem_pair.1 mem with rfl | rfl
      · refine ⟨rfl, rfl, ?_⟩
        intro field
        simp [removeProxyHeaders, List.mem_filter]
        grind
      · cases remote

/-- **A remote is reached only for a request with the credentials that is on the
connection, however its stream is split; and what it gets of the header is all but the
headers for the proxy.** -/
theorem remote_needs_credentials {reads : List GoString} {e : Event}
    (mem : e ∈ hp.handle unicode readRequest join server put dialled reads)
    (remote : e.remote = true) :
    ∃ req, Asked readRequest server reads req ∧ hp.Authorized req ∧ e.Sends req := by
  cases reads with
  | nil =>
      cases List.mem_singleton.1 mem
      cases remote
  | cons chunk reads =>
      unfold HTTPProxy.handle at mem
      dsimp only at mem
      split at mem
      · split at mem
        · cases List.mem_singleton.1 mem
          cases remote
        · rename_i r read
          split at mem
          · cases List.mem_singleton.1 mem
            cases remote
          · rename_i req parsed
            obtain ⟨isHead, whole⟩ := readHead_sound read
            rw [List.nil_append, flatten_shared] at whole
            exact ⟨req, .inl ⟨r.head, _, whole.symm, isHead, parsed⟩,
              sends_of_handleConnectReq mem remote⟩
      · split at mem
        · obtain ⟨served, inside, mem⟩ := List.mem_flatMap.1 mem
          exact ⟨served.req, .inr ⟨chunk, reads, served, rfl, inside, rfl⟩,
            sends_of_serveHTTP mem remote⟩
        · cases mem

theorem toUpper_connect : toUpper unicode connect = connect := rfl

theorem take_of_connect {chunk rest head payload : GoString} (connects : connect <+: head)
    (stream : chunk ++ rest = head ++ payload) : chunk.take 7 = connect.take chunk.length := by
  obtain ⟨more, rfl⟩ := connects
  have seven : connect.length = 7 := rfl
  have both := congrArg (fun bytes => (bytes.take chunk.length).take 7) stream
  simp only [List.take_left] at both
  rw [both, List.take_take, Nat.min_comm, ← List.take_take, List.append_assoc,
    List.take_append_of_le_length (Nat.le_of_eq seven.symm), ← seven, List.take_length]

/-- Seven bytes of a `CONNECT` are told from anything else. -/
theorem firstBytes_connect {chunk rest head payload : GoString} (connects : connect <+: head)
    (stream : chunk ++ rest = head ++ payload) :
    toUpper unicode (firstBytes chunk) = connect ↔ 7 ≤ chunk.length := by
  have taken := take_of_connect connects stream
  by_cases long : 7 ≤ chunk.length
  · have whole : connect.take chunk.length = connect := List.take_of_length_le long
    rw [firstBytes, taken, whole, Nat.sub_eq_zero_of_le long, List.replicate_zero,
      List.append_nil]
    exact iff_of_true toUpper_connect long
  · have short : ∀ n < 7, isASCII (connect.take n ++ List.replicate (7 - n) 0) = true ∧
        (connect.take n ++ List.replicate (7 - n) 0).map upperByte ≠ connect := by decide
    obtain ⟨ascii, differs⟩ := short chunk.length (Nat.lt_of_not_le long)
    rw [firstBytes, taken, toUpper, if_pos ascii]
    exact iff_of_false differs long

/-- **All that is behind a `CONNECT` comes to the remote iff the first read has seven bytes
or the reader of the server holds nothing of it.** -/
theorem connect_lossless_iff (copies : ∀ reads, join reads = reads.flatten)
    {head payload : GoString} (isHead : IsHead head) (connects : connect <+: head)
    {req : Request} (parsed : readRequest head = some req) (method : req.method = connect)
    (authorized : hp.Authorized req) {chunk : GoString} {reads : List GoString}
    (stream : (chunk :: reads).flatten = head ++ payload) {client : Hijacked}
    {response : Option Nat}
    (serves : server (shared chunk reads) = [⟨req, some client, true, response⟩])
    (hijacked : client.buffered ++ client.reads.flatten = payload) :
    ∃ toRemote, hp.handle unicode readRequest join server true true (chunk :: reads) =
        .dial req.urlHost :: .respond 200 :: .tunnel req.urlHost toRemote ::
          (if 7 ≤ chunk.length then [.close] else []) ∧
      (toRemote = payload ↔ 7 ≤ chunk.length ∨ client.buffered = []) := by
  have passes := auth_iff.2 authorized
  have seven := @firstBytes_connect unicode chunk reads.flatten head payload connects stream
  unfold HTTPProxy.handle
  dsimp only
  by_cases long : 7 ≤ chunk.length
  · obtain ⟨r, read, splits⟩ := readHead_spec isHead [] (shared chunk reads) (by
      rw [List.nil_append, flatten_shared, stream])
    refine ⟨payload, ?_, iff_of_true rfl (.inl long)⟩
    rw [if_pos (seven.2 long), read, if_pos long]
    dsimp only
    rw [splits.isHead, parsed]
    simp [HTTPProxy.handleConnectReq, passes, copies, splits.payload]
  · refine ⟨client.reads.flatten, ?_, ?_⟩
    · rw [if_neg fun connects => long (seven.1 connects), if_neg long, serves]
      simp [HTTPProxy.serveHTTP, passes, method, HTTPProxy.connectHandler, copies]
    · rw [or_iff_right long, ← hijacked]
      exact List.self_eq_append_left

end Results

/-! ## A request for the host `a:1` -/

def plugin : HTTPProxy := ⟨lit "u", lit "p"⟩

def headA : GoString := lit "CONNECT a:1 HTTP/1.1\r\nProxy-Authorization: Basic dTpw\r\n\r\n"

def requestA : Request := ⟨connect, lit "a:1", [(lit "Proxy-Authorization", lit "Basic dTpw")]⟩

def readA (head : GoString) : Option Request := if head = headA then some requestA else none

/-- A server that has read ahead. -/
def serverA (_ : List GoString) : List Served :=
  [⟨requestA, some ⟨lit "hello", []⟩, true, none⟩]

theorem authorizedA : plugin.Authorized requestA := auth_iff.1 (by decide)

theorem remote_needs_credentials_two_reads : ∃ req,
    Asked readA serverA [lit "CON", headA.drop 3 ++ lit "hello"] req ∧ plugin.Authorized req ∧
      Event.Sends req (.dial (lit "a:1")) :=
  @remote_needs_credentials plugin id readA List.flatten serverA true true _ _
    (by decide) rfl

/-- The head comes in two reads, and the reader of the server has the payload. -/
theorem connect_lossless_iff_two_reads : ∃ toRemote,
    plugin.handle id readA List.flatten serverA true true
        [lit "CON", headA.drop 3 ++ lit "hello"] =
      [.dial (lit "a:1"), .respond 200, .tunnel (lit "a:1") toRemote] ∧
    (toRemote = lit "hello" ↔ 7 ≤ (lit "CON").length ∨ lit "hello" = []) := by
  have isHead : IsHead headA := by decide
  have connects : connect <+: headA := by decide
  have parsed : readA headA = some requestA := by decide
  have stream : [lit "CON", headA.drop 3 ++ lit "hello"].flatten = headA ++ lit "hello" := by
    decide
  exact @connect_lossless_iff plugin id readA List.flatten serverA (fun _ => rfl) _ _ isHead
    connects _ parsed rfl authorizedA _ _ stream ⟨lit "hello", []⟩ none rfl (by decide)

end ChmlFrp.Plugin.HttpProxy
