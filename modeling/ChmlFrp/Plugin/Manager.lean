/-
# ChmlFrp.Plugin.Manager — the plugins of the server

`pkg/plugin/server/manager.go` and `http.go`.  A request goes to the plugins of its kind
one after the other; each may reject it, let it pass, or replace its content.  The answer
is decoded into a `Response` whose content is an interface with a pointer in it, and the
manager asserts afterwards that the pointer is still there.

* `handlers_compose_iff`: the five handlers compose the answers and do not panic, unless a
  plugin that is asked accepts, changes the content, and sends `null` for it.
* `null_content_panics`: such an answer.
-/
import ChmlFrp.Lib.GoString
import Mathlib.Tactic.Common

namespace ChmlFrp.Plugin

set_option autoImplicit false

open ChmlFrp.Lib

/-! ## JSON -/

/-- A JSON text as it is read; the members of an object keep their order and may repeat. -/
inductive Json where
  | null
  | bool (b : Bool)
  | number (text : GoString)
  | string (s : GoString)
  | array (items : List Json)
  | object (members : List (GoString × Json))

/-- The names of fields are compared after this: `bytes.EqualFold` with an ASCII name takes
the long s and the Kelvin sign for letters, too. -/
def foldName : GoString → GoString
  | 197 :: 191 :: s => 115 :: foldName s
  | 226 :: 132 :: 170 :: s => 107 :: foldName s
  | b :: s => GoString.lowerByte b :: foldName s
  | [] => []

/-- What an `interface{}` field holds. -/
inductive Iface (α : Type) where
  /-- The pointer that `Handle` has put there. -/
  | pointer (content : α)
  | nil
  /-- What an empty interface gets: a map, a slice, a string, a number or a bool. -/
  | value (v : Json)

structure Request where
  version : String
  op : String
  content : Json

structure Response (α : Type) where
  reject : Bool
  rejectReason : GoString
  unchange : Bool
  content : Iface α

/-- How the contents of a kind are written to JSON, and read into what is there already. -/
structure Codec (α : Type) where
  zero : α
  marshal : α → Json
  unmarshal : Json → α → Except String α
  /-- Whether an empty interface takes it: the numbers in it have to fit. -/
  fits : Json → Bool

section Decode

variable {α : Type} (codec : Codec α)

/-- `null` leaves a bool or a string as it is. -/
def decodeBool (v : Json) (b : Bool) : Except String Bool :=
  match v with
  | .null => .ok b
  | .bool b => .ok b
  | _ => .error "json: cannot unmarshal into Go struct field of type bool"

def decodeString (v : Json) (s : GoString) : Except String GoString :=
  match v with
  | .null => .ok s
  | .string s => .ok s
  | _ => .error "json: cannot unmarshal into Go struct field of type string"

/-- `null` empties an interface; another value goes through a pointer in it, and takes the
place of anything else. -/
def decodeIface (v : Json) (content : Iface α) : Except String (Iface α) :=
  match v, content with
  | .null, _ => .ok .nil
  | v, .pointer c => (codec.unmarshal v c).map .pointer
  | v, _ => if codec.fits v then .ok (.value v) else .error "json: cannot unmarshal number"

def contentField : GoString := GoString.lit "content"

def decodeMember (res : Response α) (member : GoString × Json) : Except String (Response α) :=
  let name := foldName member.1
  if name = GoString.lit "reject" then
    (decodeBool member.2 res.reject).map fun b => { res with reject := b }
  else if name = GoString.lit "reject_reason" then
    (decodeString member.2 res.rejectReason).map fun s => { res with rejectReason := s }
  else if name = GoString.lit "unchange" then
    (decodeBool member.2 res.unchange).map fun b => { res with unchange := b }
  else if name = contentField then
    (decodeIface codec member.2 res.content).map fun c => { res with content := c }
  else .ok res

/-- `json.Unmarshal(buf, res)` -/
def unmarshalResponse (v : Json) (res : Response α) : Except String (Response α) :=
  match v with
  | .null => .ok res
  | .object members => members.foldlM (decodeMember codec) res
  | _ => .error "json: cannot unmarshal into Go value of type plugin.Response"

end Decode

/-! ## A plugin -/

/-- What comes back from `client.Do`. -/
inductive Reply where
  | failed (err : String)
  /-- A status that is not 200. -/
  | status (code : Nat)
  | malformed (err : String)
  | body (v : Json)

structure HTTPPlugin where
  name : String
  ops : List String
  post : Request → Reply

def apiVersion : String := "0.1.0"

namespace HTTPPlugin

def isSupport (p : HTTPPlugin) (op : String) : Bool := p.ops.contains op

variable {α : Type} (codec : Codec α)

/-- `do` -/
def send (p : HTTPPlugin) (r : Request) (res : Response α) : Except String (Response α) :=
  match p.post r with
  | .failed err => .error err
  | .status code => .error ("do http request error code: " ++ toString code)
  | .malformed err => .error err
  | .body v => unmarshalResponse codec v res

/-- `Handle` -/
def handle (p : HTTPPlugin) (op : String) (content : α) : Except String (Response α) :=
  p.send codec ⟨apiVersion, op, codec.marshal content⟩ ⟨false, [], false, .pointer codec.zero⟩

end HTTPPlugin

/-! ## The manager -/

structure Manager where
  loginPlugins : List HTTPPlugin := []
  newProxyPlugins : List HTTPPlugin := []
  closeProxyPlugins : List HTTPPlugin := []
  pingPlugins : List HTTPPlugin := []
  newWorkConnPlugins : List HTTPPlugin := []
  newUserConnPlugins : List HTTPPlugin := []

namespace Manager

def addIf (supported : Bool) (p : HTTPPlugin) (plugins : List HTTPPlugin) : List HTTPPlugin :=
  if supported then plugins ++ [p] else plugins

def register (m : Manager) (p : HTTPPlugin) : Manager where
  loginPlugins := addIf (p.isSupport "Login") p m.loginPlugins
  newProxyPlugins := addIf (p.isSupport "NewProxy") p m.newProxyPlugins
  closeProxyPlugins := addIf (p.isSupport "CloseProxy") p m.closeProxyPlugins
  pingPlugins := addIf (p.isSupport "Ping") p m.pingPlugins
  newWorkConnPlugins := addIf (p.isSupport "NewWorkConn") p m.newWorkConnPlugins
  newUserConnPlugins := addIf (p.isSupport "NewUserConn") p m.newUserConnPlugins

end Manager

/-- How a handler ends. -/
inductive Outcome (α : Type) where
  | ok (content : α)
  | error (err : GoString)
  | panics

section Handlers

variable {α : Type} (codec : Codec α) (op : String)

/-- The loop of a handler, with the contents that are sent, one to each plugin asked. -/
def askAll : List HTTPPlugin → α → List α × Outcome α
  | [], content => ([], .ok content)
  | p :: plugins, content =>
      match p.handle codec op content with
      | .error _ =>
          ([content], .error (GoString.lit ("send " ++ op ++ " request to plugin error")))
      | .ok res =>
          if res.reject then ([content], .error res.rejectReason)
          else if res.unchange then
            let (sent, outcome) := askAll plugins content
            (content :: sent, outcome)
          else
            match res.content with
            | .pointer content' =>
                let (sent, outcome) := askAll plugins content'
                (content :: sent, outcome)
            | _ => ([content], .panics)

end Handlers

namespace Manager

/-- `Login` -/
def login {α : Type} (m : Manager) (codec : Codec α) (content : α) : List α × Outcome α :=
  askAll codec "Login" m.loginPlugins content

/-- `NewProxy` -/
def newProxy {α : Type} (m : Manager) (codec : Codec α) (content : α) : List α × Outcome α :=
  askAll codec "NewProxy" m.newProxyPlugins content

/-- `CloseProxy` asks every plugin and only collects their errors. -/
def closeProxy {α : Type} (m : Manager) (codec : Codec α) (content : α) : List String :=
  m.closeProxyPlugins.filterMap fun p =>
    match p.handle codec "CloseProxy" content with
    | .error err => some ("[" ++ p.name ++ "]: " ++ err)
    | .ok _ => none

/-- `Ping` -/
def ping {α : Type} (m : Manager) (codec : Codec α) (content : α) : List α × Outcome α :=
  askAll codec "Ping" m.pingPlugins content

/-- `NewWorkConn` -/
def newWorkConn {α : Type} (m : Manager) (codec : Codec α) (content : α) :
    List α × Outcome α :=
  askAll codec "NewWorkConn" m.newWorkConnPlugins content

/-- `NewUserConn` -/
def newUserConn {α : Type} (m : Manager) (codec : Codec α) (content : α) :
    List α × Outcome α :=
  askAll codec "NewUserConn" m.newUserConnPlugins content

end Manager

/-! ## What an answer comes to -/

section Answers

variable {α : Type} (codec : Codec α)

def Iface.IsPointer (content : Iface α) : Prop := ∃ c, content = .pointer c

/-- A member that empties the content. -/
def Nulls (member : GoString × Json) : Prop :=
  foldName member.1 = contentField ∧ member.2 = .null

variable {codec}

theorem map_eq_ok {β γ : Type} {f : β → γ} {x : Except String β} {y : γ}
    (ok : x.map f = .ok y) : ∃ b, x = .ok b ∧ f b = y := by
  cases x with
  | error err => cases ok
  | ok b => exact ⟨b, rfl, Except.ok.inj ok⟩

theorem decodeIface_isPointer {v : Json} {content content' : Iface α}
    (decoded : decodeIface codec v content = .ok content') :
    content'.IsPointer ↔ content.IsPointer ∧ v ≠ .null := by
  unfold decodeIface at decoded
  split at decoded
  · cases decoded
    simp [Iface.IsPointer]
  · rename_i v' c notNull
    obtain ⟨c', -, rfl⟩ := map_eq_ok decoded
    simpa [Iface.IsPointer] using notNull
  · rename_i notNull notPointer
    split at decoded
    · cases decoded
      simp only [Iface.IsPointer, reduceCtorEq, exists_false, false_iff]
      rintro ⟨⟨c, rfl⟩, -⟩
      exact notPointer c rfl
    · cases decoded

/-- A member keeps the pointer unless it is `null` for the content. -/
theorem decodeMember_isPointer {res res' : Response α} {member : GoString × Json}
    (decoded : decodeMember codec res member = .ok res') :
    res'.content.IsPointer ↔ res.content.IsPointer ∧ ¬ Nulls member := by
  unfold decodeMember at decoded
  simp only at decoded
  unfold Nulls
  split_ifs at decoded with isReject isReason isUnchange isContent
  · obtain ⟨b, -, rfl⟩ := map_eq_ok decoded
    simp [isReject, contentField, GoString.lit]
  · obtain ⟨b, -, rfl⟩ := map_eq_ok decoded
    simp [isReason, contentField, GoString.lit]
  · obtain ⟨b, -, rfl⟩ := map_eq_ok decoded
    simp [isUnchange, contentField, GoString.lit]
  · obtain ⟨c, iface, rfl⟩ := map_eq_ok decoded
    simpa [isContent] using decodeIface_isPointer iface
  · cases decoded
    simp [isContent]

theorem foldlM_isPointer {members : List (GoString × Json)} {res res' : Response α}
    (decoded : members.foldlM (decodeMember codec) res = .ok res') :
    res'.content.IsPointer ↔ res.content.IsPointer ∧ ∀ member ∈ members, ¬ Nulls member := by
  induction members generalizing res with
  | nil =>
      cases decoded
      simp
  | cons member members ih =>
      rw [List.foldlM_cons] at decoded
      cases first : decodeMember codec res member with
      | error err =>
          rw [first] at decoded
          cases decoded
      | ok mid =>
          rw [first] at decoded
          rw [ih decoded, decodeMember_isPointer first, List.forall_mem_cons, and_assoc]

variable (codec) (op : String)

def Request.of (content : α) : Request := ⟨apiVersion, op, codec.marshal content⟩

/-- The answer has `null` for the content in it. -/
def NullContent (p : HTTPPlugin) (content : α) : Prop :=
  ∃ members, p.post (Request.of codec op content) = .body (.object members) ∧
    ∃ member ∈ members, Nulls member

variable {codec op}

/-- The pointer that `Handle` has put there is gone exactly after a `null`. -/
theorem handle_isPointer {p : HTTPPlugin} {content : α} {res : Response α}
    (answer : p.handle codec op content = .ok res) :
    res.content.IsPointer ↔ ¬ NullContent codec op p content := by
  unfold HTTPPlugin.handle HTTPPlugin.send at answer
  unfold NullContent Request.of
  cases reply : p.post ⟨apiVersion, op, codec.marshal content⟩ with
  | failed err => simp [reply] at answer
  | status code => simp [reply] at answer
  | malformed err => simp [reply] at answer
  | body v =>
      rw [reply] at answer
      cases v with
      | null =>
          cases answer
          simp [Iface.IsPointer]
      | object members =>
          have pointer := foldlM_isPointer answer
          simp only [Reply.body.injEq, Json.object.injEq, exists_eq_left', not_exists, not_and]
          rw [pointer]
          simp [Iface.IsPointer]
      | bool b => cases answer
      | number text => cases answer
      | string s => cases answer
      | array items => cases answer

end Answers

/-! ## Composition -/

section Compose

variable {α : Type} (codec : Codec α) (op : String)

/-- The plugin lets the content pass, or replaces it. -/
def PassesOn (p : HTTPPlugin) (content content' : α) : Prop :=
  ∃ res, p.handle codec op content = .ok res ∧ res.reject = false ∧
    (res.unchange = true ∧ content' = content ∨
      res.unchange = false ∧ res.content = .pointer content')

/-- The plugins pass a content on, each what the one before it made of it. -/
inductive Through : List HTTPPlugin → α → List α → α → Prop
  | nil {content : α} : Through [] content [] content
  | cons {p : HTTPPlugin} {plugins : List HTTPPlugin} {content mid last : α} {sent : List α} :
      PassesOn codec op p content mid → Through plugins mid sent last →
        Through (p :: plugins) content (content :: sent) last

/-- The plugin fails or rejects. -/
def Stops (p : HTTPPlugin) (content : α) (err : GoString) : Prop :=
  (∃ cause, p.handle codec op content = .error cause ∧
    err = GoString.lit ("send " ++ op ++ " request to plugin error")) ∨
  ∃ res, p.handle codec op content = .ok res ∧ res.reject = true ∧ err = res.rejectReason

/-- All plugins pass the content on, or the first that stops it is the last one asked. -/
def Composes (plugins : List HTTPPlugin) (content : α) (run : List α × Outcome α) : Prop :=
  (∃ sent last, run = (sent, .ok last) ∧ Through codec op plugins content sent last) ∨
  ∃ before p after sent last err, plugins = before ++ p :: after ∧
    Through codec op before content sent last ∧ Stops codec op p last err ∧
    run = (sent ++ [last], .error err)

/-- The plugin accepts and changes the content, and sends `null` for it. -/
def ChangesToNull (p : HTTPPlugin) (content : α) : Prop :=
  NullContent codec op p content ∧
    ∃ res, p.handle codec op content = .ok res ∧ res.reject = false ∧ res.unchange = false

/-- Such a plugin is asked. -/
def NullReached (plugins : List HTTPPlugin) (content : α) : Prop :=
  ∃ before p after sent last, plugins = before ++ p :: after ∧
    Through codec op before content sent last ∧ ChangesToNull codec op p last

variable {codec op} {p : HTTPPlugin} {plugins : List HTTPPlugin} {content mid : α}

/-- What the loop does with an answer. -/
inductive Answer (codec : Codec α) (op : String) (p : HTTPPlugin) (content : α) : Prop
  | passes (mid : α) (on : PassesOn codec op p content mid)
      (run : ∀ plugins, askAll codec op (p :: plugins) content =
        (content :: (askAll codec op plugins mid).1, (askAll codec op plugins mid).2))
  | stops (err : GoString) (stop : Stops codec op p content err)
      (run : ∀ plugins, askAll codec op (p :: plugins) content = ([content], .error err))
  | panics (gone : ChangesToNull codec op p content)
      (run : ∀ plugins, askAll codec op (p :: plugins) content = ([content], .panics))

theorem answer (codec : Codec α) (op : String) (p : HTTPPlugin) (content : α) :
    Answer codec op p content := by
  cases handled : p.handle codec op content with
  | error cause =>
      exact .stops _ (.inl ⟨cause, handled, rfl⟩) fun plugins => by simp only [askAll, handled]
  | ok res =>
      cases reject : res.reject with
      | true =>
          exact .stops _ (.inr ⟨res, handled, reject, rfl⟩) fun plugins => by
            simp only [askAll, handled, reject, if_true]
      | false =>
          cases unchange : res.unchange with
          | true =>
              exact .passes content ⟨res, handled, reject, .inl ⟨unchange, rfl⟩⟩ fun plugins => by
                simp [askAll, handled, reject, unchange]
          | false =>
              by_cases pointer : res.content.IsPointer
              · obtain ⟨mid, there⟩ := pointer
                exact .passes mid ⟨res, handled, reject, .inr ⟨unchange, there⟩⟩ fun plugins => by
                  simp [askAll, handled, reject, unchange, there]
              · have null := (handle_isPointer handled).not_left.1 pointer
                refine .panics ⟨null, res, handled, reject, unchange⟩ fun plugins => ?_
                simp only [askAll, handled, reject, unchange, Bool.false_eq_true, if_false]
                split
                · rename_i mid there
                  exact absurd ⟨mid, there⟩ pointer
                · rfl

theorem PassesOn.unique {content' : α} (one : PassesOn codec op p content mid)
    (other : PassesOn codec op p content content') : content' = mid := by
  obtain ⟨res, handled, -, kept | changed⟩ := one <;>
    obtain ⟨res', handled', -, kept' | changed'⟩ := other <;>
    rw [handled] at handled' <;> cases handled'
  · rw [kept.2, kept'.2]
  · simp [kept.1] at changed'
  · simp [changed.1] at kept'
  · have same := changed.2.symm.trans changed'.2
    cases same
    rfl

/-- A plugin that accepts does not stop the request. -/
theorem not_stops_of_accepted {res : Response α} {err : GoString}
    (handled : p.handle codec op content = .ok res) (accepted : res.reject = false) :
    ¬ Stops codec op p content err := by
  rintro (⟨cause, failed, -⟩ | ⟨res', answered, rejected, -⟩)
  · rw [handled] at failed
    cases failed
  · rw [handled] at answered
    cases answered
    rw [accepted] at rejected
    cases rejected

theorem Stops.not_passesOn {err : GoString} (stop : Stops codec op p content err) :
    ¬ PassesOn codec op p content mid := by
  rintro ⟨res, handled, reject, -⟩
  exact not_stops_of_accepted handled reject stop

theorem ChangesToNull.not_passesOn (gone : ChangesToNull codec op p content) :
    ¬ PassesOn codec op p content mid := by
  rintro ⟨res, handled, -, kept | changed⟩
  · obtain ⟨-, res', handled', -, changed⟩ := gone
    rw [handled] at handled'
    cases handled'
    simp [kept.1] at changed
  · exact (handle_isPointer handled).1 ⟨mid, changed.2⟩ gone.1

/-- A plugin that passes the content on is asked before the rest. -/
theorem askAll_of_passesOn (on : PassesOn codec op p content mid) :
    askAll codec op (p :: plugins) content =
      (content :: (askAll codec op plugins mid).1, (askAll codec op plugins mid).2) := by
  cases answer codec op p content with
  | passes mid' on' run => rw [run, on.unique on']
  | stops err stop run => exact absurd on stop.not_passesOn
  | panics gone run => exact absurd on gone.not_passesOn

theorem Composes.cons {run : List α × Outcome α} (on : PassesOn codec op p content mid)
    (rest : Composes codec op plugins mid run) :
    Composes codec op (p :: plugins) content (content :: run.1, run.2) := by
  rcases rest with ⟨sent, last, rfl, through⟩ | ⟨before, q, after, sent, last, err, rfl, through,
    stop, rfl⟩
  · exact .inl ⟨content :: sent, last, rfl, .cons on through⟩
  · exact .inr ⟨p :: before, q, after, content :: sent, last, err, rfl, .cons on through, stop, rfl⟩

theorem NullReached.cons (on : PassesOn codec op p content mid)
    (reached : NullReached codec op plugins mid) : NullReached codec op (p :: plugins) content := by
  obtain ⟨before, q, after, sent, last, rfl, through, gone⟩ := reached
  exact ⟨p :: before, q, after, content :: sent, last, rfl, .cons on through, gone⟩

theorem composes_of_not_nullReached (safe : ¬ NullReached codec op plugins content) :
    Composes codec op plugins content (askAll codec op plugins content) := by
  induction plugins generalizing content with
  | nil => exact .inl ⟨[], content, rfl, .nil⟩
  | cons p plugins ih =>
      cases answer codec op p content with
      | passes mid on run =>
          rw [run]
          exact (ih fun reached => safe (reached.cons on)).cons on
      | stops err stop run =>
          rw [run]
          exact .inr ⟨[], p, plugins, [], content, err, rfl, .nil, stop, rfl⟩
      | panics gone run => exact absurd ⟨[], p, plugins, [], content, rfl, .nil, gone⟩ safe

theorem askAll_panics {before : List HTTPPlugin} {sent : List α} {last : α}
    (through : Through codec op before content sent last) {after : List HTTPPlugin}
    (gone : ChangesToNull codec op p last) :
    (askAll codec op (before ++ p :: after) content).2 = .panics := by
  induction through with
  | nil =>
      cases answer codec op p _ with
      | passes mid on run => exact absurd on gone.not_passesOn
      | stops err stop run =>
          obtain ⟨-, res, handled, reject, -⟩ := gone
          exact absurd stop (not_stops_of_accepted handled reject)
      | panics _ run => rw [List.nil_append, run]
  | cons on _ ih =>
      rw [List.cons_append, askAll_of_passesOn on]
      exact ih gone

theorem Composes.not_panics {run : List α × Outcome α}
    (composes : Composes codec op plugins content run) : run.2 ≠ .panics := by
  rcases composes with ⟨sent, last, rfl, -⟩ | ⟨-, -, -, sent, last, err, -, -, -, rfl⟩ <;>
    simp

/-- A handler composes the answers unless it comes upon such a plugin. -/
theorem askAll_composes_iff (codec : Codec α) (op : String) (plugins : List HTTPPlugin)
    (content : α) :
    Composes codec op plugins content (askAll codec op plugins content) ↔
      ¬ NullReached codec op plugins content := by
  constructor
  · rintro composes ⟨before, p, after, sent, last, rfl, through, gone⟩
    exact composes.not_panics (askAll_panics through gone)
  · exact composes_of_not_nullReached

end Compose

/-- **The five handlers compose the answers of their plugins, and do not panic, iff no
plugin that is asked accepts, changes the content and sends `null` for it.** -/
theorem handlers_compose_iff {L P G W U : Type} (m : Manager) (login : Codec L)
    (newProxy : Codec P) (ping : Codec G) (newWorkConn : Codec W) (newUserConn : Codec U)
    (l : L) (p : P) (g : G) (w : W) (u : U) :
    (Composes login "Login" m.loginPlugins l (m.login login l) ↔
      ¬ NullReached login "Login" m.loginPlugins l) ∧
    (Composes newProxy "NewProxy" m.newProxyPlugins p (m.newProxy newProxy p) ↔
      ¬ NullReached newProxy "NewProxy" m.newProxyPlugins p) ∧
    (Composes ping "Ping" m.pingPlugins g (m.ping ping g) ↔
      ¬ NullReached ping "Ping" m.pingPlugins g) ∧
    (Composes newWorkConn "NewWorkConn" m.newWorkConnPlugins w (m.newWorkConn newWorkConn w) ↔
      ¬ NullReached newWorkConn "NewWorkConn" m.newWorkConnPlugins w) ∧
    (Composes newUserConn "NewUserConn" m.newUserConnPlugins u (m.newUserConn newUserConn u) ↔
      ¬ NullReached newUserConn "NewUserConn" m.newUserConnPlugins u) :=
  ⟨askAll_composes_iff login _ _ l, askAll_composes_iff newProxy _ _ p,
    askAll_composes_iff ping _ _ g, askAll_composes_iff newWorkConn _ _ w,
    askAll_composes_iff newUserConn _ _ u⟩

/-- The user of a login, which is all that this codec knows of it. -/
def userCodec : Codec GoString where
  zero := []
  marshal user := .object [(GoString.lit "user", .string user)]
  unmarshal v user :=
    match v with
    | .object [(_, .string user)] => .ok user
    | .object _ => .ok user
    | _ => .error "json: cannot unmarshal into Go value of type plugin.LoginContent"
  fits _ := true

/-- It answers `{"unchange": false, "content": null}`. -/
def nullPlugin : HTTPPlugin where
  name := "auth"
  ops := ["Login"]
  post _ := .body (.object [(GoString.lit "unchange", .bool false), (contentField, .null)])

/-- A login on which the server panics. -/
theorem null_content_panics :
    ((({} : Manager).register nullPlugin).login userCodec (GoString.lit "ann")).2 = .panics ∧
      ¬ Composes userCodec "Login" (({} : Manager).register nullPlugin).loginPlugins
        (GoString.lit "ann") ((({} : Manager).register nullPlugin).login userCodec
          (GoString.lit "ann")) := by
  have panics : ((({} : Manager).register nullPlugin).login userCodec
      (GoString.lit "ann")).2 = .panics := rfl
  exact ⟨panics, fun composes => composes.not_panics panics⟩

end ChmlFrp.Plugin
