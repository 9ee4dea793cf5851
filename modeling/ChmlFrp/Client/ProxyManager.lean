/-
# ChmlFrp.Client.ProxyManager — the proxies that follow the configurations

`client/proxy/proxy_manager.go` over the wrappers of `proxy_wrapper.go`.  `Reload` holds the
mutex of the manager, but the workers of the wrappers, their health checks and the answers
of the server do not wait for it: each of them holds the mutex of one wrapper.  All
wrappers send through one channel, which the control closes when its connection is lost,
before it closes the manager.

* `reload_converges`: `Reload` leaves what it is given; a wrapper whose configuration is the
  same is the same and goes on; the others are stopped once, and what they send last is the
  `CloseProxy`, before anything of a wrapper of the same name that came later; a `Reload`
  with the same configurations changes nothing.  The visitors follow in the same way.
* `close_not_sent`: the channel is closed when a wrapper is stopped.
-/
import ChmlFrp.Client.VisitorManager
import ChmlFrp.Client.Wrapper

namespace ChmlFrp.Client.ProxyManager

set_option autoImplicit false

universe u v

open ChmlFrp.Lib
open ChmlFrp.Lib.Transition

/-! ## The manager -/

/-- The goroutine of `checkWorker`. -/
inductive Worker where
  /-- Asleep, or in the select. -/
  | waiting
  /-- It has read the clock and the health, and is before the mutex. -/
  | observed (now health : Nat)
  | exited
  deriving DecidableEq, Repr

/-- A wrapper, with what happened to it. -/
structure Object (γ : Type u) where
  cfg : γ
  pw : Wrapper
  worker : Worker
  starts : Nat
  stops : Nat
  /-- The channel was open when it was stopped. -/
  told : Bool

structure Message where
  sender : Nat
  proxyName : String
  msg : ProxyMsg
  deriving DecidableEq, Repr

structure State (γ : Type u) where
  proxies : GoMap String Nat
  /-- All wrappers there were, by their number. -/
  heap : List (Object γ)
  /-- The wrappers that calls of `StartProxy` have looked up. -/
  fetched : List Nat
  /-- The `Reload` that holds the mutex. -/
  reloading : Option (Sync String γ Nat)
  /-- What was ever sent. -/
  sent : List Message
  sendChClosed : Bool
  /-- What the last `Reload` was given. -/
  last : Option (GoMap String γ)

def newManager {γ : Type u} : State γ := ⟨∅, [], [], none, [], false, none⟩

inductive Label {γ : Type u} (proxyName : γ → String) where
  | reload (pxyCfgs : Configs proxyName)
  /-- The first loop of `Reload` visits a proxy. -/
  | visit (name : String)
  /-- The second loop visits a configuration. -/
  | add (name : String)
  | returned
  /-- `StartProxy` looks the proxy up, -/
  | lookup (name : String)
  /-- and calls its method; `runErr` is the error of `pxy.Run()`. -/
  | setRunningStatus (w : Nat) (remoteAddr respErr : String) (runErr : Option String)
  /-- A worker reads the clock and the health. -/
  | observe (w now : Nat)
  /-- The pass of its loop under the mutex. -/
  | checkWorker (w : Nat)
  | exit (w : Nat)
  | statusNormal (w : Nat)
  | statusFailed (w : Nat)
  | closeSendCh

section Machine

-- the name, and whether there is a health check
variable {γ : Type u} [DecidableEq γ] (proxyName : γ → String) (checked : γ → Bool)

def newObject (cfg : γ) : Object γ := ⟨cfg, newWrapper (checked cfg), .waiting, 1, 0, false⟩

/-- A method of a wrapper ends, and has sent `msgs`. -/
def State.update (s : State γ) (w : Nat) (pxy : Object γ) (msgs : List ProxyMsg) : State γ :=
  { s with
    heap := s.heap.set w pxy
    sent :=
      if s.sendChClosed then s.sent
      else s.sent ++ msgs.map fun msg => ⟨w, proxyName pxy.cfg, msg⟩ }

/-- `delete(pm.proxies, name)`, in a pass of the first loop. -/
def State.deleteProxy (s : State γ) (name : String) (rest : Sync String γ Nat) : State γ :=
  { s with proxies := s.proxies.delete name, reloading := some rest }

def State.stop (s : State γ) (w : Nat) (pxy : Object γ) : State γ :=
  let (pw, msgs) := pxy.pw.stop
  s.update proxyName w
    { pxy with pw := pw, stops := pxy.stops + 1, told := !s.sendChClosed } msgs

def step (s : State γ) : Label proxyName → Option (State γ)
  | .reload pxyCfgs =>
      match s.reloading with
      | none => some { s with reloading := some (Sync.start s.proxies pxyCfgs.map) }
      | some _ => none
  | .visit name =>
      match s.reloading, s.proxies.get name with
      | some d, some w =>
          if name ∈ d.old then
            let rest := { d with old := d.old.erase name }
            s.heap[w]?.map fun pxy =>
              if d.want.get name = some pxy.cfg then { s with reloading := some rest }
              else (s.deleteProxy name rest).stop proxyName w pxy
          else none
      | _, _ => none
  | .add name =>
      match s.reloading with
      | some d =>
          if d.old = ∅ ∧ name ∈ d.new then
            let rest := { d with new := d.new.erase name }
            match d.want.get name, s.proxies.get name with
            | some _, some _ => some { s with reloading := some rest }
            | some cfg, none =>
                some { s with
                  proxies := s.proxies.set name s.heap.length
                  heap := s.heap ++ [newObject checked cfg]
                  reloading := some rest }
            | none, _ => none
          else none
      | none => none
  | .returned =>
      match s.reloading with
      | some d =>
          if d.old = ∅ ∧ d.new = ∅ then some { s with reloading := none, last := some d.want }
          else none
      | none => none
  | .lookup name =>
      match s.reloading, s.proxies.get name with
      | none, some w => some { s with fetched := w :: s.fetched }
      | _, _ => none
  | .setRunningStatus w remoteAddr respErr runErr =>
      if w ∈ s.fetched then
        s.heap[w]?.map fun pxy =>
          let (pw, msgs, _) := pxy.pw.setRunningStatus remoteAddr respErr runErr
          ({ s with fetched := s.fetched.erase w } : State γ).update proxyName w
            { pxy with pw := pw } msgs
      else none
  | .observe w now =>
      match s.heap[w]? with
      | some pxy =>
          if pxy.worker = .waiting then
            some (s.update proxyName w { pxy with worker := .observed now pxy.pw.health } [])
          else none
      | none => none
  | .checkWorker w =>
      match s.heap[w]? with
      | some pxy =>
          match pxy.worker with
          | .observed now health =>
              let (pw, msgs) := pxy.pw.checkWorker now health
              some (s.update proxyName w { pxy with pw := pw, worker := .waiting } msgs)
          | _ => none
      | none => none
  | .exit w =>
      match s.heap[w]? with
      | some pxy =>
          if pxy.worker = .waiting ∧ pxy.stops ≠ 0 then
            some (s.update proxyName w { pxy with worker := .exited } [])
          else none
      | none => none
  | .statusNormal w =>
      match s.heap[w]? with
      | some pxy =>
          if pxy.pw.monitored then
            some (s.update proxyName w { pxy with pw := pxy.pw.statusNormalCallback } [])
          else none
      | none => none
  | .statusFailed w =>
      match s.heap[w]? with
      | some pxy =>
          if pxy.pw.monitored then
            some (s.update proxyName w { pxy with pw := pxy.pw.statusFailedCallback } [])
          else none
      | none => none
  | .closeSendCh => some { s with sendChClosed := true }

/-! ## What the manager promises -/

/-- What a stopped wrapper sent last is its `CloseProxy`, before anything of a wrapper of the
same name that came later; if the channel was closed by then, nothing of a later one is
sent. -/
def Final (s : State γ) (w : Nat) (pxy : Object γ) : Prop :=
  if pxy.told then
    ∃ before after, s.sent = before ++ ⟨w, proxyName pxy.cfg, .closeProxy⟩ :: after ∧
      (∀ m ∈ before, m.proxyName = proxyName pxy.cfg → m.sender ≤ w) ∧
      ∀ m ∈ after, m.sender ≠ w
  else
    s.sendChClosed = true ∧ ∀ m ∈ s.sent, m.proxyName = proxyName pxy.cfg → m.sender ≤ w

/-- What `Reload` leaves, by what it found and what it was given. -/
structure Converged (d : Sync String γ Nat) (t : State γ) : Prop where
  managed : ∀ name cfg, d.want.get name = some cfg ↔
    ∃ (w : Nat) (pxy : Object γ), t.proxies.get name = some w ∧ t.heap[w]? = some pxy ∧
      pxy.cfg = cfg
  unchanged : ∀ (name : String) (w : Nat) (pxy : Object γ), d.before.get name = some w →
    t.heap[w]? = some pxy → d.want.get name = some pxy.cfg →
      t.proxies.get name = some w ∧ pxy.starts = 1 ∧ pxy.stops = 0
  changed : ∀ (name : String) (w : Nat) (pxy : Object γ), d.before.get name = some w →
    t.heap[w]? = some pxy → d.want.get name ≠ some pxy.cfg → pxy.stops = 1

/-- Whatever is sent is sent by a wrapper that was not stopped. -/
def Silent (s t : State γ) : Prop :=
  ∃ new : List Message, t.sent = s.sent ++ new ∧
    ∀ m ∈ new, ∃ pxy : Object γ, s.heap[m.sender]? = some pxy ∧ pxy.stops = 0

/-- The steps of `Reload`. -/
def Label.ofReload {proxyName : γ → String} : Label proxyName → Bool
  | .visit _ | .add _ | .returned => true
  | _ => false

/-- A step, and the state it leads to. -/
structure Kept (s : State γ) (l : Label proxyName) (t : State γ) : Prop where
  once : ∀ (w : Nat) (pxy : Object γ), t.heap[w]? = some pxy →
    pxy.stops ≤ 1 ∧ (pxy.stops = 1 → Final proxyName t w pxy)
  silent : Silent s t
  converged : ∀ d, l = .returned → s.reloading = some d → Converged d t
  repeated : ∀ d, l.ofReload = true → s.reloading = some d → s.last = some d.want →
    t = { s with reloading := t.reloading }

end Machine

/-! ## Wrappers and messages -/

section Objects

variable {γ : Type u} {proxyName : γ → String} {s t : State γ} {w v : Nat} {pxy pxy' : Object γ}
  {msgs : List ProxyMsg} {name : String}

/-- An entry of the manager is a reference to a wrapper, as the configuration wants it. -/
def Fits (heap : List (Object γ)) (cfg : γ) (w : Nat) : Prop :=
  ∃ pxy : Object γ, heap[w]? = some pxy ∧ pxy.cfg = cfg

theorem fits_iff (found : s.heap[w]? = some pxy) (cfg : γ) : Fits s.heap cfg w ↔ pxy.cfg = cfg := by
  constructor
  · rintro ⟨pxy', found', same⟩
    cases found.symm.trans found'
    exact same
  · exact fun same => ⟨pxy, found, same⟩

/-- The wrappers after a method of one of them. -/
theorem getElem?_update (found : s.heap[w]? = some pxy) (pxy' : Object γ) (msgs : List ProxyMsg)
    (v : Nat) :
    (s.update proxyName w pxy' msgs).heap[v]? = if v = w then some pxy' else s.heap[v]? := by
  have within : w < s.heap.length := (List.getElem?_eq_some_iff.1 found).1
  show (s.heap.set w pxy')[v]? = _
  by_cases same : v = w
  · rw [if_pos same, same, List.getElem?_set_self within]
  · rw [if_neg same, List.getElem?_set_ne (Ne.symm same)]

theorem sent_update_of_closed (closed : s.sendChClosed = true) (w : Nat) (pxy : Object γ)
    (msgs : List ProxyMsg) : (s.update proxyName w pxy msgs).sent = s.sent := by
  unfold State.update
  rw [closed]
  rfl

theorem sent_update_of_open (open_ : s.sendChClosed = false) (w : Nat) (pxy : Object γ)
    (msgs : List ProxyMsg) :
    (s.update proxyName w pxy msgs).sent =
      s.sent ++ msgs.map fun msg => ⟨w, proxyName pxy.cfg, msg⟩ := by
  unfold State.update
  rw [open_]
  rfl

theorem sent_update_nil (s : State γ) (w : Nat) (pxy : Object γ) :
    (s.update proxyName w pxy []).sent = s.sent := by
  cases closed : s.sendChClosed with
  | true => exact sent_update_of_closed closed w pxy []
  | false => exact (sent_update_of_open closed w pxy []).trans (List.append_nil _)

/-- A message after a method is an old one, or one that the wrapper sends. -/
theorem mem_sent_update {m : Message} (inside : m ∈ (s.update proxyName w pxy msgs).sent) :
    m ∈ s.sent ∨ s.sendChClosed = false ∧ ∃ msg ∈ msgs, m = ⟨w, proxyName pxy.cfg, msg⟩ := by
  cases closed : s.sendChClosed with
  | true =>
      rw [sent_update_of_closed closed] at inside
      exact .inl inside
  | false =>
      rw [sent_update_of_open closed] at inside
      rcases List.mem_append.1 inside with old | new
      · exact .inl old
      · obtain ⟨msg, sends, rfl⟩ := List.mem_map.1 new
        exact .inr ⟨rfl, msg, sends, rfl⟩

/-- A wrapper is done, and another one sends. -/
theorem Final.update (final : Final proxyName s v pxy') (other : v ≠ w) :
    Final proxyName (s.update proxyName w pxy msgs) v pxy' := by
  unfold Final at final ⊢
  split at final
  · rename_i told
    obtain ⟨before, after, sent, first, last⟩ := final
    rw [if_pos told]
    cases closed : s.sendChClosed with
    | true =>
        rw [sent_update_of_closed closed]
        exact ⟨before, after, sent, first, last⟩
    | false =>
        refine ⟨before, after ++ msgs.map fun msg => ⟨w, proxyName pxy.cfg, msg⟩, ?_, first, ?_⟩
        · rw [sent_update_of_open closed, sent, List.append_assoc, List.cons_append]
        · intro m inside
          rcases List.mem_append.1 inside with old | new
          · exact last m old
          · obtain ⟨msg, -, rfl⟩ := List.mem_map.1 new
            exact Ne.symm other
  · rename_i told
    obtain ⟨closed, all⟩ := final
    rw [if_neg told, sent_update_of_closed closed]
    exact ⟨closed, all⟩

/-- What was known of the wrappers is known of them still. -/
def Extends (s t : State γ) : Prop :=
  ∀ (v : Nat) (pxy : Object γ), s.heap[v]? = some pxy →
    ∃ pxy' : Object γ, t.heap[v]? = some pxy' ∧ pxy'.cfg = pxy.cfg

theorem Extends.fits {cfg : γ} (extends_ : Extends s t) (fits : Fits s.heap cfg v) :
    Fits t.heap cfg v := by
  obtain ⟨pxy, found, rfl⟩ := fits
  exact extends_ v pxy found

theorem Extends.fits_back {cfg : γ} (extends_ : Extends s t) (found : s.heap[v]? = some pxy)
    (fits : Fits t.heap cfg v) : Fits s.heap cfg v := by
  obtain ⟨pxy', found', rfl⟩ := fits
  obtain ⟨pxy'', found'', same⟩ := extends_ v pxy found
  cases found'.symm.trans found''
  exact ⟨pxy, found, same.symm⟩

theorem extends_update (found : s.heap[w]? = some pxy) (same : pxy'.cfg = pxy.cfg)
    (msgs : List ProxyMsg) : Extends s (s.update proxyName w pxy' msgs) := by
  intro v pxy'' found'
  rw [getElem?_update found]
  by_cases here : v = w
  · rw [if_pos here]
    cases found.symm.trans (here ▸ found')
    exact ⟨pxy', rfl, same⟩
  · rw [if_neg here]
    exact ⟨pxy'', found', rfl⟩

/-- What `Reload` knows between two passes. -/
structure Midway (proxyName : γ → String) (d : Sync String γ Nat) (s : State γ) : Prop where
  sync : d.Inv (Fits s.heap) s.proxies
  keyed : ∀ name cfg, d.want.get name = some cfg → proxyName cfg = name
  known : ∀ (name : String) (w : Nat), d.before.get name = some w →
    ∃ pxy : Object γ, s.heap[w]? = some pxy ∧ proxyName pxy.cfg = name

theorem Midway.known_extend {d : Sync String γ Nat} (midway : Midway proxyName d s)
    (extends_ : Extends s t) (before : d.before.get name = some w) :
    ∃ pxy : Object γ, t.heap[w]? = some pxy ∧ proxyName pxy.cfg = name := by
  obtain ⟨pxy, found, named⟩ := midway.known name w before
  obtain ⟨pxy', found', same⟩ := extends_ w pxy found
  exact ⟨pxy', found', by rw [same, named]⟩

theorem Midway.sync_extend {d : Sync String γ Nat} (midway : Midway proxyName d s)
    (extends_ : Extends s t) : d.Inv (Fits t.heap) s.proxies := by
  refine midway.sync.congr (fun _ _ _ _ fits => extends_.fits fits) ?_
  intro name v cfg before fits
  obtain ⟨pxy, found, -⟩ := midway.known name v before
  exact extends_.fits_back found fits

theorem Midway.extend {d : Sync String γ Nat} (midway : Midway proxyName d s)
    (extends_ : Extends s t) (same : t.proxies = s.proxies) : Midway proxyName d t where
  sync := by
    rw [same]
    exact midway.sync_extend extends_
  keyed := midway.keyed
  known := fun _ _ before => midway.known_extend extends_ before

/-! ## The invariant -/

structure Inv (proxyName : γ → String) (s : State γ) : Prop where
  managed : ∀ (name : String) (w : Nat), s.proxies.get name = some w →
    ∃ pxy : Object γ, s.heap[w]? = some pxy ∧ proxyName pxy.cfg = name ∧ pxy.stops = 0
  live : ∀ (w : Nat) (pxy : Object γ), s.heap[w]? = some pxy → pxy.stops = 0 →
    s.proxies.get (proxyName pxy.cfg) = some w
  object : ∀ (w : Nat) (pxy : Object γ), s.heap[w]? = some pxy →
    pxy.stops ≤ 1 ∧ pxy.starts = 1 ∧ (pxy.stops = 1 → pxy.pw.phase = .closed)
  /-- A wrapper is stopped before another of its name is made. -/
  later : ∀ (v w : Nat) (pxy pxy' : Object γ), v < w → s.heap[v]? = some pxy →
    s.heap[w]? = some pxy' → proxyName pxy'.cfg = proxyName pxy.cfg → pxy.stops = 1
  senders : ∀ m ∈ s.sent, ∃ pxy : Object γ, s.heap[m.sender]? = some pxy ∧
    m.proxyName = proxyName pxy.cfg
  final : ∀ (w : Nat) (pxy : Object γ), s.heap[w]? = some pxy → pxy.stops = 1 →
    Final proxyName s w pxy
  midway : ∀ d, s.reloading = some d → Midway proxyName d s
  last : ∀ want, s.last = some want → (∀ d, s.reloading = some d → d.want = want) →
    Agree (Fits s.heap) want s.proxies

theorem start_inv : Inv proxyName newManager where
  managed := by rintro name w ⟨⟩
  live := by rintro w pxy ⟨⟩
  object := by rintro w pxy ⟨⟩
  later := by rintro v w pxy pxy' - ⟨⟩
  senders := by rintro m ⟨⟩
  final := by rintro w pxy ⟨⟩
  midway := by rintro d ⟨⟩
  last := by rintro want ⟨⟩

/-- A wrapper that was neither started nor stopped by a method. -/
structure Alike (pxy pxy' : Object γ) : Prop where
  cfg : pxy'.cfg = pxy.cfg
  starts : pxy'.starts = pxy.starts
  stops : pxy'.stops = pxy.stops
  told : pxy'.told = pxy.told

theorem Alike.refl (pxy : Object γ) : Alike pxy pxy := ⟨rfl, rfl, rfl, rfl⟩

/-- The wrappers after a method are as before. -/
theorem alike_of_update (found : s.heap[w]? = some pxy) (alike : Alike pxy pxy')
    {pxy'' : Object γ} (found' : (s.update proxyName w pxy' msgs).heap[v]? = some pxy'') :
    ∃ old : Object γ, s.heap[v]? = some old ∧ Alike old pxy'' := by
  rw [getElem?_update found] at found'
  split at found'
  · rename_i here
    cases found'
    exact ⟨pxy, here ▸ found, alike⟩
  · exact ⟨pxy'', found', .refl pxy''⟩

theorem update_of_alike (found : s.heap[w]? = some pxy) (alike : Alike pxy pxy')
    (msgs : List ProxyMsg) {old : Object γ} (found' : s.heap[v]? = some old) :
    ∃ new : Object γ, (s.update proxyName w pxy' msgs).heap[v]? = some new ∧ Alike old new := by
  rw [getElem?_update found]
  by_cases here : v = w
  · rw [if_pos here]
    cases found.symm.trans (here ▸ found')
    exact ⟨pxy', rfl, alike⟩
  · rw [if_neg here]
    exact ⟨old, found', .refl old⟩

/-- A method of a wrapper other than `Stop`. -/
theorem Inv.update (inv : Inv proxyName s) (found : s.heap[w]? = some pxy)
    (alike : Alike pxy pxy')
    (quiet : pxy.pw.phase = .closed → pxy'.pw.phase = .closed ∧ msgs = []) :
    Inv proxyName (s.update proxyName w pxy' msgs) where
  managed := by
    intro name v manages
    obtain ⟨old, heap, named, stops⟩ := inv.managed name v manages
    obtain ⟨new, heap', like⟩ := update_of_alike found alike msgs heap
    exact ⟨new, heap', by rw [like.cfg, named], by rw [like.stops, stops]⟩
  live := by
    intro v new heap stops
    obtain ⟨old, heap', like⟩ := alike_of_update found alike heap
    rw [like.cfg]
    exact inv.live v old heap' (like.stops.symm.trans stops)
  object := by
    intro v new heap
    obtain ⟨old, heap', like⟩ := alike_of_update found alike heap
    obtain ⟨stops, starts, closed⟩ := inv.object v old heap'
    refine ⟨by rw [like.stops]; exact stops, by rw [like.starts, starts], fun stopped => ?_⟩
    rw [like.stops] at stopped
    have was := closed stopped
    rw [getElem?_update found] at heap
    split at heap
    · rename_i here
      cases heap
      cases found.symm.trans (here ▸ heap')
      exact (quiet was).1
    · cases heap.symm.trans heap'
      exact was
  later := by
    intro v w' new new' before heap heap' named
    obtain ⟨old, found', like⟩ := alike_of_update found alike heap
    obtain ⟨old', found'', like'⟩ := alike_of_update found alike heap'
    rw [like.cfg, like'.cfg] at named
    rw [like.stops]
    exact inv.later v w' old old' before found' found'' named
  senders := by
    intro m inside
    rcases mem_sent_update inside with old | ⟨-, msg, -, rfl⟩
    · obtain ⟨pxy'', heap, named⟩ := inv.senders m old
      obtain ⟨new, heap', like⟩ := update_of_alike found alike msgs heap
      exact ⟨new, heap', by rw [like.cfg, named]⟩
    · refine ⟨pxy', ?_, rfl⟩
      show (s.update proxyName w pxy' msgs).heap[w]? = some pxy'
      rw [getElem?_update found, if_pos rfl]
  final := by
    intro v new heap stopped
    obtain ⟨old, heap', like⟩ := alike_of_update found alike heap
    rw [like.stops] at stopped
    have was := inv.final v old heap' stopped
    have same : Final proxyName s v new := by
      unfold Final at was ⊢
      rw [like.told, like.cfg]
      exact was
    by_cases here : v = w
    · -- a stopped wrapper sends nothing
      subst here
      cases found.symm.trans heap'
      have nothing := (quiet ((inv.object v pxy heap').2.2 stopped)).2
      unfold Final at same ⊢
      rw [nothing, sent_update_nil]
      exact same
    · exact same.update here
  midway := by
    intro d reloads
    exact (inv.midway d reloads).extend (extends_update found alike.cfg msgs) rfl
  last := by
    intro want last agrees
    exact (inv.last want last agrees).congr fun _ _ _ _ fits =>
      (extends_update found alike.cfg msgs).fits fits

/-! ## The passes of `Reload` -/

/-- What `Stop` makes of a wrapper. -/
def stopped (s : State γ) (pxy : Object γ) : Object γ :=
  { pxy with
    pw := { pxy.pw with phase := .closed }
    stops := pxy.stops + 1
    told := !s.sendChClosed }

theorem stop_eq (s : State γ) (w : Nat) (pxy : Object γ) :
    s.stop proxyName w pxy = s.update proxyName w (stopped s pxy) [.closeProxy] := rfl

/-- Everything of the name so far is of the wrapper that runs, or was before it. -/
theorem Inv.earlier (inv : Inv proxyName s) (found : s.heap[w]? = some pxy)
    (running : pxy.stops = 0) :
    ∀ m ∈ s.sent, m.proxyName = proxyName pxy.cfg → m.sender ≤ w := by
  intro m inside named
  obtain ⟨pxy', found', named'⟩ := inv.senders m inside
  by_contra after
  have before := inv.later w m.sender pxy pxy' (Nat.not_le.1 after) found found'
    (named'.symm.trans named)
  omega

theorem final_stop (earlier : ∀ m ∈ s.sent, m.proxyName = proxyName pxy.cfg → m.sender ≤ w) :
    Final proxyName (s.stop proxyName w pxy) w (stopped s pxy) := by
  rw [stop_eq]
  unfold Final
  cases closed : s.sendChClosed with
  | true =>
      have told : (stopped s pxy).told = false := by
        show (!s.sendChClosed) = false
        rw [closed]
        rfl
      rw [told, if_neg Bool.false_ne_true, sent_update_of_closed closed]
      exact ⟨closed, earlier⟩
  | false =>
      have told : (stopped s pxy).told = true := by
        show (!s.sendChClosed) = true
        rw [closed]
        rfl
      rw [if_pos told, sent_update_of_open closed]
      refine ⟨s.sent, [], rfl, earlier, ?_⟩
      intro m inside
      cases inside

/-- `t` is `s` without a proxy, whose wrapper is stopped. -/
structure Stops (proxyName : γ → String) (s t : State γ) (name : String) (w : Nat)
    (pxy : Object γ) : Prop where
  manages : s.proxies.get name = some w
  found : s.heap[w]? = some pxy
  named : proxyName pxy.cfg = name
  running : pxy.stops = 0
  heap : ∀ v, t.heap[v]? = if v = w then some (stopped s pxy) else s.heap[v]?
  proxies : t.proxies = s.proxies.delete name

namespace Stops

theorem heap_of_ne (stops : Stops proxyName s t name w pxy) (different : v ≠ w) :
    t.heap[v]? = s.heap[v]? := by
  rw [stops.heap, if_neg different]

theorem extends_ (stops : Stops proxyName s t name w pxy) : Extends s t := by
  intro v pxy' found
  rw [stops.heap]
  by_cases here : v = w
  · rw [if_pos here]
    cases stops.found.symm.trans (here ▸ found)
    exact ⟨stopped s pxy, rfl, rfl⟩
  · rw [if_neg here]
    exact ⟨pxy', found, rfl⟩

/-- A wrapper after the stop: the one that was stopped, or another as before. -/
theorem back (stops : Stops proxyName s t name w pxy) (found : t.heap[v]? = some pxy') :
    (v = w ∧ pxy' = stopped s pxy) ∨ v ≠ w ∧ s.heap[v]? = some pxy' := by
  rw [stops.heap] at found
  split at found
  · rename_i here
    exact .inl ⟨here, (Option.some.inj found).symm⟩
  · rename_i different
    exact .inr ⟨different, found⟩

theorem managed (stops : Stops proxyName s t name w pxy) (inv : Inv proxyName s) {name' : String}
    (manages' : t.proxies.get name' = some v) :
    ∃ pxy' : Object γ, t.heap[v]? = some pxy' ∧ proxyName pxy'.cfg = name' ∧ pxy'.stops = 0 := by
  rw [stops.proxies] at manages'
  obtain ⟨other, manages'⟩ := GoMap.get_delete_eq_some.1 manages'
  obtain ⟨pxy', found', named', running'⟩ := inv.managed name' v manages'
  have different : v ≠ w := by
    intro here
    rw [here] at found'
    cases stops.found.symm.trans found'
    exact other (named'.symm.trans stops.named)
  exact ⟨pxy', (stops.heap_of_ne different).trans found', named', running'⟩

theorem live (stops : Stops proxyName s t name w pxy) (inv : Inv proxyName s)
    (found : t.heap[v]? = some pxy') (running' : pxy'.stops = 0) :
    t.proxies.get (proxyName pxy'.cfg) = some v := by
  rcases stops.back found with ⟨-, rfl⟩ | ⟨different, found'⟩
  · cases running'
  · have manages' := inv.live v pxy' found' running'
    have other : proxyName pxy'.cfg ≠ name := by
      intro same
      rw [same] at manages'
      exact different (Option.some.inj (manages'.symm.trans stops.manages))
    rw [stops.proxies]
    exact (GoMap.get_delete _ _ _).trans ((if_neg other).trans manages')

theorem object (stops : Stops proxyName s t name w pxy) (inv : Inv proxyName s)
    (found : t.heap[v]? = some pxy') :
    pxy'.stops ≤ 1 ∧ pxy'.starts = 1 ∧ (pxy'.stops = 1 → pxy'.pw.phase = .closed) := by
  rcases stops.back found with ⟨-, rfl⟩ | ⟨-, found'⟩
  · refine ⟨?_, (inv.object w pxy stops.found).2.1, fun _ => rfl⟩
    show pxy.stops + 1 ≤ 1
    rw [stops.running]
  · exact inv.object v pxy' found'

theorem later (stops : Stops proxyName s t name w pxy) (inv : Inv proxyName s) {v' : Nat}
    {pxy₁ pxy₂ : Object γ} (before : v < v') (found₁ : t.heap[v]? = some pxy₁)
    (found₂ : t.heap[v']? = some pxy₂) (same : proxyName pxy₂.cfg = proxyName pxy₁.cfg) :
    pxy₁.stops = 1 := by
  have second : ∃ old : Object γ, s.heap[v']? = some old ∧ old.cfg = pxy₂.cfg := by
    rcases stops.back found₂ with ⟨rfl, rfl⟩ | ⟨-, found₂'⟩
    · exact ⟨pxy, stops.found, rfl⟩
    · exact ⟨pxy₂, found₂', rfl⟩
  obtain ⟨old, found₂', same'⟩ := second
  rcases stops.back found₁ with ⟨-, rfl⟩ | ⟨-, found₁'⟩
  · show pxy.stops + 1 = 1
    rw [stops.running]
  · exact inv.later v v' pxy₁ old before found₁' found₂' (same'.symm ▸ same)

end Stops

theorem Inv.stops {rest : Sync String γ Nat} (inv : Inv proxyName s)
    (manages : s.proxies.get name = some w) (found : s.heap[w]? = some pxy) :
    Stops proxyName s ((s.deleteProxy name rest).stop proxyName w pxy) name w pxy := by
  obtain ⟨pxy', found', named, running⟩ := inv.managed name w manages
  cases found.symm.trans found'
  have here : (s.deleteProxy name rest).heap[w]? = some pxy := found
  exact ⟨manages, found, named, running, fun v => getElem?_update here _ _ v, rfl⟩

/-- A proxy that is not wanted, or not as it is, is deleted and stopped. -/
theorem Inv.stop {d rest : Sync String γ Nat} (inv : Inv proxyName s)
    (reloads : s.reloading = some d) (manages : s.proxies.get name = some w)
    (visit : name ∈ d.old) (found : s.heap[w]? = some pxy)
    (changed : d.want.get name ≠ some pxy.cfg)
    (isRest : rest = { d with old := d.old.erase name }) :
    Inv proxyName ((s.deleteProxy name rest).stop proxyName w pxy) := by
  have stops : Stops proxyName s ((s.deleteProxy name rest).stop proxyName w pxy) name w pxy :=
    inv.stops manages found
  have midway := inv.midway d reloads
  refine ⟨fun _ _ => stops.managed inv, fun _ _ => stops.live inv, fun _ _ => stops.object inv,
    fun _ _ _ _ => stops.later inv, ?_, ?_, ?_, ?_⟩
  · intro m inside
    rcases mem_sent_update inside with old | ⟨-, msg, -, rfl⟩
    · obtain ⟨pxy', found', named'⟩ := inv.senders m old
      obtain ⟨pxy'', found'', same⟩ := stops.extends_ _ pxy' found'
      exact ⟨pxy'', found'', by rw [same, named']⟩
    · exact ⟨stopped s pxy, (stops.heap w).trans (if_pos rfl), rfl⟩
  · intro v pxy' found' done
    rcases stops.back found' with ⟨rfl, rfl⟩ | ⟨different, found'⟩
    · have earlier : ∀ m ∈ (s.deleteProxy name rest).sent,
          m.proxyName = proxyName pxy.cfg → m.sender ≤ v := inv.earlier found stops.running
      exact final_stop earlier
    · have final : Final proxyName (s.deleteProxy name rest) v pxy' := inv.final v pxy' found' done
      exact final.update different
  · rintro _ ⟨⟩
    subst isRest
    refine ⟨?_, midway.keyed, fun name' v before => midway.known_extend stops.extends_ before⟩
    refine (midway.sync_extend stops.extends_).delete visit ?_
    intro v cfg manages' wanted fits
    cases manages.symm.trans manages'
    have fits := stops.extends_.fits_back found fits
    rw [(fits_iff found cfg).1 fits] at changed
    exact changed wanted
  · intro want last agrees
    have same : d.want = want := by
      have := agrees rest rfl
      rw [isRest] at this
      exact this
    have agree := inv.last want last fun d' reloads' => by
      cases reloads.symm.trans reloads'
      exact same
    rw [← same] at agree
    obtain ⟨cfg, wanted, fits⟩ := agree.1 name w manages
    rw [(fits_iff found cfg).1 fits] at changed
    exact absurd wanted changed

theorem getElem?_append {new : Object γ} (found : (s.heap ++ [new])[v]? = some pxy) :
    s.heap[v]? = some pxy ∨ v = s.heap.length ∧ pxy = new := by
  rcases Nat.lt_or_ge v s.heap.length with within | beyond
  · exact .inl ((List.getElem?_append_left within).symm.trans found)
  · have within := (List.getElem?_eq_some_iff.1 found).1
    rw [List.length_append, List.length_singleton] at within
    have here : v = s.heap.length := by omega
    subst here
    rw [List.getElem?_concat_length] at found
    exact .inr ⟨rfl, (Option.some.inj found).symm⟩

theorem extends_append (s : State γ) (new : Object γ) (proxies : GoMap String Nat)
    (reloading : Option (Sync String γ Nat)) :
    Extends s { s with proxies := proxies, heap := s.heap ++ [new], reloading := reloading } := by
  intro v pxy found
  have within := (List.getElem?_eq_some_iff.1 found).1
  exact ⟨pxy, (List.getElem?_append_left within).trans found, rfl⟩

/-- A proxy is added and started. -/
theorem Inv.add {checked : γ → Bool} {cfg : γ} {d : Sync String γ Nat} (inv : Inv proxyName s)
    (reloads : s.reloading = some d) (first : d.old = ∅) (wanted : d.want.get name = some cfg)
    (free : s.proxies.get name = none) :
    Inv proxyName { s with
      proxies := s.proxies.set name s.heap.length
      heap := s.heap ++ [newObject checked cfg]
      reloading := some { d with new := d.new.erase name } } := by
  have midway := inv.midway d reloads
  have named := midway.keyed name cfg wanted
  have extends_ := extends_append s (newObject checked cfg) (s.proxies.set name s.heap.length)
    (some { d with new := d.new.erase name })
  refine ⟨?_, ?_, ?_, ?_, ?_, ?_, ?_, ?_⟩
  · intro name' v manages
    rcases GoMap.get_set_eq_some.1 manages with ⟨rfl, rfl⟩ | ⟨-, manages⟩
    · exact ⟨newObject checked cfg, List.getElem?_concat_length .., named, rfl⟩
    · obtain ⟨pxy', found', named', running⟩ := inv.managed name' v manages
      have within := (List.getElem?_eq_some_iff.1 found').1
      exact ⟨pxy', (List.getElem?_append_left within).trans found', named', running⟩
  · intro v pxy' found' running
    rcases getElem?_append found' with found' | ⟨rfl, rfl⟩
    · exact GoMap.get_set_of_fresh free (inv.live v pxy' found' running)
    · show (s.proxies.set name s.heap.length).get (proxyName cfg) = _
      rw [named, GoMap.get_set, if_pos rfl]
  · intro v pxy' found'
    rcases getElem?_append found' with found' | ⟨rfl, rfl⟩
    · exact inv.object v pxy' found'
    · exact ⟨Nat.zero_le 1, rfl, by rintro ⟨⟩⟩
  · intro v v' pxy₁ pxy₂ before found₁ found₂ same
    rcases getElem?_append found₂ with found₂ | ⟨rfl, rfl⟩
    · have within : v' < s.heap.length := (List.getElem?_eq_some_iff.1 found₂).1
      rcases getElem?_append found₁ with found₁ | ⟨rfl, -⟩
      · exact inv.later v v' pxy₁ pxy₂ before found₁ found₂ same
      · omega
    · rcases getElem?_append found₁ with found₁ | ⟨rfl, -⟩
      · by_contra other
        have running : pxy₁.stops = 0 := by
          have := (inv.object v pxy₁ found₁).1
          omega
        have manages := inv.live v pxy₁ found₁ running
        rw [← same] at manages
        have new_name : proxyName (newObject checked cfg).cfg = name := named
        rw [new_name, free] at manages
        cases manages
      · exact absurd before (Nat.lt_irrefl _)
  · intro m inside
    obtain ⟨pxy', found', named'⟩ := inv.senders m inside
    obtain ⟨pxy'', found'', same⟩ := extends_ _ pxy' found'
    exact ⟨pxy'', found'', by rw [same, named']⟩
  · intro v pxy' found' done
    rcases getElem?_append found' with found' | ⟨rfl, rfl⟩
    · exact inv.final v pxy' found' done
    · cases done
  · rintro _ ⟨⟩
    refine ⟨?_, midway.keyed, fun name' v before => midway.known_extend extends_ before⟩
    exact (midway.sync_extend extends_).add first free wanted
      ⟨newObject checked cfg, List.getElem?_concat_length .., rfl⟩
  · intro want last agrees
    have same : d.want = want := agrees { d with new := d.new.erase name } rfl
    have agree := inv.last want last fun d' reloads' => by
      cases reloads.symm.trans reloads'
      exact same
    rw [← same] at agree
    obtain ⟨v, manages⟩ := agree.2 name cfg wanted
    cases free.symm.trans manages

/-- A pass of `Reload` that leaves the proxies. -/
theorem Inv.pass {d rest : Sync String γ Nat} (inv : Inv proxyName s)
    (reloads : s.reloading = some d) (want : rest.want = d.want) (before : rest.before = d.before)
    (sync : rest.Inv (Fits s.heap) s.proxies) :
    Inv proxyName { s with reloading := some rest } where
  managed := inv.managed
  live := inv.live
  object := inv.object
  later := inv.later
  senders := inv.senders
  final := inv.final
  midway := by
    rintro _ ⟨⟩
    have midway := inv.midway d reloads
    refine ⟨sync, ?_, ?_⟩
    · rw [want]
      exact midway.keyed
    · rw [before]
      exact midway.known
  last := by
    intro want' last agrees
    refine inv.last want' last fun d' reloads' => ?_
    cases reloads.symm.trans reloads'
    exact want.symm.trans (agrees rest rfl)

theorem Inv.reload (inv : Inv proxyName s) (free : s.reloading = none)
    (pxyCfgs : Configs proxyName) :
    Inv proxyName { s with reloading := some (Sync.start s.proxies pxyCfgs.map) } where
  managed := inv.managed
  live := inv.live
  object := inv.object
  later := inv.later
  senders := inv.senders
  final := inv.final
  midway := by
    rintro _ ⟨⟩
    refine ⟨Sync.start_inv _ s.proxies pxyCfgs.map, pxyCfgs.keyed, ?_⟩
    intro name w manages
    obtain ⟨pxy, found, named, -⟩ := inv.managed name w manages
    exact ⟨pxy, found, named⟩
  last := by
    intro want last _
    refine inv.last want last fun d reloads => ?_
    cases free.symm.trans reloads

theorem Inv.returned {d : Sync String γ Nat} (inv : Inv proxyName s)
    (reloads : s.reloading = some d) (old : d.old = ∅) (new : d.new = ∅) :
    Inv proxyName { s with reloading := none, last := some d.want } where
  managed := inv.managed
  live := inv.live
  object := inv.object
  later := inv.later
  senders := inv.senders
  final := inv.final
  midway := by rintro _ ⟨⟩
  last := by
    rintro _ ⟨⟩ _
    exact (inv.midway d reloads).sync.agrees old new

/-- What no wrapper looks at. -/
theorem Inv.fetch (inv : Inv proxyName s) (fetched : List Nat) :
    Inv proxyName { s with fetched := fetched } :=
  ⟨inv.managed, inv.live, inv.object, inv.later, inv.senders, inv.final,
    fun d reloads => ⟨(inv.midway d reloads).sync, (inv.midway d reloads).keyed,
      (inv.midway d reloads).known⟩, inv.last⟩

theorem Inv.closeSendCh (inv : Inv proxyName s) : Inv proxyName { s with sendChClosed := true } :=
  ⟨inv.managed, inv.live, inv.object, inv.later, inv.senders, by
    intro w pxy found done
    have final := inv.final w pxy found done
    unfold Final at final ⊢
    split
    · rename_i told
      rw [if_pos told] at final
      exact final
    · rename_i told
      rw [if_neg told] at final
      exact ⟨rfl, final.2⟩,
    fun d reloads => ⟨(inv.midway d reloads).sync, (inv.midway d reloads).keyed,
      (inv.midway d reloads).known⟩, inv.last⟩

/-- What `Reload` leaves. -/
theorem Inv.converged {d : Sync String γ Nat} (inv : Inv proxyName s)
    (reloads : s.reloading = some d) (old : d.old = ∅) (new : d.new = ∅)
    (last : Option (GoMap String γ)) :
    Converged d { s with reloading := none, last := last } where
  managed := by
    have agree := (inv.midway d reloads).sync.agrees old new
    intro name cfg
    constructor
    · intro wanted
      obtain ⟨w, manages⟩ := agree.2 name cfg wanted
      obtain ⟨pxy, found, same⟩ := agree.fits wanted manages
      exact ⟨w, pxy, manages, found, same⟩
    · rintro ⟨w, pxy, manages, found, same⟩
      obtain ⟨cfg', wanted, fits⟩ := agree.1 name w manages
      rw [wanted, ← (fits_iff found cfg').1 fits, same]
  unchanged := by
    intro name w pxy before found wanted
    have manages := (inv.midway d reloads).sync.kept name w
      ⟨before, pxy.cfg, wanted, pxy, found, rfl⟩
    obtain ⟨pxy', found', -, running⟩ := inv.managed name w manages
    cases found.symm.trans found'
    exact ⟨manages, (inv.object w pxy found).2.1, running⟩
  changed := by
    intro name w pxy before found different
    by_contra other
    have running : pxy.stops = 0 := by
      have := (inv.object w pxy found).1
      omega
    obtain ⟨pxy', found', named⟩ := (inv.midway d reloads).known name w before
    cases found.symm.trans found'
    have manages := inv.live w pxy found running
    rw [named] at manages
    obtain ⟨cfg, wanted, fits⟩ := ((inv.midway d reloads).sync.agrees old new).1 name w manages
    rw [(fits_iff found cfg).1 fits] at different
    exact different wanted

end Objects

/-! ## What one step does -/

section Moves

variable {γ : Type u} {proxyName : γ → String} {checked : γ → Bool} {s t : State γ}
  {l : Label proxyName}

/-- The branches of `step`; the methods of a wrapper other than `Stop` are one. -/
inductive Moves (proxyName : γ → String) (checked : γ → Bool) (s : State γ) :
    Label proxyName → State γ → Prop where
  | reload (pxyCfgs : Configs proxyName) (free : s.reloading = none) :
      Moves proxyName checked s (.reload pxyCfgs)
        { s with reloading := some (Sync.start s.proxies pxyCfgs.map) }
  | keep {name : String} {d : Sync String γ Nat} {w : Nat} {pxy : Object γ}
      (reloads : s.reloading = some d) (manages : s.proxies.get name = some w)
      (found : s.heap[w]? = some pxy) (visit : name ∈ d.old)
      (same : d.want.get name = some pxy.cfg) :
      Moves proxyName checked s (.visit name)
        { s with reloading := some { d with old := d.old.erase name } }
  | stop {name : String} {d : Sync String γ Nat} {w : Nat} {pxy : Object γ}
      (reloads : s.reloading = some d) (manages : s.proxies.get name = some w)
      (found : s.heap[w]? = some pxy) (visit : name ∈ d.old)
      (changed : d.want.get name ≠ some pxy.cfg) :
      Moves proxyName checked s (.visit name)
        ((s.deleteProxy name { d with old := d.old.erase name }).stop proxyName w pxy)
  | skip {name : String} {d : Sync String γ Nat} {w : Nat} (reloads : s.reloading = some d)
      (first : d.old = ∅) (manages : s.proxies.get name = some w) :
      Moves proxyName checked s (.add name)
        { s with reloading := some { d with new := d.new.erase name } }
  | add {name : String} {d : Sync String γ Nat} {cfg : γ} (reloads : s.reloading = some d)
      (first : d.old = ∅) (wanted : d.want.get name = some cfg)
      (free : s.proxies.get name = none) :
      Moves proxyName checked s (.add name) { s with
        proxies := s.proxies.set name s.heap.length
        heap := s.heap ++ [newObject checked cfg]
        reloading := some { d with new := d.new.erase name } }
  | returned {d : Sync String γ Nat} (reloads : s.reloading = some d) (old : d.old = ∅)
      (new : d.new = ∅) :
      Moves proxyName checked s .returned { s with reloading := none, last := some d.want }
  | lookup (name : String) (fetched : List Nat) :
      Moves proxyName checked s (.lookup name) { s with fetched := fetched }
  | method {l : Label proxyName} {w : Nat} {pxy pxy' : Object γ} {msgs : List ProxyMsg}
      (fetched : List Nat) (found : s.heap[w]? = some pxy) (alike : Alike pxy pxy')
      (quiet : pxy.pw.phase = .closed → pxy'.pw.phase = .closed ∧ msgs = [])
      (other : l.ofReload = false) :
      Moves proxyName checked s l
        (({ s with fetched := fetched } : State γ).update proxyName w pxy' msgs)
  | closeSendCh : Moves proxyName checked s .closeSendCh { s with sendChClosed := true }

theorem checkWorker_quiet {pw : Wrapper} {now health : Nat} (closed : pw.phase = .closed) :
    (pw.checkWorker now health).1.phase = .closed ∧ (pw.checkWorker now health).2 = [] := by
  rcases pw.checkWorker_cases now health with same | ⟨-, other, -⟩ | ⟨running | waiting, -⟩
  · rw [same]
    exact ⟨closed, rfl⟩
  · exact absurd closed other
  · cases closed.symm.trans running
  · cases closed.symm.trans waiting

theorem setRunningStatus_quiet {pw : Wrapper} (closed : pw.phase = .closed)
    (remoteAddr respErr : String) (runErr : Option String) :
    (pw.setRunningStatus remoteAddr respErr runErr).1.phase = .closed ∧
      (pw.setRunningStatus remoteAddr respErr runErr).2.1 = [] := by
  have notWaiting : pw.phase ≠ .waitStart := by
    rw [closed]
    rintro ⟨⟩
  rw [Wrapper.setRunningStatus_ignored notWaiting]
  exact ⟨closed, rfl⟩

theorem step_moves [DecidableEq γ] (next : step proxyName checked s l = some t) :
    Moves proxyName checked s l t := by
  cases l with
  | reload pxyCfgs =>
      simp only [step] at next
      split at next
      · rename_i free
        cases next
        exact .reload pxyCfgs free
      · cases next
  | visit name =>
      simp only [step] at next
      split at next
      · rename_i d w reloads manages
        obtain ⟨visit, next⟩ := Option.ite_none_right_eq_some.1 next
        obtain ⟨pxy, found, rfl⟩ := Option.map_eq_some_iff.1 next
        split
        · rename_i same
          exact .keep reloads manages found visit same
        · rename_i changed
          exact .stop reloads manages found visit changed
      · cases next
  | add name =>
      simp only [step] at next
      split at next
      · rename_i d reloads
        obtain ⟨⟨first, -⟩, next⟩ := Option.ite_none_right_eq_some.1 next
        split at next
        · rename_i cfg w wanted manages
          cases next
          exact .skip reloads first manages
        · rename_i cfg wanted free
          cases next
          exact .add reloads first wanted free
        · cases next
      · cases next
  | returned =>
      simp only [step] at next
      split at next
      · rename_i d reloads
        obtain ⟨⟨old, new⟩, next⟩ := Option.ite_none_right_eq_some.1 next
        cases next
        exact .returned reloads old new
      · cases next
  | lookup name =>
      simp only [step] at next
      split at next
      · cases next
        exact .lookup name _
      · cases next
  | setRunningStatus w remoteAddr respErr runErr =>
      obtain ⟨-, next⟩ := Option.ite_none_right_eq_some.1 next
      obtain ⟨pxy, found, rfl⟩ := Option.map_eq_some_iff.1 next
      exact .method (s.fetched.erase w) found ⟨rfl, rfl, rfl, rfl⟩
        (fun closed => setRunningStatus_quiet closed remoteAddr respErr runErr) rfl
  | observe w now =>
      simp only [step] at next
      split at next
      · rename_i pxy found
        obtain ⟨-, next⟩ := Option.ite_none_right_eq_some.1 next
        cases next
        exact .method s.fetched found ⟨rfl, rfl, rfl, rfl⟩ (fun closed => ⟨closed, rfl⟩) rfl
      · cases next
  | checkWorker w =>
      simp only [step] at next
      split at next
      · rename_i pxy found
        split at next
        · cases next
          exact .method s.fetched found ⟨rfl, rfl, rfl, rfl⟩ checkWorker_quiet rfl
        · cases next
      · cases next
  | exit w | statusNormal w | statusFailed w =>
      simp only [step] at next
      split at next
      · rename_i pxy found
        obtain ⟨-, next⟩ := Option.ite_none_right_eq_some.1 next
        cases next
        exact .method s.fetched found ⟨rfl, rfl, rfl, rfl⟩ (fun closed => ⟨closed, rfl⟩) rfl
      · cases next
  | closeSendCh =>
      cases next
      exact .closeSendCh

theorem Inv.moves (inv : Inv proxyName s) (moves : Moves proxyName checked s l t) :
    Inv proxyName t := by
  cases moves with
  | reload pxyCfgs free => exact inv.reload free pxyCfgs
  | @keep name d w pxy reloads manages found visit same =>
      refine inv.pass reloads rfl rfl ((inv.midway d reloads).sync.keep visit ?_)
      intro v manages'
      cases manages.symm.trans manages'
      exact ⟨pxy.cfg, same, pxy, found, rfl⟩
  | stop reloads manages found visit changed =>
      exact inv.stop reloads manages visit found changed rfl
  | skip reloads first manages =>
      exact inv.pass reloads rfl rfl ((inv.midway _ reloads).sync.skip first manages)
  | add reloads first wanted free => exact inv.add reloads first wanted free
  | returned reloads old new => exact inv.returned reloads old new
  | lookup name fetched => exact inv.fetch fetched
  | method fetched found alike quiet other => exact (inv.fetch fetched).update found alike quiet
  | closeSendCh => exact inv.closeSendCh

/-- What a wrapper sends, if it was not stopped. -/
theorem silent_update {r : State γ} {w : Nat} {pxy pxy' : Object γ} {msgs : List ProxyMsg}
    (same : r.sent = s.sent) (found : s.heap[w]? = some pxy)
    (quiet : pxy.stops ≠ 0 → msgs = []) : Silent s (r.update proxyName w pxy' msgs) := by
  by_cases done : pxy.stops = 0
  · cases closed : r.sendChClosed with
    | true =>
        exact ⟨[], by rw [sent_update_of_closed closed, same, List.append_nil], by rintro m ⟨⟩⟩
    | false =>
        refine ⟨msgs.map fun msg => ⟨w, proxyName pxy'.cfg, msg⟩, ?_, fun m inside => ?_⟩
        · rw [sent_update_of_open closed, same]
        · obtain ⟨msg, -, rfl⟩ := List.mem_map.1 inside
          exact ⟨pxy, found, done⟩
  · rw [quiet done]
    exact ⟨[], by rw [sent_update_nil, same, List.append_nil], by rintro m ⟨⟩⟩

theorem Moves.silent (moves : Moves proxyName checked s l t) (inv : Inv proxyName s) :
    Silent s t := by
  cases moves with
  | @stop name d w pxy reloads manages found visit changed =>
      obtain ⟨pxy', found', -, running⟩ := inv.managed name w manages
      cases found.symm.trans found'
      exact silent_update (by rfl) found fun done => absurd running done
  | @method _ w pxy pxy' msgs fetched found alike quiet other =>
      refine silent_update (by rfl) found fun done => ?_
      have once : pxy.stops = 1 := by
        have := (inv.object w pxy found).1
        omega
      exact (quiet ((inv.object w pxy found).2.2 once)).2
  | _ => exact ⟨[], (List.append_nil _).symm, by rintro m ⟨⟩⟩

/-- A step of a `Reload` that was given what there is. -/
theorem Moves.repeated {d : Sync String γ Nat} (moves : Moves proxyName checked s l t)
    (inv : Inv proxyName s) (ofReload : l.ofReload = true) (reloads : s.reloading = some d)
    (last : s.last = some d.want) : t = { s with reloading := t.reloading } := by
  have agree := inv.last d.want last fun d' reloads' => by
    cases reloads.symm.trans reloads'
    rfl
  cases moves with
  | keep | skip => rfl
  | @stop name d' w pxy reloads' manages found visit changed =>
      cases reloads.symm.trans reloads'
      obtain ⟨cfg, wanted, fits⟩ := agree.1 name w manages
      rw [← (fits_iff found cfg).1 fits] at wanted
      exact absurd wanted changed
  | @add name d' cfg reloads' first wanted free =>
      cases reloads.symm.trans reloads'
      obtain ⟨w, manages⟩ := agree.2 name cfg wanted
      cases free.symm.trans manages
  | @returned d' reloads' old new =>
      cases reloads.symm.trans reloads'
      show ({ s with reloading := none, last := some d.want } : State γ) =
        { s with reloading := none }
      rw [← last]
  | method fetched found alike quiet other => cases ofReload.symm.trans other
  | reload | lookup | closeSendCh => cases ofReload

theorem Moves.kept (moves : Moves proxyName checked s l t) (inv : Inv proxyName s) :
    Kept proxyName s l t where
  once := by
    have after := inv.moves moves
    exact fun w pxy found => ⟨(after.object w pxy found).1, after.final w pxy found⟩
  silent := moves.silent inv
  converged := by
    rintro d rfl reloads
    cases moves with
    | returned reloads' old new =>
        cases reloads.symm.trans reloads'
        exact inv.converged reloads old new _
    | method fetched found alike quiet other => cases other
  repeated := fun _ ofReload reloads last => moves.repeated inv ofReload reloads last

end Moves

/-! ## Every run -/

section Runs

variable {γ : Type u} [DecidableEq γ]

/-- Proxies follow the configurations. -/
theorem proxies_follow (proxyName : γ → String) (checked : γ → Bool)
    (ls : List (Label proxyName)) :
    Along (step proxyName checked) (Kept proxyName) newManager ls := by
  have free : Along (step proxyName checked) (fun _ _ _ => True) newManager ls :=
    along_of_forall (fun _ _ _ => trivial) newManager ls
  have kept : ∀ s l t, Inv proxyName s → True → step proxyName checked s l = some t →
      Inv proxyName t := fun _ _ _ inv _ next => inv.moves (step_moves next)
  exact free.strengthen (Inv proxyName) kept
    (fun _ _ _ inv _ next => (step_moves next).kept inv) start_inv

end Runs

/-- **Both managers converge**: in every run of `Reload` with the workers, the answers of the
server, the health checks and the end of the connection, and of `Reload` with the ticks. -/
theorem reload_converges {γ : Type u} {δ : Type v} [DecidableEq γ] [DecidableEq δ]
    (proxyName : γ → String) (checked : γ → Bool) (visitorName : δ → String)
    (ls : List (Label proxyName)) (ms : List (VisitorManager.Label visitorName)) :
    Along (step proxyName checked) (Kept proxyName) newManager ls ∧
      Along (VisitorManager.step visitorName) (VisitorManager.Kept visitorName)
        VisitorManager.start ms :=
  ⟨proxies_follow proxyName checked ls, VisitorManager.visitors_follow ms⟩

/-! ## The channel is closed -/

/-- One proxy, whose configuration is its name. -/
def onlyWeb : Configs (@id String) where
  map := GoMap.set ∅ "web" "web"
  keyed := by
    intro name cfg found
    rcases GoMap.get_set_eq_some.1 found with ⟨rfl, rfl⟩ | ⟨-, found⟩
    · rfl
    · rw [GoMap.get_empty] at found
      cases found

def noProxy : Configs (@id String) where
  map := ∅
  keyed := by
    intro name cfg found
    rw [GoMap.get_empty] at found
    cases found

/-- The connection is lost, and the proxy is removed. -/
def lostBeforeReload : List (Label (@id String)) :=
  [.reload onlyWeb, .add "web", .returned, .closeSendCh, .reload noProxy, .visit "web"]

theorem close_not_sent :
    ¬ Along (step (@id String) fun _ => false)
      (fun _ l t => l = .returned → ∀ (w : Nat) (pxy : Object String), t.heap[w]? = some pxy →
        pxy.stops = 1 → ⟨w, pxy.cfg, .closeProxy⟩ ∈ t.sent)
      newManager (lostBeforeReload ++ [.returned]) := by
  have run : (exec (step (@id String) fun _ => false) newManager
      (lostBeforeReload ++ [.returned])).map
        (fun t => (t.heap.map Object.stops, t.sent)) = some ([1], []) := by
    decide +kernel
  obtain ⟨t, done, found⟩ := Option.map_eq_some_iff.1 run
  simp only [Prod.mk.injEq] at found
  obtain ⟨stops, sent⟩ := found
  obtain ⟨pxy, heap, stopped_⟩ := List.map_eq_singleton_iff.1 stops
  obtain ⟨s, first, last⟩ := exec_append_eq_some.1 done
  obtain ⟨t', next, same⟩ := exec_cons_eq_some.1 last
  cases same
  intro along
  have told := (along.of_append first t next).1 rfl 0 pxy (by rw [heap]; rfl) stopped_
  rw [sent] at told
  cases told

end ChmlFrp.Client.ProxyManager
