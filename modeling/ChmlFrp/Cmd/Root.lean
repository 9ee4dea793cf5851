/-
# ChmlFrp.Cmd.Root — frpc waits for its clients

`cmd/frpc/sub/root.go`: `rootCmd` runs one client, or with `runMultipleClients` one for every
file of a directory, and then waits for them with a `sync.WaitGroup`.

The counter goes up once for each file.  It goes down in a deferred call of `runClient` and
in another one of the goroutine that calls it; in the path of a single client it never goes
up.  A counter below zero panics, so no step follows it.

* `Kept`: as long as no goroutine has come to its own `Done`, the counter is the number of
  clients that have not returned;
* `Late`: after that it is less, and the clients' own `Done`s bring it below zero;
* `clients_waited_for_iff`: the two together, and the starts from which nothing goes wrong.
-/
import ChmlFrp.Lib.Transition
import ChmlFrp.Lib.GoMap
import ChmlFrp.Lib.GoString

namespace ChmlFrp.Cmd

set_option autoImplicit false

open ChmlFrp.Lib
open ChmlFrp.Lib.Transition

/-! ## The command -/

/-- A call of the function that `filepath.WalkDir` is given. -/
structure Entry where
  path : GoString
  err : Bool
  isDir : Bool

def Entry.skipped (e : Entry) : Bool := e.err || e.isDir

structure Flags where
  showVersion : Bool
  cfgDir : GoString
  cfgToken : GoString
  cfgProxyid : GoString
  cfgFile : GoString

/-- What the command asks of the system and of the API. -/
structure World where
  walkDir : GoString → List Entry
  ezStartGetCfg : GoString → GoString → Option GoString
  /-- Open the file and write it. -/
  writeCfg : GoString → GoString → Bool

inductive Start where
  | multiple (entries : List Entry)
  | single (cfgFile : GoString)

def comma : UInt8 := 44

def ids (cfgProxyid : GoString) : List GoString :=
  if GoString.contains cfgProxyid [comma] then GoString.split cfgProxyid comma else [cfgProxyid]

/-- `none` says that the command ends without a client. -/
def rootCmd (flags : Flags) (world : World) : Option Start :=
  if flags.showVersion then none
  else if flags.cfgDir ≠ [] then some (.multiple (world.walkDir flags.cfgDir))
  else if flags.cfgToken ≠ [] ∧ flags.cfgProxyid ≠ [] then
    match world.ezStartGetCfg flags.cfgToken (GoString.join (ids flags.cfgProxyid) comma) with
    | none => none
    | some cfg =>
        if world.writeCfg flags.cfgFile cfg then some (.single flags.cfgFile) else none
  else some (.single flags.cfgFile)

/-! ## The clients and the wait group -/

/-- Where a call of `runClient` is, or the goroutine that called it. -/
inductive Phase where
  | parsing
  | serving
  /-- The result is set and the deferred `Done` of `runClient` is next. -/
  | returning (err : Bool)
  /-- `runClient` has returned, and the goroutine's own `Done` is next. -/
  | back (err : Bool)

structure Client where
  path : GoString
  phase : Phase

inductive Main where
  | walking (rest : List Entry)
  | waiting
  /-- `Wait` has been let go. -/
  | released
  | returned
  /-- In `runClient` itself. -/
  | inline

structure State where
  counter : Int
  main : Main
  clients : GoMap Nat Client
  next : Nat
  /-- The files that an error was printed for. -/
  printed : List GoString

def start : Start → State
  | .multiple entries => ⟨0, .walking entries, ∅, 0, []⟩
  | .single cfgFile => ⟨0, .inline, GoMap.set ∅ 0 ⟨cfgFile, .parsing⟩, 1, []⟩

/-- What a client does next; `err` says whether `ParseClientConfig` or the service failed. -/
inductive Act where
  | parsed (err : Bool)
  | served (err : Bool)
  /-- The deferred `Done` of `runClient`, with which it returns. -/
  | doneClient
  /-- The deferred `Done` of the goroutine. -/
  | doneOwn

inductive Label where
  | visit
  | wait
  | wake
  | client (i : Nat) (act : Act)

/-- `Wait` is let go, if `rootCmd` is in it. -/
def Main.letGo : Main → Main
  | .walking rest => .walking rest
  | .waiting | .released => .released
  | .returned => .returned
  | .inline => .inline

/-- `wg.Done` -/
def State.done (s : State) : State :=
  { s with
    counter := s.counter - 1
    main := if s.counter - 1 = 0 then s.main.letGo else s.main }

def State.put (s : State) (i : Nat) (c : Client) (phase : Phase) : State :=
  { s with clients := s.clients.set i { c with phase := phase } }

/-- The call of `runClient` in `rootCmd` returns. -/
def State.back (s : State) (i : Nat) (c : Client) (err : Bool) : State :=
  match s.main with
  | .inline => { s with clients := s.clients.delete i, main := .returned }
  | _ => s.put i c (.back err)

def clientStep (s : State) (i : Nat) (c : Client) : Act → Phase → Option State
  | .parsed err, .parsing => some (s.put i c (if err then .returning true else .serving))
  | .served err, .serving => some (s.put i c (.returning err))
  | .doneClient, .returning err => some (s.back i c err).done
  | .doneOwn, .back err =>
      some { s with
        clients := s.clients.delete i
        printed := if err then s.printed ++ [c.path] else s.printed }.done
  | _, _ => none

/-- After a panic there is no step. -/
def step (s : State) (l : Label) : Option State :=
  if s.counter < 0 then none
  else
    match l with
    | .visit =>
        match s.main with
        | .walking (e :: rest) =>
            if e.skipped then some { s with main := .walking rest }
            else some { s with
              counter := s.counter + 1
              main := .walking rest
              clients := s.clients.set s.next ⟨e.path, .parsing⟩
              next := s.next + 1 }
        | _ => none
    | .wait =>
        match s.main with
        | .walking [] => some { s with main := if s.counter = 0 then .returned else .waiting }
        | _ => none
    | .wake =>
        match s.main with
        | .released => some { s with main := .returned }
        | _ => none
    | .client i act => (s.clients.get i).bind fun c => clientStep s i c act c.phase

inductive Moves (s : State) : Label → State → Prop
  | skip {e : Entry} {rest : List Entry} (main : s.main = .walking (e :: rest))
      (skipped : e.skipped = true) : Moves s .visit { s with main := .walking rest }
  | add {e : Entry} {rest : List Entry} (main : s.main = .walking (e :: rest))
      (file : e.skipped = false) :
      Moves s .visit { s with
        counter := s.counter + 1
        main := .walking rest
        clients := s.clients.set s.next ⟨e.path, .parsing⟩
        next := s.next + 1 }
  | wait (main : s.main = .walking []) :
      Moves s .wait { s with main := if s.counter = 0 then .returned else .waiting }
  | wake (main : s.main = .released) : Moves s .wake { s with main := .returned }
  | parsed {i : Nat} {c : Client} (here : s.clients.get i = some c) (at_ : c.phase = .parsing)
      (err : Bool) :
      Moves s (.client i (.parsed err)) (s.put i c (if err then .returning true else .serving))
  | served {i : Nat} {c : Client} (here : s.clients.get i = some c) (at_ : c.phase = .serving)
      (err : Bool) : Moves s (.client i (.served err)) (s.put i c (.returning err))
  | doneClient {i : Nat} {c : Client} {err : Bool} (here : s.clients.get i = some c)
      (at_ : c.phase = .returning err) : Moves s (.client i .doneClient) (s.back i c err).done
  | doneOwn {i : Nat} {c : Client} {err : Bool} (here : s.clients.get i = some c)
      (at_ : c.phase = .back err) :
      Moves s (.client i .doneOwn) { s with
        clients := s.clients.delete i
        printed := if err then s.printed ++ [c.path] else s.printed }.done

variable {s t : State} {l : Label}

theorem clientStep_moves {i : Nat} {c : Client} {act : Act} (here : s.clients.get i = some c)
    (next : clientStep s i c act c.phase = some t) : Moves s (.client i act) t := by
  cases act with
  | parsed err =>
      cases at_ : c.phase with
      | parsing =>
          rw [at_] at next
          cases next
          exact .parsed here at_ err
      | _ =>
          rw [at_] at next
          cases next
  | served err =>
      cases at_ : c.phase with
      | serving =>
          rw [at_] at next
          cases next
          exact .served here at_ err
      | _ =>
          rw [at_] at next
          cases next
  | doneClient =>
      cases at_ : c.phase with
      | returning err =>
          rw [at_] at next
          cases next
          exact .doneClient here at_
      | _ =>
          rw [at_] at next
          cases next
  | doneOwn =>
      cases at_ : c.phase with
      | back err =>
          rw [at_] at next
          cases next
          exact .doneOwn here at_
      | _ =>
          rw [at_] at next
          cases next

theorem step_moves (next : step s l = some t) : 0 ≤ s.counter ∧ Moves s l t := by
  unfold step at next
  split at next
  · cases next
  · rename_i alive
    refine ⟨by omega, ?_⟩
    cases l with
    | visit =>
        dsimp only at next
        split at next
        · rename_i e rest main
          split at next
          · rename_i skipped
            cases next
            exact .skip main skipped
          · rename_i file
            cases next
            exact .add main (by simpa using file)
        · cases next
    | wait =>
        dsimp only at next
        split at next
        · rename_i main
          cases next
          exact .wait main
        · cases next
    | wake =>
        dsimp only at next
        split at next
        · rename_i main
          cases next
          exact .wake main
        · cases next
    | client i act =>
        obtain ⟨c, here, next⟩ := Option.bind_eq_some_iff.1 next
        exact clientStep_moves here next

/-! ## The counter -/

/-- One for a client whose `runClient` has not returned. -/
def Phase.running : Phase → Int
  | .back _ => 0
  | _ => 1

def State.running (s : State) : Int := s.clients.total fun c => c.phase.running

/-- The counter is not negative, and `Wait` does not return before the clients. -/
structure WaitsForAll (s : State) : Prop where
  nonneg : 0 ≤ s.counter
  waited : s.main = .returned → ∀ i c, s.clients.get i = some c → c.phase.running = 0

/-- No goroutine comes to its own `Done`, and `runClient` does not return to `rootCmd`. -/
def Guard (s : State) : Label → Prop
  | .client _ .doneOwn => False
  | .client _ .doneClient => s.main ≠ .inline
  | _ => True

/-- `Wait` has been let go or has returned. -/
def Main.Past (m : Main) : Prop := m = .released ∨ m = .returned

inductive Way (s : State) : Prop
  | alone (main : s.main = .inline) (zero : s.counter = 0)
      (none_ : ∀ i c, s.clients.get i = some c → c.phase.running = 1)
  | counts (main : s.main ≠ .inline) (count : s.counter = s.running)
      (past : s.main.Past → s.running = 0)

structure Kept (s : State) : Prop where
  fresh : ∀ i, s.next ≤ i → s.clients.get i = none
  way : Way s

theorem Phase.running_nonneg (p : Phase) : 0 ≤ p.running := by cases p <;> simp [running]

theorem State.running_nonneg (s : State) : 0 ≤ s.running :=
  GoMap.total_nonneg fun c => c.phase.running_nonneg

theorem State.running_le {i : Nat} {c : Client} (here : s.clients.get i = some c) :
    c.phase.running ≤ s.running :=
  GoMap.le_total (fun c => c.phase.running_nonneg) here

theorem running_put {i : Nat} {c : Client} (here : s.clients.get i = some c) (p : Phase) :
    (s.put i c p).running = s.running - c.phase.running + p.running := by
  unfold State.running State.put
  dsimp only
  rw [GoMap.total_set, here, GoMap.part_some]

@[simp] theorem done_counter (s : State) : s.done.counter = s.counter - 1 := rfl

@[simp] theorem done_running (s : State) : s.done.running = s.running := rfl

theorem done_inline : s.done.main = .inline ↔ s.main = .inline := by
  unfold State.done
  dsimp only
  split
  · cases s.main <;> simp [Main.letGo]
  · rfl

theorem done_past (past : s.done.main.Past) : s.counter - 1 = 0 ∨ s.main.Past := by
  unfold State.done at past
  dsimp only at past
  split at past
  · rename_i zero
    exact .inl zero
  · exact .inr past

theorem back_eq {i : Nat} {c : Client} {err : Bool} (main : s.main ≠ .inline) :
    s.back i c err = s.put i c (.back err) := by
  unfold State.back
  split
  · rename_i inline
    exact absurd inline main
  · rfl

theorem Kept.waitsForAll (kept : Kept s) : WaitsForAll s := by
  cases kept.way with
  | alone main zero _ =>
      refine ⟨by omega, fun returned => ?_⟩
      rw [main] at returned
      cases returned
  | counts _ count past =>
      have nonneg := s.running_nonneg
      refine ⟨by omega, fun returned i c here => ?_⟩
      have none_ := past (.inr returned)
      have le := State.running_le here
      have atLeast := c.phase.running_nonneg
      omega

theorem start_kept (how : Start) : Kept (start how) := by
  cases how with
  | multiple entries =>
      refine ⟨fun i _ => GoMap.get_empty i, .counts (fun main => ?_) rfl fun past => ?_⟩
      · cases main
      · rfl
  | single cfgFile =>
      refine ⟨fun i le => ?_, .alone rfl rfl fun i c here => ?_⟩
      · have other : i ≠ 0 := by
          have le : 1 ≤ i := le
          omega
        exact (GoMap.get_set _ 0 i _).trans (if_neg other)
      · rcases GoMap.get_set_eq_some.1 here with ⟨-, rfl⟩ | ⟨-, here⟩
        · rfl
        · rw [GoMap.get_empty] at here
          cases here

/-- A client goes on in `runClient`. -/
theorem Kept.put {i : Nat} {c : Client} {p : Phase} (kept : Kept s)
    (here : s.clients.get i = some c) (before : c.phase.running = 1) (after : p.running = 1) :
    Kept (s.put i c p) where
  fresh := fun j le => GoMap.get_set_eq_none here (kept.fresh j le)
  way := by
    have same : (s.put i c p).running = s.running := by
      rw [running_put here, before, after]
      omega
    cases kept.way with
    | alone main zero none_ =>
        refine .alone main zero fun j d there => ?_
        rcases GoMap.get_set_eq_some.1 there with ⟨-, rfl⟩ | ⟨-, there⟩
        · exact after
        · exact none_ j d there
    | counts main count past =>
        exact .counts main (count.trans same.symm) fun gone => same.trans (past gone)

theorem Kept.moves (kept : Kept s) (guarded : Guard s l) (moves : Moves s l t) : Kept t := by
  cases moves with
  | skip main skipped =>
      refine ⟨kept.fresh, ?_⟩
      cases kept.way with
      | alone inline _ _ => cases main.symm.trans inline
      | counts _ count _ => exact .counts (by simp) count (by simp [Main.Past])
  | @add e rest main file =>
      refine ⟨fun i le => ?_, ?_⟩
      · dsimp only at le ⊢
        rw [GoMap.get_set, if_neg (by omega)]
        exact kept.fresh i (by omega)
      · cases kept.way with
        | alone inline _ _ => cases main.symm.trans inline
        | counts _ count _ =>
            refine .counts (by simp) ?_ (by simp [Main.Past])
            have more := GoMap.total_set_of_none (kept.fresh s.next (Nat.le_refl _))
              ⟨e.path, .parsing⟩ fun c : Client => c.phase.running
            unfold State.running at count ⊢
            dsimp only
            rw [more, count]
            rfl
  | wait main =>
      refine ⟨kept.fresh, ?_⟩
      cases kept.way with
      | alone inline _ _ => cases main.symm.trans inline
      | counts _ count _ =>
          refine .counts ?_ count fun past => ?_
          · dsimp only
            split <;> simp
          · dsimp only at past
            split at past
            · rename_i zero
              exact count.symm.trans zero
            · simp [Main.Past] at past
  | wake main =>
      refine ⟨kept.fresh, ?_⟩
      cases kept.way with
      | alone inline _ _ => cases main.symm.trans inline
      | counts _ count past => exact .counts (by simp) count fun _ => past (.inl main)
  | parsed here at_ err =>
      refine kept.put here (by rw [at_]; rfl) ?_
      cases err <;> rfl
  | served here at_ err => exact kept.put here (by rw [at_]; rfl) rfl
  | @doneClient i c err here at_ =>
      rw [back_eq guarded]
      refine ⟨fun j le => GoMap.get_set_eq_none here (kept.fresh j le), ?_⟩
      have less : (s.put i c (.back err)).running = s.running - 1 := by
        rw [running_put here, at_]
        simp [Phase.running]
      have some_ := State.running_le here
      rw [at_] at some_
      cases kept.way with
      | alone inline _ _ => exact absurd inline guarded
      | counts main count past =>
          refine .counts (fun inline => main (done_inline.1 inline)) ?_ fun gone => ?_
          · rw [done_counter, done_running, less, ← count]
            rfl
          · rw [done_running, less]
            rcases done_past gone with zero | gone
            · rw [← count]
              exact zero
            · rw [past gone] at some_
              simp [Phase.running] at some_
  | doneOwn here at_ => cases guarded

/-! ## After the first `Done` too many -/

/-- More has been taken from the counter than clients have returned. -/
structure Late (s : State) : Prop where
  main : s.main ≠ .inline
  less : s.counter < s.running

def Phase.left : Phase → Int
  | .parsing => 3
  | .serving => 2
  | .returning _ => 1
  | .back _ => 0

def State.left (s : State) : Nat := (s.clients.total fun c => c.phase.left).toNat

theorem Phase.left_nonneg (p : Phase) : 0 ≤ p.left := by cases p <;> simp [left]

theorem left_put {i : Nat} {c : Client} {p : Phase} (here : s.clients.get i = some c)
    (less : p.left < c.phase.left) : (s.put i c p).left < s.left :=
  GoMap.total_set_lt (fun c => c.phase.left_nonneg) here less

def Main.rest : Main → List Entry
  | .walking rest => rest
  | _ => []

theorem done_rest (s : State) : s.done.main.rest = s.main.rest := by
  unfold State.done
  dsimp only
  split
  · cases s.main <;> rfl
  · rfl

/-- A client has gone on in `runClient` or has returned with the `Done` that is its due. -/
structure Goes (s t : State) : Prop where
  main : t.main ≠ .inline
  rest : t.main.rest = s.main.rest
  less : t.left < s.left
  same : t.counter - t.running = s.counter - s.running
  there : ∃ i c, t.clients.get i = some c

theorem goes_put {i : Nat} {c : Client} {p : Phase} (main : s.main ≠ .inline)
    (here : s.clients.get i = some c) (less : p.left < c.phase.left)
    (same : p.running = c.phase.running) : Goes s (s.put i c p) where
  main := main
  rest := rfl
  less := left_put here less
  same := by
    rw [running_put here, same]
    show s.counter - _ = _
    omega
  there := ⟨i, _, (GoMap.get_set s.clients i i { c with phase := p }).trans (if_pos rfl)⟩

theorem goes_done {i : Nat} {c : Client} {p : Phase} (main : s.main ≠ .inline)
    (here : s.clients.get i = some c) (less : p.left < c.phase.left)
    (one : p.running = c.phase.running - 1) : Goes s (s.put i c p).done where
  main := fun inline => main (done_inline.1 inline)
  rest := done_rest _
  less := left_put here less
  same := by
    rw [done_counter, done_running, running_put here, one]
    show s.counter - 1 - _ = _
    omega
  there := ⟨i, _, (GoMap.get_set s.clients i i { c with phase := p }).trans (if_pos rfl)⟩

/-- A client that has not returned can go on. -/
theorem client_goes_on {i : Nat} {c : Client} (alive : 0 ≤ s.counter) (main : s.main ≠ .inline)
    (here : s.clients.get i = some c) (running : c.phase.running = 1) :
    ∃ l t, Guard s l ∧ step s l = some t ∧ Goes s t := by
  have alive : ¬ s.counter < 0 := by omega
  cases at_ : c.phase with
  | parsing =>
      have next : step s (.client i (.parsed false)) = some (s.put i c .serving) := by
        simp [step, alive, here, clientStep, at_]
      have goes := goes_put main here (p := .serving) (by rw [at_]; decide) (by rw [at_]; rfl)
      exact ⟨.client i (.parsed false), _, trivial, next, goes⟩
  | serving =>
      have next : step s (.client i (.served false)) = some (s.put i c (.returning false)) := by
        simp [step, alive, here, clientStep, at_]
      have goes := goes_put main here (p := .returning false) (by rw [at_]; decide)
        (by rw [at_]; rfl)
      exact ⟨.client i (.served false), _, trivial, next, goes⟩
  | returning err =>
      have next : step s (.client i .doneClient) = some (s.put i c (.back err)).done := by
        simp [step, alive, here, clientStep, at_, back_eq main]
      have less : (Phase.back err).left < c.phase.left := by simp [at_, Phase.left]
      have one : (Phase.back err).running = c.phase.running - 1 := by simp [at_, Phase.running]
      exact ⟨.client i .doneClient, _, main, next, goes_done main here less one⟩
  | back err =>
      rw [at_] at running
      cases running

theorem Phase.running_eq_one {p : Phase} (some_ : p.running ≠ 0) : p.running = 1 := by
  cases p with
  | back _ => exact absurd rfl some_
  | _ => rfl

theorem Late.breaks (late : Late s) : CanReach step (fun t => ¬ WaitsForAll t) s := by
  refine canReach_of_measure Late State.left ?_ late
  intro u late good
  have good : WaitsForAll u := Classical.not_not.1 good
  have less := late.less
  have alive := good.nonneg
  rcases u.clients.total_zero_or fun c => c.phase.running with zero | ⟨i, c, here, running⟩
  · have zero : u.running = 0 := zero
    omega
  · have running : c.phase.running = 1 := Phase.running_eq_one running
    obtain ⟨l, v, -, next, goes⟩ := client_goes_on alive late.main here running
    have same := goes.same
    exact ⟨l, v, next, ⟨goes.main, by omega⟩, goes.less⟩

/-- The goroutine's own `Done` is one too many. -/
theorem Kept.breaks (kept : Kept s) (breaks : ¬ Guard s l) (next : step s l = some t) :
    CanReach step (fun u => ¬ WaitsForAll u) t := by
  obtain ⟨-, moves⟩ := step_moves next
  cases moves with
  | @doneClient i c err here at_ =>
      have inline : s.main = .inline := Classical.not_not.1 breaks
      apply CanReach.here
      intro good
      have alive := good.nonneg
      rw [done_counter] at alive
      cases kept.way with
      | counts main _ _ => exact main inline
      | alone _ zero _ =>
          have same : (s.back i c err).counter = s.counter := by
            unfold State.back
            rw [inline]
          omega
  | @doneOwn i c err here at_ =>
      apply Late.breaks
      cases kept.way with
      | alone _ _ none_ =>
          have running := none_ i c here
          rw [at_] at running
          cases running
      | counts main count _ =>
          refine ⟨fun inline => main (done_inline.1 inline), ?_⟩
          rw [done_counter, done_running]
          have same := GoMap.total_delete_of_some here fun c : Client => c.phase.running
          have none_ : c.phase.running = 0 := by rw [at_]; rfl
          unfold State.running at count ⊢
          dsimp only at same ⊢
          omega
  | _ => exact absurd trivial breaks

/-! ## All runs -/

/-- A goroutine has come to its own `Done`. -/
def AtOwn (s : State) : Prop :=
  Kept s ∧ ∃ i c err, s.clients.get i = some c ∧ c.phase = .back err

theorem AtOwn.breaks (at_ : AtOwn s) : CanReach step (fun t => ¬ WaitsForAll t) s := by
  obtain ⟨kept, i, c, err, here, back⟩ := at_
  have alive : ¬ s.counter < 0 := by
    have alive := kept.waitsForAll.nonneg
    omega
  have next : step s (.client i .doneOwn) = some { s with
      clients := s.clients.delete i
      printed := if err then s.printed ++ [c.path] else s.printed }.done := by
    simp [step, alive, here, clientStep, back]
  have own : ¬ Guard s (.client i .doneOwn) := fun guarded => guarded
  exact .of_step next (kept.breaks own next)

theorem Kept.after (kept : Kept s) (guarded : Guard s l) (next : step s l = some t) : Kept t :=
  kept.moves guarded (step_moves next).2

/-- There is a client, or there will be one, and nothing is wrong yet. -/
structure Busy (s : State) : Prop where
  kept : Kept s
  main : s.main ≠ .inline
  some_ : (∃ i c, s.clients.get i = some c) ∨ ∃ e ∈ s.main.rest, e.skipped = false

def State.ahead (s : State) : Nat := s.left + 4 * s.main.rest.length

theorem Busy.client (busy : Busy s) {i : Nat} {c : Client} (here : s.clients.get i = some c)
    (running : c.phase.running = 1) :
    ∃ l t, step s l = some t ∧ Busy t ∧ t.ahead < s.ahead := by
  obtain ⟨l, t, guarded, next, goes⟩ :=
    client_goes_on busy.kept.waitsForAll.nonneg busy.main here running
  refine ⟨l, t, next, ⟨busy.kept.after guarded next, goes.main, .inl goes.there⟩, ?_⟩
  unfold State.ahead
  rw [goes.rest]
  exact Nat.add_lt_add_right goes.less _

theorem Busy.visit (busy : Busy s) (file : ∃ e ∈ s.main.rest, e.skipped = false) :
    ∃ l t, step s l = some t ∧ Busy t ∧ t.ahead < s.ahead := by
  have alive := busy.kept.waitsForAll.nonneg
  have alive' : ¬ s.counter < 0 := by omega
  obtain ⟨f, mem, file⟩ := file
  cases main : s.main with
  | walking rest =>
      rw [main] at mem
      cases rest with
      | nil => cases mem
      | cons e rest =>
          cases skipped : e.skipped with
          | true =>
              have next : step s .visit = some { s with main := .walking rest } := by
                simp [step, alive', main, skipped]
              have later : f ∈ rest := by
                rcases List.mem_cons.1 mem with rfl | later
                · rw [file] at skipped
                  cases skipped
                · exact later
              have kept := busy.kept.after (l := .visit) trivial next
              refine ⟨.visit, _, next, ⟨kept, by simp, ?_⟩, ?_⟩
              · exact .inr ⟨f, later, file⟩
              · simp only [State.ahead, main, Main.rest, List.length_cons]
                show s.left + _ < _
                omega
          | false =>
              have next : step s .visit = some { s with
                  counter := s.counter + 1
                  main := .walking rest
                  clients := s.clients.set s.next ⟨e.path, .parsing⟩
                  next := s.next + 1 } := by
                simp [step, alive', main, skipped]
              have there := (GoMap.get_set s.clients s.next s.next ⟨e.path, .parsing⟩).trans
                (if_pos rfl)
              have kept := busy.kept.after (l := .visit) trivial next
              refine ⟨.visit, _, next, ⟨kept, by simp, ?_⟩, ?_⟩
              · exact .inl ⟨s.next, _, there⟩
              · have more := GoMap.total_set_of_none (busy.kept.fresh s.next (Nat.le_refl _))
                  ⟨e.path, .parsing⟩ fun c : Client => c.phase.left
                have three : Phase.parsing.left = 3 := rfl
                simp only [State.ahead, State.left, main, Main.rest, List.length_cons]
                dsimp only at more
                omega
  | _ =>
      rw [main] at mem
      cases mem

/-- Some client comes to the end of its `runClient`. -/
theorem Busy.comes_back (busy : Busy s) : CanReach step AtOwn s := by
  refine canReach_of_measure Busy State.ahead ?_ busy
  intro u busy other
  rcases busy.some_ with ⟨i, c, here⟩ | file
  · have running : c.phase.running = 1 := by
      cases at_ : c.phase with
      | back err => exact absurd ⟨busy.kept, i, c, err, here, at_⟩ other
      | _ => rfl
    exact busy.client here running
  · exact busy.visit file

/-- From these starts no client is ever run. -/
def Start.Idle : Start → Prop
  | .multiple entries => ∀ e ∈ entries, e.skipped = true
  | .single _ => False

/-- Without a file there is no client, and so no `Done`. -/
structure Quiet (s : State) : Prop where
  clients : ∀ i, s.clients.get i = none
  rest : ∀ e ∈ s.main.rest, e.skipped = true

theorem Quiet.moves (quiet : Quiet s) (moves : Moves s l t) : Guard s l ∧ Quiet t := by
  cases moves with
  | skip main _ =>
      refine ⟨trivial, quiet.clients, fun e mem => quiet.rest e ?_⟩
      rw [main]
      exact List.mem_cons_of_mem _ mem
  | @add e rest main file =>
      have skipped := quiet.rest e (by rw [main]; exact List.mem_cons_self)
      rw [file] at skipped
      cases skipped
  | wait main =>
      refine ⟨trivial, quiet.clients, fun e mem => ?_⟩
      dsimp only at mem
      split at mem <;> cases mem
  | wake main =>
      refine ⟨trivial, quiet.clients, fun e mem => ?_⟩
      cases mem
  | parsed here _ _ => cases (quiet.clients _).symm.trans here
  | served here _ _ => cases (quiet.clients _).symm.trans here
  | doneClient here _ => cases (quiet.clients _).symm.trans here
  | doneOwn here _ => cases (quiet.clients _).symm.trans here

theorem Quiet.along (quiet : Quiet s) (ls : List Label) :
    Along step (fun s l _ => Guard s l) s ls := by
  have free : Along step (fun _ _ _ => True) s ls := along_of_forall (fun _ _ _ => trivial) s ls
  refine free.strengthen Quiet ?_ ?_ quiet
  · intro s l t quiet _ next
    exact (quiet.moves (step_moves next).2).2
  · intro s l t quiet _ next
    exact (quiet.moves (step_moves next).2).1

theorem waited_for_and_tight (how : Start) (ls : List Label) :
    (Along step (fun s l _ => Guard s l) (start how) ls →
      Along step (fun _ _ t => WaitsForAll t) (start how) ls) ∧
      ∀ s l t, Along step (fun s l _ => Guard s l) (start how) ls →
        exec step (start how) ls = some s → ¬ Guard s l → step s l = some t →
          ∃ more, ¬ Along step (fun _ _ t => WaitsForAll t) (start how) (ls ++ l :: more) := by
  refine strengthen_and_tight Kept ?_ ?_ ?_ (start_kept how) ls
  · intro s l t kept guarded next
    exact kept.after guarded next
  · intro s l t kept guarded next
    exact (kept.after guarded next).waitsForAll
  · intro s l t kept breaks next
    exact not_along_of_canReach next (kept.breaks breaks next)

theorem single_breaks (cfgFile : GoString) :
    CanReach step (fun t => ¬ WaitsForAll t) (start (.single cfgFile)) := by
  obtain ⟨t, run, counter⟩ : ∃ t, exec step (start (.single cfgFile))
      [.client 0 (.parsed false), .client 0 (.served false), .client 0 .doneClient] = some t ∧
        t.counter = -1 := ⟨_, rfl, rfl⟩
  refine ⟨_, t, run, fun good => ?_⟩
  have alive := good.nonneg
  omega

theorem multiple_breaks {entries : List Entry} (file : ∃ e ∈ entries, e.skipped = false) :
    CanReach step (fun t => ¬ WaitsForAll t) (start (.multiple entries)) := by
  have busy : Busy (start (.multiple entries)) := by
    refine ⟨start_kept _, fun inline => ?_, .inr file⟩
    cases inline
  exact busy.comes_back.trans fun t at_ => at_.breaks

/-- **In a run of frpc the counter is never negative and `Wait` returns after all clients, as
long as no goroutine comes to its own `Done` and `runClient` does not return to `rootCmd`; and
never after one did.  Nothing of that happens only where there is no file to run.** -/
theorem clients_waited_for_iff (how : Start) :
    (∀ ls,
      (Along step (fun s l _ => Guard s l) (start how) ls →
        Along step (fun _ _ t => WaitsForAll t) (start how) ls) ∧
        ∀ s l t, Along step (fun s l _ => Guard s l) (start how) ls →
          exec step (start how) ls = some s → ¬ Guard s l → step s l = some t →
            ∃ more, ¬ Along step (fun _ _ t => WaitsForAll t) (start how) (ls ++ l :: more)) ∧
      ((∀ ls, Along step (fun _ _ t => WaitsForAll t) (start how) ls) ↔ how.Idle) := by
  refine ⟨waited_for_and_tight how, ?_⟩
  constructor
  · intro all
    cases how with
    | single cfgFile =>
        obtain ⟨ls, bad⟩ := exists_not_along (start_kept _).waitsForAll (single_breaks cfgFile)
        exact bad (all ls)
    | multiple entries =>
        intro e mem
        by_contra file
        have breaks := multiple_breaks ⟨e, mem, by simpa using file⟩
        obtain ⟨ls, bad⟩ := exists_not_along (start_kept _).waitsForAll breaks
        exact bad (all ls)
  · intro idle ls
    cases how with
    | single _ => exact absurd idle id
    | multiple entries =>
        have quiet : Quiet (start (.multiple entries)) := ⟨fun i => GoMap.get_empty i, idle⟩
        exact (waited_for_and_tight _ ls).1 (quiet.along ls)

/-- Two files: the first client fails to read its file, its goroutine takes the second `Done`,
and `Wait` returns while the second client has not begun. -/
theorem wait_returns_early :
    ¬ ∀ how ls, Along step (fun _ _ t => WaitsForAll t) (start how) ls := by
  intro all
  have run := all (.multiple [⟨[97], false, false⟩, ⟨[98], false, false⟩]) [.visit, .visit, .wait,
    .client 0 (.parsed true), .client 0 .doneClient, .client 0 .doneOwn, .wake]
  obtain ⟨t, last, main, here⟩ : ∃ t,
      exec step (start (.multiple [⟨[97], false, false⟩, ⟨[98], false, false⟩])) [.visit, .visit,
        .wait, .client 0 (.parsed true), .client 0 .doneClient, .client 0 .doneOwn, .wake] =
          some t ∧ t.main = .returned ∧ t.clients.get 1 = some ⟨[98], .parsing⟩ :=
    ⟨_, rfl, rfl, rfl⟩
  have back := (run.last last).waited main 1 _ here
  simp [Phase.running] at back

end ChmlFrp.Cmd
