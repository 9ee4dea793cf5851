/-
# ChmlFrp.Server.AllowPorts — what `Acquire` promises of an allow list

`allow_ports` of the server's configuration (`pkg/config/server.go`) is the allow set of
the port manager.  `isPortAvailable` listens on the port, and nothing listens on a number
that is not a port, whatever the system answers otherwise.

The list may name port 0, which is also the request for any port and, inside of
`Acquire`, the mark that none was found.

* `acquire_respects_iff`: exactly without it in the list, every call returns an allowed
  port and a failed call changes no map; call by call, exactly when 0 is not taken.
* `port_zero_is_lost`: the list `0,6000`.
-/
import ChmlFrp.Server.Ports
import ChmlFrp.Util.RangeNumbers

namespace ChmlFrp.Server.AllowPorts

set_option autoImplicit false

open ChmlFrp.Lib
open ChmlFrp.Lib.Transition
open ChmlFrp.Util
open Ports

/-- `allow_ports` in `UnmarshalServerConfFromIni`; an error is "invalid allow_ports". -/
def allowPorts (rounds : Nat) (allowPortStr : GoString) :
    Option (Except RangeError (Finset Int)) :=
  if allowPortStr = [] then some (.ok ∅)
  else (parseRangeNumbers rounds allowPortStr).map fun result => result.map List.toFinset

/-- `isPortAvailable`, with the answer of the system for a number that is a port. -/
def isPortAvailable (answer : Probe) : Probe := fun count port =>
  decide (0 ≤ port ∧ port ≤ 65535) && answer count port

/-- The call, with the probe that the system's answers make. -/
def asked : Label → Label
  | .acquire name port now order answer => .acquire name port now order (isPortAvailable answer)
  | l => l

def call (s : Session) (l : Label) : Option Session := step s (asked l)

/-- The maps of the manager, and what they refer to. -/
structure Unchanged (pm pm' : Manager) : Prop where
  free : pm'.freePorts = pm.freePorts
  used : pm'.usedPorts = pm.usedPorts
  reserved : pm'.reservedPorts = pm.reservedPorts
  heap : ∀ ctx < pm.next, pm'.heap ctx = pm.heap ctx

/-- A port that is returned is allowed, a port, and the one that was asked for; a call
that fails leaves the maps as they were. -/
def Respects (allow : Finset Int) (s : Session) : Label → Session → Prop
  | .acquire name port now order answer, t =>
      match (s.pm.acquire name port now order (isPortAvailable answer)).2 with
      | .ok p => p ∈ allow ∧ (minPort : Int) ≤ p ∧ p ≤ (maxPort : Int) ∧ (port ≠ 0 → p = port)
      | .error _ => Unchanged s.pm t.pm
  | _, _ => True

/-- The call finds port 0: under its name, or else in the allow list. -/
def FindsZero (s : Session) : Label → Prop
  | .acquire name port _ order answer =>
      port = 0 ∧ ReservedAt s.pm name (isPortAvailable answer) 0 ∨
        DrawsZero s.pm name port order (isPortAvailable answer)
  | _ => False

/-! ## The two ways to find 0 -/

section Call

variable {allow : Finset Int} {s t : Session} {l : Label}

theorem port_of_available {answer : Probe} {count : Nat} {p : Int}
    (available : isPortAvailable answer count p = true) : 0 ≤ p ∧ p ≤ 65535 := by
  unfold isPortAvailable at available
  rw [Bool.and_eq_true, decide_eq_true_eq] at available
  exact available.1

/-- A port that is granted is one, if it is not 0, and the one that was asked for. -/
theorem Grants.port_range {pm : Manager} {name : String} {port : Int} {order : List Int}
    {answer : Probe} {p : Int} (grants : Grants pm name port order (isPortAvailable answer) p) :
    0 ≤ p ∧ p ≤ 65535 ∧ (port ≠ 0 → p = port) := by
  cases grants with
  | reserved any at_ =>
      obtain ⟨ctx, -, -, available⟩ := at_
      have range := port_of_available available
      exact ⟨range.1, range.2, absurd any⟩
  | random any _ first =>
      obtain ⟨before, after, -, -, available, -⟩ := first
      have range := port_of_available available
      exact ⟨range.1, range.2, absurd any⟩
  | specified _ _ available =>
      have range := port_of_available available
      exact ⟨range.1, range.2, fun _ => rfl⟩

/-- A call respects the list exactly if it does not find 0. -/
theorem respects_iff (inv : Inv allow s) (next : call s l = some t) :
    Respects allow s l t ↔ ¬ FindsZero s l := by
  cases l with
  | release => simp [Respects, FindsZero]
  | clean => simp [Respects, FindsZero]
  | acquire name port now order answer =>
      simp only [call, asked, step, Option.ite_none_right_eq_some] at next
      obtain ⟨⟨-, all⟩, ⟨⟩⟩ := next
      simp only [Respects, FindsZero]
      rcases acquire_spec s.pm name port now order (isPortAvailable answer) with
        ⟨p, grants, result, -⟩ | ⟨draws, result, took⟩ | ⟨none_, undrawn, err, ctx, result, kept⟩
      · rw [result]
        have range := Grants.port_range grants
        constructor
        · rintro ⟨-, positive, -, -⟩ (⟨any, at_⟩ | draws)
          · rw [grants.unique (.reserved any at_)] at positive
            exact absurd positive (by decide)
          · rw [draws.acquire] at result
            cases result
        · intro absent
          have positive : p ≠ 0 := by
            rintro rfl
            cases grants with
            | reserved any at_ => exact absent (.inl ⟨any, at_⟩)
            | random _ _ _ positive => exact positive rfl
            | specified given => exact given rfl
          refine ⟨inv.granted all grants, ?_, range.2.1, range.2.2⟩
          unfold minPort
          omega
      · rw [result]
        constructor
        · intro unchanged
          have kept := draws.free all
          rw [← unchanged.free, took.free] at kept
          exact absurd kept (Finset.notMem_erase 0 _)
        · intro absent
          exact absurd (.inr draws) absent
      · rw [result]
        constructor
        · rintro - (⟨any, at_⟩ | draws)
          · exact none_ 0 (.reserved any at_)
          · exact undrawn draws
        · intro _
          refine ⟨?_, ?_, ?_, ?_⟩
          · rw [kept]
            rfl
          · rw [kept]
            rfl
          · rw [kept]
            rfl
          · intro ref old
            rw [kept]
            exact Function.update_of_ne (Nat.ne_of_lt old) _ _

theorem call_inv (inv : Inv allow s) (next : call s l = some t) : Inv allow t :=
  step_inv inv next

/-- Without 0 in the allow set no call finds it. -/
theorem not_findsZero (inv : Inv allow s) (absent : (0 : Int) ∉ allow)
    (next : call s l = some t) : ¬ FindsZero s l := by
  cases l with
  | release => exact id
  | clean => exact id
  | acquire name port now order answer =>
      simp only [call, asked, step, Option.ite_none_right_eq_some] at next
      obtain ⟨⟨-, all⟩, -⟩ := next
      rintro (⟨-, ctx, entry, zero, -⟩ | draws)
      · have allowed := (inv.reserved name ctx entry).2
        rw [zero] at allowed
        exact absent allowed
      · exact absent (inv.free_allowed (draws.free all))

end Call

theorem zero_mem_allowSet_iff {ports : Finset Int} : (0 : Int) ∈ allowSet ports ↔ 0 ∈ ports := by
  unfold allowSet
  split
  · exact Iff.rfl
  · rename_i empty
    have none_ : ports = ∅ := Finset.card_eq_zero.1 (Nat.eq_zero_of_not_pos empty)
    subst none_
    simp [minPort]

/-- A name without a port asks for any, and `range` comes to 0 first. -/
def asksFirst (free : List Int) : Label := .acquire "web" 0 0 (0 :: free) fun _ _ => true

theorem asksFirst_findsZero {ports : Finset Int} {free : List Int} :
    FindsZero (start ports) (asksFirst free) := by
  refine .inr ⟨rfl, ?_, [], free, rfl, by decide, rfl, by simp⟩
  rintro p ⟨ctx, entry, -⟩
  simp [start, newManager] at entry

theorem mem_allowPorts {rounds : Nat} {allowPortStr : GoString} {ports : Finset Int}
    (parsed : allowPorts rounds allowPortStr = some (.ok ports)) {p : Int} :
    p ∈ ports ↔ Names allowPortStr p := by
  unfold allowPorts at parsed
  split at parsed
  · rename_i unset
    subst unset
    cases parsed
    have none_ : ¬ Names [] p := by
      rintro ⟨item, mem, denotes⟩
      obtain rfl : item = [] := List.mem_singleton.1 mem
      rcases denotes with ⟨single, parts, read⟩ | ⟨first, second, min, max, parts, -⟩
      · cases parts
        cases read
      · cases parts
    simp [none_]
  · obtain ⟨result, numbers, same⟩ := Option.map_eq_some_iff.1 parsed
    cases result with
    | error err => cases same
    | ok list =>
        cases same
        rw [List.mem_toFinset, mem_parseRangeNumbers numbers]

theorem along_respects_iff {ports : Finset Int} (ls : List Label) :
    Along call (Respects (allowSet ports)) (start ports) ls ↔
      Along call (fun s l _ => ¬ FindsZero s l) (start ports) ls :=
  along_iff_along (Inv (allowSet ports)) (fun _ _ _ inv _ next => call_inv inv next)
    (fun _ _ _ inv next => respects_iff inv next) (start_inv ports) ls

/-- **The allow list is respected iff it does not name port 0**; and call by call, iff
the call does not find 0. -/
theorem acquire_respects_iff {rounds : Nat} {allowPortStr : GoString} {ports : Finset Int}
    (parsed : allowPorts rounds allowPortStr = some (.ok ports)) :
    ((∀ ls, Along call (Respects (allowSet ports)) (start ports) ls) ↔ ¬ Names allowPortStr 0) ∧
      ∀ ls, Along call (Respects (allowSet ports)) (start ports) ls ↔
        Along call (fun s l _ => ¬ FindsZero s l) (start ports) ls := by
  refine ⟨?_, along_respects_iff⟩
  rw [← mem_allowPorts parsed, ← zero_mem_allowSet_iff]
  constructor
  · intro all zero
    let others := ((allowSet ports).erase 0).toList
    have nodup : (0 :: others).Nodup := by
      rw [List.nodup_cons, Finset.mem_toList]
      exact ⟨Finset.notMem_erase 0 _, Finset.nodup_toList _⟩
    have order : (0 :: others).toFinset = (start ports).pm.freePorts := by
      rw [List.toFinset_cons, Finset.toList_toFinset]
      exact Finset.insert_erase zero
    obtain ⟨t, next⟩ : ∃ t, call (start ports) (asksFirst others) = some t :=
      ⟨_, if_pos ⟨nodup, order⟩⟩
    exact ((along_respects_iff [asksFirst others]).1 (all _) t next).1 asksFirst_findsZero
  · intro absent ls
    rw [along_respects_iff]
    have every : Along call (fun _ _ _ => True) (start ports) ls :=
      along_of_forall (fun _ _ _ => trivial) _ ls
    apply every.strengthen (Inv (allowSet ports)) (fun _ _ _ inv _ next => call_inv inv next)
      _ (start_inv ports)
    intro s l t inv _ next
    exact not_findsZero inv absent next

theorem acquire_respects_iff_range :
    allowPorts 3 (GoString.lit "6000-6001") = some (.ok {6000, 6001}) ∧
      ∀ ls, Along call (Respects (allowSet {6000, 6001})) (start {6000, 6001}) ls := by
  have parsed : allowPorts 3 (GoString.lit "6000-6001") = some (.ok {6000, 6001}) := rfl
  refine ⟨parsed, (acquire_respects_iff parsed).1.2 ?_⟩
  rw [← mem_allowPorts parsed]
  decide

/-- The first call fails and takes port 0 out of the list; the second one, under the
same name, succeeds and returns it. -/
theorem port_zero_is_lost :
    allowPorts 2 (GoString.lit "0,6000") = some (.ok {0, 6000}) ∧
      ¬ Along call (Respects (allowSet {0, 6000})) (start {0, 6000}) [asksFirst [6000]] ∧
      (call (start {0, 6000}) (asksFirst [6000])).map (fun t =>
        (t.pm.acquire "web" 0 1 [6000] (isPortAvailable fun _ _ => true)).2) = some (.ok 0) := by
  refine ⟨rfl, ?_, rfl⟩
  have enabled : (call (start {0, 6000}) (asksFirst [6000])).isSome := by decide
  obtain ⟨t, next⟩ := Option.isSome_iff_exists.1 enabled
  rw [along_respects_iff]
  intro along
  exact (along t next).1 asksFirst_findsZero

end ChmlFrp.Server.AllowPorts
