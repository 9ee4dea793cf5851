/-
# ChmlFrp.Config.RangeSections — the sections of the client's configuration

`LoadAllProxyConfsFromIni` and `renderRangeProxyTemplates` of `pkg/config/client.go`.  A
section `range:P` is a template: for every pair of its ports a section `P_0`, `P_1`, …
is put into the file, and then every section that is no template is read.  A section that
is there already is written over, key by key.

* `load_faithful_iff`: every section gives what its own keys say, however sections are
  read, iff sections of one name agree, no template makes a template, and no section
  lacks a key of one whose name it extends by a dot.
* `range_writes_over`: a template that leaves a key in a section of its owner.
-/
import ChmlFrp.Lib.GoMap
import ChmlFrp.Util.RangeNumbers
import Mathlib.Data.List.TakeWhile

namespace ChmlFrp.Config.RangeSections

set_option autoImplicit false

open ChmlFrp.Lib
open ChmlFrp.Lib.GoString
open ChmlFrp.Util

/-! ## A file of the ini library -/

abbrev Keys := GoMap GoString GoString

structure Section where
  name : GoString
  keys : Keys
  deriving DecidableEq

/-- The sections in the order of the file; of each name there is one. -/
structure File where
  sections : List Section
  distinct : (sections.map Section.name).Nodup

def defaultSection : GoString := lit "DEFAULT"
def commonSection : GoString := lit "common"
def rangePrefix : GoString := lit "range:"
def localPort : GoString := lit "local_port"
def remotePort : GoString := lit "remote_port"

/-- The names that are left of this one before each of its dots, the longest first. -/
def ancestors : Nat → GoString → List GoString
  | 0, _ => []
  | fuel + 1, name =>
      match cutLast name dot with
      | none => []
      | some (front, _) => front :: ancestors fuel front

/-- The name by which `GetSection` looks. -/
def sectionName (name : GoString) : GoString := if name = [] then defaultSection else name

namespace File

variable (f : File)

def keysOf (name : GoString) : Option Keys :=
  (f.sections.find? (·.name = name)).map Section.keys

/-- `GetKey`, with the section that has the key: the one asked, or the nearest one whose
name it extends by a dot.  No name is that of the default section there. -/
def getKey (name key : GoString) : Option (GoString × GoString) :=
  (name :: (ancestors name.length name).map sectionName).findSome? fun n =>
    ((f.keysOf n).bind (·.get key)).map (n, ·)

def defaults (key : GoString) : Option GoString :=
  (f.keysOf defaultSection).bind (·.get key)

/-- `NewSection` -/
def newSection (name : GoString) : File :=
  if fresh : ∀ s ∈ f.sections, s.name ≠ name then
    { sections := f.sections ++ [⟨name, ∅⟩]
      distinct := by
        rw [List.map_append, List.map_singleton]
        exact f.distinct.append (List.nodup_singleton name) (by simpa using fresh) }
  else f

/-- Change the keys of a section. -/
def update (name : GoString) (g : Keys → Keys) : File where
  sections := f.sections.map fun s => if s.name = name then { s with keys := g s.keys } else s
  distinct := by
    have names : Section.name ∘ (fun s : Section =>
        if s.name = name then { s with keys := g s.keys } else s) = Section.name := by
      funext s
      simp only [Function.comp_apply]
      split <;> rfl
    rw [List.map_map, names]
    exact f.distinct

/-- `NewKey`, which writes over a key that is there. -/
def newKey (name key value : GoString) : File := f.update name (·.set key value)

/-- `copySection` -/
def copySection (source target : GoString) : File :=
  match f.keysOf source with
  | some keys => f.update target (keys ∪ ·)
  | none => f

end File

/-! ## Loading -/

inductive LoadError where
  | emptyPorts (section_ : GoString)
  | ports (section_ : GoString) (err : RangeError)
  | portsNumber (section_ : GoString)
  | noPorts (section_ : GoString)
  | proxy (name err : GoString)
  | visitor (name err : GoString)
  | role (name : GoString)
  deriving DecidableEq, Repr

/-- What is read of a section: the values of its keys by `Key(..).String()`, and the keys
themselves by `KeysHash()`. -/
@[ext] structure View where
  string : GoString → Option GoString
  keysHash : Keys

/-- `NewProxyConfFromIni` and `NewVisitorConfFromIni`, with the prefix and the name. -/
structure Parser (P V : Type) where
  proxy : GoString → GoString → View → Except GoString P
  visitor : GoString → GoString → View → Except GoString V

structure Confs (P V : Type) where
  proxies : GoMap GoString P := ∅
  visitors : GoMap GoString V := ∅

/-- How the ini library puts other keys for `%(name)s` into the value of a key, from those
of the section and those of the default section. -/
abbrev TransformValue :=
  GoString → (GoString → Option GoString) → (GoString → Option GoString) → GoString → GoString

def isRange (name : GoString) : Bool := rangePrefix.isPrefixOf name

/-- Whether a section is read: it is no template, nor one of the two others. -/
def isRead (name : GoString) : Bool :=
  name != defaultSection && name != commonSection && !isRange name

/-- `strings.TrimSpace(strings.TrimPrefix(section.Name(), "range:"))` -/
def templatePrefix (name : GoString) : GoString := trimSpace (name.drop rangePrefix.length)

def underscore : UInt8 := 95

/-- `fmt.Sprintf("%s_%d", prefix, i)` -/
def tmpname (namePrefix : GoString) (i : Nat) : GoString := namePrefix ++ underscore :: itoa i

section Load

variable (transformValue : TransformValue) (rounds : Nat)

/-- `Key(key).String()` -/
def File.string (f : File) (name key : GoString) : Option GoString :=
  (f.getKey name key).map fun (owner, value) =>
    transformValue key (fun other => (f.getKey owner other).map Prod.snd) f.defaults value

def File.view (f : File) (s : Section) : View where
  string := f.string transformValue s.name
  keysHash := s.keys

/-- What the section's own keys say. -/
def File.ownView (f : File) (s : Section) : View where
  string key := (s.keys.get key).map (transformValue key s.keys.get f.defaults)
  keysHash := s.keys

/-- The body of the loop over the ports. -/
def addSection (f : File) (source name : GoString) (local_ remote : Int) : File :=
  let f := (f.newSection name).copySection source name
  (f.newKey name localPort (itoa local_)).newKey name remotePort (itoa remote)

/-- The loop, from an index on. -/
def addSections (source namePrefix : GoString) : File → Nat → List (Int × Int) → File
  | f, _, [] => f
  | f, i, (l, r) :: ports =>
      addSections source namePrefix (addSection f source (tmpname namePrefix i) l r) (i + 1) ports

/-- `renderRangeProxyTemplates` -/
def renderRange (f : File) (name : GoString) : Option (Except LoadError File) :=
  let localPortStr := (f.string transformValue name localPort).getD []
  let remotePortStr := (f.string transformValue name remotePort).getD []
  if localPortStr = [] ∨ remotePortStr = [] then some (.error (.emptyPorts name))
  else
    match parseRangeNumbers rounds localPortStr with
    | none => none
    | some (.error err) => some (.error (.ports name err))
    | some (.ok localPorts) =>
        match parseRangeNumbers rounds remotePortStr with
        | none => none
        | some (.error err) => some (.error (.ports name err))
        | some (.ok remotePorts) =>
            if localPorts.length ≠ remotePorts.length then some (.error (.portsNumber name))
            else if localPorts.length = 0 then some (.error (.noPorts name))
            else
              some (.ok (addSections name (templatePrefix name) f 0 (localPorts.zip remotePorts)))

/-- The loop over `rangeSections`. -/
def renderAll : File → List GoString → Option (Except LoadError File)
  | f, [] => some (.ok f)
  | f, name :: names =>
      match renderRange transformValue rounds f name with
      | some (.ok f) => renderAll f names
      | other => other

def File.rangeNames (f : File) : List GoString := (f.sections.map Section.name).filter isRange

def serverRole : GoString := lit "server"
def visitorRole : GoString := lit "visitor"

def View.role (view : View) : GoString :=
  match view.string (lit "role") with
  | none | some [] => serverRole
  | some role => role

/-- `prefix += "."` -/
def withDot (user : GoString) : GoString := if user = [] then [] else user ++ [dot]

variable {P V : Type} (parser : Parser P V) (user : GoString)

/-- One turn of the loop over the sections. -/
def readSection (f : File) (confs : Confs P V) (s : Section) : Except LoadError (Confs P V) :=
  let view := f.view transformValue s
  if isRead s.name = false then .ok confs
  else if view.role = serverRole then
    match parser.proxy (withDot user) s.name view with
    | .error err => .error (.proxy s.name err)
    | .ok p => .ok { confs with proxies := confs.proxies.set (withDot user ++ s.name) p }
  else if view.role = visitorRole then
    match parser.visitor (withDot user) s.name view with
    | .error err => .error (.visitor s.name err)
    | .ok v => .ok { confs with visitors := confs.visitors.set (withDot user ++ s.name) v }
  else .error (.role s.name)

/-- `LoadAllProxyConfsFromIni` for an empty start list. -/
def load (f : File) : Option (Except LoadError (Confs P V)) :=
  match renderAll transformValue rounds f f.rangeNames with
  | none => none
  | some (.error err) => some (.error err)
  | some (.ok f) => some (f.sections.foldlM (readSection transformValue parser user f) {})

end Load

/-! ## What the sections say -/

section Spec

variable (transformValue : TransformValue) (f : File)

/-- The ports of a template, as lists of the grammar. -/
def PortsOf (s : Section) (locals_ remotes : List Int) : Prop :=
  Lists ((f.string transformValue s.name localPort).getD []) locals_ ∧
    Lists ((f.string transformValue s.name remotePort).getD []) remotes ∧
    locals_.length = remotes.length

/-- The keys of a template with one pair of its ports. -/
def withPorts (keys : Keys) (local_ remote : Int) : Keys :=
  (keys.set localPort (itoa local_)).set remotePort (itoa remote)

/-- The section for the `i`-th pair of ports. -/
def instance_ (s : Section) (i : Nat) (local_ remote : Int) : Section :=
  ⟨tmpname (templatePrefix s.name) i, withPorts s.keys local_ remote⟩

/-- `s` is a template and `e` one of the sections it stands for. -/
def GeneratedBy (s e : Section) : Prop :=
  ∃ locals_ remotes, PortsOf transformValue f s locals_ remotes ∧
    ∃ i local_ remote, locals_[i]? = some local_ ∧ remotes[i]? = some remote ∧
      e = instance_ s i local_ remote

def Generated (e : Section) : Prop :=
  ∃ s ∈ f.sections, isRange s.name = true ∧ GeneratedBy transformValue f s e

/-- The sections that are to be read: those of the file and those of its templates. -/
def Described (e : Section) : Prop :=
  e ∈ f.sections ∧ isRead e.name = true ∨ Generated transformValue f e

variable {P V : Type} (parser : Parser P V) (user : GoString)

/-- A section of this name that reads so has given its proxy or visitor. -/
def Yields (view : View) (name : GoString) (confs : Confs P V) : Prop :=
  view.role = serverRole ∧
      (∃ p, parser.proxy (withDot user) name view = .ok p ∧
        confs.proxies.get (withDot user ++ name) = some p) ∨
    view.role = visitorRole ∧
      ∃ v, parser.visitor (withDot user) name view = .ok v ∧
        confs.visitors.get (withDot user ++ name) = some v

/-- Every section has given what its own keys say, and there is nothing else. -/
structure Faithful (confs : Confs P V) : Prop where
  each : ∀ e, Described transformValue f e →
    Yields parser user (f.ownView transformValue e) e.name confs
  proxies : ∀ x p, confs.proxies.get x = some p → ∃ e, Described transformValue f e ∧
    x = withDot user ++ e.name ∧ (f.ownView transformValue e).role = serverRole
  visitors : ∀ x v, confs.visitors.get x = some v → ∃ e, Described transformValue f e ∧
    x = withDot user ++ e.name ∧ (f.ownView transformValue e).role = visitorRole

/-- Sections of one name agree, and no template makes a template. -/
structure Apart : Prop where
  agree : ∀ e e', Described transformValue f e → Described transformValue f e' →
    e.name = e'.name → e.keys = e'.keys
  noTemplate : ∀ e, Generated transformValue f e → isRange e.name = false

/-- And no section lacks a key of one whose name it extends. -/
structure Consistent : Prop extends Apart transformValue f where
  complete : ∀ e, Described transformValue f e →
    ∀ s, (s ∈ f.sections ∨ Generated transformValue f s) →
      s.name ∈ (ancestors e.name.length e.name).map sectionName →
        ∀ key value, s.keys.get key = some value → ∃ own, e.keys.get key = some own

end Spec

/-- The parser that takes a section as it is read. -/
def keep : Parser View View := ⟨fun _ _ view => .ok view, fun _ _ view => .ok view⟩

/-! ## The keys of a file -/

theorem get_union (a b : Keys) (key : GoString) :
    (a ∪ b : Keys).get key = (a.get key).or (b.get key) := by
  unfold GoMap.get
  by_cases mem : key ∈ a
  · rw [Finmap.lookup_union_left mem]
    obtain ⟨v, found⟩ := Finmap.mem_iff.1 mem
    rw [found, Option.some_or]
  · rw [Finmap.lookup_union_right mem, Finmap.lookup_eq_none.2 mem, Option.none_or]

theorem keys_ext {a b : Keys} (same : ∀ key, a.get key = b.get key) : a = b :=
  Finmap.ext_lookup same

namespace File

variable {f : File}

theorem mem_sections_iff {s : Section} : s ∈ f.sections ↔ f.keysOf s.name = some s.keys := by
  unfold keysOf
  constructor
  · intro mem
    cases found : f.sections.find? (·.name = s.name) with
    | none => exact absurd (List.find?_eq_none.1 found s mem) (by simp)
    | some t =>
        have named : t.name = s.name := by simpa using List.find?_some found
        have same := List.inj_on_of_nodup_map f.distinct (List.mem_of_find?_eq_some found) mem named
        rw [Option.map_some, same]
  · intro found
    obtain ⟨t, there, keys⟩ := Option.map_eq_some_iff.1 found
    have named : t.name = s.name := by simpa using List.find?_some there
    have same : t = s := by
      cases t
      cases s
      simp_all
    exact same ▸ List.mem_of_find?_eq_some there

theorem keysOf_eq_none_iff {name : GoString} :
    f.keysOf name = none ↔ name ∉ f.sections.map Section.name := by
  unfold keysOf
  rw [Option.map_eq_none_iff, List.find?_eq_none]
  simp [eq_comm]

theorem keysOf_ext {g : File} {name : GoString}
    (same : ∀ keys, f.keysOf name = some keys ↔ g.keysOf name = some keys) :
    f.keysOf name = g.keysOf name :=
  Option.ext same

theorem keysOf_update (name other : GoString) (g : Keys → Keys) :
    (f.update name g).keysOf other =
      if other = name then (f.keysOf name).map g else f.keysOf other := by
  have names : ((fun s : Section => decide (s.name = other)) ∘ fun s : Section =>
      if s.name = name then { s with keys := g s.keys } else s) =
      fun s : Section => decide (s.name = other) := by
    funext s
    simp only [Function.comp_apply]
    split <;> rfl
  unfold keysOf update
  rw [List.find?_map, names]
  by_cases same : other = name
  · subst same
    rw [if_pos rfl]
    cases found : f.sections.find? (·.name = other) with
    | none => rfl
    | some t =>
        have named : t.name = other := by simpa using List.find?_some found
        simp [named]
  · rw [if_neg same]
    cases found : f.sections.find? (·.name = other) with
    | none => rfl
    | some t =>
        have named : t.name = other := by simpa using List.find?_some found
        simp [named, same]

theorem keysOf_newSection (name other : GoString) :
    (f.newSection name).keysOf other =
      if other = name then some ((f.keysOf name).getD ∅) else f.keysOf other := by
  have absent_iff : (∀ s ∈ f.sections, s.name ≠ name) ↔ name ∉ f.sections.map Section.name := by
    simp
  unfold newSection
  split
  · rename_i fresh
    unfold keysOf
    rw [List.find?_append]
    split
    · rename_i same
      subst same
      have none_ : f.sections.find? (·.name = other) = none := by
        have absent := keysOf_eq_none_iff.2 (absent_iff.1 fresh)
        exact Option.map_eq_none_iff.1 absent
      simp [none_]
    · rename_i differs
      have skip : [(⟨name, ∅⟩ : Section)].find? (·.name = other) = none := by
        simp [Ne.symm differs]
      rw [skip, Option.or_none]
  · rename_i there
    split
    · rename_i same
      subst same
      cases found : f.keysOf other with
      | none => exact absurd (absent_iff.2 (keysOf_eq_none_iff.1 found)) there
      | some keys => rfl
    · rfl

/-- A turn of the loop over the ports writes over the keys that are there. -/
theorem keysOf_addSection {source name : GoString} {src : Keys} (differs : source ≠ name)
    (found : f.keysOf source = some src) (local_ remote : Int) (other : GoString) :
    (addSection f source name local_ remote).keysOf other =
      if other = name then some (withPorts (src ∪ (f.keysOf name).getD ∅) local_ remote)
      else f.keysOf other := by
  have there : (f.newSection name).keysOf source = some src := by
    rw [keysOf_newSection, if_neg differs, found]
  unfold addSection copySection newKey
  rw [there]
  simp only [keysOf_update, keysOf_newSection]
  split
  · simp [withPorts]
  · rfl

end File

/-! ## Names -/

theorem cut_eq_some {s before after : GoString} {sep : UInt8}
    (cuts : cut s sep = some (before, after)) : s = before ++ sep :: after := by
  unfold cut at cuts
  split at cuts
  · rename_i mem
    cases cuts
    have whole := List.takeWhile_append_dropWhile (p := (· ≠ sep)) (l := s)
    have stops : s.dropWhile (· ≠ sep) ≠ [] := by
      intro empty
      have clear := List.dropWhile_eq_nil_iff.1 empty sep mem
      simp at clear
    obtain ⟨first, rest, tail⟩ := List.exists_cons_of_ne_nil stops
    have here : first = sep := by
      have head := List.head?_dropWhile_not (· ≠ sep) s
      rw [tail] at head
      simpa using head
    rw [tail, here] at whole ⊢
    exact whole.symm
  · cases cuts

theorem cutLast_eq_some {name front after : GoString} {sep : UInt8}
    (cuts : cutLast name sep = some (front, after)) : name = front ++ sep :: after := by
  obtain ⟨⟨after', front'⟩, reversed, same⟩ := Option.map_eq_some_iff.1 cuts
  cases same
  have whole := cut_eq_some reversed
  rw [← List.reverse_inj, whole]
  simp

/-- What a template's name extends is named like a template. -/
theorem isRange_front {name front after : GoString} (range : isRange name = true)
    (cuts : cutLast name dot = some (front, after)) : isRange front = true := by
  have whole := cutLast_eq_some cuts
  unfold isRange at range ⊢
  rw [List.isPrefixOf_iff_prefix] at range ⊢
  obtain ⟨rest, same⟩ := range
  rw [whole] at same
  rcases List.append_eq_append_iff.1 same with ⟨more, longer, -⟩ | ⟨more, shorter, tail⟩
  · exact ⟨more, longer.symm⟩
  · cases more with
    | nil => exact ⟨[], by rw [shorter, List.append_nil, List.append_nil]⟩
    | cons b more =>
        have first : b = dot := (List.cons.inj tail).1.symm
        have mem : dot ∈ rangePrefix := by
          rw [shorter, first]
          simp
        exact absurd mem (by decide)

theorem isRange_ancestors {name : GoString} (range : isRange name = true) (fuel : Nat) :
    ∀ a ∈ ancestors fuel name, isRange a = true := by
  induction fuel generalizing name with
  | zero => simp [ancestors]
  | succ fuel ih =>
      unfold ancestors
      split
      · simp
      · rename_i front after cuts
        have here := isRange_front range cuts
        exact List.forall_mem_cons.2 ⟨here, ih here⟩

theorem isRange_chain {name : GoString} (range : isRange name = true) :
    ∀ n ∈ name :: (ancestors name.length name).map sectionName, isRange n = true := by
  refine List.forall_mem_cons.2 ⟨range, ?_⟩
  intro n mem
  obtain ⟨a, mem', rfl⟩ := List.mem_map.1 mem
  have here := isRange_ancestors range _ a mem'
  unfold sectionName
  split
  · rename_i empty
    rw [empty] at here
    cases here
  · exact here

theorem tmpname_getLast (namePrefix : GoString) (i : Nat) :
    ∃ b, (tmpname namePrefix i).getLast? = some b ∧ Strconv.IsDigit b := by
  have digits : itoa i = (Nat.toDigits 10 i).map fun c => UInt8.ofNat c.toNat := by
    unfold itoa lit
    rw [toList_repr, if_pos (Int.natCast_nonneg i), Int.toNat_natCast]
  have nonempty : Nat.toDigits 10 i ≠ [] := Nat.toDigits_ne_nil
  refine ⟨UInt8.ofNat ((Nat.toDigits 10 i).getLast nonempty).toNat, ?_, ?_⟩
  · unfold tmpname
    rw [digits, List.getLast?_append_of_ne_nil _ (by simp), List.getLast?_cons, List.getLast?_map,
      List.getLast?_eq_some_getLast nonempty]
    rfl
  · have digit := Nat.isDigit_of_mem_toDigits (b := 10) (by omega) (by omega)
      (List.getLast_mem nonempty)
    generalize (Nat.toDigits 10 i).getLast nonempty = c at digit ⊢
    have bounds : 48 ≤ c.toNat ∧ c.toNat ≤ 57 := by
      simpa [Char.isDigit, UInt32.le_iff_toNat_le] using digit
    unfold Strconv.IsDigit
    rw [UInt8.le_iff_toNat_le, UInt8.le_iff_toNat_le,
      UInt8.toNat_ofNat_of_lt' (by unfold UInt8.size; omega)]
    exact bounds

theorem isRead_tmpname {namePrefix : GoString} {i : Nat}
    (plain : isRange (tmpname namePrefix i) = false) : isRead (tmpname namePrefix i) = true := by
  obtain ⟨b, last, digit⟩ := tmpname_getLast namePrefix i
  unfold isRead
  rw [plain]
  simp only [Bool.not_false, Bool.and_true, Bool.and_eq_true, bne_iff_ne, ne_eq]
  constructor
  · intro same
    rw [same] at last
    cases last
    exact absurd digit (by decide)
  · intro same
    rw [same] at last
    cases last
    exact absurd digit (by decide)

/-! ## Reading a key -/

section Agree

variable {f g : File}

theorem findSome?_congr {α β : Type} {l : List α} {p q : α → Option β}
    (same : ∀ a ∈ l, p a = q a) : l.findSome? p = l.findSome? q := by
  induction l with
  | nil => rfl
  | cons a l ih =>
      rw [List.findSome?_cons, List.findSome?_cons, same a List.mem_cons_self,
        ih fun b mem => same b (List.mem_cons_of_mem a mem)]

theorem getKey_congr {name : GoString}
    (same : ∀ n ∈ name :: (ancestors name.length name).map sectionName, g.keysOf n = f.keysOf n)
    (key : GoString) : g.getKey name key = f.getKey name key := by
  unfold File.getKey
  exact findSome?_congr fun n mem => by rw [same n mem]

theorem getKey_owner {name key owner value : GoString}
    (found : f.getKey name key = some (owner, value)) :
    owner ∈ name :: (ancestors name.length name).map sectionName := by
  obtain ⟨n, mem, here⟩ := List.exists_of_findSome?_eq_some found
  obtain ⟨v, -, same⟩ := Option.map_eq_some_iff.1 here
  cases same
  exact mem

/-- Files with the same templates and defaults read the same in a template. -/
theorem string_congr (transformValue : TransformValue)
    (templates : ∀ n, isRange n = true → g.keysOf n = f.keysOf n)
    (defaults : g.keysOf defaultSection = f.keysOf defaultSection)
    {name : GoString} (range : isRange name = true) (key : GoString) :
    g.string transformValue name key = f.string transformValue name key := by
  have keys : ∀ n, isRange n = true → ∀ k, g.getKey n k = f.getKey n k := by
    intro n range' k
    exact getKey_congr (fun m mem => templates m (isRange_chain range' m mem)) k
  unfold File.string File.defaults
  rw [keys name range, defaults]
  cases found : f.getKey name key with
  | none => rfl
  | some at_ =>
      obtain ⟨owner, value⟩ := at_
      have range' := isRange_chain range owner (getKey_owner found)
      simp only [Option.map_some, keys owner range']

end Agree

/-! ## Putting the sections in -/

section Render

variable {transformValue : TransformValue} {rounds : Nat} {f : File}

/-- The file holds what it held and the sections that were put in. -/
def Holds (f : File) (done : Section → Prop) (g : File) : Prop :=
  ∀ s, g.keysOf s.name = some s.keys ↔ f.keysOf s.name = some s.keys ∨ done s

theorem described_of_keysOf {s : Section} (found : f.keysOf s.name = some s.keys)
    (read : isRead s.name = true) : Described transformValue f s :=
  .inl ⟨File.mem_sections_iff.2 found, read⟩

theorem withPorts_union (src : Keys) (local_ remote : Int) :
    withPorts (src ∪ withPorts src local_ remote) local_ remote =
      withPorts src local_ remote := by
  apply keys_ext
  intro key
  unfold withPorts
  simp only [GoMap.get_set, get_union]
  split
  · rfl
  · split
    · rfl
    · cases src.get key <;> rfl

/-- Putting in a section that agrees with what is there puts in just that. -/
theorem Holds.addSection {done : Section → Prop} {g : File} (holds : Holds f done g)
    (apart : Apart transformValue f)
    (within : ∀ s, done s → Generated transformValue f s)
    {s : Section} (template : s ∈ f.sections) {i : Nat} {local_ remote : Int}
    (range : isRange s.name = true)
    (generated : Generated transformValue f (instance_ s i local_ remote)) :
    Holds f (fun e => done e ∨ e = instance_ s i local_ remote)
      (addSection g s.name (tmpname (templatePrefix s.name) i) local_ remote) := by
  have plain : isRange (tmpname (templatePrefix s.name) i) = false :=
    apart.noTemplate _ generated
  have differs : s.name ≠ tmpname (templatePrefix s.name) i := by
    intro same
    rw [← same, range] at plain
    cases plain
  have source : g.keysOf s.name = some s.keys :=
    (holds s).2 (.inl (File.mem_sections_iff.1 template))
  have agrees : ∀ keys, g.keysOf (tmpname (templatePrefix s.name) i) = some keys →
      keys = withPorts s.keys local_ remote := by
    intro keys found
    have described : Described transformValue f ⟨tmpname (templatePrefix s.name) i, keys⟩ := by
      rcases (holds ⟨_, keys⟩).1 found with there | put
      · exact described_of_keysOf there (isRead_tmpname plain)
      · exact .inr (within _ put)
    exact apart.agree _ _ described (.inr generated) rfl
  have merged : withPorts (s.keys ∪ (g.keysOf (tmpname (templatePrefix s.name) i)).getD ∅)
      local_ remote = withPorts s.keys local_ remote := by
    cases found : g.keysOf (tmpname (templatePrefix s.name) i) with
    | none => rw [Option.getD_none, Finmap.union_empty]
    | some keys => rw [Option.getD_some, agrees keys found, withPorts_union]
  intro e
  rw [File.keysOf_addSection differs source, merged]
  by_cases same : e.name = tmpname (templatePrefix s.name) i
  · rw [if_pos same]
    constructor
    · intro keys
      right; right
      cases e
      simp_all [instance_]
    · rintro (there | put | rfl)
      · have here := (holds e).2 (.inl there)
        rw [same] at here
        rw [agrees _ here]
      · have here := (holds e).2 (.inr put)
        rw [same] at here
        rw [agrees _ here]
      · rfl
  · rw [if_neg same, holds e]
    constructor
    · rintro (there | put)
      · exact .inl there
      · exact .inr (.inl put)
    · rintro (there | put | rfl)
      · exact .inl there
      · exact .inr put
      · exact absurd rfl same

theorem Holds.addSections {done : Section → Prop} {g : File} (holds : Holds f done g)
    (apart : Apart transformValue f)
    (within : ∀ s, done s → Generated transformValue f s)
    {s : Section} (template : s ∈ f.sections) (range : isRange s.name = true)
    {i : Nat} {ports : List (Int × Int)}
    (generated : ∀ j l r, ports[j]? = some (l, r) →
      Generated transformValue f (instance_ s (i + j) l r)) :
    Holds f (fun e => done e ∨ ∃ j l r, ports[j]? = some (l, r) ∧ e = instance_ s (i + j) l r)
      (addSections s.name (templatePrefix s.name) g i ports) := by
  induction ports generalizing g i done with
  | nil =>
      intro e
      simpa [RangeSections.addSections] using holds e
  | cons port ports ih =>
      obtain ⟨l, r⟩ := port
      have here : Generated transformValue f (instance_ s i l r) := generated 0 l r rfl
      have later : ∀ j l' r', ports[j]? = some (l', r') →
          Generated transformValue f (instance_ s (i + 1 + j) l' r') := by
        intro j l' r' at_
        rw [Nat.add_right_comm i 1 j]
        exact generated (j + 1) l' r' at_
      have next := ih (holds.addSection apart within template range here)
        (by rintro e (put | rfl); exacts [within e put, here]) later
      intro e
      rw [RangeSections.addSections]
      refine (next e).trans (or_congr Iff.rfl ?_)
      constructor
      · rintro ((put | rfl) | ⟨j, l', r', at_, rfl⟩)
        · exact .inl put
        · exact .inr ⟨0, l, r, rfl, rfl⟩
        · refine .inr ⟨j + 1, l', r', at_, ?_⟩
          rw [Nat.add_right_comm i 1 j]
          rfl
      · rintro (put | ⟨j, l', r', at_, rfl⟩)
        · exact .inl (.inl put)
        · cases j with
          | zero =>
              cases at_
              exact .inl (.inr rfl)
          | succ j =>
              refine .inr ⟨j, l', r', at_, ?_⟩
              rw [Nat.add_right_comm i 1 j]
              rfl

/-- No section that is put in is a template or holds the defaults. -/
theorem Holds.same {done : Section → Prop} {g : File} (holds : Holds f done g) {n : GoString}
    (none_ : ∀ keys, ¬ done ⟨n, keys⟩) : g.keysOf n = f.keysOf n := by
  apply File.keysOf_ext
  intro keys
  rw [holds ⟨n, keys⟩]
  simp [none_ keys]

theorem Apart.not_generated (apart : Apart transformValue f) {n : GoString}
    (other : isRead n = false) (keys : Keys) : ¬ Generated transformValue f ⟨n, keys⟩ := by
  intro generated
  have plain := apart.noTemplate _ generated
  obtain ⟨s, -, -, locals_, remotes, -, i, l, r, -, -, same⟩ := generated
  have named : n = tmpname (templatePrefix s.name) i := congrArg Section.name same
  rw [named] at other
  have read := isRead_tmpname (named ▸ plain)
  rw [other] at read
  cases read

theorem isRead_of_isRange {n : GoString} (range : isRange n = true) : isRead n = false := by
  simp [isRead, range]

theorem renderRange_eq_ok {g g' : File} {s : Section}
    (templates : ∀ n, isRange n = true → g.keysOf n = f.keysOf n)
    (defaults : g.keysOf defaultSection = f.keysOf defaultSection) (range : isRange s.name = true)
    (ok : renderRange transformValue rounds g s.name = some (.ok g')) :
    ∃ locals_ remotes, PortsOf transformValue f s locals_ remotes ∧
      g' = addSections s.name (templatePrefix s.name) g 0 (locals_.zip remotes) := by
  unfold renderRange at ok
  rw [string_congr transformValue templates defaults range,
    string_congr transformValue templates defaults range] at ok
  simp only at ok
  split at ok
  · cases ok
  · split at ok
    · cases ok
    · cases ok
    · rename_i locals_ readLocal
      split at ok
      · cases ok
      · cases ok
      · rename_i remotes readRemote
        split_ifs at ok with number
        · cases ok
        · cases ok
        · cases ok
          exact ⟨locals_, remotes, ⟨lists_of_parseRangeNumbers readLocal,
            lists_of_parseRangeNumbers readRemote, not_not.1 number⟩, rfl⟩

/-- A template puts in the sections that it stands for. -/
theorem Holds.renderRange {done : Section → Prop} {g g' : File} (holds : Holds f done g)
    (apart : Apart transformValue f)
    (within : ∀ s, done s → Generated transformValue f s)
    {s : Section} (template : s ∈ f.sections) (range : isRange s.name = true)
    (ok : renderRange transformValue rounds g s.name = some (.ok g')) :
    Holds f (fun e => done e ∨ GeneratedBy transformValue f s e) g' := by
  have kept : ∀ n, isRead n = false → g.keysOf n = f.keysOf n := fun n other =>
    holds.same fun keys put => apart.not_generated other keys (within _ put)
  obtain ⟨locals_, remotes, ports, rfl⟩ := renderRange_eq_ok
    (fun n range' => kept n (isRead_of_isRange range')) (kept _ (by decide)) range ok
  have by_ : ∀ e, GeneratedBy transformValue f s e ↔
      ∃ j l r, (locals_.zip remotes)[j]? = some (l, r) ∧ e = instance_ s (0 + j) l r := by
    intro e
    constructor
    · rintro ⟨locals', remotes', ports', i, l, r, local_, remote, rfl⟩
      rw [ports'.1.unique ports.1] at local_
      rw [ports'.2.1.unique ports.2.1] at remote
      exact ⟨i, l, r, List.getElem?_zip_eq_some.2 ⟨local_, remote⟩, by rw [Nat.zero_add]⟩
    · rintro ⟨i, l, r, at_, rfl⟩
      obtain ⟨local_, remote⟩ := List.getElem?_zip_eq_some.1 at_
      exact ⟨locals_, remotes, ports, i, l, r, local_, remote, by rw [Nat.zero_add]⟩
  have generated : ∀ j l r, (locals_.zip remotes)[j]? = some (l, r) →
      Generated transformValue f (instance_ s (0 + j) l r) :=
    fun j l r at_ => ⟨s, template, range, (by_ _).2 ⟨j, l, r, at_, rfl⟩⟩
  have next := holds.addSections apart within template range generated
  exact fun e => (next e).trans (or_congr Iff.rfl (or_congr Iff.rfl (by_ e).symm))

theorem Holds.renderAll (apart : Apart transformValue f) {templates : List Section}
    (inFile : ∀ s ∈ templates, s ∈ f.sections ∧ isRange s.name = true)
    {done : Section → Prop} {g g' : File} (holds : Holds f done g)
    (within : ∀ s, done s → Generated transformValue f s)
    (ok : renderAll transformValue rounds g (templates.map Section.name) = some (.ok g')) :
    Holds f (fun e => done e ∨ ∃ s ∈ templates, GeneratedBy transformValue f s e) g' := by
  induction templates generalizing g done with
  | nil =>
      cases ok
      simpa using holds
  | cons s templates ih =>
      obtain ⟨⟨template, range⟩, rest⟩ := List.forall_mem_cons.1 inFile
      rw [List.map_cons, RangeSections.renderAll] at ok
      split at ok
      · rename_i mid rendered
        have next := ih rest (holds.renderRange apart within template range rendered)
          (by rintro e (put | by_); exacts [within e put, ⟨s, template, range, by_⟩]) ok
        intro e
        rw [next e]
        simp only [List.mem_cons, exists_eq_or_imp, or_assoc]
      · rename_i failed
        exact absurd ok (failed g')

/-- After the templates the file holds its own sections and those of its templates. -/
theorem holds_renderAll (apart : Apart transformValue f) {g : File}
    (ok : renderAll transformValue rounds f f.rangeNames = some (.ok g)) :
    Holds f (Generated transformValue f) g := by
  have names : f.rangeNames =
      (f.sections.filter fun s => isRange s.name).map Section.name := by
    unfold File.rangeNames
    rw [List.filter_map]
    rfl
  rw [names] at ok
  have start : Holds f (fun _ => False) f := fun s => by simp
  have all := start.renderAll apart (by simp [List.mem_filter]) (by simp) ok
  intro e
  rw [all e]
  simp only [false_or, List.mem_filter, and_assoc]
  rfl

end Render

/-! ## Reading the sections -/

section Read

variable {P V : Type} (transformValue : TransformValue) (parser : Parser P V) (user : GoString)
variable (g : File)

/-- What reading a section does to the maps. -/
inductive Reads (start : Confs P V) (s : Section) (confs : Confs P V) : Prop
  | skips (other : isRead s.name = false) (same : confs = start)
  | proxy (p : P) (read : isRead s.name = true)
      (role : (g.view transformValue s).role = serverRole)
      (parsed : parser.proxy (withDot user) s.name (g.view transformValue s) = .ok p)
      (enters : confs = { start with proxies := start.proxies.set (withDot user ++ s.name) p })
  | visitor (v : V) (read : isRead s.name = true)
      (role : (g.view transformValue s).role = visitorRole)
      (parsed : parser.visitor (withDot user) s.name (g.view transformValue s) = .ok v)
      (enters : confs = { start with visitors := start.visitors.set (withDot user ++ s.name) v })

/-- Nothing is entered but under the names of sections that are read. -/
structure Enters (l : List Section) (start confs : Confs P V) : Prop where
  proxies : ∀ x p, confs.proxies.get x = some p → start.proxies.get x = some p ∨
    ∃ s ∈ l, isRead s.name = true ∧ x = withDot user ++ s.name ∧
      (g.view transformValue s).role = serverRole ∧
      parser.proxy (withDot user) s.name (g.view transformValue s) = .ok p
  visitors : ∀ x v, confs.visitors.get x = some v → start.visitors.get x = some v ∨
    ∃ s ∈ l, isRead s.name = true ∧ x = withDot user ++ s.name ∧
      (g.view transformValue s).role = visitorRole ∧
      parser.visitor (withDot user) s.name (g.view transformValue s) = .ok v
  keeps : ∀ x, (∀ s ∈ l, x ≠ withDot user ++ s.name) →
    confs.proxies.get x = start.proxies.get x ∧ confs.visitors.get x = start.visitors.get x
  each : ∀ s ∈ l, isRead s.name = true →
    Yields parser user (g.view transformValue s) s.name confs

variable {transformValue parser user g}

theorem readSection_eq_ok {start confs : Confs P V} {s : Section}
    (ok : readSection transformValue parser user g start s = .ok confs) :
    Reads transformValue parser user g start s confs := by
  unfold readSection at ok
  simp only at ok
  split_ifs at ok with other server visitor
  · exact .skips other (Except.ok.inj ok).symm
  · split at ok
    · cases ok
    · rename_i p parsed
      exact .proxy p (by simpa using other) server parsed (Except.ok.inj ok).symm
  · split at ok
    · cases ok
    · rename_i v parsed
      exact .visitor v (by simpa using other) visitor parsed (Except.ok.inj ok).symm

/-- One section. -/
theorem Reads.enters {start confs : Confs P V} {s : Section}
    (reads : Reads transformValue parser user g start s confs) :
    Enters transformValue parser user g [s] start confs := by
  cases reads with
  | skips other same =>
      subst same
      refine ⟨fun x p found => .inl found, fun x v found => .inl found, by simp, ?_⟩
      intro t mem read
      obtain rfl := List.mem_singleton.1 mem
      rw [read] at other
      cases other
  | proxy p read role parsed enters =>
      subst enters
      refine ⟨?_, fun x v found => .inl found, ?_, ?_⟩
      · intro x q found
        rcases GoMap.get_set_eq_some.1 found with ⟨rfl, rfl⟩ | ⟨-, early⟩
        · exact .inr ⟨s, List.mem_singleton_self s, read, rfl, role, parsed⟩
        · exact .inl early
      · intro x others
        simp [others s (List.mem_singleton_self s)]
      · intro t mem _
        obtain rfl := List.mem_singleton.1 mem
        exact .inl ⟨role, p, parsed, by simp⟩
  | visitor v read role parsed enters =>
      subst enters
      refine ⟨fun x p found => .inl found, ?_, ?_, ?_⟩
      · intro x w found
        rcases GoMap.get_set_eq_some.1 found with ⟨rfl, rfl⟩ | ⟨-, early⟩
        · exact .inr ⟨s, List.mem_singleton_self s, read, rfl, role, parsed⟩
        · exact .inl early
      · intro x others
        simp [others s (List.mem_singleton_self s)]
      · intro t mem _
        obtain rfl := List.mem_singleton.1 mem
        exact .inr ⟨role, v, parsed, by simp⟩

/-- A section of another name changes nothing of what was entered before. -/
theorem Enters.cons {start mid confs : Confs P V} {s : Section} {l : List Section}
    (first : Enters transformValue parser user g [s] start mid)
    (rest : Enters transformValue parser user g l mid confs)
    (apart : ∀ t ∈ l, withDot user ++ s.name ≠ withDot user ++ t.name) :
    Enters transformValue parser user g (s :: l) start confs := by
  have self : s ∈ s :: l := List.mem_cons_self
  refine ⟨?_, ?_, ?_, ?_⟩
  · intro x p found
    rcases rest.proxies x p found with early | ⟨t, mem, later⟩
    · refine (first.proxies x p early).imp_right ?_
      rintro ⟨t, mem, entered⟩
      exact ⟨t, List.mem_singleton.1 mem ▸ self, entered⟩
    · exact .inr ⟨t, List.mem_cons_of_mem s mem, later⟩
  · intro x v found
    rcases rest.visitors x v found with early | ⟨t, mem, later⟩
    · refine (first.visitors x v early).imp_right ?_
      rintro ⟨t, mem, entered⟩
      exact ⟨t, List.mem_singleton.1 mem ▸ self, entered⟩
    · exact .inr ⟨t, List.mem_cons_of_mem s mem, later⟩
  · intro x others
    obtain ⟨here, later⟩ := List.forall_mem_cons.1 others
    have second := rest.keeps x later
    have first := first.keeps x (by simpa using here)
    exact ⟨second.1.trans first.1, second.2.trans first.2⟩
  · intro t mem read
    rcases List.mem_cons.1 mem with rfl | mem
    · have kept := rest.keeps _ apart
      rcases first.each t (List.mem_singleton_self t) read with
        ⟨role, p, parsed, there⟩ | ⟨role, v, parsed, there⟩
      · exact .inl ⟨role, p, parsed, kept.1.trans there⟩
      · exact .inr ⟨role, v, parsed, kept.2.trans there⟩
    · exact rest.each t mem read

theorem enters_of_foldlM {l : List Section} (distinct : (l.map Section.name).Nodup)
    {start confs : Confs P V}
    (ok : l.foldlM (readSection transformValue parser user g) start = .ok confs) :
    Enters transformValue parser user g l start confs := by
  induction l generalizing start with
  | nil =>
      cases ok
      exact ⟨fun x p found => .inl found, fun x v found => .inl found, by simp, by simp⟩
  | cons s l ih =>
      rw [List.foldlM_cons] at ok
      rw [List.map_cons, List.nodup_cons] at distinct
      cases first : readSection transformValue parser user g start s with
      | error err =>
          rw [first] at ok
          cases ok
      | ok mid =>
          rw [first] at ok
          refine (readSection_eq_ok first).enters.cons (ih distinct.2 ok) ?_
          intro t mem same
          apply distinct.1
          rw [List.append_cancel_left same]
          exact List.mem_map_of_mem mem

end Read

/-! ## What is loaded -/

section Main

variable {transformValue : TransformValue} {rounds : Nat} {user : GoString} {f g : File}

theorem load_eq_ok {P V : Type} {parser : Parser P V} {confs : Confs P V}
    (ok : load transformValue rounds parser user f = some (.ok confs)) :
    ∃ g, renderAll transformValue rounds f f.rangeNames = some (.ok g) ∧
      Enters transformValue parser user g g.sections {} confs := by
  unfold load at ok
  split at ok
  · cases ok
  · cases ok
  · rename_i g rendered
    exact ⟨g, rendered, enters_of_foldlM g.distinct (Option.some.inj ok)⟩

theorem Described.isRead {e : Section} (described : Described transformValue f e)
    (apart : Apart transformValue f) : isRead e.name = true := by
  rcases described with ⟨-, read⟩ | generated
  · exact read
  · have plain := apart.noTemplate e generated
    obtain ⟨s, -, -, locals_, remotes, -, i, l, r, -, -, rfl⟩ := generated
    exact isRead_tmpname plain

theorem Described.mem {e : Section} (described : Described transformValue f e)
    (holds : Holds f (Generated transformValue f) g) : e ∈ g.sections := by
  rw [File.mem_sections_iff, holds e]
  rcases described with ⟨mem, -⟩ | generated
  · exact .inl (File.mem_sections_iff.1 mem)
  · exact .inr generated

theorem Holds.described (holds : Holds f (Generated transformValue f) g) {s : Section}
    (mem : s ∈ g.sections) (read : isRead s.name = true) : Described transformValue f s := by
  rcases (holds s).1 (File.mem_sections_iff.1 mem) with there | generated
  · exact described_of_keysOf there read
  · exact .inr generated

/-- A section that lacks no key of the others finds its own keys only. -/
theorem getKey_own (consistent : Consistent transformValue f)
    (holds : Holds f (Generated transformValue f) g) {e : Section}
    (described : Described transformValue f e) (key : GoString) :
    g.getKey e.name key = (e.keys.get key).map (e.name, ·) := by
  have here := File.mem_sections_iff.1 (described.mem holds)
  unfold File.getKey
  rw [List.findSome?_cons, here, Option.bind_some]
  cases own : e.keys.get key with
  | some value => rfl
  | none =>
      rw [Option.map_none, List.findSome?_eq_none_iff]
      intro n mem
      cases found : g.keysOf n with
      | none => rfl
      | some keys =>
          cases inherited : keys.get key with
          | none => simp [inherited]
          | some value =>
              have there : (⟨n, keys⟩ : Section) ∈ f.sections ∨
                  Generated transformValue f ⟨n, keys⟩ :=
                ((holds ⟨n, keys⟩).1 found).imp_left File.mem_sections_iff.2
              obtain ⟨value', own'⟩ :=
                consistent.complete e described ⟨n, keys⟩ there mem key value inherited
              rw [own] at own'
              cases own'

theorem view_eq_ownView (consistent : Consistent transformValue f)
    (holds : Holds f (Generated transformValue f) g) {e : Section}
    (described : Described transformValue f e) :
    g.view transformValue e = f.ownView transformValue e := by
  have keys := getKey_own consistent holds described
  have defaults : g.defaults = f.defaults := by
    funext key
    unfold File.defaults
    rw [holds.same (consistent.not_generated (by decide))]
  have others : (fun other => (g.getKey e.name other).map Prod.snd) = e.keys.get := by
    funext other
    rw [keys other]
    cases e.keys.get other <;> rfl
  apply View.ext
  · funext key
    show g.string transformValue e.name key =
      (e.keys.get key).map (transformValue key e.keys.get f.defaults)
    unfold File.string
    rw [keys key, defaults]
    cases e.keys.get key with
    | none => rfl
    | some value => simp only [Option.map_some, others]
  · rfl

/-- Where no two sections are in each other's way, each gives what its own keys say. -/
theorem faithful_of_consistent (consistent : Consistent transformValue f) {P V : Type}
    {parser : Parser P V} {confs : Confs P V}
    (ok : load transformValue rounds parser user f = some (.ok confs)) :
    Faithful transformValue f parser user confs := by
  obtain ⟨g, rendered, enters⟩ := load_eq_ok ok
  have holds := holds_renderAll consistent.toApart rendered
  have same : ∀ e, Described transformValue f e →
      g.view transformValue e = f.ownView transformValue e :=
    fun e described => view_eq_ownView consistent holds described
  refine ⟨?_, ?_, ?_⟩
  · intro e described
    rw [← same e described]
    exact enters.each e (described.mem holds) (described.isRead consistent.toApart)
  · intro x p found
    rcases enters.proxies x p found with early | ⟨s, mem, read, named, role, -⟩
    · cases early
    · have described := holds.described mem read
      exact ⟨s, described, named, same s described ▸ role⟩
  · intro x v found
    rcases enters.visitors x v found with early | ⟨s, mem, read, named, role, -⟩
    · cases early
    · have described := holds.described mem read
      exact ⟨s, described, named, same s described ▸ role⟩

/-- The parser that takes the sections as they are shows which one was read. -/
theorem read_of_described {confs : Confs View View}
    (faithful : Faithful transformValue f keep user confs)
    (enters : Enters transformValue keep user g g.sections {} confs) {e : Section}
    (described : Described transformValue f e) :
    ∃ s ∈ g.sections, isRead s.name = true ∧ s.name = e.name ∧
      g.view transformValue s = f.ownView transformValue e := by
  rcases faithful.each e described with ⟨-, view, parsed, found⟩ | ⟨-, view, parsed, found⟩
  · cases parsed
    rcases enters.proxies _ _ found with early | ⟨s, mem, read, named, -, parsed⟩
    · cases early
    · exact ⟨s, mem, read, (List.append_cancel_left named).symm, Except.ok.inj parsed⟩
  · cases parsed
    rcases enters.visitors _ _ found with early | ⟨s, mem, read, named, -, parsed⟩
    · cases early
    · exact ⟨s, mem, read, (List.append_cancel_left named).symm, Except.ok.inj parsed⟩

theorem consistent_of_faithful {confs : Confs View View}
    (ok : load transformValue rounds keep user f = some (.ok confs))
    (faithful : Faithful transformValue f keep user confs) : Consistent transformValue f := by
  obtain ⟨g, rendered, enters⟩ := load_eq_ok ok
  have seen := fun e => read_of_described (e := e) faithful enters
  have apart : Apart transformValue f := by
    refine ⟨?_, ?_⟩
    · intro e e' described described' named
      obtain ⟨s, mem, -, here, view⟩ := seen e described
      obtain ⟨s', mem', -, here', view'⟩ := seen e' described'
      have same : s = s' := List.inj_on_of_nodup_map g.distinct mem mem'
        (here.trans (named.trans here'.symm))
      rw [same] at view
      exact congrArg View.keysHash (view.symm.trans view')
    · intro e generated
      obtain ⟨s, -, read, here, -⟩ := seen e (.inr generated)
      cases range : isRange e.name with
      | false => rfl
      | true =>
          rw [here, isRead_of_isRange range] at read
          cases read
  have holds := holds_renderAll apart rendered
  refine ⟨apart, ?_⟩
  intro e described s there mem key value inherited
  obtain ⟨t, -, -, here, view⟩ := seen e described
  have put : g.keysOf s.name = some s.keys :=
    (holds s).2 (there.imp_left File.mem_sections_iff.1)
  cases own : e.keys.get key with
  | some value' => exact ⟨value', rfl⟩
  | none =>
      -- the key is found further up, and the section's own keys have none
      have string : g.string transformValue t.name key = none := by
        have strings := congrFun (congrArg View.string view) key
        rw [show (f.ownView transformValue e).string key = none by simp [File.ownView, own]]
          at strings
        exact strings
      unfold File.string at string
      rw [Option.map_eq_none_iff] at string
      unfold File.getKey at string
      rw [List.findSome?_eq_none_iff, here] at string
      have nothing := string s.name (List.mem_cons_of_mem _ mem)
      rw [put] at nothing
      simp [inherited] at nothing

/-- What any parser accepts is accepted by the one that keeps the sections. -/
theorem keep_accepts {P V : Type} {parser : Parser P V} {l : List Section}
    {start confs : Confs P V}
    (ok : l.foldlM (readSection transformValue parser user g) start = .ok confs)
    (start' : Confs View View) :
    ∃ confs', l.foldlM (readSection transformValue keep user g) start' = .ok confs' := by
  induction l generalizing start start' with
  | nil => exact ⟨start', rfl⟩
  | cons s l ih =>
      rw [List.foldlM_cons] at ok
      cases first : readSection transformValue parser user g start s with
      | error err =>
          rw [first] at ok
          cases ok
      | ok mid =>
          rw [first] at ok
          have mid' : ∃ mid', readSection transformValue keep user g start' s = .ok mid' := by
            unfold readSection
            cases readSection_eq_ok first with
            | skips other _ => exact ⟨start', by simp [other]⟩
            | proxy p read role _ _ => exact ⟨_, by simp only [read, role, keep]; rfl⟩
            | visitor v read role _ _ =>
                have differs : visitorRole ≠ serverRole := by decide
                exact ⟨_, by simp only [read, role, differs, keep]; rfl⟩
          obtain ⟨mid', read⟩ := mid'
          obtain ⟨confs', rest⟩ := ih ok mid'
          exact ⟨confs', by rw [List.foldlM_cons, read]; exact rest⟩

/-- **Whatever reads the sections, each gives what its own keys say, iff no two of them are
in each other's way.** -/
theorem load_faithful_iff (transformValue : TransformValue) (user : GoString) (f : File) :
    (∀ (P V : Type) (parser : Parser P V) (rounds : Nat) (confs : Confs P V),
      load transformValue rounds parser user f = some (.ok confs) →
        Faithful transformValue f parser user confs) ↔
    ((∃ (rounds : Nat) (confs : Confs View View),
      load transformValue rounds keep user f = some (.ok confs)) →
        Consistent transformValue f) := by
  constructor
  · rintro faithful ⟨rounds, confs, ok⟩
    exact consistent_of_faithful ok (faithful View View keep rounds confs ok)
  · intro consistent P V parser rounds confs ok
    refine faithful_of_consistent (consistent ⟨rounds, ?_⟩) ok
    unfold load at ok ⊢
    split at ok
    · cases ok
    · cases ok
    · rename_i g rendered
      obtain ⟨confs', kept⟩ := keep_accepts (Option.some.inj ok) {}
      exact ⟨confs', by simp only [kept]⟩

end Main

/-! ## A template that writes over a section -/

def ports (local_ remote : String) : Keys :=
  (GoMap.set ∅ localPort (lit local_)).set remotePort (lit remote)

/-- The owner's `web_0` beside a template for `web`. -/
def webFile : File where
  sections := [⟨commonSection, ∅⟩, ⟨lit "range:web", ports "6000" "6000"⟩,
    ⟨lit "web_0", ports "22" "7000"⟩]
  distinct := by decide

/-- Values without `%(name)s` in them. -/
def plainValue : TransformValue := fun _ _ _ value => value

/-- The file is accepted, and `web_0` does not say what its owner wrote. -/
theorem range_writes_over :
    (∃ confs, load plainValue 2 keep [] webFile = some (.ok confs)) ∧
      ∀ rounds confs, load plainValue rounds keep [] webFile = some (.ok confs) →
        ¬ Faithful plainValue webFile keep [] confs := by
  refine ⟨?_, ?_⟩
  · have accepted : (load plainValue 2 keep [] webFile).any Except.toBool = true := by
      decide +kernel
    cases loaded : load plainValue 2 keep [] webFile with
    | none => simp [loaded] at accepted
    | some answer =>
        cases answer with
        | error err => simp [loaded, Except.toBool] at accepted
        | ok confs => exact ⟨confs, rfl⟩
  · intro rounds confs ok faithful
    have consistent := consistent_of_faithful ok faithful
    have read : parseRangeNumbers 2 (lit "6000") = some (.ok [6000]) := by decide +kernel
    have six : Lists (lit "6000") [6000] := lists_of_parseRangeNumbers read
    have local_ : (webFile.string plainValue (lit "range:web") localPort).getD [] = lit "6000" := by
      decide +kernel
    have remote : (webFile.string plainValue (lit "range:web") remotePort).getD [] =
        lit "6000" := by decide +kernel
    have generated : Generated plainValue webFile
        (instance_ ⟨lit "range:web", ports "6000" "6000"⟩ 0 6000 6000) :=
      ⟨⟨lit "range:web", ports "6000" "6000"⟩, by decide +kernel, by decide +kernel, [6000], [6000],
        ⟨by rw [local_]; exact six, by rw [remote]; exact six, rfl⟩, 0, 6000, 6000, rfl, rfl, rfl⟩
    have written : Described plainValue webFile ⟨lit "web_0", ports "22" "7000"⟩ :=
      .inl ⟨by decide +kernel, by decide +kernel⟩
    have same := consistent.agree _ _ written (.inr generated) (by decide +kernel)
    have differ : (ports "22" "7000").get localPort ≠
        (withPorts (ports "6000" "6000") 6000 6000).get localPort := by decide +kernel
    exact differ (congrArg (GoMap.get · localPort) same)

end ChmlFrp.Config.RangeSections
