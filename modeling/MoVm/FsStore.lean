import MoVm.FsAcl
import MoVm.Lib.Simulation

/-!
# The Access Lists over Time

`FsState` of `virtio/fs.rs` as threads use it together: `set_acl` and `get_acl` hold the lock of the
access lists for all of their work, while `create_file` opens the file, asks the host who owns it
and only then takes the lock. Between its three steps other threads make their own calls, and other
programs do to the host's files what they like.

`FsStep` interleaves these steps; `FsState.createFile` is the call as the source has it, and
`createFile_steps` says that it is the three steps in a row.

## Main results

* `acl_history`: in every interleaving, the list of a path is the last one that was set, or else the
  one from the first `create_file` (or, for the directory itself, from `new`). Paths are the same
  when they have the same components.
* `acl_unset`: a list that nobody has set names the owner whom the host reported at some time during
  that `create_file`, and lets nobody but them do anything.
-/

open Lib

namespace MoVm

variable {X H F S : Type}

/-! ### The calls -/

/-- `OpenOptions`, as far as the file system sets them. -/
structure OpenOptions where
  read : Bool
  write : Bool
  create : Bool
deriving DecidableEq

/-- The host's files of type `X` and their handles of type `H`. -/
structure FsHost (X H : Type) where
  /-- `OpenOptions::open`. -/
  openWith : X → OpenOptions → String → X × Except String H
  /-- The owner and the group in `fs::metadata(path)`. -/
  metadata : X → String → Except String (UInt32 × UInt32)

/-- `HashMap::insert`. -/
def insertAcl (acls : List (List PathComponent × Acl)) (path : List PathComponent) (acl : Acl) :
    List (List PathComponent × Acl) :=
  (path, acl) :: acls.filter fun entry => entry.1 != path

/-- What `init_acl` does under the lock. -/
def initialised (acls : List (List PathComponent × Acl)) (path : List PathComponent) (acl : Acl) :
    List (List PathComponent × Acl) :=
  match acls.lookup path with
  | some _ => acls
  | none => insertAcl acls path acl

/-- The access list of a file that nobody has set one for. -/
def Acl.ofOwner (owner : UInt32 × UInt32) : Acl where
  owner := owner.1
  group := owner.2
  entries := []

/-- `FsState::set_acl`. -/
def FsState.setAcl (s : FsState) (path : String) (acl : Acl) : FsState :=
  { s with acls := insertAcl s.acls (Path.components path) acl }

/-- `FsState::init_acl`. -/
def FsState.initAcl (host : FsHost X H) (files : X) (s : FsState) (path : String) :
    FsState × Except HypervisorError Unit :=
  match host.metadata files path with
  | .error e => (s, .error (.ioError e))
  | .ok owner =>
      ({ s with acls := initialised s.acls (Path.components path) (.ofOwner owner) }, .ok ())

/-- The options of `create_file`. -/
def createOptions : OpenOptions where
  read := false
  write := true
  create := true

/-- The error of `create_file` when `init_acl` has failed. -/
def initAclError (e : HypervisorError) : String :=
  "Failed to initialize ACL: " ++ e.display

/-- `FsState::create_file`. The file stays when its access list cannot be made. -/
def FsState.createFile (host : FsHost X H) (files : X) (s : FsState) (path : String) :
    X × FsState × Except String H :=
  match host.openWith files createOptions path with
  | (files, .error e) => (files, s, .error e)
  | (files, .ok file) =>
      match s.initAcl host files path with
      | (s, .error e) => (files, s, .error (initAclError e))
      | (s, .ok ()) => (files, s, .ok file)

/-! ### The calls of several threads -/

/-- Where a thread is in `create_file`. -/
inductive FsPhase (H : Type)
  | idle
  | opened (path : String) (file : H)
  | inspected (path : String) (file : H) (owner : UInt32 × UInt32)

/-- What the threads share, and where each of them is. -/
structure FsShared (n : ℕ) (X H : Type) where
  state : FsState
  files : X
  phase : Fin n → FsPhase H

/-- What a step was. -/
inductive FsEvent (H : Type)
  | set (path : String) (acl : Acl)
  | got (path : String) (acl : Option Acl)
  | fileOpened (path : String) (r : Except String H)
  | fileCreated (path : String)
  | ownerRead (path : String) (owner : UInt32 × UInt32)
  | aclMade (path : String) (acl : Acl)
  | createFailed (path : String) (e : String)
  | host

variable {n : ℕ}

/-- One step of one thread, or of the rest of the host. -/
inductive FsStep (host : FsHost X H) : FsShared n X H → Option (Fin n) → FsShared n X H →
    FsEvent H → Prop
  | setAcl {s : FsShared n X H} {i : Fin n} (path : String) (acl : Acl) (hi : s.phase i = .idle) :
      FsStep host s (some i) { s with state := s.state.setAcl path acl } (.set path acl)
  | getAcl {s : FsShared n X H} {i : Fin n} (path : String) (hi : s.phase i = .idle) :
      FsStep host s (some i) s (.got path (s.state.getAcl path))
  | openFile {s : FsShared n X H} {i : Fin n} (path : String) (read write : Bool)
      (hi : s.phase i = .idle) :
      FsStep host s (some i)
        { s with files := (host.openWith s.files ⟨read, write, false⟩ path).1 }
        (.fileOpened path (host.openWith s.files ⟨read, write, false⟩ path).2)
  | create {s : FsShared n X H} {i : Fin n} {path : String} {files : X} {file : H}
      (hi : s.phase i = .idle) (h : host.openWith s.files createOptions path = (files, .ok file)) :
      FsStep host s (some i)
        { s with files, phase := Function.update s.phase i (.opened path file) }
        (.fileCreated path)
  | createFailed {s : FsShared n X H} {i : Fin n} {path : String} {files : X} {e : String}
      (hi : s.phase i = .idle) (h : host.openWith s.files createOptions path = (files, .error e)) :
      FsStep host s (some i) { s with files } (.createFailed path e)
  | readOwner {s : FsShared n X H} {i : Fin n} {path : String} {file : H}
      {owner : UInt32 × UInt32} (hi : s.phase i = .opened path file)
      (h : host.metadata s.files path = .ok owner) :
      FsStep host s (some i)
        { s with phase := Function.update s.phase i (.inspected path file owner) }
        (.ownerRead path owner)
  | readOwnerFailed {s : FsShared n X H} {i : Fin n} {path : String} {file : H} {e : String}
      (hi : s.phase i = .opened path file) (h : host.metadata s.files path = .error e) :
      FsStep host s (some i) { s with phase := Function.update s.phase i .idle }
        (.createFailed path (initAclError (.ioError e)))
  | makeAcl {s : FsShared n X H} {i : Fin n} {path : String} {file : H} {owner : UInt32 × UInt32}
      (hi : s.phase i = .inspected path file owner) :
      FsStep host s (some i)
        { s with
          state :=
            { s.state with
              acls := initialised s.state.acls (Path.components path) (.ofOwner owner) }
          phase := Function.update s.phase i .idle }
        (.aclMade path (.ofOwner owner))
  | host {s : FsShared n X H} (files : X) : FsStep host s none { s with files } .host

/-- **`create_file` is its three steps in a row**, when nobody comes between them. -/
theorem createFile_steps {host : FsHost X H} {s : FsShared n X H} {i : Fin n} {path : String}
    {file : H} {files : X} {state : FsState} (hi : s.phase i = .idle)
    (h : s.state.createFile host s.files path = (files, state, .ok file)) :
    ∃ calls, Trace (FsStep host) s calls { s with state, files } ∧
      (∀ x ∈ calls, x.2.1 = some i) ∧ calls.length = 3 := by
  rw [FsState.createFile] at h
  rcases hopen : host.openWith s.files createOptions path with ⟨files₁, e | file₁⟩
  · simp only [hopen] at h
    cases (Prod.mk.inj (Prod.mk.inj h).2).2
  cases hmeta : host.metadata files₁ path with
  | error e =>
      simp only [hopen, FsState.initAcl, hmeta] at h
      cases (Prod.mk.inj (Prod.mk.inj h).2).2
  | ok owner =>
      simp only [hopen, FsState.initAcl, hmeta, Prod.mk.injEq, Except.ok.injEq] at h
      obtain ⟨rfl, rfl, rfl⟩ := h
      -- the three updates of the phase give back the idle one
      have hphase : Function.update (Function.update (Function.update s.phase i
          (.opened path file₁)) i (.inspected path file₁ owner)) i .idle = s.phase := by
        rw [Function.update_idem, Function.update_idem, ← hi, Function.update_eq_self]
      have htrace := Trace.cons (FsStep.create hi hopen)
        (.cons (.readOwner (Function.update_self ..) hmeta)
          (.cons (.makeAcl (Function.update_self ..)) (.nil _)))
      rw [hphase] at htrace
      refine ⟨_, htrace, fun x hx => ?_, rfl⟩
      simp only [List.mem_cons, List.not_mem_nil, or_false] at hx
      rcases hx with rfl | rfl | rfl <;> rfl

/-! ### The list of a path -/

theorem lookup_filter_ne (acls : List (List PathComponent × Acl)) {path p : List PathComponent}
    (h : p ≠ path) :
    (acls.filter fun entry => entry.1 != path).lookup p = acls.lookup p := by
  induction acls with
  | nil => rfl
  | cons entry acls ih =>
      obtain ⟨q, acl⟩ := entry
      by_cases hq : q = path
      · subst hq
        rw [List.filter_cons_of_neg (by simp), ih, List.lookup_cons,
          beq_false_of_ne h]
      · rw [List.filter_cons_of_pos (by simpa using hq), List.lookup_cons, List.lookup_cons, ih]

/-- A list that is set replaces the one before. -/
theorem lookup_insertAcl (acls : List (List PathComponent × Acl)) (path p : List PathComponent)
    (acl : Acl) :
    (insertAcl acls path acl).lookup p =
      (if path = p then some acl else none).or (acls.lookup p) := by
  by_cases h : path = p
  · subst h
    rw [insertAcl, List.lookup_cons_self, if_pos rfl, Option.some_or]
  · have hp : p ≠ path := fun hp => h hp.symm
    rw [insertAcl, List.lookup_cons, beq_false_of_ne hp, if_neg h, Option.none_or]
    exact lookup_filter_ne acls hp

/-- A list that is made for a new file does not. -/
theorem lookup_initialised (acls : List (List PathComponent × Acl)) (path p : List PathComponent)
    (acl : Acl) :
    (initialised acls path acl).lookup p =
      (acls.lookup p).or (if path = p then some acl else none) := by
  rw [initialised]
  cases hlookup : acls.lookup path with
  | some old =>
      by_cases h : path = p
      · subst h
        rw [hlookup, Option.some_or]
      · rw [if_neg h, Option.or_none]
  | none =>
      rw [lookup_insertAcl]
      by_cases h : path = p
      · subst h
        rw [hlookup, if_pos rfl, Option.none_or, Option.some_or]
      · rw [if_neg h, Option.or_none, Option.none_or]

/-- Equality of `PathBuf`. -/
def SamePath (p q : String) : Prop := Path.components p = Path.components q

instance (p q : String) : Decidable (SamePath p q) :=
  inferInstanceAs (Decidable (Path.components p = Path.components q))

/-- The list that a step sets for a path. -/
def FsEvent.setFor (path : String) : FsEvent H → Option Acl
  | .set p acl => if SamePath p path then some acl else none
  | _ => none

/-- The list that a step makes for a path, if it has none. -/
def FsEvent.madeFor (path : String) : FsEvent H → Option Acl
  | .aclMade p acl => if SamePath p path then some acl else none
  | _ => none

/-- What a step does to the list of a path. -/
theorem FsStep.getAcl_eq {host : FsHost X H} {s s' : FsShared n X H} {who : Option (Fin n)}
    {ev : FsEvent H} (h : FsStep host s who s' ev) (path : String) :
    s'.state.getAcl path =
      (ev.setFor path).or ((s.state.getAcl path).or (ev.madeFor path)) := by
  cases h with
  | setAcl p acl hi =>
      show _ = (if SamePath p path then some acl else none).or ((s.state.getAcl path).or none)
      rw [Option.or_none]
      exact lookup_insertAcl s.state.acls _ _ acl
  | makeAcl hi => exact lookup_initialised s.state.acls _ _ _
  | _ => exact (Option.or_none).symm

/-- `get_acl` answers with the list of its path. -/
theorem FsStep.got_eq {host : FsHost X H} {s s' : FsShared n X H} {who : Option (Fin n)}
    {path : String} {acl : Option Acl} (h : FsStep host s who s' (.got path acl)) :
    acl = s.state.getAcl path := by
  cases h with
  | getAcl _ hi => rfl

/-- The list that was set last. -/
def lastSet (calls : List (FsShared n X H × Option (Fin n) × FsEvent H)) (path : String) :
    Option Acl :=
  calls.reverse.findSome? fun x => x.2.2.setFor path

/-- The list that was made first. -/
def firstMade (calls : List (FsShared n X H × Option (Fin n) × FsEvent H)) (path : String) :
    Option Acl :=
  calls.findSome? fun x => x.2.2.madeFor path

/-- The list of a path after any interleaving. -/
theorem getAcl_trace {host : FsHost X H} {s s' : FsShared n X H}
    {calls : List (FsShared n X H × Option (Fin n) × FsEvent H)}
    (htrace : Trace (FsStep host) s calls s') (path : String) :
    s'.state.getAcl path =
        (lastSet calls path).or ((s.state.getAcl path).or (firstMade calls path)) ∧
      ∀ before x after, calls = before ++ x :: after → x.1.state.getAcl path =
        (lastSet before path).or ((s.state.getAcl path).or (firstMade before path)) := by
  refine htrace.history (I := fun past t => t.state.getAcl path =
    (lastSet past path).or ((s.state.getAcl path).or (firstMade past path))) ?_ ?_
  · intro past t who t' ev hpast hstep
    have hset : lastSet (past ++ [(t, who, ev)]) path =
        (ev.setFor path).or (lastSet past path) := by
      rw [lastSet, List.reverse_append, List.reverse_singleton, List.singleton_append,
        List.findSome?_cons]
      cases ev.setFor path <;> rfl
    have hmade : firstMade (past ++ [(t, who, ev)]) path =
        (firstMade past path).or (ev.madeFor path) := by
      rw [firstMade, List.findSome?_append, List.findSome?_singleton]
      rfl
    rw [hstep.getAcl_eq path, hpast, hset, hmade, Option.or_assoc, Option.or_assoc,
      Option.or_assoc]
  · rw [lastSet, firstMade, List.reverse_nil, List.findSome?_nil, List.findSome?_nil,
      Option.none_or, Option.or_none]

/-! ### Where a list comes from -/

/-- The owner of a list that is made was read before. -/
structure Provenance (past : List (FsShared n X H × Option (Fin n) × FsEvent H))
    (s : FsShared n X H) : Prop where
  phase : ∀ i path file owner, s.phase i = .inspected path file owner →
    ∃ x ∈ past, x.2.2 = .ownerRead path owner
  made : ∀ x ∈ past, ∀ path acl, x.2.2 = .aclMade path acl →
    ∃ owner, acl = .ofOwner owner ∧ ∃ y ∈ past, y.2.2 = .ownerRead path owner

/-- A step that brings no thread closer to a list. -/
theorem Provenance.keep {past : List (FsShared n X H × Option (Fin n) × FsEvent H)}
    {s s' : FsShared n X H} {x : FsShared n X H × Option (Fin n) × FsEvent H}
    (h : Provenance past s)
    (hphase : ∀ i path file owner, s'.phase i = .inspected path file owner →
      s.phase i = .inspected path file owner ∨ x.2.2 = .ownerRead path owner)
    (hmade : ∀ path acl, x.2.2 = .aclMade path acl →
      ∃ owner, acl = .ofOwner owner ∧ ∃ y ∈ past, y.2.2 = .ownerRead path owner) :
    Provenance (past ++ [x]) s' where
  phase i path file owner hi := by
    rcases hphase i path file owner hi with hi | hx
    · obtain ⟨y, hy, hread⟩ := h.phase i path file owner hi
      exact ⟨y, List.mem_append_left _ hy, hread⟩
    · exact ⟨x, List.mem_append_right _ (List.mem_singleton_self x), hx⟩
  made y hy path acl hacl := by
    have hsource : ∃ owner, acl = .ofOwner owner ∧ ∃ z ∈ past, z.2.2 = .ownerRead path owner := by
      rcases List.mem_append.mp hy with hy | hy
      · exact h.made y hy path acl hacl
      · obtain rfl := List.mem_singleton.mp hy
        exact hmade path acl hacl
    obtain ⟨owner, hof, z, hz, hread⟩ := hsource
    exact ⟨owner, hof, z, List.mem_append_left _ hz, hread⟩

theorem Provenance.step {host : FsHost X H}
    {past : List (FsShared n X H × Option (Fin n) × FsEvent H)} {s s' : FsShared n X H}
    {who : Option (Fin n)} {ev : FsEvent H} (h : Provenance past s)
    (hstep : FsStep host s who s' ev) : Provenance (past ++ [(s, who, ev)]) s' := by
  cases hstep with
  | @readOwner i path file owner hi hmeta =>
      refine h.keep (fun j p f o hj => ?_) (by rintro _ _ ⟨⟩)
      rcases eq_or_of_update hj with hj | ⟨-, hj⟩
      · exact .inl hj
      · obtain ⟨rfl, rfl, rfl⟩ := FsPhase.inspected.inj hj
        exact .inr rfl
  | @makeAcl i path file owner hi =>
      refine h.keep (fun j p f o hj => ?_) ?_
      · rcases eq_or_of_update hj with hj | ⟨-, ⟨⟩⟩
        exact .inl hj
      · rintro p acl hev
        obtain ⟨rfl, rfl⟩ := FsEvent.aclMade.inj hev
        exact ⟨owner, rfl, h.phase i path file owner hi⟩
  | create hi hopen | readOwnerFailed hi hmeta =>
      refine h.keep (fun j p f o hj => ?_) (by rintro _ _ ⟨⟩)
      rcases eq_or_of_update hj with hj | ⟨-, ⟨⟩⟩
      exact .inl hj
  | _ => exact h.keep (fun _ _ _ _ hj => .inl hj) (by rintro _ _ ⟨⟩)

/-- The owner of a list that was made is the one the host reported in a step before, for the path
that was given then. -/
theorem owner_of_made {host : FsHost X H} {s s' : FsShared n X H}
    {calls : List (FsShared n X H × Option (Fin n) × FsEvent H)}
    (htrace : Trace (FsStep host) s calls s') (hidle : ∀ i, s.phase i = .idle) {path : String}
    {acl : Acl} (hmade : firstMade calls path = some acl) :
    ∃ owner, acl = .ofOwner owner ∧ ∃ p, SamePath p path ∧
      ∃ x ∈ calls, host.metadata x.1.files p = .ok owner := by
  have hprov : Provenance calls s' := by
    refine (htrace.history (I := Provenance) (fun _ _ _ _ _ => Provenance.step) ?_).1
    refine ⟨fun i path file owner hi => ?_, fun x hx => absurd hx List.not_mem_nil⟩
    rw [hidle i] at hi
    cases hi
  obtain ⟨x, hx, hfor⟩ := List.exists_of_findSome?_eq_some hmade
  obtain ⟨p, hsame, hev⟩ : ∃ p, SamePath p path ∧ x.2.2 = .aclMade p acl := by
    rcases x with ⟨_, _, ev⟩
    cases ev with
    | aclMade p acl' =>
        simp only [FsEvent.madeFor, Option.ite_none_right_eq_some, Option.some.injEq] at hfor
        exact ⟨p, hfor.1, by rw [hfor.2]⟩
    | _ => cases hfor
  obtain ⟨owner, hof, ⟨u, who, ev⟩, hy, rfl⟩ := hprov.made x hx p acl hev
  obtain ⟨t, hstep⟩ := htrace.step_of_mem hy
  refine ⟨owner, hof, p, hsame, _, hy, ?_⟩
  cases hstep with
  | readOwner hi hmeta => exact hmeta

/-! ### Every interleaving -/

/-- The threads before their first call. -/
def FsShared.start (n : ℕ) (H : Type) (state : FsState) (files : X) : FsShared n X H where
  state := state
  files := files
  phase _ := .idle

/-- The only list that `new` makes. -/
theorem getAcl_new {attach : AttachHost F S} {root : String} {region : Option (UInt64 × UInt64)}
    {state : FsState} (hnew : FsState.new attach root region = .ok state) :
    ∃ owner, attach.metadata root = .ok owner ∧ ∀ path, state.getAcl path =
      if SamePath path root then some (.ofOwner owner) else none := by
  obtain ⟨-, owner, hmeta, rfl⟩ := (FsState.new_ok_iff attach).mp hnew
  refine ⟨owner, hmeta, fun path => ?_⟩
  by_cases h : SamePath path root
  · rw [if_pos h, FsState.getAcl, h]
    exact List.lookup_cons_self
  · rw [if_neg h, FsState.getAcl, List.lookup_cons, beq_false_of_ne h]
    rfl

variable {host : FsHost X H} {attach : AttachHost F S} {root : String}
  {region : Option (UInt64 × UInt64)} {state : FsState} {files : X} {s : FsShared n X H}
  {calls : List (FsShared n X H × Option (Fin n) × FsEvent H)}

/-- A host on which every file can be opened and belongs to one user. -/
def FsHost.plain : FsHost Unit Unit where
  openWith _ _ _ := ((), .ok ())
  metadata _ _ := .ok (1000, 100)

/-- A new file system there. -/
def FsState.shared : FsState where
  root := "/shared"
  acls := [(Path.components "/shared", .ofOwner (0, 0))]
  mmioRegion := none
  mmioData := []

theorem FsState.new_shared : FsState.new AttachHost.plain "/shared" none = .ok FsState.shared := rfl

theorem openWith_plain (path : String) :
    FsHost.plain.openWith () createOptions path = ((), .ok ()) := rfl

/-- **The access list of a path, over every interleaving.** From a new file system on, whatever its
threads and the rest of the host do and in whatever order, each `get_acl` answers with the list that
was set last; if none was set, with the one that `new` has made for the directory or the first
`create_file` to reach the lock has made for the file. So no `create_file` undoes a `set_acl`, no
list is ever lost, and a file that is created again keeps the list of its first owner. -/
theorem acl_history (hnew : FsState.new attach root region = .ok state)
    (htrace : Trace (FsStep host) (.start n H state files) calls s) :
    ∃ owner, attach.metadata root = .ok owner ∧
      (∀ path, s.state.getAcl path = (lastSet calls path).or
        ((if SamePath path root then some (.ofOwner owner) else none).or (firstMade calls path))) ∧
      ∀ before x after path acl, calls = before ++ x :: after → x.2.2 = .got path acl →
        acl = (lastSet before path).or
          ((if SamePath path root then some (.ofOwner owner) else none).or
            (firstMade before path)) := by
  obtain ⟨owner, hmeta, hget⟩ := getAcl_new hnew
  have hstart : ∀ path, (FsShared.start n H state files).state.getAcl path =
      if SamePath path root then some (.ofOwner owner) else none := hget
  refine ⟨owner, hmeta, fun path => ?_, fun before x after path acl hcalls hgot => ?_⟩
  · rw [(getAcl_trace htrace path).1, hstart]
  · obtain ⟨t, hstep⟩ := htrace.step_of_mem (hcalls ▸ List.mem_append_right _ List.mem_cons_self)
    have hx := (getAcl_trace htrace path).2 before x after hcalls
    rw [hstart] at hx
    rw [hgot] at hstep
    exact hstep.got_eq.trans hx

/-- A thread sets a list for a file, by another spelling of its path, while another one is creating
it. -/
theorem acl_history_overtaken :
    ∃ (calls : _) (s : FsShared 2 Unit Unit),
      Trace (FsStep FsHost.plain) (.start 2 Unit .shared ()) calls s ∧
      firstMade calls "/shared/1" = some (.ofOwner (1000, 100)) ∧
      s.state.getAcl "/shared/1" = some { owner := 7, group := 7, entries := [] } := by
  have hcreate : FsStep FsHost.plain (.start 2 Unit .shared ()) (some 0) _ _ :=
    .create rfl (openWith_plain "/shared/1")
  have htrace := Trace.cons hcreate <|
    .cons (.setAcl (i := 1) "/shared//1" { owner := 7, group := 7, entries := [] } rfl) <|
    .cons (.readOwner (i := 0) rfl rfl) <| .cons (.makeAcl (i := 0) rfl) (.nil _)
  obtain ⟨_, _, hget, -⟩ := acl_history FsState.new_shared htrace
  exact ⟨_, _, htrace, rfl, hget "/shared/1"⟩

/-- **A list that nobody has set** is that of an owner whom the host has reported for this path:
when `new` looked at the directory, or at some step of the interleaving, by the path as it was
spelled there. It lets no one but that owner do anything, and lets them do all four things at once
or nothing. -/
theorem acl_unset (hnew : FsState.new attach root region = .ok state)
    (htrace : Trace (FsStep host) (.start n H state files) calls s) {path : String} {acl : Acl}
    (hunset : lastSet calls path = none) (hacl : s.state.getAcl path = some acl) :
    (SamePath path root ∧ attach.metadata root = .ok (acl.owner, acl.group) ∨
      ∃ p, SamePath p path ∧ ∃ x ∈ calls,
        host.metadata x.1.files p = .ok (acl.owner, acl.group)) ∧
    ∀ uid gid required, acl.checkPermission uid gid required = true ↔
      uid = acl.owner ∧ (required = 0 ∨ required = AclPermissions.all) := by
  obtain ⟨owner, hmeta, hget⟩ := getAcl_new hnew
  have hstart : (FsShared.start n H state files).state.getAcl path =
      if SamePath path root then some (.ofOwner owner) else none := hget path
  rw [(getAcl_trace htrace path).1, hunset, hstart, Option.none_or] at hacl
  have hsource : ∃ owner, acl = .ofOwner owner ∧
      (SamePath path root ∧ attach.metadata root = .ok owner ∨
        ∃ p, SamePath p path ∧ ∃ x ∈ calls, host.metadata x.1.files p = .ok owner) := by
    by_cases h : SamePath path root
    · rw [if_pos h, Option.some_or] at hacl
      exact ⟨owner, (Option.some.inj hacl).symm, .inl ⟨h, hmeta⟩⟩
    · rw [if_neg h, Option.none_or] at hacl
      obtain ⟨owner, hof, hx⟩ := owner_of_made htrace (fun _ => rfl) hacl
      exact ⟨owner, hof, .inr hx⟩
  obtain ⟨owner, rfl, hsource⟩ := hsource
  refine ⟨hsource, fun uid gid required => ?_⟩
  rw [Acl.checkPermission_iff]
  simp only [Acl.ofOwner, Acl.Unnamed, List.find?_nil, List.not_mem_nil, reduceCtorEq, false_and,
    exists_false, and_false, false_or, or_false, false_implies, implies_true, true_and, ne_eq]
  exact and_congr_left fun _ => eq_comm

/-- A file that is created and nothing else. -/
theorem acl_unset_created :
    ∃ (calls : _) (s : FsShared 1 Unit Unit),
      Trace (FsStep FsHost.plain) (.start 1 Unit .shared ()) calls s ∧
      ∃ acl, s.state.getAcl "/shared/1" = some acl ∧
        acl.checkPermission 1000 100 AclPermissions.read = false := by
  have hcreate : FsStep FsHost.plain (.start 1 Unit .shared ()) (some 0) _ _ :=
    .create rfl (openWith_plain "/shared/1")
  obtain ⟨calls, s, htrace, hunset, hacl⟩ : ∃ (calls : _) (s : FsShared 1 Unit Unit),
      Trace (FsStep FsHost.plain) (.start 1 Unit .shared ()) calls s ∧
      lastSet calls "/shared/1" = none ∧
      s.state.getAcl "/shared/1" = some (.ofOwner (1000, 100)) :=
    ⟨_, _, .cons hcreate <| .cons (.readOwner (i := 0) rfl rfl) <|
      .cons (.makeAcl (i := 0) rfl) (.nil _), rfl, rfl⟩
  have hgrants := (acl_unset FsState.new_shared htrace hunset hacl).2 1000 100 AclPermissions.read
  exact ⟨calls, s, htrace, _, hacl,
    Bool.eq_false_iff.mpr fun h => absurd (hgrants.mp h).2 (by decide)⟩

end MoVm
