import MoVm.RegisterFile

/-!
# The Devices of a Running Machine

What the threads of a running machine do to its devices, in every interleaving: all results are
about a machine that was made and then given devices by any sequence of calls, with any number of
vCPUs, and with whatever the loaders have left in guest memory.

## Main results

* `exits_linearizable`: in the order in which the lock is released, the exits are answered as the
  register file answers them one after the other.
* `devices_inert`: no disk, socket, queue or configuration of a device ever changes, and only the
  guest writes to guest memory.
* `serial_output`: but for the log, the host's stream gets the bytes for the serial port, in order,
  and nothing else.
* `lock_safe`, `lock_released`: the lock is never poisoned, a vCPU thread panics only when the
  host's stream fails, and whoever holds the lock comes to release it.
* `devices_unreachable`: the windows of the devices lie behind guest memory, so that no exit that
  KVM makes ever gets to one.
-/

open Lib

namespace MoVm

variable {V Q C F S W : Type} {n : ℕ} {env : DeviceEnv Q C F S W} {kvm : KvmVcpu V}
  {rd : env.queue.Readiness}

/-! ### What a device can become -/

/-- Another queue is selected, features have been acknowledged and guest memory has changed. -/
def VirtioMmioDevice.Drifted (dev dev' : VirtioMmioDevice Q F S) : Prop :=
  ∃ sel acked mem, dev' = { dev with
    device := (dev.device.setAckedFeatures acked).withMemory mem, queueSel := sel }

theorem VirtioMmioDevice.Drifted.refl (dev : VirtioMmioDevice Q F S) : dev.Drifted dev := by
  obtain ⟨device, baseAddr, size, queueSel⟩ := dev
  cases device with
  | fs d => exact ⟨queueSel, d.ackedFeatures, d.mem, rfl⟩
  | console d => exact ⟨queueSel, 0, d.config.mem, rfl⟩
  | block d => exact ⟨queueSel, 0, d.config.mem, rfl⟩
  | net d => exact ⟨queueSel, 0, d.config.mem, rfl⟩

theorem VirtioMmioDevice.Drifted.withMemory {dev dev' : VirtioMmioDevice Q F S}
    (h : dev.Drifted dev') (mem : GuestMemory) : dev.Drifted (dev'.withMemory mem) := by
  obtain ⟨sel, acked, mem', rfl⟩ := h
  exact ⟨sel, acked, mem, by simp only [VirtioMmioDevice.withMemory,
    VirtioDevice.withMemory_withMemory]⟩

theorem VirtioMmioDevice.Drifted.writeRegister {dev dev' : VirtioMmioDevice Q F S}
    (h : dev.Drifted dev') (offset : UInt64) (data : List UInt8) :
    dev.Drifted (dev'.writeRegister offset data) := by
  obtain ⟨sel, acked, mem, rfl⟩ := h
  rw [VirtioMmioDevice.writeRegister]
  split
  · exact ⟨sel, acked, mem, rfl⟩
  · dsimp only
    split
    · refine ⟨sel, (UInt32.ofNat (leNat (data.take 4))).toUInt64, mem, ?_⟩
      obtain ⟨device, _, _, _⟩ := dev
      cases device <;> rfl
    · exact ⟨_, acked, mem, rfl⟩
    · exact ⟨sel, acked, mem, rfl⟩

theorem VirtioMmioDevice.Drifted.after {dev dev' : VirtioMmioDevice Q F S}
    (h : dev.Drifted dev') (exit : VcpuExit) : dev.Drifted (dev'.after exit) := by
  cases exit with
  | mmioWrite addr data =>
      rw [VirtioMmioDevice.after]
      split
      · exact h.writeRegister _ _
      · exact h
  | _ => exact h

/-- The devices of a running machine have drifted from those it was started with. -/
structure DriftInv (rd : env.queue.Readiness) (devices : List (VirtioMmioDevice Q F S))
    (s : MachineState n Q F S W) : Prop extends DevicesInv rd s where
  length : s.devices.length = devices.length
  drifted : ∀ (k : ℕ) (dev' : VirtioMmioDevice Q F S), s.devices[k]? = some dev' →
    ∃ dev, devices[k]? = some dev ∧ dev.Drifted dev'

theorem DriftInv.step {devices : List (VirtioMmioDevice Q F S)} {s s' : MachineState n Q F S W}
    {actor : Actor n} {ev : MachineEvent} (hs : DriftInv rd devices s)
    (h : MachineState.Step env kvm s actor s' ev) : DriftInv rd devices s' := by
  have hinv := hs.toDevicesInv.step h
  rcases h.devices hs.toDevicesInv with
    ⟨hsame, -, -⟩ | ⟨i, exit, data, k, dev, -, -, hdev, -, rfl⟩
  · exact ⟨hinv, hsame ▸ hs.length, hsame ▸ hs.drifted⟩
  · refine ⟨hinv, List.length_set.trans hs.length, fun j dev' hj => ?_⟩
    dsimp only at hj
    by_cases hjk : k = j
    · subst hjk
      obtain ⟨d, hd, hdrift⟩ := hs.drifted k dev hdev
      rw [List.getElem?_set_self (List.getElem?_eq_some_iff.mp hdev).1] at hj
      obtain rfl := Option.some.inj hj
      exact ⟨d, hd, (hdrift.after exit).withMemory s.memory⟩
    · rw [List.getElem?_set_ne hjk] at hj
      exact hs.drifted j dev' hj

theorem driftInv_start {devices : List (VirtioMmioDevice Q F S)}
    (hinert : ∀ dev ∈ devices, dev.device.Inert rd) (n : ℕ) (running : Bool)
    (memory : GuestMemory) (stdout : W) :
    DriftInv rd devices (MachineState.start n running memory devices stdout) where
  inert := hinert
  notPoisoned := by rintro ⟨⟩
  length := rfl
  drifted _ dev' h := ⟨dev', h, .refl dev'⟩

/-! ### Releasing the lock -/

/-- The holder of the lock gets to the next device. -/
theorem DevicesInv.visit {s : MachineState n Q F S W} (hs : DevicesInv rd s) {i : Fin n}
    {exit : VcpuExit} {data : List UInt8} {k : ℕ} (hin : s.inside i = .visit exit data k)
    (hk : k < s.devices.length) (kvm : KvmVcpu V) :
    ∃ s' data', MachineState.Step env kvm s (.vcpu i) s' .visited ∧
      s'.devices.length = s.devices.length ∧ s'.lock = s.lock ∧ s'.threads = s.threads ∧
      s'.inside = Function.update s.inside i (.visit exit data' (k + 1)) := by
  obtain ⟨dev, hdev⟩ : ∃ dev, s.devices[k]? = some dev := ⟨_, List.getElem?_eq_getElem hk⟩
  have hinert := (hs.inert dev (List.mem_of_getElem? hdev)).withMemory s.memory
  rcases hvisit : visitDevice env 1 exit ⟨dev.withMemory s.memory, s.stdout, data⟩ with ⟨v, r⟩
  obtain ⟨r, rfl⟩ : ∃ r', r = some r' := by
    have hresult := (visitDevice_result (v := ⟨dev.withMemory s.memory, s.stdout, data⟩)
      hinert 0 exit).2
    rwa [hvisit] at hresult
  have hpanic : r ≠ .panic := by
    rintro rfl
    exact visit_not_panicked (hs.inert dev (List.mem_of_getElem? hdev)) hvisit
  exact ⟨_, v.data, .visit 1 hin hdev hvisit hpanic, List.length_set, rfl, rfl, rfl⟩

/-- The holder of the lock visits the devices that are left, answers its exit and releases the
lock, by steps of its own alone. -/
theorem DevicesInv.release {s : MachineState n Q F S W} (hs : DevicesInv rd s) {i : Fin n}
    {exit : VcpuExit} {data : List UInt8} {k : ℕ} (hin : s.inside i = .visit exit data k)
    (kvm : KvmVcpu V) :
    ∃ calls s', Trace (MachineState.Step env kvm) s calls s' ∧
      (∀ x ∈ calls, x.2.1 = .vcpu i) ∧ calls.length = s.devices.length - k + 1 ∧
      (∃ data', observed answered calls = [(exit, data')]) ∧
      s'.lock = .free ∧ s'.inside = Function.update s.inside i .no ∧
      s'.threads = Function.update s.threads i .loadRunning := by
  -- by induction on the number of devices that are left
  generalize hleft : s.devices.length - k = left
  induction left generalizing s data k with
  | zero =>
      have hend : s.devices[k]? = none :=
        List.getElem?_eq_none_iff.mpr (Nat.le_of_sub_eq_zero hleft)
      refine ⟨_, _, .cons (.unlock hin hend) (.nil _), fun x hx => ?_, rfl, ⟨data, rfl⟩, rfl, rfl,
        rfl⟩
      rw [List.mem_singleton.mp hx]
  | succ left ih =>
      obtain ⟨s₁, data₁, hstep, hlen₁, -, hthreads, hinside⟩ := hs.visit hin (by omega) kvm
      have hin₁ : s₁.inside i = .visit exit data₁ (k + 1) := by
        rw [hinside, Function.update_self]
      obtain ⟨calls, s', htrace, hcalls, hlen, hanswer, hfree, hinside', hthreads'⟩ :=
        ih (hs.step hstep) hin₁ (by omega)
      refine ⟨_, s', .cons hstep htrace, ?_, congrArg (· + 1) hlen, hanswer, hfree, ?_, ?_⟩
      · intro x hx
        rcases List.mem_cons.mp hx with rfl | hx
        · rfl
        · exact hcalls x hx
      · rw [hinside', hinside, Function.update_idem]
      · rw [hthreads', hthreads]

/-! ### Panics -/

/-- The host's stream has failed when bytes for the serial port were written. -/
def MachineEvent.StreamFailed (ev : MachineEvent) : Prop :=
  ∃ data e, ev = .wrote data (.error e) ∨ ev = .flushed data (.error e)

/-- A thread panics only when the host's stream fails. -/
theorem MachineState.Step.panicked {s s' : MachineState n Q F S W} {actor : Actor n}
    {ev : MachineEvent} (hs : DevicesInv rd s) (h : MachineState.Step env kvm s actor s' ev)
    {i : Fin n} (hi : s'.inside i = .panicked) :
    s.inside i = .panicked ∨ (actor = .vcpu i ∧ ev.StreamFailed) := by
  cases h with
  | writeFailed data _ e =>
      rcases eq_or_of_update hi with hi | ⟨rfl, -⟩
      · exact .inl hi
      · exact .inr ⟨rfl, data, e, .inl rfl⟩
  | flushFailed data _ e =>
      rcases eq_or_of_update hi with hi | ⟨rfl, -⟩
      · exact .inl hi
      · exact .inr ⟨rfl, data, e, .inr rfl⟩
  | lockPoisoned _ _ _ hlock => exact absurd hlock hs.notPoisoned
  | visitPanicked _ _ hdev h =>
      exact absurd h (visit_not_panicked (hs.inert _ (List.mem_of_getElem? hdev)))
  | wrote | flushed | lock | visit | unlock =>
      rcases eq_or_of_update hi with hi | ⟨-, hx⟩
      · exact .inl hi
      · cases hx
  | _ => exact .inl hi

/-! ### Output -/

/-- The bytes that a step writes for the serial port. -/
def MachineEvent.serial : MachineEvent → List UInt8
  | .wrote data _ => data
  | _ => []

/-- What a step of the loops logs is not among what is written. -/
theorem RunEvent.written_log {out : HostWriter W} (acc : out.Accepts) (w : W) (ev : RunEvent) :
    acc.written (ev.log out w) = acc.written w := by
  cases ev with
  | ran ran regs result =>
      rcases ran with e | exit
      · rfl
      · rcases regs with _ | (e | regs)
        · rfl
        · rfl
        · exact acc.info_written _ _
  | _ => rfl

/-- Outside of the devices, the host's stream gets the bytes for the serial port. -/
theorem MachineState.Step.written_of_ne {s s' : MachineState n Q F S W} {actor : Actor n}
    {ev : MachineEvent} (acc : env.output.Accepts)
    (hflush : ∀ w, acc.written (env.output.flush w).1 = acc.written w)
    (h : MachineState.Step env kvm s actor s' ev) (hvisit : ev ≠ .visited)
    (hpanic : ev ≠ .devicePanicked) :
    acc.written s'.stdout = acc.written s.stdout ++ ev.serial := by
  cases h with
  | wrote data _ _ _ h | writeFailed data _ _ _ _ h =>
      have hwritten := acc.writeAll_written s.stdout data
      rw [h] at hwritten
      exact hwritten
  | flushed _ _ _ h | flushFailed _ _ _ _ h =>
      have hsame := hflush s.stdout
      rw [h] at hsame
      exact hsame.trans (List.append_nil _).symm
  | loop => exact (RunEvent.written_log acc _ _).trans (List.append_nil _).symm
  | visit => exact absurd rfl hvisit
  | visitPanicked => exact absurd rfl hpanic
  | _ => exact (List.append_nil _).symm

/-- A step writes the bytes for the serial port to the host's stream and nothing else, but for the
log. -/
theorem MachineState.Step.written {s s' : MachineState n Q F S W} {actor : Actor n}
    {ev : MachineEvent} (acc : env.output.Accepts)
    (hflush : ∀ w, acc.written (env.output.flush w).1 = acc.written w) (hs : DevicesInv rd s)
    (h : MachineState.Step env kvm s actor s' ev) :
    acc.written s'.stdout = acc.written s.stdout ++ ev.serial := by
  by_cases hvisit : ev = .visited
  · subst hvisit
    cases h with
    | visit _ _ hdev h =>
        obtain rfl := visit_eq (hs.inert _ (List.mem_of_getElem? hdev)) h
        exact (List.append_nil _).symm
  by_cases hpanic : ev = .devicePanicked
  · subst hpanic
    cases h with
    | visitPanicked _ _ hdev h =>
        exact absurd h (visit_not_panicked (hs.inert _ (List.mem_of_getElem? hdev)))
  exact h.written_of_ne acc hflush hvisit hpanic

/-! ### A machine with a console -/

/-- The plain machine with two vCPUs and a console. -/
theorem VirtualMachine.new_attach_gatedConsole :
    ∃ vm vm' : VirtualMachine PlainVcpu GatedQueue DiskFile Unit,
      VirtualMachine.new VmMemory.mmap KvmHost.plain 2 = .ok vm ∧
      vm.attachSeq GatedQueue.queue [(AttachHost.plain, .console)] = (vm', [.ok ()]) ∧
      vm'.devices.length = 1 := by
  obtain ⟨vm, hnew⟩ : ∃ vm : VirtualMachine PlainVcpu GatedQueue DiskFile Unit,
      VirtualMachine.new VmMemory.mmap KvmHost.plain 2 = .ok vm := ⟨_, rfl⟩
  obtain ⟨dev, hattach, -, -⟩ := vm.attach_gatedConsole
  refine ⟨vm, vm.push dev, hnew, ?_, ?_⟩
  · simp only [attachSeq, hattach]
  · rw [push, (new_spec hnew).2.2.1]
    rfl

/-- The threads of two vCPUs, when `run` has started them. -/
theorem trace_started (memory : GuestMemory)
    (devices : List (VirtioMmioDevice GatedQueue DiskFile Unit)) :
    ∃ calls s, Trace (MachineState.Step DeviceEnv.plain PlainVcpu.kvm)
        (.start 2 false memory devices []) calls s ∧
      calls.map Prod.snd = List.replicate 4 (.main, .control .quiet) ∧
      (∀ i, Looping i .loadRunning s) ∧ s.devices = devices ∧ s.lock = .free := by
  refine ⟨_, _, .cons (.main rfl (.enter rfl)) <| .cons (.main rfl (.spawn rfl (by decide))) <|
    .cons (.main rfl (.spawn rfl (by decide))) <| .cons (.main rfl (.spawned rfl)) (.nil _), rfl,
    fun i => ?_, rfl, rfl⟩
  refine ⟨rfl, rfl, rfl, ?_, rfl⟩
  revert i
  exact Fin.forall_fin_two.mpr ⟨rfl, rfl⟩

/-- What a vCPU thread does from the head of its loop until it has an exit to handle. -/
def exitRun (i : Fin 2) (exit : VcpuExit) : List (Actor 2 × MachineEvent) :=
  [(.vcpu i, .control .quiet), (.vcpu i, .control .quiet), (.vcpu i, .control .issued),
    (.vcpu i, .control (.ran (.ok exit) ((default : Vcpu PlainVcpu).askedRegs PlainVcpu.kvm
      (.ok exit)) (.ok exit)))]

/-- Every exit can be the next. -/
theorem trace_exit {s : MachineState 2 GatedQueue DiskFile Unit (List UInt8)} {i : Fin 2}
    (hs : Looping i .loadRunning s) (exit : VcpuExit) (hport : exit.isPort = false) :
    ∃ calls s', Trace (MachineState.Step DeviceEnv.plain PlainVcpu.kvm) s calls s' ∧
      calls.map Prod.snd = exitRun i exit ∧ Looping i (.handling exit) s' ∧ Aside i s s' := by
  obtain ⟨calls, s₁, htrace, hseen, hs₁, haside⟩ := hs.issue
  have hrun : ((default : Vcpu PlainVcpu).run PlainVcpu.kvm DeviceEnv.plain.output (.ok exit)
      []).2 = .ok exit := by
    cases exit with
    | ioIn | ioOut => cases hport
    | _ => rfl
  have hplain : PlainStep .inRun (.ran (.ok exit) ((default : Vcpu PlainVcpu).askedRegs
      PlainVcpu.kvm (.ok exit)) (.ok exit)) := by
    refine ⟨nofun, ?_⟩
    rintro data regs r h
    cases h
    cases hport
  obtain ⟨s₂, hstep, hs₂, haside₂⟩ := hs₁.turn (.ran _ default [] _ _ hrun) hplain rfl
  refine ⟨_, s₂, htrace.append (.cons hstep (.nil _)), ?_, hs₂, haside.trans haside₂⟩
  rw [List.map_append, hseen]
  rfl

/-- The visible steps of the run in which the first vCPU has taken the lock for a read of four
bytes, while the second is about to write as many. -/
def lockedRun (addr : UInt64) : List (Actor 2 × MachineEvent) :=
  List.replicate 4 (.main, .control .quiet) ++ exitRun 1 (.mmioWrite addr [1, 0, 0, 0]) ++
    exitRun 0 (.mmioRead addr [0, 0, 0, 0]) ++ [(.vcpu 0, .locked)]

/-- There is such a run. -/
theorem trace_locked (memory : GuestMemory)
    (devices : List (VirtioMmioDevice GatedQueue DiskFile Unit)) (addr : UInt64) :
    ∃ calls s, Trace (MachineState.Step DeviceEnv.plain PlainVcpu.kvm)
        (.start 2 false memory devices []) calls s ∧ calls.map Prod.snd = lockedRun addr ∧
      s.devices = devices ∧ s.lock = .held 0 ∧
      s.inside 0 = .visit (.mmioRead addr [0, 0, 0, 0]) [0, 0, 0, 0] 0 ∧ s.inside 1 = .no ∧
      s.threads 1 = .handling (.mmioWrite addr [1, 0, 0, 0]) := by
  obtain ⟨calls₀, s₀, htrace₀, hseen₀, hloop₀, hdevices₀, hlock₀⟩ := trace_started memory devices
  obtain ⟨calls₁, s₁, htrace₁, hseen₁, hs₁, ha₁⟩ :=
    trace_exit (hloop₀ 1) (.mmioWrite addr [1, 0, 0, 0]) rfl
  obtain ⟨calls₂, s₂, htrace₂, hseen₂, hs₂, ha₂⟩ :=
    trace_exit (ha₁.looping (by decide) (hloop₀ 0)) (.mmioRead addr [0, 0, 0, 0]) rfl
  have hs₁' := ha₂.looping (by decide) hs₁
  have hlock : MachineState.Step DeviceEnv.plain PlainVcpu.kvm s₂ (.vcpu 0) _ .locked :=
    .lock hs₂.inside hs₂.pc rfl ((ha₂.lock.trans ha₁.lock).trans hlock₀)
  refine ⟨_, _, ((htrace₀.append htrace₁).append htrace₂).append (.cons hlock (.nil _)), ?_,
    (ha₂.devices.trans ha₁.devices).trans hdevices₀, rfl, ?_, ?_, hs₁'.pc⟩
  · rw [List.map_append, List.map_append, List.map_append, hseen₀, hseen₁, hseen₂]
    rfl
  · dsimp only [VcpuExit.buffer]
    rw [Function.update_self]
  · dsimp only
    rw [Function.update_of_ne (by decide)]
    exact hs₁'.inside

/-- The second vCPU has logged an exit, and the first has written the letter A to the serial
port. -/
theorem trace_letter (memory : GuestMemory)
    (devices : List (VirtioMmioDevice GatedQueue DiskFile Unit)) :
    ∃ calls s, Trace (MachineState.Step (n := 2) DeviceEnv.plain PlainVcpu.kvm)
        (.start 2 false memory devices []) calls s ∧
      calls.flatMap (fun x => x.2.2.serial) = [0x41] := by
  obtain ⟨calls₀, s₀, htrace₀, hseen₀, hloop₀, -⟩ := trace_started memory devices
  obtain ⟨calls₁, s₁, htrace₁, hseen₁, -, ha₁⟩ := trace_exit (hloop₀ 1) (.other "Hlt") rfl
  obtain ⟨calls₂, s₂, htrace₂, hseen₂, hs₂, -⟩ := (ha₁.looping (by decide) (hloop₀ 0)).issue
  refine ⟨_, _, ((htrace₀.append htrace₁).append htrace₂).append
    (.cons (.wrote [0x41] _ hs₂.inside hs₂.pc rfl) (.nil _)), ?_⟩
  have hserial : ∀ calls : List (MachineState 2 GatedQueue DiskFile Unit (List UInt8) ×
      Actor 2 × MachineEvent), calls.flatMap (fun x => x.2.2.serial) =
        (calls.map Prod.snd).flatMap fun x => x.2.serial := by
    intro calls
    rw [List.flatMap_map]
  rw [hserial, List.map_append, List.map_append, List.map_append, hseen₀, hseen₁, hseen₂]
  rfl

/-! ### Whole runs -/

section Run

variable [Inhabited V] {running : Bool} {memory : GuestMemory}
  {devices : List (VirtioMmioDevice Q F S)} {stdout : W} {s : MachineState n Q F S W}
  {calls : List (MachineState n Q F S W × Actor n × MachineEvent)}

omit [Inhabited V] in
theorem driftInv_trace (hinert : ∀ dev ∈ devices, dev.device.Inert rd)
    (htrace : Trace (MachineState.Step env kvm) (.start n running memory devices stdout) calls s) :
    DriftInv rd devices s :=
  (htrace.inv (fun _ _ _ _ hs h => DriftInv.step hs h)
    (driftInv_start hinert n running memory stdout)).1

/-- Both exits of `lockedRun` are answered. -/
theorem trace_answered {memory : GuestMemory}
    {devices : List (VirtioMmioDevice GatedQueue DiskFile Unit)}
    (hinert : ∀ dev ∈ devices, dev.device.Inert GatedQueue.readiness) (addr : UInt64) :
    ∃ calls s data data', Trace (MachineState.Step (n := 2) DeviceEnv.plain PlainVcpu.kvm)
        (.start 2 false memory devices []) calls s ∧
      observed answered calls = [(.mmioRead addr [0, 0, 0, 0], data),
        (.mmioWrite addr [1, 0, 0, 0], data')] ∧ s.lock = .free := by
  obtain ⟨calls, s, htrace, hseen, -, -, hin, hno, hpc⟩ := trace_locked memory devices addr
  obtain ⟨calls₁, s₁, htrace₁, -, -, ⟨data, hanswer₁⟩, hfree₁, hinside₁, hthreads₁⟩ :=
    (driftInv_trace hinert htrace).release hin PlainVcpu.kvm
  have hno₁ : s₁.inside 1 = .no := by
    rw [hinside₁]
    exact hno
  have hpc₁ : s₁.threads 1 = .handling (.mmioWrite addr [1, 0, 0, 0]) := by
    rw [hthreads₁]
    exact hpc
  -- the lock is free, and the second vCPU takes it
  have hlock : MachineState.Step DeviceEnv.plain PlainVcpu.kvm s₁ (.vcpu 1) _ .locked :=
    .lock hno₁ hpc₁ rfl hfree₁
  have htrace' := (htrace.append htrace₁).append (.cons hlock (.nil _))
  obtain ⟨calls₂, s₂, htrace₂, -, -, ⟨data', hanswer₂⟩, hfree₂, -⟩ :=
    (driftInv_trace hinert htrace').release (Function.update_self _ _ _) PlainVcpu.kvm
  refine ⟨_, s₂, data, data', htrace'.append htrace₂, ?_, hfree₂⟩
  rw [observed_append, observed_append, observed_append, hanswer₁, hanswer₂, observed, hseen]
  rfl

/-- **Exits are handled as if one after the other.** In every interleaving of the threads of a
machine, the MMIO exits get the answers that the register file gives when it takes them in the
order in which the lock was released; and the devices are what is left of the file then. -/
theorem exits_linearizable (rd : env.queue.Readiness) {vmm : VmMemory} {kvmHost : KvmHost V}
    {numCpus : UInt32} {vm vm' : VirtualMachine V Q F S}
    {hosts : List (AttachHost F S × AttachCall)} {rs : List (Except HypervisorError Unit)}
    (hnew : VirtualMachine.new vmm kvmHost numCpus = .ok vm)
    (hattach : vm.attachSeq env.queue hosts = (vm', rs))
    (htrace : Trace (MachineState.Step env kvm) (.start n running memory vm'.devices stdout)
      calls s) :
    ∃ file exits, Trace (RegisterFile.Step env) (registers memory vm'.devices) exits file ∧
      exits.map Prod.snd = observed answered calls ∧
      (s.lock = .free → registers memory s.devices = file) := by
  have hinert := VirtualMachine.inert_of_new rd hnew hattach
  obtain ⟨file, exits, hexits, ⟨hlinked, -⟩, hobs⟩ := htrace.simulate
    (R := fun s file => Linked env memory s file ∧ DevicesInv rd s ∧ LockInv s ∧
      RunInv s.toRunState)
    (fun s file actor s' ev hR hstep => by
      obtain ⟨hlinked, hdev, hinv⟩ := hR
      have hinv' := machineInv_step hinv hstep
      have hdev' := hdev.step hstep
      rcases hstep.linked hlinked hdev hinv.1 with ⟨hnone, hs'⟩ | ⟨a, b, file', hsome, hfile, hs'⟩
      · exact .inl ⟨hnone, hs', hdev', hinv'⟩
      · exact .inr ⟨a, b, file', hsome, hfile, hs', hdev', hinv'⟩)
    (t := registers memory vm'.devices)
    ⟨⟨fun _ => rfl, by rintro i exit data k ⟨⟩⟩,
      (driftInv_start hinert n running memory stdout).toDevicesInv,
      lockInv_start n running memory vm'.devices stdout, runInv_start n running⟩
  exact ⟨file, exits, hexits, hobs, hlinked.free⟩

/-- Two vCPUs read and write a register of the console. -/
theorem exits_linearizable_console :
    ∃ (vm vm' : VirtualMachine PlainVcpu GatedQueue DiskFile Unit) (calls : _) (s : _),
      VirtualMachine.new VmMemory.mmap KvmHost.plain 2 = .ok vm ∧
      vm.attachSeq GatedQueue.queue [(AttachHost.plain, .console)] = (vm', [.ok ()]) ∧
      Trace (MachineState.Step (n := 2) DeviceEnv.plain PlainVcpu.kvm)
        (.start 2 false (GuestMemory.page []) vm'.devices []) calls s ∧
      ∃ file exits data data', Trace (RegisterFile.Step DeviceEnv.plain)
          (registers (GuestMemory.page []) vm'.devices) exits file ∧
        exits.map Prod.snd = [(.mmioRead 0x1000 [0, 0, 0, 0], data),
          (.mmioWrite 0x1000 [1, 0, 0, 0], data')] ∧
        registers (GuestMemory.page []) s.devices = file := by
  obtain ⟨vm, vm', hnew, hattach, -⟩ := VirtualMachine.new_attach_gatedConsole
  have hattach' : vm.attachSeq DeviceEnv.plain.queue [(AttachHost.plain, .console)] = (vm', _) :=
    hattach
  have hinert := VirtualMachine.inert_of_new GatedQueue.readiness hnew hattach'
  obtain ⟨calls, s, data, data', htrace, hanswers, hfree⟩ := trace_answered hinert 0x1000
  obtain ⟨file, exits, hexits, hobs, hfile⟩ :=
    exits_linearizable GatedQueue.readiness hnew hattach htrace
  exact ⟨vm, vm', calls, s, hnew, hattach, htrace, file, exits, data, data', hexits,
    hobs.trans hanswers, hfile hfree⟩

omit [Inhabited V] in
/-- **The devices do nothing.** In every interleaving, each device of a machine is what it was when
it was attached, with its disk, socket, queues and configuration: at most another queue is
selected, the file system device has other acknowledged features, and guest memory has changed.
And it has changed by the guest: no step of the hypervisor writes to it. -/
theorem devices_inert (rd : env.queue.Readiness) {vmm : VmMemory} {kvmHost : KvmHost V}
    {numCpus : UInt32} {vm vm' : VirtualMachine V Q F S}
    {hosts : List (AttachHost F S × AttachCall)} {rs : List (Except HypervisorError Unit)}
    (hnew : VirtualMachine.new vmm kvmHost numCpus = .ok vm)
    (hattach : vm.attachSeq env.queue hosts = (vm', rs))
    (htrace : Trace (MachineState.Step env kvm) (.start n running memory vm'.devices stdout)
      calls s) :
    s.devices.length = vm'.devices.length ∧
      (∀ (k : ℕ) (dev' : _), s.devices[k]? = some dev' → ∃ dev, vm'.devices[k]? = some dev ∧
        ∃ sel acked mem, dev' = { dev with
          device := (dev.device.setAckedFeatures acked).withMemory mem, queueSel := sel }) ∧
      ∀ actor s' ev, MachineState.Step env kvm s actor s' ev → ev ≠ .guest →
        s'.memory = s.memory := by
  have hinv := driftInv_trace (VirtualMachine.inert_of_new rd hnew hattach) htrace
  refine ⟨hinv.length, hinv.drifted, fun actor s' ev hstep hguest => ?_⟩
  rcases hstep.devices hinv.toDevicesInv with ⟨-, hmem, -⟩ | ⟨_, _, _, _, _, -, -, -, -, rfl⟩
  · exact hmem hguest
  · rfl

/-- After two vCPUs have read and written a register of the console, it is still the one that was
attached. -/
theorem devices_inert_console :
    ∃ (vm vm' : VirtualMachine PlainVcpu GatedQueue DiskFile Unit) (calls : _) (s : _),
      VirtualMachine.new VmMemory.mmap KvmHost.plain 2 = .ok vm ∧
      vm.attachSeq GatedQueue.queue [(AttachHost.plain, .console)] = (vm', [.ok ()]) ∧
      Trace (MachineState.Step (n := 2) DeviceEnv.plain PlainVcpu.kvm)
        (.start 2 false (GuestMemory.page []) vm'.devices []) calls s ∧
      (observed answered calls).length = 2 ∧
      ∃ dev dev' sel acked mem, vm'.devices[0]? = some dev ∧ s.devices[0]? = some dev' ∧
        dev' = { dev with
          device := (dev.device.setAckedFeatures acked).withMemory mem, queueSel := sel } := by
  obtain ⟨vm, vm', hnew, hattach, hone⟩ := VirtualMachine.new_attach_gatedConsole
  have hattach' : vm.attachSeq DeviceEnv.plain.queue [(AttachHost.plain, .console)] = (vm', _) :=
    hattach
  have hinert := VirtualMachine.inert_of_new GatedQueue.readiness hnew hattach'
  obtain ⟨calls, s, data, data', htrace, hanswers, -⟩ := trace_answered hinert 0x1000
  obtain ⟨hlen, hdevices, -⟩ := devices_inert GatedQueue.readiness hnew hattach htrace
  obtain ⟨dev', hdev'⟩ : ∃ dev', s.devices[0]? = some dev' :=
    ⟨_, List.getElem?_eq_getElem (by rw [hlen, hone]; decide)⟩
  obtain ⟨dev, hdev, sel, acked, mem, hsame⟩ := hdevices 0 dev' hdev'
  exact ⟨vm, vm', calls, s, hnew, hattach, htrace, congrArg List.length hanswers, dev, dev', sel,
    acked, mem, hdev, hdev', hsame⟩

omit [Inhabited V] in
/-- **The bytes written to the host's stream are those for the serial port**, in the order in which
`vcpu.run()` has written them: no device ever writes to the stream. What is logged to the same
stream is not counted. -/
theorem serial_output (rd : env.queue.Readiness) (acc : env.output.Accepts)
    (hflush : ∀ w, acc.written (env.output.flush w).1 = acc.written w) {vmm : VmMemory}
    {kvmHost : KvmHost V} {numCpus : UInt32} {vm vm' : VirtualMachine V Q F S}
    {hosts : List (AttachHost F S × AttachCall)} {rs : List (Except HypervisorError Unit)}
    (hnew : VirtualMachine.new vmm kvmHost numCpus = .ok vm)
    (hattach : vm.attachSeq env.queue hosts = (vm', rs))
    (htrace : Trace (MachineState.Step env kvm) (.start n running memory vm'.devices stdout)
      calls s) :
    acc.written s.stdout = acc.written stdout ++ calls.flatMap fun x => x.2.2.serial := by
  have hinert := VirtualMachine.inert_of_new rd hnew hattach
  have hhistory := htrace.history
    (I := fun past s => DevicesInv rd s ∧
      acc.written s.stdout = acc.written stdout ++ past.flatMap fun x => x.2.2.serial)
    (fun past s actor s' ev hpast hstep => by
      refine ⟨hpast.1.step hstep, ?_⟩
      rw [hstep.written acc hflush hpast.1, hpast.2, List.flatMap_append, List.append_assoc,
        List.flatMap_singleton])
    ⟨(driftInv_start hinert n running memory stdout).toDevicesInv, (List.append_nil _).symm⟩
  exact hhistory.1.2

/-- One vCPU has written a letter, and another has logged an exit. -/
theorem serial_output_letter :
    ∃ (vm vm' : VirtualMachine PlainVcpu GatedQueue DiskFile Unit) (calls : _) (s : _),
      VirtualMachine.new VmMemory.mmap KvmHost.plain 2 = .ok vm ∧
      vm.attachSeq GatedQueue.queue [(AttachHost.plain, .console)] = (vm', [.ok ()]) ∧
      Trace (MachineState.Step (n := 2) DeviceEnv.plain PlainVcpu.kvm)
        (.start 2 false (GuestMemory.page []) vm'.devices []) calls s ∧ s.stdout = [0x41] := by
  obtain ⟨vm, vm', hnew, hattach, -⟩ := VirtualMachine.new_attach_gatedConsole
  obtain ⟨calls, s, htrace, hserial⟩ := trace_letter (GuestMemory.page []) vm'.devices
  refine ⟨vm, vm', calls, s, hnew, hattach, htrace, ?_⟩
  have hout := serial_output GatedQueue.readiness ⟨id, fun _ _ => rfl, fun _ _ => rfl⟩
    (fun _ => rfl) hnew hattach htrace
  rw [hserial] at hout
  exact hout

/-- **The lock of the devices is safe.** In every interleaving at most one thread is at the
devices, the lock is not poisoned, and a vCPU thread has panicked only if the host's stream has
failed it. -/
theorem lock_safe (rd : env.queue.Readiness) {vmm : VmMemory} {kvmHost : KvmHost V}
    {numCpus : UInt32} {vm vm' : VirtualMachine V Q F S}
    {hosts : List (AttachHost F S × AttachCall)} {rs : List (Except HypervisorError Unit)}
    (hnew : VirtualMachine.new vmm kvmHost numCpus = .ok vm)
    (hattach : vm.attachSeq env.queue hosts = (vm', rs))
    (htrace : Trace (MachineState.Step env kvm) (.start n running memory vm'.devices stdout)
      calls s) :
    (∀ i j, (s.inside i).AtDevice → (s.inside j).AtDevice → i = j) ∧ s.lock ≠ .poisoned ∧
      ∀ i, s.inside i = .panicked → ∃ x ∈ calls, x.2.1 = .vcpu i ∧ x.2.2.StreamFailed := by
  have hinert := VirtualMachine.inert_of_new rd hnew hattach
  have hlock := (machineInv_trace htrace).1.1
  have hhistory := htrace.history
    (I := fun past s => DevicesInv rd s ∧ ∀ i, s.inside i = .panicked →
      ∃ x ∈ past, x.2.1 = .vcpu i ∧ x.2.2.StreamFailed)
    (fun past s actor s' ev hpast hstep => by
      refine ⟨hpast.1.step hstep, fun i hi => ?_⟩
      rcases hstep.panicked hpast.1 hi with hi | ⟨rfl, hev⟩
      · obtain ⟨x, hx, hfailed⟩ := hpast.2 i hi
        exact ⟨x, List.mem_append_left _ hx, hfailed⟩
      · exact ⟨_, List.mem_append_right _ (List.mem_singleton_self _), rfl, hev⟩)
    ⟨(driftInv_start hinert n running memory stdout).toDevicesInv, by rintro i ⟨⟩⟩
  exact ⟨fun i j => hlock.eq_of_visit, hhistory.1.1.notPoisoned, hhistory.1.2⟩

/-- The first vCPU has visited the console, and the second waits for the lock. -/
theorem lock_safe_console :
    ∃ (vm vm' : VirtualMachine PlainVcpu GatedQueue DiskFile Unit) (calls : _) (s : _),
      VirtualMachine.new VmMemory.mmap KvmHost.plain 2 = .ok vm ∧
      vm.attachSeq GatedQueue.queue [(AttachHost.plain, .console)] = (vm', [.ok ()]) ∧
      Trace (MachineState.Step (n := 2) DeviceEnv.plain PlainVcpu.kvm)
        (.start 2 false (GuestMemory.page []) vm'.devices []) calls s ∧
      (∃ data, s.inside 0 = .visit (.mmioRead 0x1000 [0, 0, 0, 0]) data 1) ∧
      s.threads 1 = .handling (.mmioWrite 0x1000 [1, 0, 0, 0]) ∧ ¬(s.inside 1).AtDevice ∧
      s.lock ≠ .poisoned := by
  obtain ⟨vm, vm', hnew, hattach, hone⟩ := VirtualMachine.new_attach_gatedConsole
  have hattach' : vm.attachSeq DeviceEnv.plain.queue [(AttachHost.plain, .console)] = (vm', _) :=
    hattach
  have hinert := VirtualMachine.inert_of_new GatedQueue.readiness hnew hattach'
  obtain ⟨calls, s, htrace, -, hdevices, -, hin, -, hpc⟩ :=
    trace_locked (GuestMemory.page []) vm'.devices 0x1000
  have hinv := (driftInv_trace hinert htrace).toDevicesInv
  obtain ⟨s', data, hstep, -, -, hthreads, hinside⟩ :=
    hinv.visit hin (by rw [hdevices, hone]; decide) PlainVcpu.kvm
  have htrace' := htrace.append (.cons hstep (.nil _))
  have hin' : s'.inside 0 = .visit (.mmioRead 0x1000 [0, 0, 0, 0]) data 1 := by
    rw [hinside, Function.update_self]
  obtain ⟨hone', hlock, -⟩ := lock_safe GatedQueue.readiness hnew hattach htrace'
  refine ⟨vm, vm', _, s', hnew, hattach, htrace', ⟨data, hin'⟩, hthreads ▸ hpc, fun hat => ?_,
    hlock⟩
  have hzero : (s'.inside 0).AtDevice := by
    rw [hin']
    trivial
  exact absurd (hone' 0 1 hzero hat) (by decide)

/-- **The lock is always released.** In every interleaving, a thread that holds the lock can go on
and release it, by at most one step for each device and one more, which nobody else has to help
with; and a thread that wants the lock can take it as soon as it is free. -/
theorem lock_released (rd : env.queue.Readiness) {vmm : VmMemory} {kvmHost : KvmHost V}
    {numCpus : UInt32} {vm vm' : VirtualMachine V Q F S}
    {hosts : List (AttachHost F S × AttachCall)} {rs : List (Except HypervisorError Unit)}
    (hnew : VirtualMachine.new vmm kvmHost numCpus = .ok vm)
    (hattach : vm.attachSeq env.queue hosts = (vm', rs))
    (htrace : Trace (MachineState.Step env kvm) (.start n running memory vm'.devices stdout)
      calls s) {i : Fin n} (hi : s.lock = .held i) :
    ∃ more s', Trace (MachineState.Step env kvm) s more s' ∧ (∀ x ∈ more, x.2.1 = .vcpu i) ∧
      more.length ≤ vm'.devices.length + 1 ∧ s'.lock = .free ∧ s'.threads i = .loadRunning ∧
      ∀ j exit, s'.inside j = .no → s'.threads j = .handling exit → exit.isMmio = true →
        ∃ s'', MachineState.Step env kvm s' (.vcpu j) s'' .locked := by
  have hinv := driftInv_trace (VirtualMachine.inert_of_new rd hnew hattach) htrace
  have hlock := (machineInv_trace htrace).1.1
  have hat := (hlock.held i).mpr hi
  cases hin : s.inside i with
  | visit exit data k =>
      obtain ⟨more, s', hmore, hown, hlen, -, hfree, -, hthreads⟩ := hinv.release hin kvm
      have hpc : s'.threads i = .loadRunning := by rw [hthreads, Function.update_self]
      refine ⟨more, s', hmore, hown, ?_, hfree, hpc, fun j exit' hno hwant hmmio => ?_⟩
      · rw [hlen, hinv.length]
        exact Nat.succ_le_succ (Nat.sub_le _ _)
      · exact ⟨_, .lock hno hwant hmmio hfree⟩
  | no | flush | panicked =>
      rw [hin] at hat
      exact hat.elim

theorem lock_released_console :
    ∃ (vm vm' : VirtualMachine PlainVcpu GatedQueue DiskFile Unit) (calls : _) (s : _),
      VirtualMachine.new VmMemory.mmap KvmHost.plain 2 = .ok vm ∧
      vm.attachSeq GatedQueue.queue [(AttachHost.plain, .console)] = (vm', [.ok ()]) ∧
      Trace (MachineState.Step (n := 2) DeviceEnv.plain PlainVcpu.kvm)
        (.start 2 false (GuestMemory.page []) vm'.devices []) calls s ∧ s.lock = .held 0 ∧
      ∃ more s', Trace (MachineState.Step DeviceEnv.plain PlainVcpu.kvm) s more s' ∧
        more.length ≤ 2 ∧ s'.lock = .free := by
  obtain ⟨vm, vm', hnew, hattach, hone⟩ := VirtualMachine.new_attach_gatedConsole
  obtain ⟨calls, s, htrace, -, -, hheld, -⟩ :=
    trace_locked (GuestMemory.page []) vm'.devices 0x1000
  obtain ⟨more, s', hmore, -, hlen, hfree, -⟩ :=
    lock_released GatedQueue.readiness hnew hattach htrace hheld
  rw [hone] at hlen
  exact ⟨vm, vm', calls, s, hnew, hattach, htrace, hheld, more, s', hmore, hlen, hfree⟩

end Run

/-! ### Windows behind guest memory -/

/-- The address of an MMIO exit. -/
def VcpuExit.mmioAddr : VcpuExit → Option UInt64
  | .mmioRead addr _ => some addr
  | .mmioWrite addr _ => some addr
  | _ => none

/-- A device whose window does not contain the address of an exit. -/
def VirtioMmioDevice.Missed (exit : VcpuExit) (dev : VirtioMmioDevice Q F S) : Prop :=
  ∀ addr, exit.mmioAddr = some addr → ¬dev.window.Contains addr

theorem VirtioMmioDevice.after_missed {exit : VcpuExit} {dev : VirtioMmioDevice Q F S}
    (h : dev.Missed exit) : dev.after exit = dev := by
  cases exit with
  | mmioWrite addr data => rw [after, if_neg (h addr rfl)]
  | _ => rfl

theorem VirtioMmioDevice.answer_missed {exit : VcpuExit} {dev : VirtioMmioDevice Q F S}
    (h : dev.Missed exit) (data : List UInt8) : dev.answer env exit data = data := by
  cases exit with
  | mmioRead addr _ => rw [answer, if_neg (h addr rfl)]
  | _ => rfl

/-- A step that hands an exit on hands on one that misses all of these devices. -/
def Misses (devices : List (VirtioMmioDevice Q F S)) (x : Actor n × MachineEvent) : Prop :=
  ∀ i ran regs exit, x = (.vcpu i, .control (.ran ran regs (.ok exit))) →
    ∀ dev ∈ devices, dev.Missed exit

/-- As long as every exit has missed the devices, they are untouched. -/
structure MissedInv (rd : env.queue.Readiness) (mem : GuestMemory)
    (devices : List (VirtioMmioDevice Q F S)) (s : MachineState n Q F S W) : Prop
    extends DevicesInv rd s where
  lock : LockInv s
  run : RunInv s.toRunState
  same : registers mem s.devices = registers mem devices
  missed : ∀ i exit, s.threads i = .handling exit → ∀ dev ∈ devices, dev.Missed exit
  buffer : ∀ i exit data k, s.inside i = .visit exit data k → data = exit.buffer

/-- A thread handles an exit after `vcpu.run()` has handed it on. -/
theorem ThreadStep.handling {out : HostWriter W} {running errorOccurred : Bool}
    {pc : ThreadPc} {ms ms' : List VmMessage} {ev : RunEvent} {exit : VcpuExit}
    (h : ThreadStep kvm out running errorOccurred pc ms (.handling exit) ms' ev) :
    ∃ ran regs, ev = .ran ran regs (.ok exit) ∧
      ∃ vcpu stdout, (Vcpu.run kvm out vcpu ran stdout).2 = .ok exit := by
  generalize hpc : ThreadPc.handling exit = pc' at h
  cases h with
  | loadRunning => cases running <;> cases hpc
  | loadError => cases errorOccurred <;> cases hpc
  | ran _ vcpu stdout ran exit' h =>
      obtain rfl := ThreadPc.handling.inj hpc
      exact ⟨ran, _, rfl, vcpu, stdout, h⟩
  | _ => cases hpc

/-- The main thread makes no thread handle an exit. -/
theorem MonitorStep.handling {s r : RunState n} (h : MonitorStep s r) {i : Fin n}
    {exit : VcpuExit} (hi : r.threads i = .handling exit) : s.threads i = .handling exit := by
  cases h with
  | @spawn k h hk =>
      dsimp only at hi
      by_cases hik : i = ⟨k, hk⟩
      · subst hik
        rw [Function.update_self] at hi
        cases hi
      · rwa [Function.update_of_ne hik] at hi
  | _ => exact hi

/-- A thread comes to the handling of an exit by a step that hands it on, or by bytes for the
serial port. -/
theorem MachineState.Step.handling {s s' : MachineState n Q F S W} {actor : Actor n}
    {ev : MachineEvent} (h : MachineState.Step env kvm s actor s' ev) {i : Fin n} {exit : VcpuExit}
    (hi : s'.threads i = .handling exit) :
    s.threads i = .handling exit ∨
      (∃ ran regs, (actor, ev) = (.vcpu i, .control (.ran ran regs (.ok exit)))) ∨
      exit.mmioAddr = none := by
  cases h with
  | main _ h => exact .inl (h.handling hi)
  | @loop j pc ms ev hin hplain h =>
      dsimp only [RunState.advance] at hi
      by_cases hij : i = j
      · subst hij
        rw [Function.update_self] at hi
        subst hi
        obtain ⟨ran, regs, rfl, -⟩ := h.handling
        exact .inr (.inl ⟨ran, regs, rfl⟩)
      · rw [Function.update_of_ne hij] at hi
        exact .inl hi
  | @flushed j data w hin h =>
      dsimp only [RunState.advance] at hi
      by_cases hij : i = j
      · subst hij
        rw [Function.update_self] at hi
        obtain rfl := ThreadPc.handling.inj hi
        exact .inr (.inr rfl)
      · rw [Function.update_of_ne hij] at hi
        exact .inl hi
  | @unlock j _ _ _ hin hend =>
      dsimp only [RunState.advance] at hi
      by_cases hij : i = j
      · subst hij
        rw [Function.update_self] at hi
        cases hi
      · rw [Function.update_of_ne hij] at hi
        exact .inl hi
  | _ => exact .inl hi

/-- The buffer of a thread at a device: a device that is missed leaves it alone. -/
theorem MissedInv.step [Inhabited V] {mem : GuestMemory}
    {devices : List (VirtioMmioDevice Q F S)} {s s' : MachineState n Q F S W} {actor : Actor n}
    {ev : MachineEvent} (hs : MissedInv rd mem devices s)
    (h : MachineState.Step env kvm s actor s' ev) (hmiss : Misses devices (actor, ev)) :
    MissedInv rd mem devices s' := by
  obtain ⟨hlock', hrun'⟩ := machineInv_step ⟨hs.lock, hs.run⟩ h
  -- the windows of the devices as they are now are those of the devices as they were
  have hnow : ∀ exit, (∀ dev ∈ devices, dev.Missed exit) → ∀ dev ∈ s.devices, dev.Missed exit := by
    intro exit hdevices dev hdev
    have hmem : dev.withMemory mem ∈ registers mem devices :=
      hs.same ▸ List.mem_map_of_mem (f := (·.withMemory mem)) hdev
    obtain ⟨d, hd, hsame⟩ := List.mem_map.mp hmem
    have hwindow : (d.withMemory mem).window = (dev.withMemory mem).window := by rw [hsame]
    intro addr haddr
    have hwindow' : d.window = dev.window := hwindow
    rw [← hwindow']
    exact hdevices d hd addr haddr
  refine ⟨hs.toDevicesInv.step h, hlock', hrun', ?_, ?_, ?_⟩
  · rcases h.devices hs.toDevicesInv with
      ⟨hsame, -, -⟩ | ⟨i, exit, data, k, dev, -, hin, hdev, -, rfl⟩
    · rw [hsame]
      exact hs.same
    · have hpc : s.threads i = .handling exit := by
        have := hs.lock.fits i
        rw [hin] at this
        exact this.1
      have hmissed := hnow exit (hs.missed i exit hpc) dev (List.mem_of_getElem? hdev)
      rw [← hs.same, VirtioMmioDevice.after_missed hmissed]
      obtain ⟨hk, rfl⟩ := List.getElem?_eq_some_iff.mp hdev
      dsimp only [registers]
      rw [List.map_set, VirtioMmioDevice.withMemory_withMemory, ← List.map_set,
        List.set_getElem_self]
  · intro i exit hi
    rcases h.handling hi with hi | ⟨ran, regs, hev⟩ | hnone
    · exact hs.missed i exit hi
    · exact hmiss i ran regs exit hev
    · intro dev _ addr haddr
      rw [hnone] at haddr
      cases haddr
  · intro i exit data k hi
    cases h with
    | lock =>
        rcases eq_or_of_update hi with hi | ⟨-, hx⟩
        · exact hs.buffer i exit data k hi
        · obtain ⟨rfl, rfl, -⟩ := Inside.visit.inj hx
          rfl
    | @visit j exit' data' k' dev v r fuel hin hdev h hr =>
        rcases eq_or_of_update hi with hi | ⟨-, hx⟩
        · exact hs.buffer i exit data k hi
        · obtain ⟨rfl, rfl, -⟩ := Inside.visit.inj hx
          have hpc : s.threads j = .handling exit' := by
            have := hs.lock.fits j
            rw [hin] at this
            exact this.1
          have hmissed := hnow exit' (hs.missed j exit' hpc) dev (List.mem_of_getElem? hdev)
          obtain rfl := visit_eq (hs.inert dev (List.mem_of_getElem? hdev)) h
          exact (VirtioMmioDevice.answer_missed hmissed data').trans
            (hs.buffer j exit' data' k' hin)
    | wrote | writeFailed | flushed | flushFailed | lockPoisoned | visitPanicked | unlock =>
        rcases eq_or_of_update hi with hi | ⟨-, hx⟩
        · exact hs.buffer i exit data k hi
        · cases hx
    | _ => exact hs.buffer i exit data k hi

/-- Every window lies in the first 128 MB. -/
theorem DeviceKind.window_lt_memorySize (kind : DeviceKind) {addr : UInt64}
    (h : kind.window.Contains addr) : addr.toNat < memorySize := by
  have hend : (kind.base + 0x1000).toNat ≤ memorySize := by cases kind <;> decide
  exact Nat.lt_of_lt_of_le (UInt64.lt_iff_toNat_lt.mp h.2) hend

/-- The memory registered with KVM contains every window of a machine. -/
theorem VirtualMachine.window_in_slot {vmm : VmMemory} {kvmHost : KvmHost V}
    {numCpus : UInt32} {vm vm' : VirtualMachine V Q F S}
    {hosts : List (AttachHost F S × AttachCall)} {rs : List (Except HypervisorError Unit)}
    (hnew : VirtualMachine.new vmm kvmHost numCpus = .ok vm)
    (hattach : vm.attachSeq env.queue hosts = (vm', rs)) {dev : VirtioMmioDevice Q F S}
    (hdev : dev ∈ vm'.devices) {addr : UInt64} (haddr : dev.window.Contains addr) :
    ∃ k ∈ vm'.slots, k.guestPhysAddr ≤ addr.toNat ∧
      addr.toNat < k.guestPhysAddr + k.memorySize := by
  obtain ⟨-, hslots, -⟩ := VirtualMachine.new_spec hnew
  obtain ⟨-, -, hslots', -⟩ := VirtualMachine.attachSeq_spec hattach
  obtain ⟨k, hk, hram⟩ := List.map_eq_singleton_iff.mp hslots
  obtain ⟨hlo, hhi⟩ := Prod.mk.inj hram
  have hmem := List.mem_map_of_mem (f := (·.window)) hdev
  rw [VirtualMachine.windows_of_new hnew hattach] at hmem
  obtain ⟨call, -, hwin⟩ := List.mem_map.mp hmem
  have hlt := call.kind.window_lt_memorySize (hwin.symm ▸ haddr)
  exact ⟨k, hslots' ▸ hk ▸ List.mem_singleton_self k, by omega, by omega⟩

/-- **No device is ever reached.** KVM makes an MMIO exit for an address only where the guest has
no memory. Then no MMIO exit of a machine gets to a device: in every interleaving each of them is
resumed with the buffer it came with, and not even a register changes. -/
theorem devices_unreachable [Inhabited V] (rd : env.queue.Readiness) {vmm : VmMemory}
    {kvmHost : KvmHost V} {numCpus : UInt32} {vm vm' : VirtualMachine V Q F S}
    {hosts : List (AttachHost F S × AttachCall)} {rs : List (Except HypervisorError Unit)}
    (hnew : VirtualMachine.new vmm kvmHost numCpus = .ok vm)
    (hattach : vm.attachSeq env.queue hosts = (vm', rs)) {running : Bool} {memory : GuestMemory}
    {stdout : W} {s : MachineState n Q F S W}
    {calls : List (MachineState n Q F S W × Actor n × MachineEvent)}
    (htrace : Trace (MachineState.Step env kvm) (.start n running memory vm'.devices stdout)
      calls s)
    (hkvm : ∀ x ∈ calls, ∀ i ran regs exit addr,
      x.2 = (.vcpu i, .control (.ran ran regs (.ok exit))) → exit.mmioAddr = some addr →
      ∀ k ∈ vm'.slots, ¬(k.guestPhysAddr ≤ addr.toNat ∧
        addr.toNat < k.guestPhysAddr + k.memorySize)) :
    registers memory s.devices = registers memory vm'.devices ∧
      ∀ x ∈ calls, ∀ i exit data, x.2 = (.vcpu i, .answered exit data) → data = exit.buffer := by
  have hmisses : ∀ x ∈ calls, Misses vm'.devices x.2 := by
    intro x hx i ran regs exit hev dev hdev addr haddr hin
    obtain ⟨k, hk, hslot⟩ := VirtualMachine.window_in_slot hnew hattach hdev hin
    exact hkvm x hx i ran regs exit addr hev haddr k hk hslot
  have hstart : MissedInv rd memory vm'.devices
      (MachineState.start n running memory vm'.devices stdout : MachineState n Q F S W) :=
    { toDevicesInv := (driftInv_start (VirtualMachine.inert_of_new rd hnew hattach) n running memory
        stdout).toDevicesInv
      lock := lockInv_start n running memory vm'.devices stdout
      run := runInv_start n running
      same := rfl
      missed := by rintro i exit ⟨⟩
      buffer := by rintro i exit data k ⟨⟩ }
  obtain ⟨hend, hcalls⟩ := (htrace.restrict hmisses).inv
    (I := fun s => MissedInv rd memory vm'.devices s)
    (fun _ _ _ _ hs h => hs.step h.1 h.2) hstart
  refine ⟨hend.same, fun x hx i exit data hev => ?_⟩
  obtain ⟨t, hstep⟩ := htrace.step_of_mem hx
  obtain ⟨s', actor, ev⟩ := x
  obtain ⟨rfl, rfl⟩ := Prod.mk.inj hev
  cases hstep with
  | unlock hin => exact (hcalls _ hx).buffer i exit data _ hin

/-- Two vCPUs at 256 MB, where the machine has no memory. -/
theorem devices_unreachable_beyond :
    ∃ (vm vm' : VirtualMachine PlainVcpu GatedQueue DiskFile Unit) (calls : _) (s : _),
      VirtualMachine.new VmMemory.mmap KvmHost.plain 2 = .ok vm ∧
      vm.attachSeq GatedQueue.queue [(AttachHost.plain, .console)] = (vm', [.ok ()]) ∧
      Trace (MachineState.Step (n := 2) DeviceEnv.plain PlainVcpu.kvm)
        (.start 2 false (GuestMemory.page []) vm'.devices []) calls s ∧
      s.inside 0 = .visit (.mmioRead 0x10000000 [0, 0, 0, 0]) [0, 0, 0, 0] 0 ∧
      registers (GuestMemory.page []) s.devices = registers (GuestMemory.page []) vm'.devices := by
  obtain ⟨vm, vm', hnew, hattach, -⟩ := VirtualMachine.new_attach_gatedConsole
  obtain ⟨calls, s, htrace, hseen, -, -, hin, -⟩ :=
    trace_locked (GuestMemory.page []) vm'.devices 0x10000000
  obtain ⟨-, hslots, -⟩ := VirtualMachine.new_spec hnew
  obtain ⟨-, -, hslots', -⟩ := VirtualMachine.attachSeq_spec hattach
  obtain ⟨hsame, -⟩ := devices_unreachable GatedQueue.readiness hnew hattach htrace (by
    intro x hx i ran regs exit addr hev haddr k hk hslot
    have hmem : x.2 ∈ lockedRun 0x10000000 := hseen ▸ List.mem_map_of_mem hx
    have haddr' : addr = 0x10000000 := by
      rw [hev] at hmem
      simp only [lockedRun, exitRun, List.replicate, List.mem_append, List.mem_cons,
        Prod.mk.injEq, MachineEvent.control.injEq, reduceCtorEq, RunEvent.ran.injEq,
        Except.ok.injEq, List.not_mem_nil, or_false, false_or, and_false] at hmem
      rcases hmem with ⟨-, -, -, rfl⟩ | ⟨-, -, -, rfl⟩ <;> exact (Option.some.inj haddr).symm
    have hram : (k.guestPhysAddr, k.memorySize) ∈ [(0, memorySize)] := by
      rw [← hslots, ← hslots']
      exact List.mem_map_of_mem (f := fun k => (k.guestPhysAddr, k.memorySize)) hk
    obtain ⟨hlo, hhi⟩ := Prod.mk.inj (List.mem_singleton.mp hram)
    rw [hlo, hhi, haddr'] at hslot
    exact absurd hslot.2 (by decide))
  exact ⟨vm, vm', calls, s, hnew, hattach, htrace, hin, hsame⟩

end MoVm
