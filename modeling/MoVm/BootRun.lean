import MoVm.BootSector
import MoVm.MachineDevices

/-!
# The Machine with its Guest

In `MachineRun` the guest does as it likes. Here it has processors: a thread that is in `KVM_RUN`
executes the instructions of its own one, if KVM lets that one run, and leaves when an instruction
writes to a port. All other steps are those of the hypervisor, and come between the instructions in
any order.

## Main results

* `guestRun`: without an MMIO exit, the hypervisor changes nothing that the processors see. Their
  steps are those of the processors alone, and the host's stream gets what they write to the serial
  port.
* `boot_sector_run`: hence `run` takes the vCPUs that KVM lets run through the boot sector, and
  shows what they have to show.
-/

open Lib ModeSwitch

namespace MoVm

variable {V Q C F S W X Y : Type} {n : ℕ} {vmm : VmMemory} {env : DeviceEnv Q C F S W}
  {kvm : KvmVcpu V} {files : SnapshotFiles X} {b : Bincode Y} {inv : Invocation V F S} {fs : X}

/-! ### The steps -/

/-- What `KVM_RUN` has returned for the guest in this step. -/
def MachineEvent.exit : MachineEvent → Option VcpuExit
  | .wrote data _ => some (.ioOut 0x3F8 data)
  | .control (.ran (.ok exit) _ _) => some exit
  | _ => none

/-- The machine after an instruction of the guest. -/
def MachineState.withBytes (s : MachineState n Q F S W) (g : ℕ → UInt8) : MachineState n Q F S W :=
  { s with memory := { s.memory with bytes := g } }

/-- A step of the hypervisor, or an instruction of the guest. Processors that are not `live` have
stopped. -/
inductive GuestStep (env : DeviceEnv Q C F S W) (kvm : KvmVcpu V) (live : Fin n → Cpu → Prop) :
    MachineState n Q F S W × (Fin n → Cpu) → Actor n → MachineState n Q F S W × (Fin n → Cpu) →
      MachineEvent → Prop
  | hypervisor {s s' : MachineState n Q F S W} {cpus : Fin n → Cpu} {actor : Actor n}
      {ev : MachineEvent} (h : MachineState.Step env kvm s actor s' ev) (hguest : ev ≠ .guest)
      (hexit : ev.exit = none) : GuestStep env kvm live (s, cpus) actor (s', cpus) ev
  /-- An instruction that stays in `KVM_RUN`. -/
  | instr {s : MachineState n Q F S W} {cpus : Fin n → Cpu} {i : Fin n} {c : Cpu} {g : ℕ → UInt8}
      (hlive : live i (cpus i)) (hcpu : (cpus i).step s.memory.bytes = some (c, g, []))
      (h : MachineState.Step env kvm s (.vcpu i) (s.withBytes g) .guest) :
      GuestStep env kvm live (s, cpus) (.vcpu i) (s.withBytes g, Function.update cpus i c) .guest
  /-- An instruction that ends it. -/
  | out {s s' : MachineState n Q F S W} {cpus : Fin n → Cpu} {i : Fin n} {c : Cpu} {port : UInt16}
      {byte : UInt8} {ev : MachineEvent} (hlive : live i (cpus i))
      (hcpu : (cpus i).step s.memory.bytes = some (c, s.memory.bytes, [(port, byte)]))
      (h : MachineState.Step env kvm s (.vcpu i) s' ev)
      (hexit : ev.exit = some (.ioOut port [byte])) :
      GuestStep env kvm live (s, cpus) (.vcpu i) (s', Function.update cpus i c) ev

/-- `vcpu.run()` hands on what is written to other ports than the serial one. -/
theorem MachineState.Step.out [Inhabited V] {s : MachineState n Q F S W} {i : Fin n}
    (hpc : s.threads i = .inRun) (hin : s.inside i = .no) {port : UInt16} (hport : port ≠ 0x3F8)
    (data : List UInt8) :
    MachineState.Step env kvm s (.vcpu i)
      { s with
        toRunState := s.toRunState.advance i (.handling (.ioOut port data)) (s.messages i)
          (.ran (.ok (.ioOut port data)) none (.ok (.ioOut port data))) }
      (.control (.ran (.ok (.ioOut port data)) none (.ok (.ioOut port data)))) := by
  have hrun : ((default : Vcpu V).run kvm env.output (.ok (.ioOut port data)) s.stdout).2 =
      .ok (.ioOut port data) := by
    simp only [Vcpu.run, if_neg hport]
  refine .loop hin ⟨fun exit h => ?_, fun data regs r h => ?_⟩
    (hpc.symm ▸ .ran _ default _ _ _ hrun)
  · rw [hpc] at h
    cases h
  · cases h
    exact hport rfl

/-- A thread that is in `KVM_RUN` goes on whenever its processor does. -/
theorem GuestStep.of_cpu [Inhabited V] {live : Fin n → Cpu → Prop} {s : MachineState n Q F S W}
    {cpus : Fin n → Cpu} {i : Fin n} (hpc : s.threads i = .inRun) (hin : s.inside i = .no)
    (hlive : live i (cpus i)) (hcpu : ((cpus i).step s.memory.bytes).isSome) :
    ∃ s' ev, GuestStep env kvm live (s, cpus) (.vcpu i) s' ev ∧ (ev = .guest ∨ ev.exit.isSome) := by
  obtain ⟨⟨c, g, outs⟩, hcpu⟩ := Option.isSome_iff_exists.mp hcpu
  rcases Cpu.step_ports hcpu with rfl | ⟨⟨port, byte⟩, rfl, rfl⟩
  · exact ⟨_, _, .instr hlive hcpu (.guest _ hin hpc rfl), .inl rfl⟩
  by_cases hport : port = 0x3F8
  · subst hport
    rcases hw : env.output.writeAll s.stdout [byte] with ⟨w, e | ⟨⟩⟩
    · exact ⟨_, _, .out hlive hcpu (.writeFailed [byte] w e hin hpc hw) rfl, .inr rfl⟩
    · exact ⟨_, _, .out hlive hcpu (.wrote [byte] w hin hpc hw) rfl, .inr rfl⟩
  · exact ⟨_, _, .out hlive hcpu (.out hpc hin hport [byte]) rfl, .inr rfl⟩

/-! ### Without an MMIO exit -/

/-- The devices are as they were, and no thread is on its way to them. -/
structure DevicesIdle (devices : List (VirtioMmioDevice Q F S)) (s : MachineState n Q F S W) :
    Prop where
  devices : s.devices = devices
  exits : ∀ i exit, s.threads i = .handling exit → exit.isMmio = false
  inside : ∀ i, ¬(s.inside i).AtDevice

theorem devicesIdle_start (n : ℕ) (running : Bool) (memory : GuestMemory)
    (devices : List (VirtioMmioDevice Q F S)) (stdout : W) :
    DevicesIdle devices (MachineState.start n running memory devices stdout) :=
  ⟨rfl, by rintro i exit ⟨⟩, fun _ h => h⟩

variable {devices : List (VirtioMmioDevice Q F S)} {s s' : MachineState n Q F S W}

/-- A step of one thread that goes to no device. -/
theorem DevicesIdle.move (hs : DevicesIdle devices s) {i : Fin n} {pc : ThreadPc} {x : Inside}
    (hdevices : s'.devices = s.devices) (hthreads : s'.threads = Function.update s.threads i pc)
    (hpc : ∀ exit, pc = .handling exit → exit.isMmio = false)
    (hinside : s'.inside = Function.update s.inside i x) (hx : ¬x.AtDevice) :
    DevicesIdle devices s' where
  devices := hdevices.trans hs.devices
  exits j exit hj := by
    rw [hthreads] at hj
    rcases eq_or_of_update hj with hj | ⟨-, hj⟩
    · exact hs.exits j exit hj
    · exact hpc exit hj
  inside j := by
    rw [hinside]
    by_cases hj : j = i
    · subst hj
      rwa [Function.update_self]
    · rw [Function.update_of_ne hj]
      exact hs.inside j

/-- A step of a thread that stays where it is in its loop. -/
theorem DevicesIdle.stay (hs : DevicesIdle devices s) {i : Fin n} {x : Inside}
    (hdevices : s'.devices = s.devices) (hthreads : s'.threads = s.threads)
    (hinside : s'.inside = Function.update s.inside i x) (hx : ¬x.AtDevice) :
    DevicesIdle devices s' :=
  hs.move hdevices (hthreads.trans (Function.update_eq_self i _).symm) (hs.exits i) hinside hx

/-- `vcpu.run()` hands on the kind of the exit. -/
theorem Vcpu.run_isMmio {out : HostWriter W} {vcpu : Vcpu V} {exit exit' : VcpuExit} {stdout : W}
    (h : (vcpu.run kvm out (.ok exit) stdout).2 = .ok exit') : exit'.isMmio = exit.isMmio := by
  cases exit with
  | ioIn port data =>
      cases h
      rfl
  | ioOut port data =>
      simp only [Vcpu.run] at h
      split at h
      · split at h
        · cases h
        · split at h <;> cases h
          rfl
      · cases h
        rfl
  | mmioRead | mmioWrite | other =>
      simp only [Vcpu.run] at h
      split at h <;> cases h
      rfl

/-- **As long as no MMIO exit is returned**, no step is one of a device, and only the guest changes
its memory. -/
theorem DevicesIdle.step {actor : Actor n} {ev : MachineEvent} (hs : DevicesIdle devices s)
    (h : MachineState.Step env kvm s actor s' ev)
    (hev : ∀ exit, ev.exit = some exit → exit.isMmio = false) :
    DevicesIdle devices s' ∧ ev ≠ .visited ∧ ev ≠ .devicePanicked ∧
      (ev ≠ .guest → s'.memory = s.memory) := by
  have hvisit : ∀ {i exit data k}, s.inside i ≠ .visit exit data k := by
    intro i exit data k hi
    have := hs.inside i
    rw [hi] at this
    exact this trivial
  have hmmio : ∀ {i exit}, s.threads i = .handling exit → exit.isMmio ≠ true := by
    intro i exit hi
    rw [hs.exits i exit hi]
    exact Bool.false_ne_true
  cases h with
  | main _ h =>
      exact ⟨⟨hs.devices, fun i exit hi => hs.exits i exit (h.handling hi), hs.inside⟩, nofun,
        nofun, fun _ => rfl⟩
  | scopePanic => exact ⟨⟨hs.devices, hs.exits, hs.inside⟩, nofun, nofun, fun _ => rfl⟩
  | guest =>
      exact ⟨⟨hs.devices, hs.exits, hs.inside⟩, nofun, nofun, fun h => absurd rfl h⟩
  | @loop i pc ms ev hin hplain h =>
      refine ⟨hs.move rfl rfl ?_ (Function.update_eq_self i _).symm (hs.inside i), nofun, nofun,
        fun _ => rfl⟩
      rintro exit rfl
      obtain ⟨ran, regs, rfl, vcpu, stdout, hrun⟩ := h.handling
      cases ran with
      | error e => cases hrun
      | ok exit' => exact (Vcpu.run_isMmio hrun).trans (hev exit' rfl)
  | wrote | writeFailed | flushFailed =>
      exact ⟨hs.stay rfl rfl rfl id, nofun, nofun, fun _ => rfl⟩
  | flushed =>
      refine ⟨hs.move rfl rfl ?_ rfl id, nofun, nofun, fun _ => rfl⟩
      rintro exit ⟨⟩
      rfl
  | lock _ hpc h | lockPoisoned _ hpc h => exact absurd h (hmmio hpc)
  | visit _ hin | visitPanicked _ hin | unlock hin => exact absurd hin hvisit

/-! ### Whole runs -/

/-- The instruction of the guest that a step is, if it is one. -/
def guestCall : Actor n × MachineEvent → Option (Fin n × Ports)
  | (.vcpu i, .guest) => some (i, [])
  | (.vcpu i, ev) =>
      match ev.exit with
      | some (.ioOut port data) => some (i, data.map (port, ·))
      | _ => none
  | (.main, _) => none

/-- What is put out on the serial port. -/
def serialBytes (outs : Ports) : List UInt8 :=
  outs.filterMap fun o => if o.1 = 0x3F8 then some o.2 else none

theorem guestCall_of_exit (actor : Actor n) {ev : MachineEvent} (hguest : ev ≠ .guest)
    (hexit : ev.exit = none) : guestCall (actor, ev) = none ∧ ev.serial = [] := by
  rcases actor with _ | i
  · cases ev with
    | wrote => cases hexit
    | _ => exact ⟨rfl, rfl⟩
  · cases ev with
    | guest => exact absurd rfl hguest
    | wrote => cases hexit
    | control ev => exact ⟨by simp only [guestCall, hexit], rfl⟩
    | _ => exact ⟨rfl, rfl⟩

theorem guestCall_of_out {i : Fin n} {ev : MachineEvent} {port : UInt16} {byte : UInt8}
    (hexit : ev.exit = some (.ioOut port [byte])) :
    guestCall (.vcpu i, ev) = some (i, [(port, byte)]) := by
  cases ev with
  | wrote | control => simp only [guestCall, hexit, List.map_cons, List.map_nil]
  | _ => cases hexit

/-- Bytes for the serial port are written, and no others. -/
theorem MachineState.Step.serial_of_out {actor : Actor n} {ev : MachineEvent} {port : UInt16}
    {byte : UInt8} (h : MachineState.Step env kvm s actor s' ev)
    (hexit : ev.exit = some (.ioOut port [byte])) : ev.serial = serialBytes [(port, byte)] := by
  cases h with
  | wrote | writeFailed =>
      cases hexit
      rfl
  | @loop i pc ms ev hin hplain h =>
      have hport : port ≠ 0x3F8 := by
        rintro rfl
        cases ev with
        | ran ran regs r =>
            cases ran with
            | error e => cases hexit
            | ok exit =>
                cases hexit
                exact hplain.2 _ _ _ rfl
        | _ => cases hexit
      simp [MachineEvent.serial, serialBytes, hport]
  | _ => cases hexit

/-- What a run of the machine is for the processors: a run of their own, `steps`, of which the host
is given the bytes for the serial port to write. -/
structure GuestRun (acc : env.output.Accepts) (live : Fin n → Cpu → Prop) (cpus : Fin n → Cpu)
    (s : MachineState n Q F S W) (calls : List (Fin n × Ports)) (cpus' : Fin n → Cpu)
    (s' : MachineState n Q F S W)
    (steps : List (((Fin n → Cpu) × (ℕ → UInt8)) × Fin n × Ports)) : Prop where
  idle : DevicesIdle s.devices s'
  layout : s'.memory.layout = s.memory.layout
  trace : Trace (Interleaved Cpu.step live) (cpus, s.memory.bytes) steps (cpus', s'.memory.bytes)
  calls : steps.map Prod.snd = calls
  written : acc.written s'.stdout =
    acc.written s.stdout ++ steps.flatMap fun x => serialBytes x.2.2

section Run

variable {acc : env.output.Accepts} {live : Fin n → Cpu → Prop} {cpus cpus' : Fin n → Cpu}
  {s₀ : MachineState n Q F S W} {calls : List (Fin n × Ports)}
  {steps : List (((Fin n → Cpu) × (ℕ → UInt8)) × Fin n × Ports)}

/-- The steps of a processor are the instructions that the machine has taken for it. -/
theorem GuestRun.stepsOf_eq (hrun : GuestRun acc live cpus s₀ calls cpus' s steps) (i : Fin n) :
    stepsOf i steps = calls.countP fun x => x.1 = i := by
  rw [← hrun.calls, List.countP_map]
  rfl

/-- A step that is none of the guest. -/
theorem GuestRun.hypervisor (hrun : GuestRun acc live cpus s₀ calls cpus' s steps)
    (hflush : ∀ w, acc.written (env.output.flush w).1 = acc.written w) {actor : Actor n}
    {ev : MachineEvent} (h : MachineState.Step env kvm s actor s' ev) (hguest : ev ≠ .guest)
    (hexit : ev.exit = none) : GuestRun acc live cpus s₀ calls cpus' s' steps := by
  obtain ⟨hidle, hvisit, hpanic, hmemory⟩ := hrun.idle.step h (by rw [hexit]; rintro exit ⟨⟩)
  have hwritten := h.written_of_ne acc hflush hvisit hpanic
  rw [(guestCall_of_exit actor hguest hexit).2, List.append_nil] at hwritten
  refine ⟨hidle, ?_, ?_, hrun.calls, hwritten.trans hrun.written⟩
  · rw [hmemory hguest]
    exact hrun.layout
  · rw [hmemory hguest]
    exact hrun.trace

/-- An instruction of the guest. -/
theorem GuestRun.instruction (hrun : GuestRun acc live cpus s₀ calls cpus' s steps) {i : Fin n}
    {c : Cpu} {outs : Ports} (hlive : live i (cpus' i))
    (hcpu : (cpus' i).step s.memory.bytes = some (c, s'.memory.bytes, outs))
    (hidle : DevicesIdle s₀.devices s') (hlayout : s'.memory.layout = s.memory.layout)
    (hwritten : acc.written s'.stdout = acc.written s.stdout ++ serialBytes outs) :
    GuestRun acc live cpus s₀ (calls ++ [(i, outs)]) (Function.update cpus' i c) s'
      (steps ++ [((cpus', s.memory.bytes), i, outs)]) where
  idle := hidle
  layout := hlayout.trans hrun.layout
  trace := hrun.trace.append (.cons ⟨hlive, c, _, hcpu, rfl⟩ (.nil _))
  calls := by rw [List.map_append, hrun.calls, List.map_singleton]
  written := by
    rw [hwritten, hrun.written, List.flatMap_append, List.flatMap_singleton, List.append_assoc]

/-- **A run of the machine is a run of its processors**, as long as these only write to ports. -/
theorem guestRun (acc : env.output.Accepts) {running : Bool} {memory : GuestMemory}
    {devices : List (VirtioMmioDevice Q F S)} {stdout : W}
    {g : MachineState n Q F S W × (Fin n → Cpu)}
    {calls : List ((MachineState n Q F S W × (Fin n → Cpu)) × Actor n × MachineEvent)}
    (hflush : ∀ w, acc.written (env.output.flush w).1 = acc.written w)
    (htrace : Trace (GuestStep env kvm live) (.start n running memory devices stdout, cpus)
      calls g) :
    ∃ steps, GuestRun acc live cpus (.start n running memory devices stdout)
      (observed guestCall calls) g.2 g.1 steps := by
  have hnil : GuestRun acc live cpus (.start n running memory devices stdout) [] cpus
      (.start n running memory devices stdout) [] :=
    ⟨devicesIdle_start n running memory devices stdout, rfl, .nil _, rfl, (List.append_nil _).symm⟩
  refine (htrace.history (I := fun past (g : MachineState n Q F S W × (Fin n → Cpu)) =>
    ∃ steps, GuestRun acc live cpus (.start n running memory devices stdout)
      (observed guestCall past) g.2 g.1 steps) ?_
      ⟨[], hnil⟩).1
  rintro past g actor g' ev ⟨steps, hrun⟩ hstep
  rw [observed_append]
  cases hstep with
  | hypervisor h hguest hexit =>
      rw [observed_cons_none (guestCall_of_exit actor hguest hexit).1, observed_nil,
        List.append_nil]
      exact ⟨steps, hrun.hypervisor hflush h hguest hexit⟩
  | instr hlive hcpu h =>
      obtain ⟨hidle, -⟩ := hrun.idle.step h (by rintro exit ⟨⟩)
      exact ⟨_, hrun.instruction hlive hcpu hidle rfl (List.append_nil _).symm⟩
  | out hlive hcpu h hexit =>
      have hmmio : ∀ exit, ev.exit = some exit → exit.isMmio = false := by
        rw [hexit]
        rintro exit ⟨⟩
        rfl
      have hguest : ev ≠ .guest := by
        rintro rfl
        cases hexit
      obtain ⟨hidle, hvisit, hpanic, hmemory⟩ := hrun.idle.step h hmmio
      have hwritten := h.written_of_ne acc hflush hvisit hpanic
      rw [h.serial_of_out hexit] at hwritten
      rw [observed_cons_some (guestCall_of_out hexit), observed_nil]
      refine ⟨_, hrun.instruction hlive ?_ hidle (by rw [hmemory hguest]) hwritten⟩
      rw [hmemory hguest]
      exact hcpu

end Run

/-! ### A vCPU that goes on -/

section Loop

variable {live : Fin n → Cpu → Prop} {cpus : Fin n → Cpu} {i : Fin n}

/-- Steps of the hypervisor alone. -/
theorem guestTrace_of_step {calls : List (MachineState n Q F S W × Actor n × MachineEvent)}
    (htrace : Trace (MachineState.Step env kvm) s calls s')
    (hquiet : ∀ x ∈ calls.map Prod.snd, x.2 ≠ .guest ∧ x.2.exit = none) :
    ∃ calls', Trace (GuestStep env kvm live) (s, cpus) calls' (s', cpus) ∧
      observed guestCall calls' = [] := by
  induction htrace with
  | nil s => exact ⟨[], .nil _, rfl⟩
  | @cons s s₁ _ actor ev calls hstep _ ih =>
      rw [List.map_cons, List.forall_mem_cons] at hquiet
      obtain ⟨⟨hguest, hexit⟩, hquiet⟩ := hquiet
      obtain ⟨calls', htrace', hobs⟩ := ih hquiet
      refine ⟨_, .cons (.hypervisor hstep hguest hexit) htrace', ?_⟩
      rw [observed_cons_none (guestCall_of_exit actor hguest hexit).1, hobs]

/-- The first thread, when `run` has started it and it has issued `KVM_RUN`. -/
theorem Looping.start (running : Bool) (memory : GuestMemory)
    (devices : List (VirtioMmioDevice Q F S)) (stdout : W) (hn : 0 < n) :
    ∃ calls s', Trace (GuestStep env kvm live)
        (.start n running memory devices stdout, cpus) calls (s', cpus) ∧
      observed guestCall calls = [] ∧ Looping ⟨0, hn⟩ .inRun s' := by
  obtain ⟨calls, s, htrace, hseen, hs⟩ : ∃ calls s, Trace (MachineState.Step env kvm)
      (.start n running memory devices stdout) calls s ∧
      calls.map Prod.snd = List.replicate 2 (.main, .control .quiet) ∧
      Looping ⟨0, hn⟩ .loadRunning s := by
    refine ⟨_, _, .cons (.main rfl (.enter rfl)) <| .cons (.main rfl (.spawn rfl hn)) (.nil _), rfl,
      rfl, rfl, rfl, ?_, rfl⟩
    dsimp only
    rw [Function.update_self]
  obtain ⟨calls', s', htrace', hseen', hs', -⟩ := hs.issue
  obtain ⟨calls'', htrace'', hobs⟩ := guestTrace_of_step (htrace.append htrace') (by
    rw [List.map_append, hseen, hseen']
    simp [MachineEvent.exit])
  exact ⟨calls'', s', htrace'', hobs, hs'⟩

/-- **A vCPU takes its next instruction and is back in `KVM_RUN`**, if the host's stream takes what
it has to show. -/
theorem Looping.next [Inhabited V] (kvm : KvmVcpu V) (live : Fin n → Cpu → Prop)
    (hwrite : ∀ w data, ∃ w', env.output.writeAll w data = (w', .ok ()))
    (hflush : ∀ w, ∃ w', env.output.flush w = (w', .ok ())) (hs : Looping i .inRun s)
    (hlive : live i (cpus i)) (hcpu : ((cpus i).step s.memory.bytes).isSome) :
    ∃ calls s' cpus' outs, Trace (GuestStep env kvm live) (s, cpus) calls (s', cpus') ∧
      observed guestCall calls = [(i, outs)] ∧ Looping i .inRun s' := by
  obtain ⟨⟨c, g, outs⟩, hcpu⟩ := Option.isSome_iff_exists.mp hcpu
  rcases Cpu.step_ports hcpu with rfl | ⟨⟨port, byte⟩, rfl, rfl⟩
  · exact ⟨_, _, _, _, .cons (.instr hlive hcpu (.guest _ hs.inside hs.pc rfl)) (.nil _), rfl,
      hs.running, hs.noError, hs.messages, hs.pc, hs.inside⟩
  -- the exit is handed on, at once or after the host's stream has taken the byte
  obtain ⟨calls₁, s₁, htrace₁, hobs₁, hs₁⟩ : ∃ calls₁ s₁,
      Trace (GuestStep env kvm live) (s, cpus) calls₁ (s₁, Function.update cpus i c) ∧
      observed guestCall calls₁ = [(i, [(port, byte)])] ∧
      Looping i (.handling (.ioOut port [byte])) s₁ := by
    by_cases hport : port = 0x3F8
    · subst hport
      obtain ⟨w, hw⟩ := hwrite s.stdout [byte]
      obtain ⟨w', hw'⟩ := hflush w
      refine ⟨_, _, .cons (.out hlive hcpu (.wrote [byte] w hs.inside hs.pc hw) rfl) <|
        .cons (.hypervisor (.flushed [byte] w' (Function.update_self ..) hw') nofun rfl) (.nil _),
        rfl, hs.running, ?_, ?_, Function.update_self .., Function.update_self ..⟩
      · exact (Bool.or_false _).trans hs.noError
      · exact (Function.update_self ..).trans hs.messages
    · refine ⟨_, _, .cons (.out hlive hcpu (.out hs.pc hs.inside hport [byte]) rfl) (.nil _), rfl,
        hs.running, ?_, ?_, Function.update_self .., hs.inside⟩
      · exact (Bool.or_false _).trans hs.noError
      · exact (Function.update_self ..).trans hs.messages
  obtain ⟨s₂, h₂, hs₂, -⟩ : ∃ s₂, MachineState.Step env kvm s₁ (.vcpu i) s₂ (.control .quiet) ∧
      Looping i .loadRunning s₂ ∧ Aside i s₁ s₂ :=
    hs₁.turn (.handled _ _) ⟨by rintro exit ⟨⟩; rfl, nofun⟩ rfl
  obtain ⟨calls₃, s₃, htrace₃, hseen₃, hs₃, -⟩ := hs₂.issue
  obtain ⟨calls₄, htrace₄, hobs₄⟩ := guestTrace_of_step (.cons h₂ htrace₃) (by
    rw [List.map_cons, hseen₃]
    simp [MachineEvent.exit])
  refine ⟨_, _, _, [(port, byte)], htrace₁.append htrace₄, ?_, hs₃⟩
  rw [observed_append, hobs₁, hobs₄, List.append_nil]

end Loop

/-! ### The boot sector -/

/-- **`run` takes the machine through the boot sector.** With `bootloader.bin` as the boot image,
in every order of the steps of all threads and of the vCPUs that KVM lets run: the devices are not
touched, and the host's stream is given the letters of these vCPUs as they write them, each of them
its two, with nothing but log lines between them. None that the hypervisor lets run is ever stuck
before it is at the kernel, with all that the loader has left behind the sector still in place. The
vCPUs that KVM does not let run show nothing and stay where they are. -/
theorem boot_sector_run [Inhabited V] {vm : VirtualMachine V Q F S} {path : String}
    (hstart : inv.Starts vmm env kvm files b fs vm) (hboot : inv.bootloader = some path)
    (hfile : inv.kernels.readFile path = .ok bootSector) (acc : env.output.Accepts)
    (hflush : ∀ w, acc.written (env.output.flush w).1 = acc.written w)
    (mp : Fin vm.vcpus.length → MpState) :
    ∃ buffer elf, inv.kernels.readFile inv.args.kernel = .ok buffer ∧
      inv.kernels.parse buffer = .ok elf ∧
      ∃ cpus : Fin vm.vcpus.length → Cpu,
        (∀ i, ∃ regs sregs, kvm.getRegs (vm.vcpus.get i).fd = .ok regs ∧
          kvm.getSregs (vm.vcpus.get i).fd = .ok sregs ∧ cpus i = guestCpu regs sregs) ∧
        ∀ running stdout calls g,
          Trace (GuestStep env kvm (InSector mp))
            (.start _ running vm.memory.memory vm.devices stdout, cpus) calls g →
          KernelMemory g.1.memory buffer elf (bootAddr + 512) ∧
          (∃ steps, GuestRun acc (InSector mp) cpus
              (.start _ running vm.memory.memory vm.devices stdout) (observed guestCall calls)
              g.2 g.1 steps ∧
            ∀ i, VcpuProgress (mp i) (cpus i) (stepsOf i steps) (outputsOf i steps) (g.2 i)
              g.1.memory.bytes) ∧
          ∀ i, mp i = .runnable → g.1.threads i = .inRun → g.1.inside i = .no →
            AtHandoff (g.2 i) ∨ ∃ g' ev, GuestStep env kvm (InSector mp) g (.vcpu i) g' ev ∧
              (ev = .guest ∨ ev.exit.isSome) := by
  obtain ⟨buffer, elf, hread, hparse, hkernel, hloaded, cpus, hcpus, hatStart⟩ :=
    hstart.sector hboot hfile
  refine ⟨buffer, elf, hread, hparse, cpus, hcpus, fun running stdout calls g htrace => ?_⟩
  obtain ⟨steps, hrun⟩ := guestRun acc hflush htrace
  obtain ⟨hsector, hprogress⟩ := sector_vcpus hloaded hatStart hrun.trace
  have hmemory : g.1.memory = { vm.memory.memory with bytes := g.1.memory.bytes } := by
    rw [GuestMemory.mk.injEq]
    exact ⟨hrun.layout, rfl⟩
  refine ⟨?_, ⟨steps, hrun, hprogress⟩, fun i hmp hpc hin => ?_⟩
  · rw [hmemory]
    exact length_bootSector ▸ hkernel.of_sector hsector
  · have hi := hprogress i
    rw [hmp] at hi
    rcases hi with ⟨-, -, hne, hsome⟩ | ⟨-, -, hend⟩
    · exact .inr (GuestStep.of_cpu hpc hin ⟨hmp, hne⟩ hsome)
    · exact .inl hend

/-- The first vCPU can take all of its steps, if it is on its way to the kernel whenever it has not
taken all of them. -/
theorem sector_steps [Inhabited V] {acc : env.output.Accepts} {mp : Fin n → MpState}
    {cpus : Fin n → Cpu} {s₀ : MachineState n Q F S W} {i : Fin n} (hmp : mp i = .runnable)
    (hwrite : ∀ w data, ∃ w', env.output.writeAll w data = (w', .ok ()))
    (hflush : ∀ w, ∃ w', env.output.flush w = (w', .ok ()))
    (hstart : ∃ calls s, Trace (GuestStep env kvm (InSector mp)) (s₀, cpus) calls (s, cpus) ∧
      observed guestCall calls = [] ∧ Looping i .inRun s)
    (hall : ∀ calls g, Trace (GuestStep env kvm (InSector mp)) (s₀, cpus) calls g →
      ∃ steps, GuestRun acc (InSector mp) cpus s₀ (observed guestCall calls) g.2 g.1 steps ∧
        SectorProgress (stepsOf i steps) (outputsOf i steps) (g.2 i) g.1.memory.bytes) :
    ∀ k ≤ sectorSteps, ∃ calls g, Trace (GuestStep env kvm (InSector mp)) (s₀, cpus) calls g ∧
      Looping i .inRun g.1 ∧ (observed guestCall calls).countP (fun x => x.1 = i) = k := by
  intro k
  induction k with
  | zero =>
      intro _
      obtain ⟨calls, s, htrace, hobs, hloop⟩ := hstart
      exact ⟨calls, _, htrace, hloop, by rw [hobs]; rfl⟩
  | succ k ih =>
      intro hk
      obtain ⟨calls, g, htrace, hloop, hcount⟩ := ih (by omega)
      obtain ⟨steps, hrun, hprogress⟩ := hall _ _ htrace
      rw [hrun.stepsOf_eq, hcount] at hprogress
      rcases hprogress with ⟨-, -, hlive, hsome⟩ | ⟨hend, -⟩
      · obtain ⟨calls', s', cpus', outs, htrace', hobs, hloop'⟩ :=
          hloop.next kvm (InSector mp) hwrite hflush ⟨hmp, hlive⟩ hsome
        refine ⟨_, _, htrace.append htrace', hloop', ?_⟩
        rw [observed_append, List.countP_append, hcount, hobs]
        simp
      · omega

/-- Two vCPUs on the plain host: the first one comes to the kernel, and its two letters are all that
is on the host's stream. -/
theorem boot_sector_run_letters :
    ∃ (vm : VirtualMachine PlainVcpu GatedQueue DiskFile Unit) (cpus : Fin vm.vcpus.length → Cpu),
      vm.vcpus.length = 2 ∧
      ∃ calls g, Trace (GuestStep DeviceEnv.plain PlainVcpu.kvm (InSector fun i => .created i))
        (.start _ false vm.memory.memory vm.devices [], cpus) calls g ∧
        g.1.stdout = [0x59, 0x50] ∧ ∃ i, AtHandoff (g.2 i) := by
  have hne : bootSector ≠ [] := List.ne_nil_of_length_pos (by rw [length_bootSector]; decide)
  obtain ⟨vm, hstart⟩ := Invocation.boot_starts hne (by rw [length_bootSector]; decide)
    fun _ => none
  have hlen : vm.vcpus.length = 2 := (hstart.spec GatedQueue.readiness).2.2
  obtain ⟨_, _, _, _, cpus, _, hall⟩ :=
    boot_sector_run hstart rfl rfl plainAccepts (fun _ => rfl) fun i => .created i
  let i : Fin vm.vcpus.length := ⟨0, by omega⟩
  let j : Fin vm.vcpus.length := ⟨1, by omega⟩
  obtain ⟨calls, g, htrace, -, hcount⟩ := sector_steps (i := i) rfl (fun w data => ⟨w ++ data, rfl⟩)
    (fun w => ⟨w, rfl⟩) (Looping.start false vm.memory.memory vm.devices [] i.2)
    (fun calls g htrace => by
      obtain ⟨-, ⟨steps, hrun, hprogress⟩, -⟩ := hall _ _ _ _ htrace
      exact ⟨steps, hrun, hprogress i⟩) sectorSteps (Nat.le_refl _)
  obtain ⟨-, ⟨steps, hrun, hprogress⟩, -⟩ := hall _ _ _ _ htrace
  have hother : stepsOf j steps = 0 ∧ _ := hprogress j
  have hi : SectorProgress _ _ _ _ := hprogress i
  rw [hrun.stepsOf_eq, hcount] at hi
  rcases hi with ⟨hlt, -⟩ | ⟨-, houts, hend⟩
  · omega
  refine ⟨vm, cpus, hlen, calls, g, htrace, ?_, i, hend⟩
  -- the other vCPU has taken no step, so that all letters are of the first
  have hsame : outputsOf i steps = steps.flatMap fun x => x.2.2 := by
    rw [outputsOf, List.filter_eq_self.mpr]
    intro x hx
    have hj : x.2.1 ≠ j := fun h => List.countP_eq_zero.mp hother.1 x hx (decide_eq_true h)
    have hlt := x.2.1.2
    have hne : x.2.1.1 ≠ 1 := fun h => hj (Fin.ext h)
    exact decide_eq_true (Fin.ext (by show x.2.1.1 = 0; omega))
  have hserial : serialBytes (steps.flatMap fun x => x.2.2) = [0x59, 0x50] := by
    rw [← hsame, houts]
    rfl
  have hwritten : g.1.stdout = steps.flatMap fun x => serialBytes x.2.2 := hrun.written
  rw [hwritten, ← hserial, serialBytes, List.filterMap_flatMap]
  rfl

end MoVm
