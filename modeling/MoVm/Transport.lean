import MoVm.ConfigSpace
import MoVm.ConsoleNet
import MoVm.Lib.Trace
import MoVm.Machine

/-!
# The MMIO Transport

The model of `virtio/mmio.rs`: how the registers of a device window are read and written, over
the devices behind it.

A driver reaches a device by a sequence of accesses, and writes to guest memory in between.
`TransportState.Step` is one access with its answer, whatever has become of guest memory
before it, and a sequence of accesses is a `Trace` of it.

The register `QueueReady` is a constant of the source, and no register makes a queue ready.
`Idle` is the resulting invariant: the queues of an attached device stay as they were created.

## Main results

* `VirtioDevice.processQueue_idle`, `VirtioDevice.processQueue_notReady`: a device none of
  whose queues is ready does nothing when it is notified, and fails for every queue it would
  have looked into.
* `queueReady_honest_iff`: a sequence of accesses to an attached device is told the truth about
  ready queues exactly when it never asks.
-/

open Lib

namespace MoVm

variable {V Q C F S W : Type}

/-! ### Notifications -/

/-- What the devices work with: guest memory, the queue implementation, and the host's disk
image, sockets and output stream. -/
structure DeviceEnv (Q C F S W : Type) where
  memory : VmMemory
  disk : HostFile F
  queue : VirtioQueue Q C
  /-- `queue.max_size()`. -/
  maxSize : Q → UInt16
  socket : HostSocket S
  output : HostWriter W

variable (env : DeviceEnv Q C F S W)

/-- `process_queue` of a device. The file system device does its work in its backend. -/
def VirtioDevice.processQueue (fuel : ℕ) (dev : VirtioDevice Q F S) (output : W)
    (queueIdx : UInt32) :
    (VirtioDevice Q F S × W) × Option (Outcome HypervisorError Unit) :=
  match dev with
  | .console dev =>
      match dev.processQueue env.memory env.queue env.output fuel output queueIdx with
      | ((dev, output), r) => ((.console dev, output), r)
  | .block dev =>
      match dev.processQueue env.memory env.disk env.queue fuel queueIdx with
      | (dev, r) => ((.block dev, output), r.map .ofExcept)
  | .net dev =>
      match dev.processQueue env.memory env.queue env.socket fuel queueIdx with
      | (dev, r) => ((.net dev, output), r.map .ofExcept)
  | .fs dev => ((.fs dev, output), some (.ok ()))

/-! ### Registers -/

/-- The value of the register at an offset below `0x100`. -/
def VirtioMmioDevice.readRegister (dev : VirtioMmioDevice Q F S) (offset : UInt64) : UInt32 :=
  match offset with
  | 0x00 => 0x74726976
  | 0x04 => 1
  | 0x08 => dev.device.deviceType
  | 0x0c => 0x4d564f4d
  | 0x10 => (dev.device.getFeatures &&& 0xffffffff).toUInt32
  | 0x14 => (dev.device.getFeatures >>> 32).toUInt32
  | 0x34 =>
      match (dev.device.getQueues env.maxSize)[dev.queueSel.toNat]? with
      | some n => n.toUInt32
      | none => 0
  | 0x44 => 1
  | 0x60 => dev.device.getInterruptStatus
  | 0x70 => 0
  | _ => 0

/-- `mmio_read`: the buffer afterwards, and the result. -/
def VirtioMmioDevice.mmioRead (dev : VirtioMmioDevice Q F S) (offset : UInt64)
    (data : List UInt8) : List UInt8 × Except HypervisorError Unit :=
  if 0x100 ≤ offset then dev.device.readConfig (offset - 0x100) data
  else (overlay (leBytes 4 (dev.readRegister env offset).toNat) data, .ok ())

/-- A device and the host stream its output goes to. -/
structure TransportState (Q F S W : Type) where
  dev : VirtioMmioDevice Q F S
  output : W

/-- The result of a call whose error is dropped. -/
def Outcome.ignoreErr {ε : Type} : Outcome ε Unit → Outcome ε Unit
  | .err _ => .ok ()
  | r => r

/-- `mmio_write`. The configuration spaces ignore what is written to them. -/
def TransportState.mmioWrite (fuel : ℕ) (s : TransportState Q F S W) (offset : UInt64)
    (data : List UInt8) : TransportState Q F S W × Option (Outcome HypervisorError Unit) :=
  if 0x100 ≤ offset then (s, some (.ok ()))
  else
    let val := UInt32.ofNat (leNat (data.take 4))
    match offset with
    | 0x20 =>
        ({ s with dev := { s.dev with
            device := s.dev.device.setAckedFeatures val.toUInt64 } }, some (.ok ()))
    | 0x30 => ({ s with dev := { s.dev with queueSel := val } }, some (.ok ()))
    | 0x50 =>
        match s.dev.device.processQueue env fuel s.output val with
        | ((device, output), r) =>
            ({ dev := { s.dev with device }, output }, r.map Outcome.ignoreErr)
    | _ => (s, some (.ok ()))

/-! ### Sequences of accesses -/

/-- An access to the window of a device, with the buffer it comes with. -/
inductive Access
  | read (offset : UInt64) (data : List UInt8)
  | write (offset : UInt64) (data : List UInt8)

/-- The buffer after an access, and the result of the call. -/
structure Answer where
  data : List UInt8
  result : Outcome HypervisorError Unit

/-- One access to the registers, with its answer if it returns. -/
def TransportState.access (fuel : ℕ) (s : TransportState Q F S W) :
    Access → TransportState Q F S W × Option Answer
  | .read offset data =>
      match s.dev.mmioRead env offset data with
      | (data, r) => (s, some { data, result := .ofExcept r })
  | .write offset data =>
      match s.mmioWrite env fuel offset data with
      | (s, r) => (s, r.map fun result => { data, result })

/-- The device as it sees guest memory with these contents. -/
def VirtioDevice.withMemory (mem : GuestMemory) : VirtioDevice Q F S → VirtioDevice Q F S
  | .console dev => .console { dev with config := { dev.config with mem } }
  | .block dev => .block { dev with config := { dev.config with mem } }
  | .net dev => .net { dev with config := { dev.config with mem } }
  | .fs dev => .fs { dev with mem }

/-- The state after the guest has written to its memory. -/
def TransportState.withMemory (mem : GuestMemory) (s : TransportState Q F S W) :
    TransportState Q F S W :=
  { s with dev := { s.dev with device := s.dev.device.withMemory mem } }

/-- An access that returns, after the guest has written to its memory. -/
def TransportState.Step (s : TransportState Q F S W) (a : Access) (s' : TransportState Q F S W)
    (ans : Answer) : Prop :=
  ∃ fuel mem, (s.withMemory mem).access env fuel a = (s', some ans)

/-! ### Devices without a ready queue -/

/-- None of the queues of the device is ready. -/
def VirtioDevice.Idle {vq : VirtioQueue Q C} (rd : vq.Readiness) (dev : VirtioDevice Q F S) :
    Prop :=
  ∀ q ∈ dev.queues, rd.isReady q = false

/-- The selected queue exists and is ready. -/
def VirtioMmioDevice.SelectedReady {vq : VirtioQueue Q C} (rd : vq.Readiness)
    (dev : VirtioMmioDevice Q F S) : Prop :=
  ∃ q, dev.device.queues[dev.queueSel.toNat]? = some q ∧ rd.isReady q = true

/-- A notification of this queue makes the device look into it. -/
def VirtioDevice.Polls (dev : VirtioDevice Q F S) (queueIdx : UInt32) : Prop :=
  match dev with
  | .console _ => queueIdx = 1
  | .block _ => queueIdx = 0
  | .net _ => queueIdx = 0 ∨ queueIdx = 1
  | .fs _ => False

/-- The queues are kept outside guest memory. -/
@[simp] theorem VirtioDevice.queues_withMemory (mem : GuestMemory) (dev : VirtioDevice Q F S) :
    (dev.withMemory mem).queues = dev.queues := by
  cases dev <;> rfl

/-- Which queue a notification is for does not depend on guest memory. -/
theorem VirtioDevice.polls_withMemory (mem : GuestMemory) (dev : VirtioDevice Q F S)
    (queueIdx : UInt32) : (dev.withMemory mem).Polls queueIdx ↔ dev.Polls queueIdx := by
  cases dev <;> rfl

section Idle

variable {env} {rd : env.queue.Readiness}

/-- The outcome of a call that fails at once, if it has fuel. -/
theorem map_ofExcept_ite (fuel : ℕ) (e : HypervisorError) :
    Option.map Outcome.ofExcept
        (if fuel = 0 then none else some (.error e : Except HypervisorError Unit)) =
      if fuel = 0 then none else some (.err e) := by
  split <;> rfl

/-- **A notification fails** for every queue the device looks into, as long as no queue is
ready, and leaves the device as it was. -/
theorem VirtioDevice.processQueue_notReady {dev : VirtioDevice Q F S} (hidle : dev.Idle rd)
    {queueIdx : UInt32} (hpoll : dev.Polls queueIdx) {queue : Q}
    (hq : dev.queues[queueIdx.toNat]? = some queue) (fuel : ℕ) (output : W) :
    dev.processQueue env fuel output queueIdx = ((dev, output), if fuel = 0 then none
      else some (.err (.memoryError ("Failed to iterate queue: " ++ rd.queueNotReady)))) := by
  have hpop : ∀ mem, env.queue.pop mem queue = .error rd.queueNotReady := fun mem =>
    rd.pop_notReady (hidle queue (List.mem_of_getElem? hq))
  cases dev with
  | console dev =>
      obtain rfl : queueIdx = 1 := hpoll
      simp only [processQueue, VirtioConsole.processQueue_one,
        VirtioConsole.processTxQueue_of_pop_error hq (hpop _)]
  | block dev =>
      obtain rfl : queueIdx = 0 := hpoll
      obtain ⟨rest, hrest⟩ : ∃ rest, dev.config.queues = queue :: rest :=
        List.head?_eq_some_iff.mp (List.head?_eq_getElem?.trans hq)
      simp only [processQueue, VirtioBlock.processQueue_of_pop_error hrest (hpop _)]
      exact congrArg _ (map_ofExcept_ite fuel _)
  | net dev =>
      rcases hpoll with rfl | rfl
      · simp only [processQueue, VirtioNet.processQueue_zero,
          VirtioNet.processRxQueue_of_pop_error hq (hpop _)]
        exact congrArg _ (map_ofExcept_ite fuel _)
      · simp only [processQueue, VirtioNet.processQueue_one,
          VirtioNet.processTxQueue_of_pop_error hq (hpop _)]
        exact congrArg _ (map_ofExcept_ite fuel _)
  | fs dev => exact hpoll.elim

/-- A notification of a queue the device does not look into, or does not have, does
nothing. -/
theorem VirtioDevice.processQueue_of_no_queue {dev : VirtioDevice Q F S} {queueIdx : UInt32}
    (h : dev.Polls queueIdx → dev.queues[queueIdx.toNat]? = none) (fuel : ℕ) (output : W) :
    (dev.processQueue env fuel output queueIdx).1 = (dev, output) := by
  cases dev with
  | console dev =>
      simp only [processQueue, VirtioConsole.processQueue]
      split
      · rfl
      · split
        · next hidx =>
            subst hidx
            have hq : dev.config.queues[1]? = none := h rfl
            simp only [VirtioConsole.processTxQueue, hq]
        · rfl
  | block dev =>
      have hno : queueIdx ≠ 0 ∨ dev.config.queues = [] := by
        by_cases hidx : queueIdx = 0
        · subst hidx
          exact .inr (List.head?_eq_none_iff.mp (List.head?_eq_getElem?.trans (h rfl)))
        · exact .inl hidx
      obtain ⟨⟨e, he⟩, -⟩ :=
        VirtioBlock.processQueue_of_no_queue env.memory env.disk env.queue hno fuel
      simp only [processQueue, he]
  | net dev =>
      simp only [processQueue, VirtioNet.processQueue]
      split
      · next hidx =>
          subst hidx
          have hq : dev.config.queues[0]? = none := h (.inl rfl)
          simp only [VirtioNet.processRxQueue, hq]
      · split
        · next hidx =>
            subst hidx
            have hq : dev.config.queues[1]? = none := h (.inr rfl)
            simp only [VirtioNet.processTxQueue, hq]
        · rfl
  | fs dev => rfl

/-- A device none of whose queues is ready is left as it was by every notification. -/
theorem VirtioDevice.processQueue_idle {dev : VirtioDevice Q F S} (hidle : dev.Idle rd)
    (fuel : ℕ) (output : W) (queueIdx : UInt32) :
    (dev.processQueue env fuel output queueIdx).1 = (dev, output) := by
  by_cases h : dev.Polls queueIdx → dev.queues[queueIdx.toNat]? = none
  · exact processQueue_of_no_queue h fuel output
  · obtain ⟨hpoll, hq⟩ := Classical.not_imp.mp h
    obtain ⟨queue, hq⟩ := Option.ne_none_iff_exists'.mp hq
    rw [processQueue_notReady hidle hpoll hq]

/-- No write makes a queue ready. -/
theorem TransportState.mmioWrite_idle {s : TransportState Q F S W}
    (hidle : s.dev.device.Idle rd) (fuel : ℕ) (offset : UInt64) (data : List UInt8) :
    (s.mmioWrite env fuel offset data).1.dev.device.Idle rd := by
  unfold TransportState.mmioWrite
  split
  · exact hidle
  · dsimp only
    split
    · obtain ⟨⟨device, _, _, _⟩, _⟩ := s
      cases device <;> exact hidle
    · exact hidle
    · have hdev := VirtioDevice.processQueue_idle hidle fuel s.output
        (UInt32.ofNat (leNat (data.take 4)))
      simp only [hdev]
      exact hidle
    · exact hidle

/-- No access makes a queue ready. -/
theorem TransportState.idle_step {s s' : TransportState Q F S W} {a : Access} {ans : Answer}
    (hidle : s.dev.device.Idle rd) (hstep : s.Step env a s' ans) : s'.dev.device.Idle rd := by
  obtain ⟨fuel, mem, h⟩ := hstep
  have hidle' : (s.withMemory mem).dev.device.Idle rd := fun q hq =>
    hidle q (VirtioDevice.queues_withMemory mem s.dev.device ▸ hq)
  cases a with
  | read offset data =>
      rw [← (Prod.mk.inj h).1]
      exact hidle'
  | write offset data =>
      rw [← (Prod.mk.inj h).1]
      exact TransportState.mmioWrite_idle hidle' fuel offset data

/-! ### Attached devices -/

/-- The queues of a new device are not ready. -/
theorem VirtioDeviceConfig.new_notReady {vq : VirtioQueue Q C} (rd : vq.Readiness)
    {eventFdNew : Except String EventFd} {mem : GuestMemory} {guestMem : UInt64} {irq : UInt32}
    {n : ℕ} : ∀ q ∈ (VirtioDeviceConfig.new vq eventFdNew mem guestMem irq n).queues,
      rd.isReady q = false := by
  intro q hq
  rw [List.eq_of_mem_replicate hq]
  exact rd.isReady_create 1024

/-- A new block device has one queue. -/
theorem VirtioBlock.new_config {hf : HostFile F} {vq : VirtioQueue Q C}
    {eventFdNew : Except String EventFd} {mem : GuestMemory} {guestMem : UInt64} {irq : UInt32}
    {diskPath : String} {readOnly : Bool} {dev : VirtioBlock Q F}
    (h : VirtioBlock.new hf vq eventFdNew mem guestMem irq diskPath readOnly = .ok dev) :
    dev.config = VirtioDeviceConfig.new vq eventFdNew mem guestMem irq 1 := by
  unfold VirtioBlock.new at h
  split at h
  · cases h
  · split at h
    · cases h
    · rw [← Except.ok.inj h]

/-- A new network device has two. -/
theorem VirtioNet.new_config {vq : VirtioQueue Q C} {host : AttachHost F S} {mem : GuestMemory}
    {guestMem : UInt64} {irq : UInt32} {localAddr : String} {dev : VirtioNet Q S}
    (h : VirtioNet.new vq host mem guestMem irq localAddr none = .ok dev) :
    dev.config = VirtioDeviceConfig.new vq (host.eventFdNew 0) mem guestMem irq 2 := by
  simp only [VirtioNet.new, bind_ok_iff] at h
  obtain ⟨_, -, _, -, _, -, h⟩ := h
  rw [← Except.ok.inj h]

/-- The device that a successful call has pushed is the one it constructed. -/
theorem VirtualMachine.attachAt_push {vm : VirtualMachine V Q F S} {base : UInt64}
    {construct : GuestMemory → UInt32 → Except HypervisorError (VirtioDevice Q F S)}
    {dev : VirtioMmioDevice Q F S}
    (h : vm.attachAt base construct = (vm.push dev, .ok ())) :
    construct vm.memory.memory vm.nextIrq = .ok dev.device := by
  simp only [attachAt, allocateIrq] at h
  cases hc : construct vm.memory.memory vm.nextIrq with
  | error e =>
      rw [hc] at h
      cases (Prod.mk.inj h).2
  | ok device =>
      rw [hc] at h
      have hdevices := congrArg VirtualMachine.devices (Prod.mk.inj h).1
      rw [← (List.cons.inj (List.append_cancel_left hdevices)).1]
      rfl

/-- A device is attached with queues that are not ready. -/
theorem VirtualMachine.attach_idle (rd : env.queue.Readiness) {vm : VirtualMachine V Q F S}
    {host : AttachHost F S} {call : AttachCall} {dev : VirtioMmioDevice Q F S}
    (h : vm.attach env.queue host call = (vm.push dev, .ok ())) : dev.device.Idle rd := by
  obtain ⟨device, baseAddr, size, queueSel⟩ := dev
  cases call with
  | console =>
      rw [attach, addVirtioConsole] at h
      obtain ⟨c, hc, hdev⟩ := bind_ok_iff.mp (attachAt_push h)
      obtain rfl := Except.ok.inj hdev
      rw [← Except.ok.inj hc]
      exact VirtioDeviceConfig.new_notReady rd
  | block diskPath readOnly =>
      rw [attach, addVirtioBlock] at h
      obtain ⟨b, hb, hdev⟩ := bind_ok_iff.mp (attachAt_push h)
      obtain rfl := Except.ok.inj hdev
      intro q hq
      rw [VirtioDevice.queues, VirtioBlock.new_config hb] at hq
      exact VirtioDeviceConfig.new_notReady rd q hq
  | net localAddr peerAddr =>
      rw [attach, addVirtioNet] at h
      obtain ⟨_, -, hrest⟩ := bind_ok_iff.mp (attachAt_push h)
      obtain ⟨_, -, hrest⟩ := bind_ok_iff.mp hrest
      obtain ⟨n, hn, hdev⟩ := bind_ok_iff.mp hrest
      obtain rfl := Except.ok.inj hdev
      intro q hq
      rw [VirtioDevice.queues, VirtioNet.new_config hn] at hq
      exact VirtioDeviceConfig.new_notReady rd q hq
  | fs tag sharedDir readonly =>
      rw [attach, addVirtioFs] at h
      obtain ⟨_, -, hrest⟩ := bind_ok_iff.mp (attachAt_push h)
      obtain ⟨f, -, hdev⟩ := bind_ok_iff.mp hrest
      obtain rfl := Except.ok.inj hdev
      exact fun q hq => absurd hq List.not_mem_nil

/-- **A notification that follows fails**: after every sequence of accesses to an attached
device, it returns the error of a queue that is not ready for every queue the device has and
looks into. -/
theorem queueNotify_notReady (rd : env.queue.Readiness) {vm : VirtualMachine V Q F S}
    {host : AttachHost F S} {call : AttachCall} {dev : VirtioMmioDevice Q F S}
    (hattach : vm.attach env.queue host call = (vm.push dev, .ok ())) {output : W}
    {calls : List (TransportState Q F S W × Access × Answer)} {s : TransportState Q F S W}
    (htrace : Trace (TransportState.Step env) { dev, output } calls s) {queueIdx : UInt32}
    (hpoll : s.dev.device.Polls queueIdx) {queue : Q}
    (hq : s.dev.device.queues[queueIdx.toNat]? = some queue) (fuel : ℕ) :
    (s.dev.device.processQueue env (fuel + 1) s.output queueIdx).2 =
      some (.err (.memoryError ("Failed to iterate queue: " ++ rd.queueNotReady))) := by
  have hidle : s.dev.device.Idle rd :=
    (htrace.inv (fun _ _ _ _ => TransportState.idle_step) (VirtualMachine.attach_idle rd hattach)).1
  rw [VirtioDevice.processQueue_notReady hidle hpoll hq, if_neg (Nat.succ_ne_zero fuel)]

/-! ### The `QueueReady` register -/

/-- The access reads `QueueReady` into a buffer of at least one byte. -/
def Access.AsksReady (a : Access) : Prop :=
  ∃ data, data ≠ [] ∧ a = .read 0x44 data

/-- The access reads `QueueReady` and is answered with 1, or as many bytes of it as the buffer
takes. -/
def ReportsReady (a : Access) (ans : Answer) : Prop :=
  ∃ data, a = .read 0x44 data ∧ leNat (ans.data.take 4) = 1

/-- No queue of an idle device is ready, selected or not. -/
theorem VirtioMmioDevice.not_selectedReady {dev : VirtioMmioDevice Q F S}
    (hidle : dev.device.Idle rd) : ¬dev.SelectedReady rd := by
  rintro ⟨q, hq, hready⟩
  rw [hidle q (List.mem_of_getElem? hq)] at hready
  cases hready

variable (env) in
/-- `QueueReady` reads as one in every state. -/
theorem TransportState.access_queueReady (fuel : ℕ) (s : TransportState Q F S W)
    (data : List UInt8) :
    s.access env fuel (.read 0x44 data) =
      (s, some { data := overlay [1, 0, 0, 0] data, result := .ok () }) := by
  have hval : s.dev.readRegister env 0x44 = 1 := rfl
  have hbytes : leBytes 4 (1 : UInt32).toNat = [1, 0, 0, 0] := rfl
  have hread : s.dev.mmioRead env 0x44 data = (overlay [1, 0, 0, 0] data, .ok ()) := by
    rw [VirtioMmioDevice.mmioRead, if_neg (by decide), hval, hbytes]
  simp only [access, hread, Outcome.ofExcept]

/-- The value that the driver finds in its buffer. -/
theorem leNat_overlay_one {data : List UInt8} (h : data ≠ []) :
    leNat ((overlay [1, 0, 0, 0] data).take 4) = 1 := by
  rcases data with _ | ⟨a, _ | ⟨b, _ | ⟨c, _ | ⟨d, rest⟩⟩⟩⟩
  · exact absurd rfl h
  all_goals simp [overlay, leNat]

/-- `QueueReady` reads as 1, whatever the device. -/
theorem reportsReady_iff {s s' : TransportState Q F S W} {a : Access} {ans : Answer}
    (hstep : s.Step env a s' ans) : ReportsReady a ans ↔ a.AsksReady := by
  obtain ⟨fuel, mem, h⟩ := hstep
  constructor
  · rintro ⟨data, rfl, hone⟩
    refine ⟨data, ?_, rfl⟩
    rintro rfl
    rw [TransportState.access_queueReady] at h
    rw [← Option.some.inj (Prod.mk.inj h).2] at hone
    exact absurd hone (by decide)
  · rintro ⟨data, hne, rfl⟩
    rw [TransportState.access_queueReady] at h
    refine ⟨data, rfl, ?_⟩
    rw [← Option.some.inj (Prod.mk.inj h).2]
    exact leNat_overlay_one hne

/-- **`QueueReady` is never true**: in a sequence of accesses to a device as it was attached,
every answer that the selected queue is ready is right exactly when none is asked for. -/
theorem queueReady_honest_iff (rd : env.queue.Readiness) {vm : VirtualMachine V Q F S}
    {host : AttachHost F S} {call : AttachCall} {dev : VirtioMmioDevice Q F S}
    (hattach : vm.attach env.queue host call = (vm.push dev, .ok ())) {output : W}
    {calls : List (TransportState Q F S W × Access × Answer)} {s : TransportState Q F S W}
    (htrace : Trace (TransportState.Step env) { dev, output } calls s) :
    (∀ x ∈ calls, ReportsReady x.2.1 x.2.2 → x.1.dev.SelectedReady rd) ↔
      ∀ x ∈ calls, ¬x.2.1.AsksReady := by
  obtain ⟨-, hidle⟩ := htrace.inv (fun _ _ _ _ => TransportState.idle_step)
    (VirtualMachine.attach_idle rd hattach)
  constructor
  · intro h x hx hasks
    obtain ⟨t, hstep⟩ := htrace.step_of_mem hx
    exact VirtioMmioDevice.not_selectedReady (hidle x hx)
      (h x hx ((reportsReady_iff hstep).mpr hasks))
  · intro h x hx hreports
    obtain ⟨t, hstep⟩ := htrace.step_of_mem hx
    exact absurd ((reportsReady_iff hstep).mp hreports) (h x hx)

end Idle

/-! ### An attached disk -/

/-- Queues with a script, an empty disk image, a silent socket and a stream that keeps what
is written, at a log level at which `info!` does nothing. -/
def DeviceEnv.plain : DeviceEnv GatedQueue ScriptedChain DiskFile Unit (List UInt8) where
  memory := VmMemory.mmap
  disk := DiskFile.host []
  queue := GatedQueue.queue
  maxSize _ := 1024
  socket :=
    { recvFrom := fun s _ => (s, .wouldBlock)
      sendTo := fun s bytes _ => (s, .ok bytes.length) }
  output :=
    { writeAll := fun w bytes => (w ++ bytes, .ok ())
      flush := fun w => (w, .ok ())
      info := fun w _ => w }

/-- On the plain host a disk can be attached to every machine. -/
theorem VirtualMachine.attach_gated (vm : VirtualMachine PlainVcpu GatedQueue DiskFile Unit) :
    ∃ dev, vm.attach GatedQueue.queue AttachHost.plain (.block "disk.img" false) =
      (vm.push dev, .ok ()) ∧ dev.device.Polls 0 ∧
      dev.device.queues = [GatedQueue.queue.create 1024] :=
  ⟨_, rfl, rfl, rfl⟩

/-- The plain host makes a machine whose queues have to be made ready. -/
theorem VirtualMachine.new_gated :
    ∃ vm : VirtualMachine PlainVcpu GatedQueue DiskFile Unit,
      VirtualMachine.new VmMemory.mmap KvmHost.plain 1 = .ok vm :=
  ⟨_, rfl⟩

/-- A driver that selects a queue and does not ask whether it is ready. -/
theorem queueReady_honest_select :
    ∃ (vm : VirtualMachine PlainVcpu GatedQueue DiskFile Unit) (dev : _)
      (calls : List (_ × Access × Answer)) (s : _),
      vm.attach GatedQueue.queue AttachHost.plain (.block "disk.img" false) =
        (vm.push dev, .ok ()) ∧
      Trace (TransportState.Step DeviceEnv.plain) { dev, output := [] } calls s ∧
      calls.map (·.2.1) = [.write 0x30 [0, 0, 0, 0]] ∧
      ∀ x ∈ calls, ReportsReady x.2.1 x.2.2 → x.1.dev.SelectedReady GatedQueue.readiness := by
  obtain ⟨vm, -⟩ := VirtualMachine.new_gated
  obtain ⟨dev, hattach, -, -⟩ := vm.attach_gated
  obtain ⟨s, hstep⟩ : ∃ s, TransportState.Step DeviceEnv.plain { dev, output := [] }
      (.write 0x30 [0, 0, 0, 0]) s { data := [0, 0, 0, 0], result := .ok () } :=
    ⟨_, 0, GuestMemory.page [], rfl⟩
  refine ⟨vm, dev, _, s, hattach, .cons hstep (.nil s), rfl, ?_⟩
  refine (queueReady_honest_iff GatedQueue.readiness hattach (.cons hstep (.nil s))).mpr ?_
  rintro x hx ⟨data, -, hread⟩
  obtain rfl := List.mem_singleton.mp hx
  cases hread

/-- The first access to a freshly attached disk reads `QueueReady`: the answer is 1, queue 0
is selected and not ready, and a notification of it fails for that reason. -/
theorem fresh_queue_reported_ready :
    ∃ (vm : VirtualMachine PlainVcpu GatedQueue DiskFile Unit) (dev : _)
      (calls : List (_ × Access × Answer)) (s : _),
      vm.attach GatedQueue.queue AttachHost.plain (.block "disk.img" false) =
        (vm.push dev, .ok ()) ∧
      Trace (TransportState.Step DeviceEnv.plain) { dev, output := [] } calls s ∧
      (∃ x ∈ calls, ReportsReady x.2.1 x.2.2 ∧
        ¬x.1.dev.SelectedReady GatedQueue.readiness) ∧
      ∀ fuel, (s.dev.device.processQueue DeviceEnv.plain (fuel + 1) s.output 0).2 =
        some (.err (.memoryError ("Failed to iterate queue: " ++
          GatedQueue.readiness.queueNotReady))) := by
  obtain ⟨vm, -⟩ := VirtualMachine.new_gated
  obtain ⟨dev, hattach, hpoll, hqueues⟩ := vm.attach_gated
  have hstep : TransportState.Step DeviceEnv.plain { dev, output := [] } (.read 0x44 [0, 0, 0, 0])
      (TransportState.withMemory (GuestMemory.page []) { dev, output := [] })
      { data := [1, 0, 0, 0], result := .ok () } :=
    ⟨0, _, TransportState.access_queueReady DeviceEnv.plain 0 _ _⟩
  refine ⟨vm, dev, _, _, hattach, .cons hstep (.nil _), ⟨_, List.mem_cons_self, ?_, ?_⟩, ?_⟩
  · exact ⟨[0, 0, 0, 0], rfl, rfl⟩
  · rintro ⟨q, hq, hready⟩
    have hmem := List.mem_of_getElem? hq
    rw [hqueues] at hmem
    obtain rfl := List.mem_singleton.mp hmem
    cases hready
  · have hq : (dev.device.withMemory (GuestMemory.page [])).queues[0]? =
        some (GatedQueue.queue.create 1024) := by
      rw [VirtioDevice.queues_withMemory, hqueues]
      rfl
    exact queueNotify_notReady GatedQueue.readiness hattach (.cons hstep (.nil _))
      ((VirtioDevice.polls_withMemory _ _ 0).mpr hpoll) hq

end MoVm
