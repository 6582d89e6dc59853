import MoVm.MachineRun

/-!
# The Registers of a Running Machine

No register makes a queue ready (`Transport`), so that no notification of a device gets past the
first look into a queue. What is left of the devices is a file of registers: a write selects a
queue or acknowledges features, and a read is answered from the rest, which never changes.

`RegisterFile.Step` is that file as a sequential machine: it takes a whole exit in one step, and
has neither a guest memory nor a host. The threads of a running machine hand an exit to one device
at a time, but under the lock of the devices, and the machine with threads is simulated by the one
without.

## Main results

* `visitDevice_inert`: one turn of the loop over the devices reads and writes registers only.
* `MachineState.Step.linked`: a step of the threads is one of the register file, or none there.
* `VirtualMachine.inert_of_new`: the devices of every machine are of the kind this is about.
-/

open Lib

namespace MoVm

variable {V Q C F S W : Type} {n : ℕ}

/-! ### The register file -/

/-- What a write to a register changes, but for notifications. -/
def VirtioMmioDevice.writeRegister (dev : VirtioMmioDevice Q F S) (offset : UInt64)
    (data : List UInt8) : VirtioMmioDevice Q F S :=
  if 0x100 ≤ offset then dev
  else
    let val := UInt32.ofNat (leNat (data.take 4))
    match offset with
    | 0x20 => { dev with device := dev.device.setAckedFeatures val.toUInt64 }
    | 0x30 => { dev with queueSel := val }
    | _ => dev

/-- The registers of a device after an exit. -/
def VirtioMmioDevice.after (exit : VcpuExit) (dev : VirtioMmioDevice Q F S) :
    VirtioMmioDevice Q F S :=
  match exit with
  | .mmioWrite addr data =>
      if dev.window.Contains addr then dev.writeRegister (addr - dev.baseAddr) data else dev
  | _ => dev

/-- What a device makes of the buffer of an exit. -/
def VirtioMmioDevice.answer (env : DeviceEnv Q C F S W) (exit : VcpuExit)
    (dev : VirtioMmioDevice Q F S) (data : List UInt8) : List UInt8 :=
  match exit with
  | .mmioRead addr _ =>
      if dev.window.Contains addr then (dev.mmioRead env (addr - dev.baseAddr) data).1 else data
  | _ => data

/-- What the devices make of the buffer of an exit, one after the other. -/
def answerAll (env : DeviceEnv Q C F S W) (exit : VcpuExit)
    (devices : List (VirtioMmioDevice Q F S)) : List UInt8 :=
  devices.foldl (fun data dev => dev.answer env exit data) exit.buffer

/-- **The sequential machine**: an exit is handled in one step, by registers alone. -/
def RegisterFile.Step (env : DeviceEnv Q C F S W) (devices : List (VirtioMmioDevice Q F S))
    (exit : VcpuExit) (devices' : List (VirtioMmioDevice Q F S)) (data : List UInt8) : Prop :=
  devices' = devices.map (·.after exit) ∧ data = answerAll env exit devices

section Erase

variable (mem : GuestMemory) (dev : VirtioMmioDevice Q F S)

/-- Of two memories the later one stays. -/
@[simp] theorem VirtioDevice.withMemory_withMemory (mem' : GuestMemory)
    (dev : VirtioDevice Q F S) : (dev.withMemory mem').withMemory mem = dev.withMemory mem := by
  cases dev <;> rfl

/-- The same behind the registers. -/
@[simp] theorem VirtioMmioDevice.withMemory_withMemory (mem' : GuestMemory) :
    (dev.withMemory mem').withMemory mem = dev.withMemory mem := by
  simp only [VirtioMmioDevice.withMemory, VirtioDevice.withMemory_withMemory]

/-- The memory that a device was given. -/
@[simp] theorem VirtioDevice.memory_withMemory (dev : VirtioDevice Q F S) :
    (dev.withMemory mem).memory = mem := by
  cases dev <;> rfl

/-- Writing a register does not look at guest memory. -/
theorem VirtioMmioDevice.writeRegister_withMemory (offset : UInt64) (data : List UInt8) :
    (dev.withMemory mem).writeRegister offset data =
      (dev.writeRegister offset data).withMemory mem := by
  by_cases hconfig : 0x100 ≤ offset
  · simp only [writeRegister, if_pos hconfig]
  · simp only [writeRegister, if_neg hconfig]
    split
    · obtain ⟨device, _, _, _⟩ := dev
      cases device <;> rfl
    · rfl
    · rfl

/-- The registers do not depend on guest memory. -/
theorem VirtioMmioDevice.after_withMemory (exit : VcpuExit) :
    (dev.withMemory mem).after exit = (dev.after exit).withMemory mem := by
  cases exit with
  | mmioWrite addr data =>
      by_cases hin : dev.window.Contains addr
      · have hin' : (dev.withMemory mem).window.Contains addr := hin
        rw [after, after, if_pos hin, if_pos hin']
        exact dev.writeRegister_withMemory mem _ _
      · have hin' : ¬(dev.withMemory mem).window.Contains addr := hin
        rw [after, after, if_neg hin, if_neg hin']
  | _ => rfl

/-- Nor does answering an exit. -/
theorem VirtioMmioDevice.answer_withMemory (env : DeviceEnv Q C F S W) (exit : VcpuExit)
    (data : List UInt8) : (dev.withMemory mem).answer env exit data = dev.answer env exit data := by
  obtain ⟨device, _, _, _⟩ := dev
  cases exit with
  | mmioRead => cases device <;> rfl
  | _ => rfl

end Erase

/-! ### One device -/

/-- The device has the queues its code indexes without a check. -/
def VirtioDevice.Wired : VirtioDevice Q F S → Prop
  | .console dev => 2 ≤ dev.config.queues.length
  | _ => True

/-- The state in which a device is attached, and stays: no queue is ready. -/
structure VirtioDevice.Inert {vq : VirtioQueue Q C} (rd : vq.Readiness) (dev : VirtioDevice Q F S) :
    Prop where
  idle : dev.Idle rd
  wired : dev.Wired

variable {env : DeviceEnv Q C F S W} {kvm : KvmVcpu V} {rd : env.queue.Readiness}

/-- A notification of such a device returns, and does not panic. -/
theorem VirtioDevice.Inert.processQueue {dev : VirtioDevice Q F S} (hdev : dev.Inert rd)
    (fuel : ℕ) (output : W) (queueIdx : UInt32) :
    (dev.processQueue env fuel output queueIdx).2 ≠ some .panic ∧
      ∃ r, (dev.processQueue env (fuel + 1) output queueIdx).2 = some r := by
  by_cases h : dev.Polls queueIdx → dev.queues[queueIdx.toNat]? = none
  · cases dev with
    | console dev =>
        have hidx : queueIdx ≠ 1 := by
          rintro rfl
          have hlen : dev.config.queues.length ≤ 1 := List.getElem?_eq_none_iff.mp (h rfl)
          exact absurd hdev.wired (Nat.not_le.mpr (Nat.lt_succ_of_le hlen))
        by_cases hzero : queueIdx = 0
        · simp only [VirtioDevice.processQueue, VirtioConsole.processQueue, if_pos hzero]
          exact ⟨by rintro ⟨⟩, _, rfl⟩
        · simp only [VirtioDevice.processQueue, VirtioConsole.processQueue, if_neg hzero,
            if_neg hidx]
          exact ⟨by rintro ⟨⟩, _, rfl⟩
    | block dev =>
        have hno : queueIdx ≠ 0 ∨ dev.config.queues = [] := by
          by_cases hidx : queueIdx = 0
          · subst hidx
            exact .inr (List.head?_eq_none_iff.mp (List.head?_eq_getElem?.trans (h rfl)))
          · exact .inl hidx
        obtain ⟨⟨e, he⟩, -⟩ :=
          VirtioBlock.processQueue_of_no_queue env.memory env.disk env.queue hno fuel
        obtain ⟨⟨e', he'⟩, -⟩ :=
          VirtioBlock.processQueue_of_no_queue env.memory env.disk env.queue hno (fuel + 1)
        simp only [VirtioDevice.processQueue, he, he']
        exact ⟨by rintro ⟨⟩, _, rfl⟩
    | net dev =>
        have hno : (queueIdx = 0 → dev.config.queues[0]? = none) ∧
            (queueIdx = 1 → dev.config.queues[1]? = none) := by
          refine ⟨?_, ?_⟩ <;> rintro rfl
          · exact h (.inl rfl)
          · exact h (.inr rfl)
        have hresult : ∀ fuel, ∃ e, (VirtioNet.processQueue env.memory env.queue env.socket fuel dev
            queueIdx).2 = some (.error e) := by
          intro fuel
          rw [VirtioNet.processQueue]
          split
          · next hidx => exact ⟨_, by rw [VirtioNet.processRxQueue, hno.1 hidx]⟩
          · split
            · next hidx => exact ⟨_, by rw [VirtioNet.processTxQueue, hno.2 hidx]⟩
            · exact ⟨_, rfl⟩
        obtain ⟨e, he⟩ := hresult fuel
        obtain ⟨e', he'⟩ := hresult (fuel + 1)
        simp only [VirtioDevice.processQueue, he, he']
        exact ⟨by rintro ⟨⟩, _, rfl⟩
    | fs dev => exact ⟨by rintro ⟨⟩, _, rfl⟩
  · obtain ⟨hpoll, hq⟩ := Classical.not_imp.mp h
    obtain ⟨queue, hq⟩ := Option.ne_none_iff_exists'.mp hq
    rw [processQueue_notReady hdev.idle hpoll hq, processQueue_notReady hdev.idle hpoll hq]
    simp only [if_neg (Nat.succ_ne_zero fuel)]
    refine ⟨?_, _, rfl⟩
    split <;> rintro ⟨⟩

/-- **One turn of the loop over the devices** reads and writes registers, and nothing else. -/
theorem visitDevice_inert {v : Visit Q F S W} (hdev : v.dev.device.Inert rd) (fuel : ℕ)
    (exit : VcpuExit) :
    (visitDevice env fuel exit v).1 =
      { dev := v.dev.after exit, stdout := v.stdout, data := v.dev.answer env exit v.data } := by
  obtain ⟨dev, stdout, data⟩ := v
  cases exit with
  | mmioRead addr data =>
      by_cases hin : dev.window.Contains addr
      · simp only [visitDevice, if_pos hin, VirtioMmioDevice.answer, VirtioMmioDevice.after]
      · simp only [visitDevice, if_neg hin, VirtioMmioDevice.answer, VirtioMmioDevice.after]
  | mmioWrite addr data =>
      by_cases hin : dev.window.Contains addr
      · simp only [visitDevice, if_pos hin, VirtioMmioDevice.answer, VirtioMmioDevice.after,
          VirtioMmioDevice.writeRegister]
        generalize addr - dev.baseAddr = offset
        by_cases hconfig : 0x100 ≤ offset
        · simp only [TransportState.mmioWrite, if_pos hconfig]
        · simp only [TransportState.mmioWrite, if_neg hconfig]
          split
          · rfl
          · rfl
          · have hsame := VirtioDevice.processQueue_idle hdev.idle fuel stdout
              (UInt32.ofNat (leNat (data.take 4)))
            simp only [hsame]
            rfl
          · next hack hselect hnotify =>
              split
              · exact absurd rfl hack
              · exact absurd rfl hselect
              · rfl
      · simp only [visitDevice, if_neg hin, VirtioMmioDevice.answer, VirtioMmioDevice.after]
  | _ => rfl

/-- The result of a turn: it returns, and does not panic. -/
theorem visitDevice_result {v : Visit Q F S W} (hdev : v.dev.device.Inert rd) (fuel : ℕ)
    (exit : VcpuExit) :
    (visitDevice env fuel exit v).2 ≠ some .panic ∧
      ∃ r, (visitDevice env (fuel + 1) exit v).2 = some r := by
  cases exit with
  | mmioRead addr data =>
      rw [visitDevice, visitDevice]
      split <;> exact ⟨by rintro ⟨⟩, _, rfl⟩
  | mmioWrite addr data =>
      by_cases hin : v.dev.window.Contains addr
      · simp only [visitDevice, if_pos hin, TransportState.mmioWrite]
        by_cases hconfig : 0x100 ≤ addr - v.dev.baseAddr
        · simp only [if_pos hconfig]
          exact ⟨by rintro ⟨⟩, _, rfl⟩
        · simp only [if_neg hconfig]
          split
          · exact ⟨by rintro ⟨⟩, _, rfl⟩
          · exact ⟨by rintro ⟨⟩, _, rfl⟩
          · obtain ⟨hpanic, r, hr⟩ := hdev.processQueue fuel v.stdout
              (UInt32.ofNat (leNat (data.take 4)))
            refine ⟨?_, r.ignoreErr.ignoreErr, ?_⟩
            · intro h
              obtain ⟨r', hr', hignore'⟩ := Option.map_eq_some_iff.mp h
              obtain ⟨r'', hr'', hignore⟩ := Option.map_eq_some_iff.mp hr'
              rw [hr''] at hpanic
              cases r'' with
              | ok a =>
                  rw [← hignore] at hignore'
                  cases hignore'
              | err e =>
                  rw [← hignore] at hignore'
                  cases hignore'
              | panic => exact hpanic rfl
            · simp only [hr]
              rfl
          · exact ⟨by rintro ⟨⟩, _, rfl⟩
      · simp only [visitDevice, if_neg hin]
        exact ⟨by rintro ⟨⟩, _, rfl⟩
  | _ => exact ⟨by rintro ⟨⟩, _, rfl⟩

/-- A device is inert whatever guest memory is. -/
theorem VirtioDevice.Inert.withMemory {dev : VirtioDevice Q F S} (hdev : dev.Inert rd)
    (mem : GuestMemory) : (dev.withMemory mem).Inert rd := by
  refine ⟨fun q hq => hdev.idle q (VirtioDevice.queues_withMemory mem dev ▸ hq), ?_⟩
  have hwired := hdev.wired
  cases dev <;> exact hwired

/-- Acknowledging features leaves a device inert. -/
theorem VirtioDevice.Inert.setAckedFeatures {dev : VirtioDevice Q F S} (hdev : dev.Inert rd)
    (features : UInt64) : (dev.setAckedFeatures features).Inert rd := by
  have hidle := hdev.idle
  have hwired := hdev.wired
  cases dev <;> exact ⟨hidle, hwired⟩

/-- So does every write to a register. -/
theorem VirtioMmioDevice.writeRegister_inert {dev : VirtioMmioDevice Q F S}
    (hdev : dev.device.Inert rd) (offset : UInt64) (data : List UInt8) :
    (dev.writeRegister offset data).device.Inert rd := by
  rw [writeRegister]
  split
  · exact hdev
  · dsimp only
    split
    · exact hdev.setAckedFeatures _
    · exact hdev
    · exact hdev

/-- No register makes a queue ready. -/
theorem VirtioMmioDevice.after_inert {dev : VirtioMmioDevice Q F S} (hdev : dev.device.Inert rd)
    (exit : VcpuExit) : (dev.after exit).device.Inert rd := by
  cases exit with
  | mmioWrite addr data =>
      rw [after]
      split
      · exact writeRegister_inert hdev _ _
      · exact hdev
  | _ => exact hdev

/-! ### The threads at the devices -/

/-- The turn of a thread at a device, without the host. -/
theorem visit_eq {s : MachineState n Q F S W} {fuel : ℕ} {exit : VcpuExit} {data : List UInt8}
    {dev : VirtioMmioDevice Q F S} {v : Visit Q F S W}
    {r : Option (Outcome HypervisorError Unit)} (hinert : dev.device.Inert rd)
    (h : visitDevice env fuel exit ⟨dev.withMemory s.memory, s.stdout, data⟩ = (v, r)) :
    v = { dev := (dev.after exit).withMemory s.memory, stdout := s.stdout,
          data := dev.answer env exit data } := by
  have hv := visitDevice_inert (v := ⟨dev.withMemory s.memory, s.stdout, data⟩)
    (hinert.withMemory s.memory) fuel exit
  rw [h, dev.after_withMemory, dev.answer_withMemory] at hv
  exact hv

/-- No turn of a thread at an inert device panics. -/
theorem visit_not_panicked {s : MachineState n Q F S W} {fuel : ℕ} {exit : VcpuExit}
    {data : List UInt8} {dev : VirtioMmioDevice Q F S} {v : Visit Q F S W}
    (hinert : dev.device.Inert rd) :
    visitDevice env fuel exit ⟨dev.withMemory s.memory, s.stdout, data⟩ ≠ (v, some .panic) := by
  intro h
  have hpanic := (visitDevice_result (v := ⟨dev.withMemory s.memory, s.stdout, data⟩)
    (hinert.withMemory s.memory) fuel exit).1
  rw [h] at hpanic
  exact hpanic rfl

/-- What holds of the devices of a machine with none but inert ones. -/
structure DevicesInv (rd : env.queue.Readiness) (s : MachineState n Q F S W) : Prop where
  inert : ∀ dev ∈ s.devices, dev.device.Inert rd
  notPoisoned : s.lock ≠ .poisoned

/-- A step leaves the devices alone, or is the turn of a device. -/
theorem MachineState.Step.devices {s s' : MachineState n Q F S W} {actor : Actor n}
    {ev : MachineEvent} (hs : DevicesInv rd s) (h : MachineState.Step env kvm s actor s' ev) :
    (s'.devices = s.devices ∧ (ev ≠ .guest → s'.memory = s.memory) ∧ ev ≠ .visited) ∨
      ∃ i exit data k dev, actor = .vcpu i ∧ s.inside i = .visit exit data k ∧
        s.devices[k]? = some dev ∧ ev = .visited ∧ s' = { s with
          devices := s.devices.set k ((dev.after exit).withMemory s.memory)
          inside := Function.update s.inside i
            (.visit exit (dev.answer env exit data) (k + 1)) } := by
  cases h with
  | @visit i exit data k dev v r fuel hin hdev h hr =>
      refine .inr ⟨i, exit, data, k, dev, rfl, hin, hdev, rfl, ?_⟩
      obtain rfl := visit_eq (hs.inert dev (List.mem_of_getElem? hdev)) h
      dsimp only [VirtioMmioDevice.withMemory]
      rw [VirtioDevice.memory_withMemory]
  | visitPanicked _ _ hdev h =>
      exact absurd h (visit_not_panicked (hs.inert _ (List.mem_of_getElem? hdev)))
  | guest => exact .inl ⟨rfl, fun h => absurd rfl h, by rintro ⟨⟩⟩
  | _ => exact .inl ⟨rfl, fun _ => rfl, by rintro ⟨⟩⟩

/-- **Devices stay inert**, whatever step the machine takes. -/
theorem DevicesInv.step {s s' : MachineState n Q F S W} {actor : Actor n} {ev : MachineEvent}
    (hs : DevicesInv rd s) (h : MachineState.Step env kvm s actor s' ev) : DevicesInv rd s' := by
  refine ⟨?_, ?_⟩
  · rcases h.devices hs with ⟨hsame, -, -⟩ | ⟨i, exit, data, k, dev, -, -, hdev, -, rfl⟩
    · rw [hsame]
      exact hs.inert
    · intro d hd
      rcases List.mem_or_eq_of_mem_set hd with hd | rfl
      · exact hs.inert d hd
      · have hinert := hs.inert dev (List.mem_of_getElem? hdev)
        exact (VirtioMmioDevice.after_inert hinert exit).withMemory s.memory
  · cases h with
    | visitPanicked _ _ hdev h =>
        exact absurd h (visit_not_panicked (hs.inert _ (List.mem_of_getElem? hdev)))
    | lock | unlock => rintro ⟨⟩
    | _ => exact hs.notPoisoned

/-! ### The register file simulates the threads -/

/-- The exits that are answered under the lock, with their answers. -/
def answered : Actor n × MachineEvent → Option (VcpuExit × List UInt8)
  | (_, .answered exit data) => some (exit, data)
  | _ => none

/-- The devices but for their view of guest memory, which is taken to be this one. -/
def registers (mem : GuestMemory) (devices : List (VirtioMmioDevice Q F S)) :
    List (VirtioMmioDevice Q F S) :=
  devices.map (·.withMemory mem)

/-- How the devices of a running machine are related to a register file: they are the file when
the lock is free. Under the lock, the devices before the one that is next have had their turn. -/
structure Linked (env : DeviceEnv Q C F S W) (mem : GuestMemory) (s : MachineState n Q F S W)
    (file : List (VirtioMmioDevice Q F S)) : Prop where
  free : s.lock = .free → registers mem s.devices = file
  visit : ∀ i exit data k, s.inside i = .visit exit data k → k ≤ file.length ∧
    registers mem s.devices = (file.take k).map (·.after exit) ++ file.drop k ∧
    data = answerAll env exit (file.take k)

/-- A step that is none of the devices keeps the link to the register file. -/
theorem Linked.mono {mem : GuestMemory} {s s' : MachineState n Q F S W}
    {file : List (VirtioMmioDevice Q F S)} (hs : Linked env mem s file)
    (hdevices : s'.devices = s.devices) (hlock : s'.lock = .free → s.lock = .free)
    (hvisit : ∀ i exit data k, s'.inside i = .visit exit data k →
      s.inside i = .visit exit data k) : Linked env mem s' file where
  free h := by
    rw [hdevices]
    exact hs.free (hlock h)
  visit i exit data k h := by
    rw [hdevices]
    exact hs.visit i exit data k (hvisit i exit data k h)

/-- A thread that moves on without going to a device. -/
theorem Linked.update {mem : GuestMemory} {s s' : MachineState n Q F S W}
    {file : List (VirtioMmioDevice Q F S)} (hs : Linked env mem s file) {i : Fin n} {x : Inside}
    (hinside : s'.inside = Function.update s.inside i x) (hx : ¬x.AtDevice)
    (hdevices : s'.devices = s.devices) (hlock : s'.lock = .free → s.lock = .free) :
    Linked env mem s' file := by
  refine hs.mono hdevices hlock fun j exit data k h => ?_
  rw [hinside] at h
  by_cases hj : j = i
  · subst hj
    rw [Function.update_self] at h
    rw [h] at hx
    exact absurd trivial hx
  · rwa [Function.update_of_ne hj] at h

/-- Only one thread is at a device. -/
theorem LockInv.eq_of_visit {s : MachineState n Q F S W} (hs : LockInv s) {i j : Fin n}
    (hi : (s.inside i).AtDevice) (hj : (s.inside j).AtDevice) : i = j :=
  LockState.held.inj (((hs.held i).mp hi).symm.trans ((hs.held j).mp hj))

/-- The next device answers after those before it. -/
theorem answerAll_take_succ {exit : VcpuExit} {file : List (VirtioMmioDevice Q F S)} {k : ℕ}
    {dev : VirtioMmioDevice Q F S} (h : file[k]? = some dev) :
    answerAll env exit (file.take (k + 1)) =
      dev.answer env exit (answerAll env exit (file.take k)) := by
  rw [List.take_add_one, h, Option.toList_some, answerAll, List.foldl_append]
  rfl

/-- The turn of one more device. -/
theorem map_after_take_succ {exit : VcpuExit} {file : List (VirtioMmioDevice Q F S)} {k : ℕ}
    {dev : VirtioMmioDevice Q F S} (h : file[k]? = some dev) :
    ((file.take k).map (·.after exit) ++ file.drop k).set k (dev.after exit) =
      (file.take (k + 1)).map (·.after exit) ++ file.drop (k + 1) := by
  obtain ⟨hk, rfl⟩ := List.getElem?_eq_some_iff.mp h
  have hlen : ((file.take k).map (·.after exit)).length = k := by
    rw [List.length_map, List.length_take, Nat.min_eq_left (Nat.le_of_lt hk)]
  rw [List.set_append_right _ _ (Nat.le_of_eq hlen), hlen, Nat.sub_self,
    List.drop_eq_getElem_cons hk, List.set_cons_zero, List.take_add_one, h, Option.toList_some,
    List.map_append, List.append_assoc]
  rfl

/-- **A step of the threads is a step of the register file, or none there.** -/
theorem MachineState.Step.linked {mem : GuestMemory} {s s' : MachineState n Q F S W}
    {actor : Actor n} {ev : MachineEvent} {file : List (VirtioMmioDevice Q F S)}
    (hs : Linked env mem s file) (hdev : DevicesInv rd s) (hlock : LockInv s)
    (h : MachineState.Step env kvm s actor s' ev) :
    Matches (RegisterFile.Step env) answered (Linked env mem) file (actor, ev) s' := by
  cases h with
  | main | scopePanic | guest =>
      exact .inl ⟨rfl, hs.mono rfl id fun _ _ _ _ => id⟩
  | loop => exact .inl ⟨rfl, hs.mono rfl id fun _ _ _ _ => id⟩
  | wrote | writeFailed | flushed | flushFailed | lockPoisoned =>
      exact .inl ⟨rfl, hs.update rfl id rfl id⟩
  | @lock i exit hin hpc hmmio hfree =>
      refine .inl ⟨rfl, ⟨by rintro ⟨⟩, fun j exit' data k hj => ?_⟩⟩
      dsimp only at hj
      by_cases hji : j = i
      · subst hji
        rw [Function.update_self] at hj
        obtain ⟨rfl, rfl, rfl⟩ := Inside.visit.inj hj
        exact ⟨Nat.zero_le _, hs.free hfree, rfl⟩
      · rw [Function.update_of_ne hji] at hj
        have hheld := (hlock.held j).mp (by rw [hj]; trivial)
        rw [hfree] at hheld
        cases hheld
  | @visit i exit data k dev v r fuel hin hk h hr =>
      obtain rfl := visit_eq (hdev.inert dev (List.mem_of_getElem? hk)) h
      obtain ⟨hle, hdevices, rfl⟩ := hs.visit i exit data k hin
      -- the device that is next is still as in the file
      have hfile : file[k]? = some (dev.withMemory mem) := by
        have hget : (registers mem s.devices)[k]? = some (dev.withMemory mem) := by
          rw [registers, List.getElem?_map, hk]
          rfl
        have hlen : ((file.take k).map (·.after exit)).length = k := by
          rw [List.length_map, List.length_take, Nat.min_eq_left hle]
        rwa [hdevices, List.getElem?_append_right (Nat.le_of_eq hlen), hlen, Nat.sub_self,
          List.getElem?_drop, Nat.add_zero] at hget
      refine .inl ⟨rfl, ⟨fun hfree => ?_, fun j exit' data' k' hj => ?_⟩⟩
      · have hheld := (hlock.held i).mp (by rw [hin]; trivial)
        rw [show s.lock = .free from hfree] at hheld
        cases hheld
      · dsimp only at hj ⊢
        have hji : j = i := by
          by_contra hne
          rw [Function.update_of_ne hne] at hj
          exact hne (hlock.eq_of_visit (by rw [hj]; trivial) (by rw [hin]; trivial))
        subst hji
        rw [Function.update_self] at hj
        obtain ⟨rfl, rfl, rfl⟩ := Inside.visit.inj hj
        refine ⟨(List.getElem?_eq_some_iff.mp hfile).1, ?_, ?_⟩
        · rw [← map_after_take_succ hfile, ← hdevices, registers, List.map_set,
            VirtioMmioDevice.withMemory_withMemory, VirtioMmioDevice.after_withMemory]
          rfl
        · rw [answerAll_take_succ hfile, VirtioMmioDevice.answer_withMemory]
  | visitPanicked _ _ hk h =>
      exact absurd h (visit_not_panicked (hdev.inert _ (List.mem_of_getElem? hk)))
  | @unlock i exit data k hin hend =>
      obtain ⟨hle, hdevices, rfl⟩ := hs.visit i exit data k hin
      -- all devices have had their turn
      have hk : file.length ≤ k := by
        have hlen := congrArg List.length hdevices
        rw [registers, List.length_map, List.length_append, List.length_map, List.length_take,
          List.length_drop, Nat.min_eq_left hle] at hlen
        have := List.getElem?_eq_none_iff.mp hend
        omega
      rw [List.take_of_length_le hk, List.drop_eq_nil_of_le hk, List.append_nil] at hdevices
      refine .inr ⟨exit, _, _, rfl, ⟨rfl, by rw [List.take_of_length_le hk]⟩,
        ⟨fun _ => hdevices, fun j exit' data' k' hj => ?_⟩⟩
      dsimp only at hj
      have hji : j ≠ i := by
        rintro rfl
        rw [Function.update_self] at hj
        cases hj
      rw [Function.update_of_ne hji] at hj
      exact absurd (hlock.eq_of_visit (by rw [hj]; trivial) (by rw [hin]; trivial)) hji

/-! ### Attached devices -/

/-- The queues a console is attached with are all it needs. -/
theorem VirtualMachine.attach_inert (rd : env.queue.Readiness) {vm : VirtualMachine V Q F S}
    {host : AttachHost F S} {call : AttachCall} {dev : VirtioMmioDevice Q F S}
    (h : vm.attach env.queue host call = (vm.push dev, .ok ())) : dev.device.Inert rd := by
  refine ⟨VirtualMachine.attach_idle rd h, ?_⟩
  obtain ⟨device, baseAddr, size, queueSel⟩ := dev
  cases call with
  | console =>
      rw [attach, addVirtioConsole] at h
      obtain ⟨c, hc, hdev⟩ := bind_ok_iff.mp (attachAt_push h)
      obtain rfl := Except.ok.inj hdev
      rw [← Except.ok.inj hc]
      exact Nat.le_of_eq (List.length_replicate).symm
  | block diskPath readOnly =>
      rw [attach, addVirtioBlock] at h
      obtain ⟨b, -, hdev⟩ := bind_ok_iff.mp (attachAt_push h)
      obtain rfl := Except.ok.inj hdev
      trivial
  | net localAddr peerAddr =>
      rw [attach, addVirtioNet] at h
      obtain ⟨_, -, hrest⟩ := bind_ok_iff.mp (attachAt_push h)
      obtain ⟨_, -, hrest⟩ := bind_ok_iff.mp hrest
      obtain ⟨n, -, hdev⟩ := bind_ok_iff.mp hrest
      obtain rfl := Except.ok.inj hdev
      trivial
  | fs tag sharedDir readonly =>
      rw [attach, addVirtioFs] at h
      obtain ⟨_, -, hrest⟩ := bind_ok_iff.mp (attachAt_push h)
      obtain ⟨f, -, hdev⟩ := bind_ok_iff.mp hrest
      obtain rfl := Except.ok.inj hdev
      trivial

/-- Every device that a sequence of calls has attached. -/
theorem VirtualMachine.attachSeq_inert (rd : env.queue.Readiness) {vm vm' : VirtualMachine V Q F S}
    {calls : List (AttachHost F S × AttachCall)} {rs : List (Except HypervisorError Unit)}
    (h : vm.attachSeq env.queue calls = (vm', rs)) (hvm : ∀ dev ∈ vm.devices, dev.device.Inert rd) :
    ∀ dev ∈ vm'.devices, dev.device.Inert rd := by
  induction calls generalizing vm vm' rs with
  | nil =>
      obtain ⟨rfl, -⟩ := Prod.mk.inj h
      exact hvm
  | cons step calls ih =>
      obtain ⟨host, call⟩ := step
      simp only [attachSeq] at h
      rcases vm.attach_cases env.queue host call with ⟨device, hcall⟩ | ⟨e, hcall⟩
      · rw [hcall] at h
        refine ih (Prod.ext_iff.mpr ⟨(Prod.mk.inj h).1, rfl⟩) fun dev hdev => ?_
        rcases List.mem_append.mp hdev with hdev | hdev
        · exact hvm dev hdev
        · obtain rfl := List.mem_singleton.mp hdev
          exact attach_inert rd hcall
      · rw [hcall] at h
        exact ih (Prod.ext_iff.mpr ⟨(Prod.mk.inj h).1, rfl⟩) hvm

/-- The devices of a machine that was made and then given devices. -/
theorem VirtualMachine.inert_of_new (rd : env.queue.Readiness) {vmm : VmMemory}
    {kvmHost : KvmHost V} {numCpus : UInt32} {vm vm' : VirtualMachine V Q F S}
    {hosts : List (AttachHost F S × AttachCall)} {rs : List (Except HypervisorError Unit)}
    (hnew : VirtualMachine.new vmm kvmHost numCpus = .ok vm)
    (hattach : vm.attachSeq env.queue hosts = (vm', rs)) :
    ∀ dev ∈ vm'.devices, dev.device.Inert rd := by
  refine attachSeq_inert rd hattach fun dev hdev => ?_
  rw [(new_spec hnew).2.2.1] at hdev
  exact absurd hdev List.not_mem_nil

end MoVm
