import MoVm.Transport

/-!
# What a Driver Reads

Two registers of the transport give a driver a view of the device, and this module says what
is seen over a whole sequence of accesses, whatever else the driver does in between.

The configuration space is a window on the bytes of the device's configuration struct, which
are those of the virtio layout: `VirtioDevice.configFields` lists its fields by width and
value. The registers of a queue are those of the queue selected last.

## Main results

* `config_window`: every configuration read of a trace is answered from one string of bytes, so
  that reads of any width, in any order, put together what one read of the whole would give.
* `queueNumMax_trace`: `QueueNumMax` is the size of the queue that the last write to `QueueSel`
  has named, or zero.
-/

open Lib

namespace MoVm

variable {Q C F S W : Type} (env : DeviceEnv Q C F S W)

/-! ### The layout of the configuration spaces -/

/-- The fields of the configuration space in the virtio layout, by width and value. -/
def VirtioDevice.configFields : VirtioDevice Q F S → List (ℕ × ℕ)
  | .console dev =>
      [(2, dev.configSpace.cols.toNat), (2, dev.configSpace.rows.toNat),
        (4, dev.configSpace.maxNrPorts.toNat), (4, dev.configSpace.emergWr.toNat)]
  | .block dev =>
      -- The capacity is in sectors of 512 bytes.
      [(8, dev.diskSize.toNat / 512), (4, 131072), (4, 32),
        -- The geometry, the block size and the topology.
        (2, 0), (1, 16), (1, 63), (4, 512), (1, 0), (1, 0), (2, 512), (4, 0),
        -- The write-back mode, and the limits of discarding and of writing zeroes.
        (1, 0), (3, 0), (4, 0), (4, 0), (4, 0), (4, 0), (4, 0), (1, 0), (3, 0)]
  | .net dev => (dev.localMac.toList.map fun b => (1, b.toNat)) ++ [(2, 1), (2, 1), (2, 1500)]
  | .fs _ => []

/-- The bytes of the configuration space. -/
def VirtioDevice.configBytes (dev : VirtioDevice Q F S) : List UInt8 :=
  dev.configFields.flatMap fun field => leBytes field.1 field.2

/-- The device has a configuration struct. Every block device has blocks of 512 bytes
(`VirtioBlock.new_spec`). -/
def VirtioDevice.HasConfig : VirtioDevice Q F S → Prop
  | .console _ => True
  | .block dev => dev.blockSize = 512
  | .net _ => True
  | .fs _ => False

/-- A byte is a field of one byte. -/
theorem flatMap_leBytes_one (bs : List UInt8) :
    (bs.map fun b => (1, b.toNat)).flatMap (fun field => leBytes field.1 field.2) = bs := by
  induction bs with
  | nil => rfl
  | cons b bs ih =>
      have hb : leBytes 1 b.toNat = [b] := by
        simp only [leBytes, Nat.mod_eq_of_lt b.toNat_lt, UInt8.ofNat_toNat]
      rw [List.map_cons, List.flatMap_cons, ih, hb, List.singleton_append]

/-- The struct of the console has the fields of the specification. -/
theorem ConsoleConfig.toBytes_eq (dev : VirtioConsole Q) :
    dev.configSpace.toBytes = (VirtioDevice.console (F := F) (S := S) dev).configBytes := by
  simp only [ConsoleConfig.toBytes, VirtioDevice.configBytes, VirtioDevice.configFields,
    List.flatMap_cons, List.flatMap_nil, List.append_nil, List.append_assoc]

/-- The struct of the network device has the fields of the specification. -/
theorem NetConfig.toBytes_eq (dev : VirtioNet Q S) :
    dev.netConfig.toBytes = (VirtioDevice.net (F := F) dev).configBytes := by
  simp only [NetConfig.toBytes, VirtioDevice.configBytes, VirtioDevice.configFields,
    List.flatMap_append, flatMap_leBytes_one, List.append_assoc, VirtioNet.netConfig]
  rfl

/-- The struct of the block device has the fields of the specification, with the capacity in
sectors. -/
theorem BlockConfig.toBytes_eq {dev : VirtioBlock Q F} (h : dev.blockSize = 512) :
    dev.blockConfig.toBytes = (VirtioDevice.block (S := S) dev).configBytes := by
  have hcap : (dev.diskSize / (512 : UInt32).toUInt64).toNat = dev.diskSize.toNat / 512 :=
    UInt64.toNat_div _ _
  simp only [BlockConfig.toBytes, VirtioDevice.configBytes, VirtioDevice.configFields,
    VirtioBlock.blockConfig, h, hcap, List.flatMap_cons, List.append_assoc]
  -- behind the capacity, both sides are constants
  refine congrArg (leBytes 8 _ ++ ·) ?_
  rfl

/-- A configuration read answers from the bytes of the configuration space. -/
theorem VirtioDevice.readConfig_eq {dev : VirtioDevice Q F S} (h : dev.HasConfig) :
    dev.readConfig = readConfigSpace dev.configBytes := by
  cases dev with
  | console dev => rw [readConfig, VirtioConsole.readConfig, ConsoleConfig.toBytes_eq]
  | block dev => rw [readConfig, VirtioBlock.readConfig, BlockConfig.toBytes_eq h]
  | net dev => rw [readConfig, VirtioNet.readConfig, NetConfig.toBytes_eq]
  | fs dev => exact h.elim

/-! ### Nothing changes the configuration space -/

/-- The configuration space of the device, and whether it has one, are those of another
device. -/
def VirtioDevice.SameConfig (dev dev' : VirtioDevice Q F S) : Prop :=
  dev'.configBytes = dev.configBytes ∧ (dev.HasConfig → dev'.HasConfig)

/-- A device that stays as it is. -/
theorem VirtioDevice.SameConfig.refl (dev : VirtioDevice Q F S) : dev.SameConfig dev :=
  ⟨rfl, id⟩

/-- One change after the other. -/
theorem VirtioDevice.SameConfig.trans {dev₁ dev₂ dev₃ : VirtioDevice Q F S}
    (h₁ : dev₁.SameConfig dev₂) (h₂ : dev₂.SameConfig dev₃) : dev₁.SameConfig dev₃ :=
  ⟨h₂.1.trans h₁.1, fun h => h₂.2 (h₁.2 h)⟩

/-- What the guest does to its memory. -/
theorem VirtioDevice.sameConfig_withMemory (mem : GuestMemory) (dev : VirtioDevice Q F S) :
    dev.SameConfig (dev.withMemory mem) := by
  cases dev <;> exact ⟨rfl, id⟩

variable {env}

/-- Serving a queue of the console leaves its struct alone. -/
theorem VirtioConsole.configSpace_processQueue (vm : VmMemory) (vq : VirtioQueue Q C)
    (out : HostWriter W) (fuel : ℕ) (dev : VirtioConsole Q) (output : W) (queueIdx : UInt32) :
    (processQueue vm vq out fuel dev output queueIdx).1.1.configSpace = dev.configSpace := by
  rw [processQueue]
  split
  · rfl
  · split
    · rw [processTxQueue]
      split
      · rfl
      · dsimp only
        split
        · split <;> rfl
        · rfl
    · rfl

/-- Serving a queue of the network device leaves its address alone. -/
theorem VirtioNet.localMac_processQueue (vm : VmMemory) (vq : VirtioQueue Q C)
    (sock : HostSocket S) (fuel : ℕ) (dev : VirtioNet Q S) (queueIdx : UInt32) :
    (processQueue vm vq sock fuel dev queueIdx).1.localMac = dev.localMac := by
  rw [processQueue]
  split
  · rw [processRxQueue]
    split <;> rfl
  · split
    · rw [processTxQueue]
      split <;> rfl
    · rfl

/-- A notification leaves the configuration space alone. -/
theorem VirtioDevice.sameConfig_processQueue (fuel : ℕ) (dev : VirtioDevice Q F S) (output : W)
    (queueIdx : UInt32) :
    dev.SameConfig (dev.processQueue env fuel output queueIdx).1.1 := by
  cases dev with
  | console dev =>
      have h := VirtioConsole.configSpace_processQueue env.memory env.queue env.output fuel dev
        output queueIdx
      refine ⟨?_, fun _ => trivial⟩
      simp only [configBytes, configFields, processQueue, h]
  | block dev =>
      obtain ⟨-, hbs, hds⟩ :=
        VirtioBlock.processQueue_setup env.memory env.disk env.queue fuel dev queueIdx
      refine ⟨?_, fun h => hbs.trans h⟩
      simp only [configBytes, configFields, processQueue, hds]
  | net dev =>
      have h := VirtioNet.localMac_processQueue env.memory env.queue env.socket fuel dev queueIdx
      refine ⟨?_, fun _ => trivial⟩
      simp only [configBytes, configFields, processQueue, h]
  | fs dev => exact .refl _

/-- No write to a register changes the configuration space. -/
theorem TransportState.sameConfig_mmioWrite (fuel : ℕ) (s : TransportState Q F S W)
    (offset : UInt64) (data : List UInt8) :
    s.dev.device.SameConfig (s.mmioWrite env fuel offset data).1.dev.device := by
  rw [mmioWrite]
  split
  · exact .refl _
  · dsimp only
    split
    · obtain ⟨⟨device, _, _, _⟩, _⟩ := s
      cases device <;> exact ⟨rfl, id⟩
    · exact .refl _
    · exact VirtioDevice.sameConfig_processQueue fuel _ s.output _
    · exact .refl _

/-- No access changes the configuration space. -/
theorem TransportState.sameConfig_step {s s' : TransportState Q F S W} {a : Access}
    {ans : Answer} (hstep : s.Step env a s' ans) : s.dev.device.SameConfig s'.dev.device := by
  obtain ⟨fuel, mem, h⟩ := hstep
  have hmem := VirtioDevice.sameConfig_withMemory mem s.dev.device
  cases a with
  | read offset data =>
      rw [← (Prod.mk.inj h).1]
      exact hmem
  | write offset data =>
      rw [← (Prod.mk.inj h).1]
      exact hmem.trans (sameConfig_mmioWrite fuel (s.withMemory mem) offset data)

/-! ### The configuration window -/

/-- The longest struct is that of the block device. -/
theorem VirtioDevice.length_configBytes {dev : VirtioDevice Q F S} (h : dev.HasConfig) :
    dev.configBytes.length ≤ 60 := by
  cases dev with
  | console dev => rw [← ConsoleConfig.toBytes_eq, ConsoleConfig.length_toBytes]; omega
  | block dev =>
      exact Nat.le_of_eq (by rw [← BlockConfig.toBytes_eq h, BlockConfig.length_toBytes])
  | net dev => rw [← NetConfig.toBytes_eq, NetConfig.length_toBytes]; omega
  | fs dev => exact h.elim

/-- The transport takes `0x100` from the offset of a configuration read. -/
theorem VirtioMmioDevice.mmioRead_config {dev : VirtioMmioDevice Q F S}
    (h : dev.device.HasConfig) {o : ℕ} (ho : 0x100 + o < 2 ^ 64) (data : List UInt8) :
    dev.mmioRead env (UInt64.ofNat (0x100 + o)) data =
      readConfigSpace dev.device.configBytes (UInt64.ofNat o) data := by
  have hnat : (UInt64.ofNat (0x100 + o)).toNat = 0x100 + o := by
    rw [UInt64.toNat_ofNat', Nat.mod_eq_of_lt ho]
  have hle : (0x100 : UInt64) ≤ UInt64.ofNat (0x100 + o) := by
    rw [UInt64.le_iff_toNat_le, hnat]
    exact Nat.le_add_right _ _
  have hsub : UInt64.ofNat (0x100 + o) - 0x100 = UInt64.ofNat o := by
    rw [← UInt64.toNat_inj, UInt64.toNat_sub_of_le _ _ hle, hnat, UInt64.toNat_ofNat',
      Nat.mod_eq_of_lt (by omega)]
    exact Nat.add_sub_cancel_left _ _
  rw [mmioRead, if_pos hle, hsub, VirtioDevice.readConfig_eq h]

/-- Some read of the trace at this offset of the configuration space has left these bytes in
its buffer. -/
def ConfigRead (calls : List (TransportState Q F S W × Access × Answer)) (o : ℕ)
    (bytes : List UInt8) : Prop :=
  ∃ x ∈ calls, ∃ data, x.2.1 = .read (UInt64.ofNat (0x100 + o)) data ∧ x.2.2.data = bytes

/-- A configuration read of a trace is answered from the configuration space the device had at
its start. -/
theorem config_answer {dev : VirtioMmioDevice Q F S} (hconfig : dev.device.HasConfig)
    {output : W} {calls : List (TransportState Q F S W × Access × Answer)}
    {s : TransportState Q F S W}
    (htrace : Trace (TransportState.Step env) { dev, output } calls s)
    {x : TransportState Q F S W × Access × Answer} (hx : x ∈ calls) {o : ℕ}
    (ho : 0x100 + o < 2 ^ 64) {data : List UInt8}
    (hread : x.2.1 = .read (UInt64.ofNat (0x100 + o)) data) :
    x.2.2.data = (readConfigSpace dev.device.configBytes (UInt64.ofNat o) data).1 ∧
      x.2.2.result =
        .ofExcept (readConfigSpace dev.device.configBytes (UInt64.ofNat o) data).2 := by
  have hsame := (htrace.inv (I := fun t => dev.device.SameConfig t.dev.device)
    (fun _ _ _ _ h hstep => h.trans (TransportState.sameConfig_step hstep)) (.refl _)).2 x hx
  obtain ⟨s', fuel, mem, hstep⟩ := htrace.step_of_mem hx
  obtain ⟨hbytes, hhas⟩ :=
    hsame.trans (VirtioDevice.sameConfig_withMemory mem x.1.dev.device)
  have hval : (x.1.withMemory mem).dev.mmioRead env (UInt64.ofNat (0x100 + o)) data =
      readConfigSpace dev.device.configBytes (UInt64.ofNat o) data := by
    rw [VirtioMmioDevice.mmioRead_config (hhas hconfig) ho, ← hbytes]
    rfl
  simp only [hread, TransportState.access, hval] at hstep
  rw [← Option.some.inj (Prod.mk.inj hstep).2]
  exact ⟨rfl, rfl⟩

/-- A read inside the configuration space is answered with the bytes there. -/
theorem ConfigRead.eq_slice {dev : VirtioMmioDevice Q F S} (hconfig : dev.device.HasConfig)
    {output : W} {calls : List (TransportState Q F S W × Access × Answer)}
    {s : TransportState Q F S W}
    (htrace : Trace (TransportState.Step env) { dev, output } calls s) {o : ℕ}
    {bytes : List UInt8} (hread : ConfigRead calls o bytes)
    (hlen : o + bytes.length ≤ dev.device.configBytes.length) :
    bytes = slice (dev.device.configBytes.getD · 0) o bytes.length := by
  obtain ⟨x, hx, data, ha, rfl⟩ := hread
  have hmax := VirtioDevice.length_configBytes hconfig
  have ho : (UInt64.ofNat o).toNat = o := by
    rw [UInt64.toNat_ofNat', Nat.mod_eq_of_lt (by omega)]
  obtain ⟨hdata, -⟩ := config_answer hconfig htrace hx (by omega) ha
  rw [readConfigSpace_data, ho] at hdata
  have hdl : x.2.2.data.length = data.length := by rw [hdata, length_overlay]
  rw [← load_eq_slice hlen, load, hdl, hdata, overlay_of_le]
  rw [List.length_drop]
  omega

/-- **The configuration space is a window** on one string of bytes, the virtio layout of the
device. In every sequence of accesses, a read inside it gets the bytes from its offset on, as
many as there are and the buffer takes, and a read outside fails and leaves the buffer alone;
and however an interval is split into reads, in whatever order, together they give what a read
of the whole interval gives. -/
theorem config_window {dev : VirtioMmioDevice Q F S} (hconfig : dev.device.HasConfig)
    {output : W} {calls : List (TransportState Q F S W × Access × Answer)}
    {s : TransportState Q F S W}
    (htrace : Trace (TransportState.Step env) { dev, output } calls s) :
    (∀ disk, dev.device = .block disk →
      leNat (dev.device.configBytes.take 8) = disk.diskSize.toNat / 512) ∧
    (∀ x ∈ calls, ∀ o data, 0x100 + o < 2 ^ 64 →
      x.2.1 = .read (UInt64.ofNat (0x100 + o)) data →
      if o < dev.device.configBytes.length then
        x.2.2.data = overlay (dev.device.configBytes.drop o) data ∧ x.2.2.result = .ok ()
      else
        x.2.2.data = data ∧
          x.2.2.result = .err (.memoryError "Invalid config space offset")) ∧
    ∀ o bytes pieces, ConfigRead calls o bytes →
      o + bytes.length ≤ dev.device.configBytes.length →
      (∀ p ∈ pieces, ConfigRead calls p.1 p.2 ∧
        p.1 + p.2.length ≤ dev.device.configBytes.length) →
      (∀ i < bytes.length, ∃ p ∈ pieces, p.1 ≤ o + i ∧ o + i < p.1 + p.2.length) →
      ∀ f, slice (patches f pieces) o bytes.length = bytes := by
  refine ⟨?_, ?_, ?_⟩
  · intro disk hdisk
    have hlt := disk.diskSize.toNat_lt
    rw [hdisk, VirtioDevice.configBytes, VirtioDevice.configFields, List.flatMap_cons,
      List.take_left' (length_leBytes _ _), leNat_leBytes_of_lt (by omega)]
  · intro x hx o data ho hread
    have hnat : (UInt64.ofNat o).toNat = o := by
      rw [UInt64.toNat_ofNat', Nat.mod_eq_of_lt (by omega)]
    obtain ⟨hdata, hresult⟩ := config_answer hconfig htrace hx ho hread
    rw [hdata, hresult, readConfigSpace, hnat]
    split
    · next hin =>
        rw [if_neg (by omega)]
        exact ⟨rfl, rfl⟩
    · next hout =>
        rw [if_pos (by omega)]
        exact ⟨rfl, rfl⟩
  · intro o bytes pieces hread hlen hpieces hcover f
    rw [hread.eq_slice hconfig htrace hlen, length_slice]
    refine slice_congr fun i hi => patches_slices (g := (dev.device.configBytes.getD · 0))
      (fun p hp => ?_) (.inr (hcover i hi))
    obtain ⟨hp, hplen⟩ := hpieces p hp
    exact hp.eq_slice hconfig htrace hplen

/-- A disk of one megabyte behind the transport. -/
def megabyteDisk : VirtioMmioDevice GatedQueue DiskFile Unit :=
  .new (.block
    { config := VirtioDeviceConfig.new GatedQueue.queue (.error "") (GuestMemory.page []) 0 5 1
      disk := { content := [], pos := 0 }
      diskSize := 0x100000
      blockSize := 512
      readOnly := false }) 0xd0001000

/-- The capacity of a disk, read in two halves, the upper half first, and at once. -/
theorem config_window_capacity :
    ∃ (calls : List (_ × Access × Answer)) (s : TransportState GatedQueue DiskFile Unit _),
      Trace (TransportState.Step DeviceEnv.plain) { dev := megabyteDisk, output := [] } calls s ∧
      calls.map (·.2.1) = [.read 0x104 [1, 1, 1, 1], .read 0x100 [1, 1, 1, 1],
        .read 0x100 [1, 1, 1, 1, 1, 1, 1, 1]] ∧
      slice (patches (fun _ => (9 : UInt8)) [(4, [0, 0, 0, 0]), (0, [0, 8, 0, 0])]) 0 8 =
        [0, 8, 0, 0, 0, 0, 0, 0] := by
  have hstep : ∀ a ans,
      TransportState.access DeviceEnv.plain 0 { dev := megabyteDisk, output := [] } a =
        ({ dev := megabyteDisk, output := [] }, some ans) →
      TransportState.Step DeviceEnv.plain { dev := megabyteDisk, output := [] } a
        { dev := megabyteDisk, output := [] } ans :=
    fun _ _ h => ⟨0, GuestMemory.page [], h⟩
  have htrace := Trace.cons (hstep (.read 0x104 [1, 1, 1, 1]) ⟨[0, 0, 0, 0], .ok ()⟩ rfl)
    (.cons (hstep (.read 0x100 [1, 1, 1, 1]) ⟨[0, 8, 0, 0], .ok ()⟩ rfl)
      (.cons (hstep (.read 0x100 [1, 1, 1, 1, 1, 1, 1, 1])
        ⟨[0, 8, 0, 0, 0, 0, 0, 0], .ok ()⟩ rfl) (.nil _)))
  refine ⟨_, _, htrace, rfl, ?_⟩
  have hconfig : megabyteDisk.device.HasConfig := rfl
  refine (config_window hconfig htrace).2.2 0 [0, 8, 0, 0, 0, 0, 0, 0]
    [(4, [0, 0, 0, 0]), (0, [0, 8, 0, 0])] ?_ (by decide) ?_ ?_ fun _ => 9
  · exact ⟨_, List.mem_cons_of_mem _ (List.mem_cons_of_mem _ List.mem_cons_self), _, rfl, rfl⟩
  · intro p hp
    simp only [List.mem_cons, List.not_mem_nil, or_false] at hp
    rcases hp with rfl | rfl
    · exact ⟨⟨_, List.mem_cons_self, _, rfl, rfl⟩, by decide⟩
    · exact ⟨⟨_, List.mem_cons_of_mem _ List.mem_cons_self, _, rfl, rfl⟩, by decide⟩
  · decide

/-! ### The selected queue -/

/-- The queue that an access selects, if it writes to `QueueSel`. -/
def Access.selects : Access → Option UInt32
  | .read _ _ => none
  | .write offset data =>
      if offset = 0x30 then some (UInt32.ofNat (leNat (data.take 4))) else none

/-- The queue selected last, or queue 0. -/
def selectedQueue (accesses : List Access) : UInt32 :=
  (accesses.filterMap Access.selects).getLast?.getD 0

/-- One more access selects its queue, or none. -/
theorem selectedQueue_concat (accesses : List Access) (a : Access) :
    selectedQueue (accesses ++ [a]) = a.selects.getD (selectedQueue accesses) := by
  rw [selectedQueue, List.filterMap_append]
  cases h : a.selects with
  | none =>
      rw [List.filterMap_cons_none h, List.filterMap_nil, List.append_nil]
      rfl
  | some q =>
      rw [List.filterMap_cons_some h, List.filterMap_nil, List.getLast?_append]
      rfl

/-- Writes to `QueueSel` select a queue, and nothing else does. -/
theorem TransportState.queueSel_step {s s' : TransportState Q F S W} {a : Access}
    {ans : Answer} (hstep : s.Step env a s' ans) :
    s'.dev.queueSel = a.selects.getD s.dev.queueSel := by
  obtain ⟨fuel, mem, h⟩ := hstep
  have hs' := (Prod.mk.inj h).1
  cases a with
  | read offset data =>
      rw [← hs']
      rfl
  | write offset data =>
      have hwrite : ((s.withMemory mem).mmioWrite env fuel offset data).1.dev.queueSel =
          (Access.write offset data).selects.getD s.dev.queueSel := by
        rw [mmioWrite]
        split
        · next hoff =>
            have hne : offset ≠ 0x30 := by
              rintro rfl
              exact absurd hoff (by decide)
            rw [Access.selects, if_neg hne]
            rfl
        · dsimp only
          split
          · rfl
          · rfl
          · rfl
          · next hne _ =>
              rw [Access.selects, if_neg hne]
              rfl
      exact (congrArg (fun t => t.dev.queueSel) hs').symm.trans hwrite

/-- `QueueNumMax` is the size of the selected queue, or zero if there is none. -/
theorem TransportState.access_queueNumMax (fuel : ℕ) (s : TransportState Q F S W)
    (data : List UInt8) :
    s.access env fuel (.read 0x34 data) =
      (s, some
        { data := overlay (leBytes 4 (((s.dev.device.getQueues env.maxSize)[
            s.dev.queueSel.toNat]?).getD 0).toNat) data
          result := .ok () }) := by
  have hval : (s.dev.readRegister env 0x34).toNat =
      (((s.dev.device.getQueues env.maxSize)[s.dev.queueSel.toNat]?).getD 0).toNat := by
    simp only [VirtioMmioDevice.readRegister]
    cases (s.dev.device.getQueues env.maxSize)[s.dev.queueSel.toNat]? with
    | none => rfl
    | some n => exact UInt16.toNat_toUInt32 n
  have hread : s.dev.mmioRead env 0x34 data = (overlay (leBytes 4
      (((s.dev.device.getQueues env.maxSize)[s.dev.queueSel.toNat]?).getD 0).toNat) data,
      .ok ()) := by
    rw [VirtioMmioDevice.mmioRead, if_neg (by decide), hval]
  simp only [access, hread, Outcome.ofExcept]

/-- The sizes of the queues do not depend on guest memory. -/
@[simp] theorem VirtioDevice.getQueues_withMemory (maxSize : Q → UInt16) (mem : GuestMemory)
    (dev : VirtioDevice Q F S) :
    (dev.withMemory mem).getQueues maxSize = dev.getQueues maxSize := by
  cases dev <;> rfl

/-- **Queue selection**: at every point of every sequence of accesses to a fresh device, the
selected queue is the one that the last write to `QueueSel` has named, or queue 0, and a read
of `QueueNumMax` gives the size of this queue, or zero if the device has no such queue. -/
theorem queueNumMax_trace {device : VirtioDevice Q F S} {baseAddr : UInt64} {output : W}
    {calls : List (TransportState Q F S W × Access × Answer)} {s : TransportState Q F S W}
    (htrace : Trace (TransportState.Step env)
      { dev := VirtioMmioDevice.new device baseAddr, output } calls s) :
    s.dev.queueSel = selectedQueue (calls.map (·.2.1)) ∧
    ∀ before x after, calls = before ++ x :: after →
      x.1.dev.queueSel = selectedQueue (before.map (·.2.1)) ∧
      ∀ data, x.2.1 = .read 0x34 data →
        x.2.2.result = .ok () ∧
        x.2.2.data = overlay (leBytes 4 (((x.1.dev.device.getQueues env.maxSize)[
          (selectedQueue (before.map (·.2.1))).toNat]?).getD 0).toNat) data := by
  obtain ⟨hlast, hcalls⟩ := htrace.history
    (I := fun past t => t.dev.queueSel = selectedQueue (past.map (·.2.1)))
    (fun past t a t' b hsel hstep => by
      rw [TransportState.queueSel_step hstep, List.map_append, List.map_cons, List.map_nil,
        selectedQueue_concat, hsel]) rfl
  refine ⟨hlast, fun before x after hsplit => ?_⟩
  have hsel := hcalls before x after hsplit
  refine ⟨hsel, fun data hread => ?_⟩
  have hx : x ∈ calls := hsplit ▸ List.mem_append_right _ List.mem_cons_self
  obtain ⟨t, fuel, mem, hstep⟩ := htrace.step_of_mem hx
  rw [hread, TransportState.access_queueNumMax] at hstep
  rw [← Option.some.inj (Prod.mk.inj hstep).2]
  refine ⟨rfl, ?_⟩
  have hdev : (x.1.withMemory mem).dev.device.getQueues env.maxSize =
      x.1.dev.device.getQueues env.maxSize := VirtioDevice.getQueues_withMemory _ _ _
  have hq : (x.1.withMemory mem).dev.queueSel = selectedQueue (before.map (·.2.1)) := hsel
  rw [hdev, hq]

/-- A driver that selects a queue the disk does not have, reads its size into three bytes, and
goes back to the first queue with a write of one byte. -/
theorem queueNumMax_select :
    ∃ (calls : List (_ × Access × Answer)) (s : TransportState GatedQueue DiskFile Unit _),
      Trace (TransportState.Step DeviceEnv.plain) { dev := megabyteDisk, output := [] } calls s ∧
      calls.map (fun x => (x.2.1, x.2.2.data)) =
        [(.write 0x30 [1, 2, 3, 255, 7], [1, 2, 3, 255, 7]), (.read 0x34 [9, 9, 9], [0, 0, 0]),
          (.write 0x30 [0], [0]), (.read 0x34 [9, 9, 9, 9, 9], [0, 4, 0, 0, 9])] ∧
      s.dev.queueSel = selectedQueue (calls.map (·.2.1)) := by
  have hwithMemory : ∀ queueSel, TransportState.withMemory (GuestMemory.page [])
      { dev := { megabyteDisk with queueSel }, output := ([] : List UInt8) } =
        { dev := { megabyteDisk with queueSel }, output := [] } := fun _ => rfl
  have hstep : ∀ queueSel queueSel' a ans,
      TransportState.access DeviceEnv.plain 0
          { dev := { megabyteDisk with queueSel }, output := [] } a =
        ({ dev := { megabyteDisk with queueSel := queueSel' }, output := [] }, some ans) →
      TransportState.Step DeviceEnv.plain { dev := { megabyteDisk with queueSel }, output := [] } a
        { dev := { megabyteDisk with queueSel := queueSel' }, output := [] } ans :=
    fun queueSel _ _ _ h => ⟨0, GuestMemory.page [], by rw [hwithMemory queueSel]; exact h⟩
  have htrace := Trace.cons
    (hstep 0 0xff030201 (.write 0x30 [1, 2, 3, 255, 7]) ⟨[1, 2, 3, 255, 7], .ok ()⟩ rfl)
    (.cons (hstep 0xff030201 0xff030201 (.read 0x34 [9, 9, 9]) ⟨[0, 0, 0], .ok ()⟩ rfl)
      (.cons (hstep 0xff030201 0 (.write 0x30 [0]) ⟨[0], .ok ()⟩ rfl)
        (.cons (hstep 0 0 (.read 0x34 [9, 9, 9, 9, 9]) ⟨[0, 4, 0, 0, 9], .ok ()⟩ rfl)
          (.nil _))))
  exact ⟨_, _, htrace, rfl, (queueNumMax_trace htrace).1⟩

end MoVm
