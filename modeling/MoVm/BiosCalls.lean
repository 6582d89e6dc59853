import MoVm.Bootloader
import MoVm.RunLoop
import MoVm.Lib.RealMode

/-!
# BIOS Calls

What the minimal BIOS of `bootloader.rs` does when a boot image calls it. Its two handlers are
machine code in the source, so they are run here as the processor runs them (`Lib.RealMode`):
`INT 0x10` puts the byte in `al` on the serial port, whatever service was asked for in `ah`, and the
interrupts `0x13`, `0x15` and `0x16` come back at once.

## Main results

* `bios_call_returns`: every call returns to its caller with all registers and flags but `dx`, and
  with all of memory but six bytes of the stack.
* `boot_program_output`: a boot image made of such calls, loaded by `load_bootloader`, runs from the
  registers of `init_vcpu_for_real_mode` to its end, and its bytes come out on the host in order.
-/

open Lib RealMode

namespace MoVm

variable {V Q C F S W X : Type} {vmm : VmMemory} {kvm : KvmVcpu V}

/-! ### The BIOS in memory -/

/-- The interrupts that are installed. -/
def biosInterrupts : List UInt8 := [0x10, 0x13, 0x15, 0x16]

/-- The end of what `install_minimal_bios` writes. -/
def biosEnd : ℕ := 0x1011

/-- The four entries of the table and the two handlers are in place. -/
structure BiosInstalled (g : ℕ → UInt8) : Prop where
  int10 : ivtTarget g 0x10 = 0x1000
  teletype : slice g 0x1000 5 = int10Handler
  dummy : ∀ n ∈ dummyInterrupts, ivtTarget g n = 0x1010
  iret : g 0x1010 = 0xCF

theorem BootImage.biosInstalled {f g : ℕ → UInt8} {image : List UInt8} (h : BootImage f g image) :
    BiosInstalled g where
  int10 := h.int10.1
  teletype := by
    have hcode := h.int10.2
    rwa [h.int10.1] at hcode
  dummy n hn := (h.dummy n hn).1
  iret := by
    have hcode := (h.dummy 0x13 (by decide)).2
    rwa [(h.dummy 0x13 (by decide)).1] at hcode

/-- The BIOS is all below its end. -/
theorem BiosInstalled.congr {f g : ℕ → UInt8} (h : BiosInstalled f)
    (hfg : ∀ x < biosEnd, g x = f x) : BiosInstalled g := by
  have hslice : ∀ {a k : ℕ}, a + k ≤ biosEnd → slice g a k = slice f a k := fun hak =>
    slice_congr fun i hi => hfg _ (by omega)
  have htarget : ∀ {n : ℕ}, n ≤ 0xFF → ivtTarget g n = ivtTarget f n := by
    intro n hn
    rw [ivtTarget, ivtTarget, hslice (by rw [biosEnd]; omega), hslice (by rw [biosEnd]; omega)]
  refine ⟨?_, ?_, fun n hn => ?_, ?_⟩
  · rw [htarget (by decide)]
    exact h.int10
  · rw [hslice (by decide)]
    exact h.teletype
  · have hle : ∀ n ∈ dummyInterrupts, n ≤ 0xFF := by decide
    rw [htarget (hle n hn)]
    exact h.dummy n hn
  · rw [hfg _ (by decide)]
    exact h.iret

/-! ### A call -/

/-- A processor that uses this BIOS: the vector table is where `install_minimal_bios` puts it, and
the stack has room for the frame of an interrupt, above the BIOS. -/
structure UsesBios (c : Cpu) : Prop where
  installed : BiosInstalled c.mem
  base : c.tableBase = 0
  limit : 4 * 0xFF + 3 ≤ c.tableLimit
  room : 6 ≤ c.sp.toNat
  above : biosEnd ≤ c.frameAddr

/-- What an interrupt writes to ports. -/
def biosOutput (n al : UInt8) : List (UInt16 × UInt8) :=
  if n = 0x10 then [(0x3F8, al)] else []

/-- What an interrupt leaves in `dx`. -/
def biosDx (n : UInt8) (dx : UInt16) : UInt16 :=
  if n = 0x10 then 0x3F8 else dx

/-- Behind an interrupt that the BIOS has answered. -/
def afterCall (c : Cpu) (n : UInt8) : Cpu :=
  { c with
    dx := biosDx n c.dx
    ip := c.ip + 2
    mem := patch c.mem c.frameAddr (c.advance 2).frame }

/-- The frame of an interrupt leaves the BIOS alone. -/
theorem UsesBios.pushed {c : Cpu} (h : UsesBios c) :
    BiosInstalled (patch c.mem c.frameAddr (c.advance 2).frame) :=
  h.installed.congr fun _ hx => patch_of_lt _ (Nat.lt_of_lt_of_le hx h.above)

/-- Where a handler begins. -/
theorem linear_entered {c : Cpu} (hbase : c.tableBase = 0) (n : UInt8) :
    linear (c.entered n).cs (c.entered n).ip = ivtTarget c.pushed.mem n.toNat := by
  have hcs : (c.entered n).cs = wordAt c.pushed.mem (4 * n.toNat + 2) := by
    simp only [Cpu.entered, hbase, Nat.zero_add]
  have hip : (c.entered n).ip = wordAt c.pushed.mem (4 * n.toNat) := by
    simp only [Cpu.entered, hbase, Nat.zero_add]
  rw [linear, hcs, hip, toNat_wordAt, toNat_wordAt, ivtTarget]

/-- A processor at a low address is at the code there. -/
theorem at_of_linear {c : Cpu} {a : ℕ} {bytes : List UInt8} (ha : linear c.cs c.ip = a)
    (hcode : slice c.mem a bytes.length = bytes) (hlt : a + bytes.length < 0x10000) :
    c.At bytes := by
  refine ⟨by rw [ha]; exact hcode, ?_⟩
  rw [linear] at ha
  omega

/-- The handler of `INT 0x10` up to its `iret`. -/
theorem executes_teletype {c : Cpu} (hat : c.At int10Handler) :
    Executes c [(0x3F8, c.al)] { c with dx := 0x3F8, ip := c.ip + 3 + 1 } ∧
      Cpu.At { c with dx := 0x3F8, ip := c.ip + 3 + 1 } Instr.iret.encode := by
  have hsplit : int10Handler = (Instr.movDx 0x3F8).encode ++
      (Instr.outDxAl.encode ++ Instr.iret.encode) := rfl
  rw [hsplit] at hat
  obtain ⟨hmov, hrest⟩ := hat.split
  obtain ⟨hout, hiret⟩ := hrest.split
  refine ⟨?_, hiret.code, hiret.inside⟩
  have hrun : Executes c [] { c.advance 3 with dx := 0x3F8 } := (Executes.refl c).exec hmov rfl
  exact hrun.exec ⟨hout.code, hout.inside⟩ rfl

/-- A call of the BIOS comes back to the next instruction. -/
theorem executes_call {c : Cpu} {n : UInt8} (hn : n ∈ biosInterrupts) (h : UsesBios c)
    (hat : c.At (Instr.int n).encode) : Executes c (biosOutput n c.al) (afterCall c n) := by
  have hlimit : 4 * n.toNat + 3 ≤ c.tableLimit := by
    have := h.limit
    have := n.toNat_lt
    omega
  have hframe : slice (patch c.mem c.frameAddr (c.advance 2).frame) c.frameAddr 6 =
      (c.advance 2).frame := slice_patch_self c.mem c.frameAddr (c.advance 2).frame
  have hlinear : linear ((c.advance 2).entered n).cs ((c.advance 2).entered n).ip =
      ivtTarget (patch c.mem c.frameAddr (c.advance 2).frame) n.toNat :=
    @linear_entered (c.advance 2) h.base n
  by_cases hteletype : n = 0x10
  · subst hteletype
    have hcode : ((c.advance 2).entered 0x10).At int10Handler :=
      at_of_linear (hlinear.trans h.pushed.int10) h.pushed.teletype (by decide)
    obtain ⟨hbody, hiret⟩ := executes_teletype hcode
    have hrun := Executes.interrupt hat hlimit h.room hbody hiret rfl rfl hframe
    rw [biosOutput, if_pos rfl, afterCall, biosDx, if_pos rfl]
    simp only [Cpu.entered, Cpu.pushed, Cpu.frameAddr_advance] at hrun
    exact hrun
  · have hdummy : n.toNat ∈ dummyInterrupts := by
      simp only [biosInterrupts, List.mem_cons, List.not_mem_nil, or_false] at hn
      rcases hn with rfl | rfl | rfl | rfl
      · exact absurd rfl hteletype
      all_goals decide
    have hcode : ((c.advance 2).entered n).At Instr.iret.encode :=
      at_of_linear (hlinear.trans (h.pushed.dummy _ hdummy))
        (congrArg (fun b => [b]) h.pushed.iret) (by decide)
    have hrun := Executes.interrupt hat hlimit h.room (.refl _) hcode rfl rfl hframe
    rw [biosOutput, if_neg hteletype, afterCall, biosDx, if_neg hteletype]
    simp only [Cpu.entered, Cpu.pushed, Cpu.frameAddr_advance] at hrun
    exact hrun

/-! ### Boot images made of calls -/

/-- A service that a boot image asks for. -/
inductive BiosCall
  | teletype (b : UInt8)
  | disk
  | system
  | keyboard

/-- The interrupt of a service. -/
def BiosCall.interrupt : BiosCall → UInt8
  | .teletype _ => 0x10
  | .disk => 0x13
  | .system => 0x15
  | .keyboard => 0x16

/-- What is loaded into registers for it. -/
def BiosCall.setup : BiosCall → List UInt8
  | .teletype b => (Instr.movAl b).encode
  | _ => []

/-- The code of a call. -/
def BiosCall.code (call : BiosCall) : List UInt8 :=
  call.setup ++ (Instr.int call.interrupt).encode

/-- The byte it shows. -/
def BiosCall.text : BiosCall → List UInt8
  | .teletype b => [b]
  | _ => []

/-- A boot image: some calls, and then nothing more. -/
def bootProgram (calls : List BiosCall) : List UInt8 :=
  calls.flatMap BiosCall.code ++ Instr.hlt.encode

/-- The stack is below the code that is executed next. -/
structure Boots (c : Cpu) : Prop extends UsesBios c where
  below : c.frameAddr + 6 ≤ linear c.cs c.ip

/-- What a program has done to the processor: it is further on in its code, and nothing has changed
but `al`, `dx` and six bytes of the stack. -/
structure Ran (c c' : Cpu) (len : ℕ) : Prop where
  registers : ∃ al dx mem, c' = { c with al, dx, mem, ip := c.ip + UInt16.ofNat len }
  mem : ∀ x, ¬(c.frameAddr ≤ x ∧ x < c.frameAddr + 6) → c'.mem x = c.mem x

/-- Code above the stack is still there. -/
theorem Boots.at {c c' : Cpu} {len : ℕ} {rest : List UInt8} (h : Boots c) (hran : Ran c c' len)
    (hat : (c.advance len).At rest) (hlen : c.ip.toNat + len < 0x10000) : c'.At rest := by
  obtain ⟨al, dx, mem, rfl⟩ := hran.registers
  refine ⟨?_, hat.inside⟩
  refine Eq.trans (slice_congr fun i _ => hran.mem _ ?_) hat.code
  have hbelow := h.below
  have hnext : linear c.cs (c.ip + UInt16.ofNat len) = linear c.cs c.ip + len := by
    have hof : (UInt16.ofNat len).toNat = len := Nat.mod_eq_of_lt (by omega)
    rw [linear_add (by omega), hof]
  show ¬(c.frameAddr ≤ linear c.cs (c.ip + UInt16.ofNat len) + i ∧
    linear c.cs (c.ip + UInt16.ofNat len) + i < c.frameAddr + 6)
  omega

/-- So are the BIOS and the stack. -/
theorem Boots.of_ran {c c' : Cpu} {len : ℕ} (h : Boots c) (hran : Ran c c' len)
    (hlen : c.ip.toNat + len < 0x10000) : Boots c' := by
  have habove := h.above
  have hbios : BiosInstalled c'.mem :=
    h.installed.congr fun x hx => hran.mem x (by omega)
  obtain ⟨al, dx, mem, rfl⟩ := hran.registers
  refine ⟨⟨hbios, h.base, h.limit, h.room, h.above⟩, ?_⟩
  have hbelow := h.below
  have hof : (UInt16.ofNat len).toNat = len := Nat.mod_eq_of_lt (by omega)
  show c.frameAddr + 6 ≤ linear c.cs (c.ip + UInt16.ofNat len)
  rw [linear_add (by omega), hof]
  omega

/-- The registers are set up. -/
theorem executes_setup {c : Cpu} {call : BiosCall} (hat : c.At call.setup) :
    ∃ al, Executes c [] { c.advance call.setup.length with al } ∧
      biosOutput call.interrupt al = call.text.map (0x3F8, ·) := by
  cases call with
  | teletype b =>
      exact ⟨b, .single (@Cpu.step_of_at c (.movAl b) hat), rfl⟩
  | disk | system | keyboard =>
      refine ⟨c.al, ?_, rfl⟩
      have hstay : c.advance 0 = c := by
        show { c with ip := c.ip + 0 } = c
        rw [UInt16.add_zero]
      show Executes c [] (c.advance 0)
      rw [hstay]
      exact .refl c

/-- One call of a boot image. -/
theorem Boots.call {c : Cpu} {call : BiosCall} (h : Boots c) (hat : c.At call.code) :
    ∃ c', Executes c (call.text.map (0x3F8, ·)) c' ∧ Ran c c' call.code.length := by
  have hn : call.interrupt ∈ biosInterrupts := by
    cases call <;> simp [BiosCall.interrupt, biosInterrupts]
  obtain ⟨hsetup, hint⟩ := hat.split
  obtain ⟨al, hrun, hout⟩ := executes_setup hsetup
  have huses : UsesBios { c.advance call.setup.length with al } :=
    ⟨h.installed, h.base, h.limit, h.room, h.above⟩
  have hcall := executes_call hn huses ⟨hint.code, hint.inside⟩
  refine ⟨_, hout ▸ hrun.trans hcall, ⟨al, biosDx call.interrupt c.dx,
    (afterCall { c.advance call.setup.length with al } call.interrupt).mem, ?_⟩, fun x hx => ?_⟩
  · have hip : c.ip + UInt16.ofNat call.setup.length + 2 =
        c.ip + UInt16.ofNat call.code.length := by
      have hlen : call.code.length = call.setup.length + 2 := List.length_append
      rw [hlen, UInt16.ofNat_add, UInt16.add_assoc]
      rfl
    rw [← hip]
    rfl
  · exact patch_of_notMem (by rw [Cpu.length_frame]; exact hx)

theorem Ran.refl (c : Cpu) : Ran c c 0 := by
  refine ⟨⟨c.al, c.dx, c.mem, ?_⟩, fun _ _ => rfl⟩
  show c = { c with ip := c.ip + 0 }
  rw [UInt16.add_zero]

theorem Ran.trans {c c₁ c' : Cpu} {len len' : ℕ} (h : Ran c c₁ len) (h' : Ran c₁ c' len') :
    Ran c c' (len + len') := by
  obtain ⟨al, dx, mem, rfl⟩ := h.registers
  obtain ⟨al', dx', mem', rfl⟩ := h'.registers
  refine ⟨⟨al', dx', mem', ?_⟩, fun x hx => (h'.mem x hx).trans (h.mem x hx)⟩
  rw [UInt16.ofNat_add, ← UInt16.add_assoc]

/-- All calls of a boot image, up to its end. -/
theorem Boots.calls {c : Cpu} {calls : List BiosCall} {rest : List UInt8} (h : Boots c)
    (hat : c.At (calls.flatMap BiosCall.code ++ rest)) :
    ∃ c', Executes c ((calls.flatMap BiosCall.text).map (0x3F8, ·)) c' ∧
      Ran c c' (calls.flatMap BiosCall.code).length ∧ c'.At rest := by
  induction calls generalizing c with
  | nil => exact ⟨c, .refl c, .refl c, hat⟩
  | cons call calls ih =>
      rw [List.flatMap_cons, List.append_assoc] at hat
      obtain ⟨hcall, hrest⟩ := hat.split
      obtain ⟨c₁, hrun₁, hran₁⟩ := h.call hcall
      obtain ⟨c', hrun', hran', hat'⟩ := ih (h.of_ran hran₁ hcall.inside)
        (h.at hran₁ hrest hcall.inside)
      refine ⟨c', ?_, ?_, hat'⟩
      · rw [List.flatMap_cons, List.map_append]
        exact hrun₁.trans hrun'
      · rw [List.flatMap_cons, List.length_append]
        exact hran₁.trans hran'

/-! ### From `load_bootloader` to the host's stream -/

/-- A vCPU in real mode, as the processor of its guest. -/
def realModeCpu (regs : KvmRegs) (sregs : KvmSregs) (mem : ℕ → UInt8) : Cpu where
  ah := (regs.rax >>> 8).toUInt8
  al := regs.rax.toUInt8
  bx := regs.rbx.toUInt16
  cx := regs.rcx.toUInt16
  dx := regs.rdx.toUInt16
  si := regs.rsi.toUInt16
  di := regs.rdi.toUInt16
  bp := regs.rbp.toUInt16
  sp := regs.rsp.toUInt16
  cs := sregs.cs.selector
  ds := sregs.ds.selector
  es := sregs.es.selector
  ss := sregs.ss.selector
  ip := regs.rip.toUInt16
  flags := .load regs.rflags.toUInt16
  tableBase := sregs.idt.base.toNat
  tableLimit := sregs.idt.limit.toNat
  mem := mem

/-- `KVM_RUN` returns with each byte for a port, and `Vcpu::run` is called on what it returns. -/
def Vcpu.serve (kvm : KvmVcpu V) (out : HostWriter W) (vcpu : Vcpu V) :
    List (UInt16 × UInt8) → W → W × Outcome HypervisorError Unit
  | [], stdout => (stdout, .ok ())
  | (port, b) :: outs, stdout =>
      match vcpu.run kvm out (.ok (.ioOut port [b])) stdout with
      | (stdout, .ok _) => vcpu.serve kvm out outs stdout
      | (stdout, .err e) => (stdout, .err e)
      | (stdout, .panic) => (stdout, .panic)

/-- Bytes for the serial port are written to the host, in order. -/
theorem Vcpu.serve_serial {out : HostWriter W} (vcpu : Vcpu V) (acc : out.Accepts)
    (hwrite : ∀ w bytes, (out.writeAll w bytes).2 = .ok ())
    (hflush : ∀ w, (out.flush w).2 = .ok () ∧ acc.written (out.flush w).1 = acc.written w)
    (bytes : List UInt8) (stdout : W) :
    ∃ w, vcpu.serve kvm out (bytes.map (0x3F8, ·)) stdout = (w, .ok ()) ∧
      acc.written w = acc.written stdout ++ bytes := by
  induction bytes generalizing stdout with
  | nil => exact ⟨stdout, rfl, (List.append_nil _).symm⟩
  | cons b bytes ih =>
      have hwritten := acc.writeAll_written stdout [b]
      have hok := hwrite stdout [b]
      rcases hw : out.writeAll stdout [b] with ⟨w₁, r⟩
      rw [hw] at hwritten hok
      obtain ⟨hflushed, hkept⟩ := hflush w₁
      rcases hf : out.flush w₁ with ⟨w₂, r'⟩
      rw [hf] at hflushed hkept
      obtain ⟨w, hrest, hall⟩ := ih w₂
      refine ⟨w, ?_, ?_⟩
      · simp only at hok hflushed
        subst hok hflushed
        simp only [List.map_cons, serve, run, if_true, hw, hf]
        exact hrest
      · simp only at hkept hwritten
        rw [hall, hkept, hwritten, List.append_assoc, List.singleton_append]

/-- The registers of every vCPU after `load_bootloader`. -/
theorem VirtualMachine.loadBootloader_regs {readFile : String → Except String (List UInt8)}
    {vm vm' : VirtualMachine V Q F S} {path : String}
    (h : vm.loadBootloader vmm kvm readFile path = (vm', .ok ())) {vcpu : Vcpu V}
    (hvcpu : vcpu ∈ vm'.vcpus) :
    ∃ regs sregs, kvm.getRegs vcpu.fd = .ok (realModeRegs regs) ∧
      kvm.getSregs vcpu.fd = .ok (realModeSregs sregs) := by
  rw [loadBootloader] at h
  rcases hload : BiosLoader.loadBootloader vmm readFile vm.memory.memory path with ⟨m, e | u⟩
  · rw [hload] at h
    cases (Prod.mk.inj h).2
  rcases hinit : eachVcpu (BiosLoader.initVcpuForRealMode kvm) vm.vcpus with ⟨vcpus, r⟩
  simp only [hload, hinit] at h
  obtain ⟨rfl, rfl⟩ := Prod.mk.inj h
  obtain ⟨i, hi, rfl⟩ := List.getElem_of_mem hvcpu
  have hforall := eachVcpu_ok hinit
  have hi₀ : i < vm.vcpus.length := hforall.length_eq ▸ hi
  obtain ⟨regs, sregs, -, -, hregs, hsregs, -⟩ :=
    BiosLoader.initVcpuForRealMode_ok (hforall.get hi₀ hi)
  exact ⟨regs, sregs, hregs, hsregs⟩

/-- Where the processor that `init_vcpu_for_real_mode` starts has its stack. -/
theorem frameAddr_realMode (regs : KvmRegs) (sregs : KvmSregs) (g : ℕ → UInt8) :
    (realModeCpu (realModeRegs regs) (realModeSregs sregs) g).frameAddr = bootAddr - 6 := by
  show linear 0 ((0x7c00 : UInt64).toUInt16 - 6) = bootAddr - 6
  decide

/-- Where it begins. -/
theorem linear_realMode (regs : KvmRegs) (sregs : KvmSregs) (g : ℕ → UInt8) :
    linear (realModeCpu (realModeRegs regs) (realModeSregs sregs) g).cs
      (realModeCpu (realModeRegs regs) (realModeSregs sregs) g).ip = bootAddr := by
  show linear 0 (0x7c00 : UInt64).toUInt16 = bootAddr
  decide

/-- The stack is between the BIOS and the image. -/
theorem boots_realMode {f g : ℕ → UInt8} {image : List UInt8} (h : BootImage f g image)
    (regs : KvmRegs) (sregs : KvmSregs) :
    Boots (realModeCpu (realModeRegs regs) (realModeSregs sregs) g) where
  installed := h.biosInstalled
  base := rfl
  limit := (by decide : 4 * 0xFF + 3 ≤ 0x3FF)
  room := (by decide : 6 ≤ 0x7c00)
  above := by
    rw [frameAddr_realMode]
    decide
  below := by
    rw [frameAddr_realMode, linear_realMode]
    decide

/-- **Every BIOS call returns.** After `load_bootloader`, and as long as the guest has not written
over the BIOS or moved the vector table, and has six bytes of stack above the BIOS that do not wrap
around, an `INT` for one of the four interrupts comes back to the next instruction with all
registers and flags but `dx` as they were (so that a read of the disk reports whatever the carry
flag said before), and with these six bytes overwritten. `INT 0x10` puts `al` on the serial port,
whatever is in `ah`; the others put nothing anywhere. -/
theorem bios_call_returns {readFile : String → Except String (List UInt8)} {m m' : GuestMemory}
    {path : String} (hload : BiosLoader.loadBootloader vmm readFile m path = (m', .ok ()))
    {c : Cpu} {n : UInt8} (hn : n ∈ biosInterrupts)
    (hkept : ∀ x < biosEnd, c.mem x = m'.bytes x)
    (hbase : c.tableBase = 0) (hlimit : 4 * 0xFF + 3 ≤ c.tableLimit)
    (hroom : 6 ≤ c.sp.toNat) (habove : biosEnd ≤ c.frameAddr) (hat : c.At [0xCD, n]) :
    Executes c (if n = 0x10 then [(0x3F8, c.al)] else [])
      { c with
        dx := if n = 0x10 then 0x3F8 else c.dx
        ip := c.ip + 2
        mem := patch c.mem c.frameAddr
          (wordBytes (c.ip + 2) ++ (wordBytes c.cs ++ wordBytes c.flags.1)) } := by
  obtain ⟨image, -, -, himage⟩ := loadBootloader_image hload
  exact executes_call hn ⟨himage.biosInstalled.congr hkept, hbase, hlimit, hroom, habove⟩ hat

/-- An image that shows one letter, in two megabytes of memory. -/
theorem bios_call_returns_letter :
    ∃ c c' : Cpu, c.At [0xCD, 0x10] ∧ Executes c [(0x3F8, c.al)] c' ∧ c'.ip = c.ip + 2 ∧
      c'.flags = c.flags := by
  have hcov := GuestMemory.ram_covers 7 0 (bootAddr + 2) (by decide)
  obtain ⟨m', hload⟩ : ∃ m', BiosLoader.loadBootloader VmMemory.mmap
      (fun _ => .ok [0xCD, 0x10]) (.ram 7) "boot.bin" = (m', .ok ()) :=
    BiosLoader.loadBootloader_of_covers VmMemory.mmap rfl (by decide) hcov
  obtain ⟨image, hread, -, himage⟩ := loadBootloader_image hload
  obtain rfl := Except.ok.inj hread
  have hboots := boots_realMode himage default default
  have hat := at_of_linear (linear_realMode default default m'.bytes) himage.loaded (by decide)
  exact ⟨_, _, hat, bios_call_returns hload (by decide) (fun _ _ => rfl) hboots.base hboots.limit
    hboots.room hboots.above hat, rfl, rfl⟩

/-- A machine with plain vCPUs loads every image that fits. -/
theorem VirtualMachine.loadBootloader_plain {vm : VirtualMachine PlainVcpu Q F S}
    {image : List UInt8} (hne : image ≠ [])
    (hL : vm.memory.memory.layout.regions.map (fun r => (r.start, r.len)) = [(0, memorySize)])
    (hfit : bootAddr + image.length ≤ memorySize) :
    ∃ vm', vm.loadBootloader VmMemory.mmap PlainVcpu.kvm (fun _ => .ok image) "boot.bin" =
      (vm', .ok ()) ∧ vm'.vcpus.length = vm.vcpus.length := by
  obtain ⟨r, hr, hrange⟩ := List.map_eq_singleton_iff.mp hL
  obtain ⟨hstart, hlen⟩ := Prod.mk.inj hrange
  have hcov : vm.memory.memory.layout.Covers 0 (bootAddr + image.length) :=
    Layout.covers_of_mem (hr ▸ List.mem_singleton_self r) (by omega) (by omega)
  obtain ⟨m, hload⟩ := @BiosLoader.loadBootloader_of_covers VmMemory.mmap (fun _ => .ok image)
    vm.memory.memory "boot.bin" image rfl hne hcov
  obtain ⟨vcpus, hinit⟩ : ∃ vcpus,
      eachVcpu (BiosLoader.initVcpuForRealMode PlainVcpu.kvm) vm.vcpus = (vcpus, .ok ()) :=
    eachVcpu_of_ok (fun _ => rfl) _
  exact ⟨{ vm.withMemory m with vcpus }, by simp only [loadBootloader, hload, hinit],
    (eachVcpu_ok hinit).length_eq.symm⟩

/-- The stream of the plain host keeps what is written. -/
def plainAccepts : DeviceEnv.plain.output.Accepts where
  written := id
  writeAll_written _ _ := rfl
  info_written _ _ := rfl

/-- **A boot image that calls the BIOS runs to its end**, on a machine with one vCPU, if the image
ends below 64 KB: from what `load_bootloader` leaves, the processor comes to the `HLT` behind the
last call with nothing changed but `al`, `dx` and the stack, and the host's stream gets the bytes of
the calls in order. -/
theorem boot_program_output {readFile : String → Except String (List UInt8)}
    {vm vm' : VirtualMachine V Q F S} {path : String} {calls : List BiosCall} {vcpu : Vcpu V}
    (hload : vm.loadBootloader vmm kvm readFile path = (vm', .ok ()))
    (hread : readFile path = .ok (bootProgram calls))
    (hlen : bootAddr + (bootProgram calls).length < 0x10000) (hone : vm'.vcpus = [vcpu])
    {out : HostWriter W} (acc : out.Accepts)
    (hwrite : ∀ w bytes, (out.writeAll w bytes).2 = .ok ())
    (hflush : ∀ w, (out.flush w).2 = .ok () ∧ acc.written (out.flush w).1 = acc.written w)
    (stdout : W) :
    ∃ regs sregs outs c' w, kvm.getRegs vcpu.fd = .ok regs ∧ kvm.getSregs vcpu.fd = .ok sregs ∧
      Executes (realModeCpu regs sregs vm'.memory.memory.bytes) outs c' ∧ c'.At Instr.hlt.encode ∧
      Ran (realModeCpu regs sregs vm'.memory.memory.bytes) c' (calls.flatMap BiosCall.code).length ∧
      vcpu.serve kvm out outs stdout = (w, .ok ()) ∧
      acc.written w = acc.written stdout ++ calls.flatMap BiosCall.text := by
  obtain ⟨image, hread', himage, -⟩ := VirtualMachine.loadBootloader_ok hload
  obtain rfl : bootProgram calls = image := Except.ok.inj (hread.symm.trans hread')
  obtain ⟨regs, sregs, hregs, hsregs⟩ :=
    VirtualMachine.loadBootloader_regs hload (hone ▸ List.mem_singleton_self vcpu)
  have hat : (realModeCpu (realModeRegs regs) (realModeSregs sregs) vm'.memory.memory.bytes).At
      (bootProgram calls) :=
    at_of_linear (linear_realMode regs sregs _) himage.loaded hlen
  obtain ⟨c', hrun, hran, hend⟩ := (boots_realMode himage regs sregs).calls hat
  obtain ⟨w, hserve, hwritten⟩ := vcpu.serve_serial acc hwrite hflush
    (calls.flatMap BiosCall.text) stdout
  exact ⟨_, _, _, c', w, hregs, hsregs, hrun, hend, hran, hserve, hwritten⟩

/-- An image that shows two letters, with a read of the disk between them. -/
theorem boot_program_output_letters :
    ∃ (vcpu : Vcpu PlainVcpu) (outs : List (UInt16 × UInt8)) (c c' : Cpu),
      Executes c outs c' ∧ c'.At Instr.hlt.encode ∧
      vcpu.serve PlainVcpu.kvm DeviceEnv.plain.output outs [] = ([0x48, 0x69], .ok ()) := by
  obtain ⟨vm, hnew⟩ := VirtualMachine.new_gated
  obtain ⟨hL, -, -, -, hlen⟩ := VirtualMachine.new_spec hnew
  have hne : bootProgram [.teletype 0x48, .disk, .teletype 0x69] ≠ [] := by decide
  obtain ⟨vm', hload, hlen'⟩ := VirtualMachine.loadBootloader_plain hne hL (by decide)
  obtain ⟨vcpu, hone⟩ := List.length_eq_one_iff.mp (hlen'.trans hlen)
  obtain ⟨_, _, outs, c', w, -, -, hrun, hend, -, hserve, hwritten⟩ :=
    boot_program_output hload rfl (by decide) hone plainAccepts (fun _ _ => rfl)
      (fun _ => ⟨rfl, rfl⟩) []
  obtain rfl : w = [0x48, 0x69] := hwritten
  exact ⟨vcpu, outs, _, c', hrun, hend, hserve⟩

end MoVm
