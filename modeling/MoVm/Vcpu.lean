import MoVm.Host

/-!
# Virtual CPUs

The model of `vcpu.rs`. A vCPU is a KVM file descriptor; KVM itself enters as a parameter:
a `KvmVcpu V` is a type `V` of vCPU states with the ioctls the hypervisor makes. Its laws
are those of the interface: a getter returns what KVM keeps of the set that the matching
setter stored, a setter leaves the other register sets alone, a setter accepts what a getter
has returned, and the `EFER` register that `set_msrs` writes is the one `get_sregs` reports.

KVM does not keep everything: of the general registers it fixes a bit of the flags, of the FPU it
does not report `MXCSR`, and how much of a segment is stored is up to the processor
(`KvmVcpu.keptSregs`). What a getter has returned is kept as it is, and so is what the hypervisor
writes over it when it boots a vCPU (`KvmSregs.Rewrites`).

`Vcpu.init` embeds the boot register setup. `Vcpu.init_spec` says what a successful call
leaves in the registers, as functions `bootRegs` and `bootSregs` of what was there
before.
-/

namespace MoVm

/-! ### Registers -/

/-- `kvm_regs`. -/
structure KvmRegs where
  rax : UInt64
  rbx : UInt64
  rcx : UInt64
  rdx : UInt64
  rsi : UInt64
  rdi : UInt64
  rsp : UInt64
  rbp : UInt64
  r8 : UInt64
  r9 : UInt64
  r10 : UInt64
  r11 : UInt64
  r12 : UInt64
  r13 : UInt64
  r14 : UInt64
  r15 : UInt64
  rip : UInt64
  rflags : UInt64
deriving DecidableEq, Inhabited

/-- `kvm_segment`. -/
structure KvmSegment where
  base : UInt64
  limit : UInt32
  selector : UInt16
  type : UInt8
  present : UInt8
  dpl : UInt8
  db : UInt8
  s : UInt8
  l : UInt8
  g : UInt8
  avl : UInt8
  unusable : UInt8
  padding : UInt8
deriving DecidableEq, Inhabited

/-- `kvm_dtable`. -/
structure KvmDtable where
  base : UInt64
  limit : UInt16
  padding : Vector UInt16 3
deriving DecidableEq, Inhabited

/-- `kvm_sregs`. -/
structure KvmSregs where
  cs : KvmSegment
  ds : KvmSegment
  es : KvmSegment
  fs : KvmSegment
  gs : KvmSegment
  ss : KvmSegment
  tr : KvmSegment
  ldt : KvmSegment
  gdt : KvmDtable
  idt : KvmDtable
  cr0 : UInt64
  cr2 : UInt64
  cr3 : UInt64
  cr4 : UInt64
  cr8 : UInt64
  efer : UInt64
  apicBase : UInt64
  interruptBitmap : Vector UInt64 4
deriving DecidableEq, Inhabited

/-- `kvm_fpu`. -/
structure KvmFpu where
  fpr : Vector (Vector UInt8 16) 8
  fcw : UInt16
  fsw : UInt16
  ftwx : UInt8
  pad1 : UInt8
  lastOpcode : UInt16
  lastIp : UInt64
  lastDp : UInt64
  xmm : Vector (Vector UInt8 16) 16
  mxcsr : UInt32
  pad2 : UInt32
deriving DecidableEq, Inhabited

/-- `kvm_msr_entry`. -/
structure KvmMsrEntry where
  index : UInt32
  reserved : UInt32
  data : UInt64
deriving DecidableEq, Inhabited

/-! ### KVM -/

/-- The general purpose registers as `get_regs` reports them after `set_regs`: bit 1 of the flags
is fixed to one. -/
def KvmRegs.kept (r : KvmRegs) : KvmRegs :=
  { r with rflags := r.rflags ||| 2 }

/-- The FPU state as `get_fpu` reports it after `set_fpu`: `MXCSR` and the padding are not among
what it copies. -/
def KvmFpu.kept (f : KvmFpu) : KvmFpu :=
  { f with
    mxcsr := 0
    pad1 := 0
    pad2 := 0 }

/-- What has been kept is kept again. -/
@[simp]
theorem KvmRegs.kept_kept (r : KvmRegs) : r.kept.kept = r.kept := by
  simp only [kept, UInt64.or_assoc, UInt64.or_self]

/-- The index of the `EFER` register. -/
def msrEfer : UInt32 := 0xc0000080

/-- What the entries write to the register with this index, the last one winning. -/
def msrValue (index : UInt32) (msrs : List KvmMsrEntry) : Option UInt64 :=
  (msrs.reverse.find? fun e => e.index = index).map KvmMsrEntry.data

/-- A present segment of ring 0 that has been accessed, for code, data or a busy task, with the
granularity that its limit needs. Every processor stores all of it. -/
def KvmSegment.Ordinary (seg : KvmSegment) : Prop :=
  seg.present = 1 ∧ seg.type &&& 0xF1 = 1 ∧ (seg.s = 1 ∨ seg.s = 0 ∧ seg.type = 11) ∧
    seg.dpl = 0 ∧ seg.db ≤ 1 ∧ seg.l = 0 ∧ seg.avl = 0 ∧
    seg.g = if 0xFFFFF < seg.limit then 1 else 0

/-- The registers `s'` are those of `s` with other segments, tables and control registers. The
segments are ordinary, and made from the code segment and the task register of `s`. -/
structure KvmSregs.Rewrites (s s' : KvmSregs) : Prop where
  segments : ∀ seg ∈ [s'.cs, s'.ds, s'.es, s'.fs, s'.gs, s'.ss],
    seg.Ordinary ∧ seg.unusable = s.cs.unusable ∧ seg.padding = s.cs.padding
  task : s'.tr = s.tr ∨
    s'.tr.Ordinary ∧ s'.tr.unusable = s.tr.unusable ∧ s'.tr.padding = s.tr.padding
  others : s' = { s with
    cs := s'.cs, ds := s'.ds, es := s'.es, fs := s'.fs, gs := s'.gs, ss := s'.ss, tr := s'.tr
    gdt := { s.gdt with base := s'.gdt.base, limit := s'.gdt.limit }
    idt := { s.idt with base := s'.idt.base, limit := s'.idt.limit }
    cr0 := s'.cr0, cr3 := s'.cr3, cr4 := s'.cr4, efer := s'.efer }

/-- The ioctls on a vCPU file descriptor whose state is of type `V`. Errors are carried
by their display text. -/
structure KvmVcpu (V : Type) where
  getRegs : V → Except String KvmRegs
  setRegs : V → KvmRegs → V × Except String Unit
  getSregs : V → Except String KvmSregs
  setSregs : V → KvmSregs → V × Except String Unit
  getFpu : V → Except String KvmFpu
  setFpu : V → KvmFpu → V × Except String Unit
  setMsrs : V → List KvmMsrEntry → V × Except String ℕ
  /-- The special registers as `get_sregs` reports them after `set_sregs`. A segment that is not
  present, for one, is reported as unusable. -/
  keptSregs : KvmSregs → KvmSregs
  getRegs_setRegs : ∀ {v r}, (setRegs v r).2 = .ok () → getRegs (setRegs v r).1 = .ok r.kept
  getSregs_setSregs : ∀ {v s}, (setSregs v s).2 = .ok () →
    getSregs (setSregs v s).1 = .ok (keptSregs s)
  getFpu_setFpu : ∀ {v f}, (setFpu v f).2 = .ok () → getFpu (setFpu v f).1 = .ok f.kept
  getRegs_kept : ∀ {v r}, getRegs v = .ok r → r.kept = r
  getSregs_kept : ∀ {v s}, getSregs v = .ok s → keptSregs s = s
  getFpu_kept : ∀ {v f}, getFpu v = .ok f → f.kept = f
  keptSregs_rewrites : ∀ {v s s'}, getSregs v = .ok s → s.Rewrites s' → keptSregs s' = s'
  setRegs_ok : ∀ {v w r}, getRegs v = .ok r → (setRegs w r).2 = .ok ()
  setSregs_ok : ∀ {v w s}, getSregs v = .ok s → (setSregs w s).2 = .ok ()
  setFpu_ok : ∀ {v w f}, getFpu v = .ok f → (setFpu w f).2 = .ok ()
  getSregs_setRegs : ∀ v r, getSregs (setRegs v r).1 = getSregs v
  getFpu_setRegs : ∀ v r, getFpu (setRegs v r).1 = getFpu v
  getRegs_setSregs : ∀ v s, getRegs (setSregs v s).1 = getRegs v
  getFpu_setSregs : ∀ v s, getFpu (setSregs v s).1 = getFpu v
  getRegs_setFpu : ∀ v f, getRegs (setFpu v f).1 = getRegs v
  getSregs_setFpu : ∀ v f, getSregs (setFpu v f).1 = getSregs v
  getRegs_setMsrs : ∀ v msrs, getRegs (setMsrs v msrs).1 = getRegs v
  getSregs_setMsrs : ∀ {v s msrs n}, getSregs v = .ok s → (setMsrs v msrs).2 = .ok n →
    getSregs (setMsrs v msrs).1 = .ok { s with efer := (msrValue msrEfer msrs).getD s.efer }

/-- A segment register of a vCPU that has just been created. -/
def KvmSegment.reset (type s : UInt8) : KvmSegment :=
  { (default : KvmSegment) with
    limit := 0xFFFF
    type
    present := 1
    s }

/-- The special registers of a vCPU that has just been created, as KVM reports them. -/
def KvmSregs.reset : KvmSregs :=
  { (default : KvmSregs) with
    cs := { KvmSegment.reset 11 1 with selector := 0xF000, base := 0xFFFF0000 }
    ds := .reset 3 1
    es := .reset 3 1
    fs := .reset 3 1
    gs := .reset 3 1
    ss := .reset 3 1
    tr := .reset 11 0
    ldt := .reset 2 0
    gdt := { (default : KvmDtable) with limit := 0xFFFF }
    idt := { (default : KvmDtable) with limit := 0xFFFF }
    cr0 := 0x60000010
    apicBase := 0xFEE00900 }

/-- A vCPU that is nothing but its registers. -/
structure PlainVcpu where
  regs : KvmRegs
  sregs : KvmSregs
  fpu : KvmFpu
deriving DecidableEq, Inhabited

/-- Every ioctl on it succeeds, and the special registers are kept. -/
def PlainVcpu.kvm : KvmVcpu PlainVcpu where
  getRegs v := .ok v.regs.kept
  setRegs v r := ({ v with regs := r }, .ok ())
  getSregs v := .ok v.sregs
  setSregs v s := ({ v with sregs := s }, .ok ())
  getFpu v := .ok v.fpu.kept
  setFpu v f := ({ v with fpu := f }, .ok ())
  setMsrs v msrs :=
    ({ v with sregs := { v.sregs with efer := (msrValue msrEfer msrs).getD v.sregs.efer } },
      .ok msrs.length)
  keptSregs s := s
  getRegs_setRegs _ := rfl
  getSregs_setSregs _ := rfl
  getFpu_setFpu _ := rfl
  getRegs_kept h := Except.ok.inj h ▸ KvmRegs.kept_kept _
  getSregs_kept _ := rfl
  getFpu_kept h := Except.ok.inj h ▸ rfl
  keptSregs_rewrites _ _ := rfl
  setRegs_ok _ := rfl
  setSregs_ok _ := rfl
  setFpu_ok _ := rfl
  getSregs_setRegs _ _ := rfl
  getFpu_setRegs _ _ := rfl
  getRegs_setSregs _ _ := rfl
  getFpu_setSregs _ _ := rfl
  getRegs_setFpu _ _ := rfl
  getSregs_setFpu _ _ := rfl
  getRegs_setMsrs _ _ := rfl
  getSregs_setMsrs h _ := by rw [← Except.ok.inj h]

/-! ### `Vcpu` -/

/-- A vCPU and its number. -/
structure Vcpu (V : Type) where
  fd : V
  id : UInt64
deriving DecidableEq, Inhabited

/-- The flat code segment of 32-bit protected mode, over what was there before. -/
def bootCode (cs : KvmSegment) : KvmSegment :=
  { cs with
    selector := 0x8
    base := 0
    limit := 0xFFFFFFFF
    type := 0xB
    present := 1
    dpl := 0
    db := 1
    s := 1
    l := 0
    g := 1
    avl := 0 }

/-- The data segments are copies of the code segment with another selector and type. -/
def bootData (cs : KvmSegment) : KvmSegment :=
  { bootCode cs with
    selector := 0x10
    type := 3
    limit := 0xFFFFFFFF }

/-- The task register. -/
def bootTask (tr : KvmSegment) : KvmSegment :=
  { tr with
    base := 0
    limit := 0xFFFF
    selector := 0x18
    type := 11
    present := 1
    dpl := 0
    db := 0
    s := 0
    l := 0
    g := 0
    avl := 0 }

/-- The general purpose registers at boot. -/
def bootRegs (entryPoint bootParams : UInt64) (regs : KvmRegs) : KvmRegs :=
  { regs with
    rflags := 0x2
    rip := entryPoint
    rsi := bootParams
    rsp := 0x80000
    rbp := 0x80000 }

/-- KVM keeps the general registers of `init`. -/
theorem bootRegs_kept (entryPoint bootParams : UInt64) (regs : KvmRegs) :
    (bootRegs entryPoint bootParams regs).kept = bootRegs entryPoint bootParams regs := by
  simp only [KvmRegs.kept, bootRegs, UInt64.or_self]

/-- The segment and control registers `init` sets. -/
def bootSegments (sregs : KvmSregs) : KvmSregs :=
  { sregs with
    cs := bootCode sregs.cs
    ds := bootData sregs.cs
    es := bootData sregs.cs
    fs := bootData sregs.cs
    gs := bootData sregs.cs
    ss := bootData sregs.cs
    cr3 := 0x0
    cr4 := 0x0
    cr0 := 0x11
    tr := bootTask sregs.tr
    gdt := { sregs.gdt with base := 0x1000, limit := 0xFFFF }
    idt := { sregs.idt with base := 0x2000, limit := 0xFFFF } }

/-- The segments are ordinary. -/
theorem ordinary_boot (seg : KvmSegment) :
    (bootCode seg).Ordinary ∧ (bootData seg).Ordinary ∧ (bootTask seg).Ordinary := by
  have haccessed : (11 : UInt8) &&& 0xF1 = 1 ∧ (3 : UInt8) &&& 0xF1 = 1 := by decide
  simp [KvmSegment.Ordinary, bootCode, bootData, bootTask, haccessed]

/-- KVM keeps what `init` sets. -/
theorem rewrites_bootSegments (sregs : KvmSregs) : sregs.Rewrites (bootSegments sregs) where
  segments seg hseg := by
    obtain ⟨hcode, hdata, -⟩ := ordinary_boot sregs.cs
    rcases List.mem_cons.mp hseg with rfl | hseg
    · exact ⟨hcode, rfl, rfl⟩
    · obtain rfl : seg = bootData sregs.cs := List.eq_of_mem_replicate (n := 5) hseg
      exact ⟨hdata, rfl, rfl⟩
  task := .inr ⟨(ordinary_boot sregs.tr).2.2, rfl, rfl⟩
  others := rfl

/-- The FPU control words at boot. -/
def bootFpu (fpu : KvmFpu) : KvmFpu :=
  { fpu with
    fcw := 0x37f
    mxcsr := 0x1f80 }

/-- The entries of `setup_msrs`: `EFER`, `STAR`, `LSTAR`, `CSTAR` and `SFMASK`. -/
def bootMsrs : List KvmMsrEntry :=
  [{ index := 0xc0000080, reserved := 0, data := 0x1 },
    { index := 0xc0000081, reserved := 0, data := 0x0013000800000000 },
    { index := 0xc0000082, reserved := 0, data := 0x1000 },
    { index := 0xc0000083, reserved := 0, data := 0x0 },
    { index := 0xc0000084, reserved := 0, data := 0x0 }]

/-- What `get_sregs` reports after `init`: `setup_msrs` has also written `EFER`. -/
def bootSregs (sregs : KvmSregs) : KvmSregs :=
  { bootSegments sregs with efer := 0x1 }

variable {V : Type} (kvm : KvmVcpu V)

/-- Read a register set, change it, write it back. -/
def updateRegs {R : Type} (get : V → Except String R) (set : V → R → V × Except String Unit)
    (change : R → R) (fd : V) : V × Except HypervisorError Unit :=
  match get fd with
  | .error e => (fd, .error (.kvmError e))
  | .ok r =>
      match set fd (change r) with
      | (fd', .error e) => (fd', .error (.kvmError e))
      | (fd', .ok ()) => (fd', .ok ())

/-- `Vcpu::init`: the four register sets in turn, up to the first failure. -/
def Vcpu.init (vcpu : Vcpu V) (entryPoint bootParams : UInt64) :
    Vcpu V × Except HypervisorError Unit :=
  match updateRegs kvm.getRegs kvm.setRegs (bootRegs entryPoint bootParams) vcpu.fd with
  | (fd, .error e) => ({ vcpu with fd }, .error e)
  | (fd, .ok ()) =>
      match updateRegs kvm.getSregs kvm.setSregs bootSegments fd with
      | (fd, .error e) => ({ vcpu with fd }, .error e)
      | (fd, .ok ()) =>
          match updateRegs kvm.getFpu kvm.setFpu bootFpu fd with
          | (fd, .error e) => ({ vcpu with fd }, .error e)
          | (fd, .ok ()) =>
              match kvm.setMsrs fd bootMsrs with
              | (fd, .error e) => ({ vcpu with fd }, .error (.kvmError e))
              | (fd, .ok _) => ({ vcpu with fd }, .ok ())

variable {kvm}

/-- A successful update has read the old value and written the changed one. -/
theorem updateRegs_ok {R : Type} {get : V → Except String R}
    {set : V → R → V × Except String Unit} {change : R → R} {fd fd' : V}
    (h : updateRegs get set change fd = (fd', .ok ())) :
    ∃ r, get fd = .ok r ∧ set fd (change r) = (fd', .ok ()) := by
  unfold updateRegs at h
  cases hr : get fd with
  | error e =>
      rw [hr] at h
      cases (Prod.mk.inj h).2
  | ok r =>
      rw [hr] at h
      refine ⟨r, rfl, ?_⟩
      rcases hs : set fd (change r) with ⟨fd'', e | u⟩
      · simp only [hs] at h
        cases (Prod.mk.inj h).2
      · simp only [hs] at h
        rw [(Prod.mk.inj h).1]

/-- **What `init` leaves in the registers**, when it succeeds: boot values over what was
there before. -/
theorem Vcpu.init_spec {vcpu vcpu' : Vcpu V} {entryPoint bootParams : UInt64}
    (h : vcpu.init kvm entryPoint bootParams = (vcpu', .ok ())) :
    ∃ regs sregs, kvm.getRegs vcpu.fd = .ok regs ∧ kvm.getSregs vcpu.fd = .ok sregs ∧
      kvm.getRegs vcpu'.fd = .ok (bootRegs entryPoint bootParams regs) ∧
      kvm.getSregs vcpu'.fd = .ok (bootSregs sregs) ∧ vcpu'.id = vcpu.id := by
  unfold Vcpu.init at h
  rcases h₁ : updateRegs kvm.getRegs kvm.setRegs (bootRegs entryPoint bootParams) vcpu.fd
    with ⟨fd₁, e | u⟩
  · simp only [h₁] at h
    cases (Prod.mk.inj h).2
  rcases h₂ : updateRegs kvm.getSregs kvm.setSregs bootSegments fd₁ with ⟨fd₂, e | u⟩
  · simp only [h₁, h₂] at h
    cases (Prod.mk.inj h).2
  rcases h₃ : updateRegs kvm.getFpu kvm.setFpu bootFpu fd₂ with ⟨fd₃, e | u⟩
  · simp only [h₁, h₂, h₃] at h
    cases (Prod.mk.inj h).2
  rcases h₄ : kvm.setMsrs fd₃ bootMsrs with ⟨fd₄, e | n⟩
  · simp only [h₁, h₂, h₃, h₄] at h
    cases (Prod.mk.inj h).2
  simp only [h₁, h₂, h₃, h₄] at h
  obtain rfl := (Prod.mk.inj h).1
  obtain ⟨regs, hregs, hset₁⟩ := updateRegs_ok h₁
  obtain ⟨sregs, hsregs, hset₂⟩ := updateRegs_ok h₂
  obtain ⟨fpu, -, hset₃⟩ := updateRegs_ok h₃
  -- the general registers are written first and then left alone
  have hr₁ := kvm.getRegs_setRegs (congrArg Prod.snd hset₁)
  have hr₂ := kvm.getRegs_setSregs fd₁ (bootSegments sregs)
  have hr₃ := kvm.getRegs_setFpu fd₂ (bootFpu fpu)
  have hr₄ := kvm.getRegs_setMsrs fd₃ bootMsrs
  -- the segment registers are written second, and the last step writes `EFER`
  have hs₁ := kvm.getSregs_setRegs vcpu.fd (bootRegs entryPoint bootParams regs)
  have hs₂ := kvm.getSregs_setSregs (congrArg Prod.snd hset₂)
  have hs₃ := kvm.getSregs_setFpu fd₂ (bootFpu fpu)
  rw [hset₁, bootRegs_kept] at hr₁
  rw [hset₁] at hs₁
  rw [hset₂] at hr₂
  rw [hset₂, kvm.keptSregs_rewrites hsregs (rewrites_bootSegments sregs)] at hs₂
  rw [hset₃] at hr₃ hs₃
  rw [h₄] at hr₄
  have hs₄ := kvm.getSregs_setMsrs (hs₃.trans hs₂) (congrArg Prod.snd h₄)
  rw [h₄] at hs₄
  exact ⟨regs, sregs, hregs, hs₁.symm.trans hsregs,
    ((hr₄.trans hr₃).trans hr₂).trans hr₁, hs₄, rfl⟩

/-! ### Loops over the vCPUs -/

/-- `for vcpu in &vcpus { f(vcpu)?; }`: up to the first failure, behind which the vCPUs stay
as they were. -/
def eachVcpu (f : Vcpu V → Vcpu V × Except HypervisorError Unit) :
    List (Vcpu V) → List (Vcpu V) × Except HypervisorError Unit
  | [] => ([], .ok ())
  | vcpu :: vcpus =>
      match f vcpu with
      | (vcpu', .error e) => (vcpu' :: vcpus, .error e)
      | (vcpu', .ok ()) =>
          let (vcpus', r) := eachVcpu f vcpus
          (vcpu' :: vcpus', r)

/-- A loop that succeeds has succeeded on each vCPU. -/
theorem eachVcpu_ok {f : Vcpu V → Vcpu V × Except HypervisorError Unit}
    {vcpus vcpus' : List (Vcpu V)} (h : eachVcpu f vcpus = (vcpus', .ok ())) :
    List.Forall₂ (fun vcpu vcpu' => f vcpu = (vcpu', .ok ())) vcpus vcpus' := by
  induction vcpus generalizing vcpus' with
  | nil =>
      obtain rfl := (Prod.mk.inj h).1
      exact .nil
  | cons vcpu vcpus ih =>
      rcases hv : f vcpu with ⟨vcpu₁, e | u⟩
      · simp only [eachVcpu, hv] at h
        cases (Prod.mk.inj h).2
      · simp only [eachVcpu, hv] at h
        rcases hrest : eachVcpu f vcpus with ⟨vcpus₁, r⟩
        rw [hrest] at h
        obtain ⟨rfl, rfl⟩ := Prod.mk.inj h
        exact .cons hv (ih hrest)

/-- Where no vCPU fails, the loop does not. -/
theorem eachVcpu_of_ok {f : Vcpu V → Vcpu V × Except HypervisorError Unit}
    (hf : ∀ vcpu, (f vcpu).2 = .ok ()) (vcpus : List (Vcpu V)) :
    ∃ vcpus', eachVcpu f vcpus = (vcpus', .ok ()) := by
  induction vcpus with
  | nil => exact ⟨[], rfl⟩
  | cons vcpu vcpus ih =>
      obtain ⟨vcpus', h⟩ := ih
      have hok := hf vcpu
      rcases hv : f vcpu with ⟨vcpu', r⟩
      rw [hv] at hok
      obtain rfl : r = .ok () := hok
      exact ⟨vcpu' :: vcpus', by simp only [eachVcpu, hv, h]⟩

end MoVm
