import MoVm.BlockRun

/-!
# `process_request` of the Block Device

`process_queue` does not call `process_request`: it holds a copy of its logic in which every
failure behind the request type is ignored. This module models the original, with
`handle_read` and `handle_write`, where each failure returns an error.

The two make the same calls in the same order, so where the original gets through, so does
the copy (`requestStep_agrees`), and the loops over the chain agree.

## Main results

* `processRequest_inlined`: whenever `process_request` returns a status, the loop in
  `process_queue` reaches the same state and the same status.
-/

open Lib

namespace MoVm

variable {Q C F : Type} (vm : VmMemory) (hf : HostFile F) (vq : VirtioQueue Q C)

/-! ### The requests -/

/-- `handle_read`: memory and disk afterwards, and the result. -/
def handleRead (blockSize : UInt32) (s : ReqState F) (d : Descriptor) :
    ReqState F × Except HypervisorError Unit :=
  match vm.readSlice s.mem d.addr.toNat (List.replicate 8 0) with
  | (_, .error _) => (s, .error (.memoryError "Failed to read sector"))
  | (sectorBuf, .ok ()) =>
      let sector := UInt64.ofNat (leNat sectorBuf)
      match hf.seek s.disk (sector * blockSize.toUInt64).toNat with
      | (disk, .error e) => ({ s with disk }, .error (.ioError e))
      | (disk, .ok ()) =>
          match hf.readExact disk (List.replicate (dataLen d) 0) with
          | (disk, _, .error e) => ({ s with disk }, .error (.ioError e))
          | (disk, buf, .ok ()) =>
              match checkedAdd d.addr 16 with
              | none => ({ s with disk }, .error (.memoryError "Invalid descriptor address"))
              | some writeAddr =>
                  match vm.writeSlice s.mem writeAddr buf with
                  | (mem, .error e) => ({ mem, disk }, .error (.memoryError e))
                  | (mem, .ok ()) => ({ mem, disk }, .ok ())

/-- `handle_write`. -/
def handleWrite (blockSize : UInt32) (s : ReqState F) (d : Descriptor) :
    ReqState F × Except HypervisorError Unit :=
  match vm.readSlice s.mem d.addr.toNat (List.replicate 8 0) with
  | (_, .error _) => (s, .error (.memoryError "Failed to read sector"))
  | (sectorBuf, .ok ()) =>
      let sector := UInt64.ofNat (leNat sectorBuf)
      match hf.seek s.disk (sector * blockSize.toUInt64).toNat with
      | (disk, .error e) => ({ s with disk }, .error (.ioError e))
      | (disk, .ok ()) =>
          match checkedAdd d.addr 16 with
          | none => ({ s with disk }, .error (.memoryError "Invalid descriptor address"))
          | some readAddr =>
              match vm.readSlice s.mem readAddr (List.replicate (dataLen d) 0) with
              | (_, .error e) => ({ s with disk }, .error (.memoryError e))
              | (buf, .ok ()) =>
                  match hf.writeAll disk buf with
                  | (disk, .error e) => ({ s with disk }, .error (.ioError e))
                  | (disk, .ok ()) => ({ s with disk }, .ok ())

/-- `disk.flush()`, with its error. -/
def handleFlush (s : ReqState F) : ReqState F × Except HypervisorError Unit :=
  match hf.flush s.disk with
  | (disk, .error e) => ({ s with disk }, .error (.ioError ("Failed to flush disk: " ++ e)))
  | (disk, .ok ()) => ({ s with disk }, .ok ())

/-- `?` in the loop: go on, or return the error. -/
def goOn (r : ReqState F × Except HypervisorError Unit) :
    Flow (ReqState F) (Except HypervisorError UInt8) :=
  match r with
  | (s, .ok ()) => .next s
  | (s, .error e) => .exit s (.error e)

/-- The body of the loop of `process_request`. -/
def requestStep (readOnly : Bool) (blockSize : UInt32) (s : ReqState F) (d : Descriptor) :
    Flow (ReqState F) (Except HypervisorError UInt8) :=
  match requestType vm s.mem d with
  | .error e => .exit s (.error e)
  | .ok reqType =>
      if reqType = virtioBlkTIn then goOn (handleRead vm hf blockSize s d)
      else if reqType = virtioBlkTOut then
        if readOnly then .exit s (.ok virtioBlkSIoerr)
        else goOn (handleWrite vm hf blockSize s d)
      else if reqType = virtioBlkTFlush then goOn (handleFlush hf s)
      else .exit s (.ok virtioBlkSUnsupp)

/-- `VirtioBlock::process_request`: memory and disk afterwards, and the status. -/
def VirtioBlock.processRequest (dev : VirtioBlock Q F) (chain : C) :
    ReqState F × Except HypervisorError UInt8 :=
  match forEach (fun t c => vq.next t.mem c) (requestStep vm hf dev.readOnly dev.blockSize)
      (vq.ttl chain) chain { mem := dev.config.mem, disk := dev.disk } with
  | (s, none) => (s, .ok virtioBlkSOk)
  | (s, some r) => (s, r)

/-! ### What a request can do -/

/-- Every call of a read succeeds: the sector can be read, the disk has the data, and the guest
has room for it. -/
def ReadsThrough (vm : VmMemory) (hf : HostFile F) (blockSize : UInt32)
    (x : ReqState F × Descriptor) : Prop :=
  let sought := hf.seek x.1.disk (requestOffset vm blockSize x.1.mem x.2)
  let got := hf.readExact sought.1 (List.replicate (dataLen x.2) 0)
  (vm.readSlice x.1.mem x.2.addr.toNat (List.replicate 8 0)).2 = .ok () ∧
    sought.2 = .ok () ∧ got.2.2 = .ok () ∧
    ∃ writeAddr, checkedAdd x.2.addr 16 = some writeAddr ∧
      (vm.writeSlice x.1.mem writeAddr got.2.1).2 = .ok ()

/-- Every call of a write succeeds: the sector and the data can be read, and the disk takes
them. -/
def WritesThrough (vm : VmMemory) (hf : HostFile F) (blockSize : UInt32)
    (x : ReqState F × Descriptor) : Prop :=
  let sought := hf.seek x.1.disk (requestOffset vm blockSize x.1.mem x.2)
  (vm.readSlice x.1.mem x.2.addr.toNat (List.replicate 8 0)).2 = .ok () ∧
    sought.2 = .ok () ∧
    ∃ readAddr, checkedAdd x.2.addr 16 = some readAddr ∧
      (vm.readSlice x.1.mem readAddr (List.replicate (dataLen x.2) 0)).2 = .ok () ∧
      (hf.writeAll sought.1 (outData vm x.1.mem x.2)).2 = .ok ()

/-- **A read**: the sector cannot be read and nothing happens; a later call fails, and the file is
where `seek` or `read_exact` left it; or all calls succeed, and the copy does the same. -/
theorem handleRead_cases (blockSize : UInt32) (s : ReqState F) (d : Descriptor) :
    ((vm.readSlice s.mem d.addr.toNat (List.replicate 8 0)).2 ≠ .ok () ∧
        ∃ e, handleRead vm hf blockSize s d = (s, .error e)) ∨
      ((vm.readSlice s.mem d.addr.toNat (List.replicate 8 0)).2 = .ok () ∧
        ¬ReadsThrough vm hf blockSize (s, d) ∧
        ∃ e t, handleRead vm hf blockSize s d = (t, .error e) ∧
          (t.disk = (hf.seek s.disk (requestOffset vm blockSize s.mem d)).1 ∨
            t.disk = (hf.readExact (hf.seek s.disk (requestOffset vm blockSize s.mem d)).1
              (List.replicate (dataLen d) 0)).1)) ∨
      (ReadsThrough vm hf blockSize (s, d) ∧
        handleRead vm hf blockSize s d = (serveIn vm hf blockSize s d, .ok ())) := by
  simp only [handleRead, ReadsThrough, requestOffset, requestSector]
  rcases hsector : vm.readSlice s.mem d.addr.toNat (List.replicate 8 0) with ⟨sectorBuf, e | ⟨⟩⟩
  · exact .inl ⟨by simp, _, rfl⟩
  refine .inr ?_
  simp only [true_and]
  rcases hseek : hf.seek s.disk (UInt64.ofNat (leNat sectorBuf) * blockSize.toUInt64).toNat
    with ⟨disk, e | ⟨⟩⟩
  · exact .inl ⟨by simp, _, _, rfl, .inl rfl⟩
  simp only [true_and]
  rcases hread : hf.readExact disk (List.replicate (dataLen d) 0) with ⟨disk', buf, e | ⟨⟩⟩
  · exact .inl ⟨by simp, _, _, rfl, .inr rfl⟩
  simp only [true_and]
  rcases haddr : checkedAdd d.addr 16 with _ | writeAddr
  · exact .inl ⟨by simp, _, _, rfl, .inr rfl⟩
  simp only [Option.some.injEq, exists_eq_left']
  rcases hwrite : vm.writeSlice s.mem writeAddr buf with ⟨mem, e | ⟨⟩⟩
  · exact .inl ⟨by simp, _, _, rfl, .inr rfl⟩
  · refine .inr ⟨rfl, ?_⟩
    simp only [serveIn, requestOffset, requestSector, hsector, hseek, hread, haddr, hwrite]

/-- **A write**, likewise. -/
theorem handleWrite_cases (blockSize : UInt32) (s : ReqState F) (d : Descriptor) :
    ((vm.readSlice s.mem d.addr.toNat (List.replicate 8 0)).2 ≠ .ok () ∧
        ∃ e, handleWrite vm hf blockSize s d = (s, .error e)) ∨
      ((vm.readSlice s.mem d.addr.toNat (List.replicate 8 0)).2 = .ok () ∧
        ¬WritesThrough vm hf blockSize (s, d) ∧
        ∃ e t, handleWrite vm hf blockSize s d = (t, .error e) ∧
          (t.disk = (hf.seek s.disk (requestOffset vm blockSize s.mem d)).1 ∨
            t.disk = (hf.writeAll (hf.seek s.disk (requestOffset vm blockSize s.mem d)).1
              (outData vm s.mem d)).1)) ∨
      (WritesThrough vm hf blockSize (s, d) ∧
        handleWrite vm hf blockSize s d = (serveOut vm hf blockSize s d, .ok ())) := by
  simp only [handleWrite, WritesThrough, serveOut, requestOffset, requestSector, outData]
  rcases vm.readSlice s.mem d.addr.toNat (List.replicate 8 0) with ⟨sectorBuf, e | ⟨⟩⟩
  · exact .inl ⟨by simp, _, rfl⟩
  refine .inr ?_
  simp only [true_and]
  rcases hf.seek s.disk (UInt64.ofNat (leNat sectorBuf) * blockSize.toUInt64).toNat
    with ⟨disk, e | ⟨⟩⟩
  · exact .inl ⟨by simp, _, _, rfl, .inl rfl⟩
  simp only [true_and]
  rcases checkedAdd d.addr 16 with _ | readAddr
  · exact .inl ⟨by simp, _, _, rfl, .inl rfl⟩
  simp only [Option.some.injEq, exists_eq_left']
  rcases vm.readSlice s.mem readAddr (List.replicate (dataLen d) 0) with ⟨buf, e | ⟨⟩⟩
  · exact .inl ⟨by simp, _, _, rfl, .inl rfl⟩
  simp only [true_and]
  rcases hf.writeAll disk buf with ⟨disk', e | ⟨⟩⟩
  · exact .inl ⟨by simp, _, _, rfl, .inr rfl⟩
  · exact .inr ⟨rfl, rfl⟩

variable {vm hf vq} {blockSize : UInt32} {s s' : ReqState F} {d : Descriptor}

/-! ### The copies -/

/-- A read that gets through is what the copy does. -/
theorem handleRead_ok (h : handleRead vm hf blockSize s d = (s', .ok ())) :
    s' = serveIn vm hf blockSize s d := by
  rcases handleRead_cases vm hf blockSize s d with ⟨-, e, h'⟩ | ⟨-, -, e, t, h', -⟩ | ⟨-, h'⟩
  · cases h'.symm.trans h
  · cases h'.symm.trans h
  · exact (Prod.mk.inj (h.symm.trans h')).1

/-- A write that gets through is what the copy does. -/
theorem handleWrite_ok (h : handleWrite vm hf blockSize s d = (s', .ok ())) :
    s' = serveOut vm hf blockSize s d := by
  rcases handleWrite_cases vm hf blockSize s d with ⟨-, e, h'⟩ | ⟨-, -, e, t, h', -⟩ | ⟨-, h'⟩
  · cases h'.symm.trans h
  · cases h'.symm.trans h
  · exact (Prod.mk.inj (h.symm.trans h')).1

theorem handleFlush_ok (h : handleFlush hf s = (s', .ok ())) :
    s' = { s with disk := (hf.flush s.disk).1 } := by
  unfold handleFlush at h
  rcases h₁ : hf.flush s.disk with ⟨disk, e | u⟩
  · simp only [h₁] at h
    cases (Prod.mk.inj h).2
  · simp only [h₁] at h
    exact (Prod.mk.inj h).1.symm

theorem goOn_next {r : ReqState F × Except HypervisorError Unit} (h : goOn r = .next s') :
    r = (s', .ok ()) := by
  rcases r with ⟨t, e | u⟩
  · cases h
  · obtain rfl := Flow.next.inj h
    rfl

theorem goOn_exit {r : ReqState F × Except HypervisorError Unit} {status : UInt8} :
    goOn r ≠ .exit s' (.ok status) := by
  rcases r with ⟨t, e | u⟩
  · exact fun h => nomatch h
  · exact fun h => nomatch h

/-- **One request**: where the original goes on, or breaks with a status, the copy does the
same. -/
theorem requestStep_agrees (vm : VmMemory) (hf : HostFile F) (readOnly : Bool)
    (blockSize : UInt32) (s : ReqState F) (d : Descriptor) :
    (∀ s', requestStep vm hf readOnly blockSize s d = .next s' →
        serveDesc vm hf readOnly blockSize s d = .next s') ∧
      ∀ s' status, requestStep vm hf readOnly blockSize s d = .exit s' (.ok status) →
        serveDesc vm hf readOnly blockSize s d = .exit s' (.ok status) := by
  unfold requestStep serveDesc
  cases requestType vm s.mem d with
  | error e => exact ⟨fun s' h => (nomatch h), fun s' status h => (nomatch h)⟩
  | ok t =>
      simp only
      split
      · refine ⟨fun s' h => ?_, fun s' status h => absurd h goOn_exit⟩
        rw [handleRead_ok (goOn_next h)]
      split
      · split
        · exact ⟨fun s' h => h, fun s' status h => h⟩
        · refine ⟨fun s' h => ?_, fun s' status h => absurd h goOn_exit⟩
          rw [handleWrite_ok (goOn_next h)]
      split
      · refine ⟨fun s' h => ?_, fun s' status h => absurd h goOn_exit⟩
        rw [handleFlush_ok (goOn_next h)]
      · exact ⟨fun s' h => h, fun s' status h => h⟩

/-! ### The chain -/

/-- **The copy agrees with `process_request`**: whenever `process_request` returns a status for a
chain, the loop in `process_queue` on the same chain and state ends with the same status, the
same disk and the same memory, and it is this status that the chain is completed with. -/
theorem processRequest_inlined {dev : VirtioBlock Q F} {chain : C} {status : UInt8}
    (h : dev.processRequest vm hf vq chain = (s', .ok status)) :
    serveChain vm hf vq dev.readOnly dev.blockSize ⟨dev.config.mem, dev.disk⟩ chain =
        (s', .ok status) ∧
      ∀ queue queue', vq.pop dev.config.mem queue = .ok (some (chain, queue')) →
        queueStep vm hf vq dev.readOnly dev.blockSize (dev.queueState queue) =
          completeChain vq s' queue' (vq.headIndex chain) status := by
  have hagrees := requestStep_agrees vm hf dev.readOnly dev.blockSize
  have hchain : serveChain vm hf vq dev.readOnly dev.blockSize ⟨dev.config.mem, dev.disk⟩ chain =
      (s', .ok status) := by
    unfold VirtioBlock.processRequest at h
    rcases hloop : forEach (fun t c => vq.next t.mem c)
      (requestStep vm hf dev.readOnly dev.blockSize) (vq.ttl chain) chain
      ⟨dev.config.mem, dev.disk⟩ with ⟨t, r⟩
    have hgood : ∀ x ∈ r, ∃ st, x = .ok st := by
      intro x hx
      obtain rfl : r = some x := hx
      simp only [hloop] at h
      exact ⟨status, (Prod.mk.inj h).2⟩
    have hexit : ∀ (s : ReqState F) (d : Descriptor) s' x,
        requestStep vm hf dev.readOnly dev.blockSize s d = .exit s' x → (∃ st, x = .ok st) →
        serveDesc vm hf dev.readOnly dev.blockSize s d = .exit s' x := by
      rintro s d s' x hx ⟨st, rfl⟩
      exact (hagrees s d).2 s' st hx
    have hcopy := forEach_agrees (fun x => ∃ st, x = .ok st) (fun s d => (hagrees s d).1) hexit
      hloop hgood
    rw [serveChain, hcopy]
    rw [hloop] at h
    exact h
  refine ⟨hchain, fun queue queue' hpop => ?_⟩
  simp only [queueStep, VirtioBlock.queueState, hpop, hchain]

/-- One `OUT` request of one byte, to an image of 514 bytes: both return the status `OK`. -/
theorem processRequest_inlined_oneByte :
    ∃ s', (oneByteDevice (List.replicate 514 7) false).processRequest VmMemory.mmap
        (DiskFile.host []) ScriptedQueue.queue ⟨0, [oneByteDesc]⟩ = (s', .ok virtioBlkSOk) ∧
      serveChain VmMemory.mmap (DiskFile.host []) ScriptedQueue.queue false 512
        ⟨GuestMemory.page [1], ⟨List.replicate 514 7, 0⟩⟩ ⟨0, [oneByteDesc]⟩ =
          (s', .ok virtioBlkSOk) := by
  obtain ⟨s', h⟩ : ∃ s', (oneByteDevice (List.replicate 514 7) false).processRequest VmMemory.mmap
      (DiskFile.host []) ScriptedQueue.queue ⟨0, [oneByteDesc]⟩ = (s', .ok virtioBlkSOk) :=
    ⟨_, rfl⟩
  exact ⟨s', h, (processRequest_inlined h).1⟩

end MoVm
