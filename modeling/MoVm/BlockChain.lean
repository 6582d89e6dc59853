import MoVm.Block

/-!
# Chains Delivered by the Rings

What `process_queue` does with chains that a working virtqueue delivers
(`VirtioQueue.Rings`), when their buffers lie outside the rings. The device then cannot
disturb the iteration: the inner loop is a loop over the list of descriptors
(`serveList`), each iteration of the outer loop completes one chain
(`queueStep_completes`), and the loop ends when the available chains are used up
(`queueStep_done`).

The other half of the module computes what a descriptor in covered memory is decoded to.
-/

open Lib

namespace MoVm

variable {Q C F : Type} {vm : VmMemory} {hf : HostFile F} {vq : VirtioQueue Q C}
  {readOnly : Bool} {blockSize : UInt32}

/-! ### Frames -/

/-- A checked sum that is one is the sum. -/
theorem eq_of_checkedAdd {addr : UInt64} {n a : ℕ} (h : checkedAdd addr n = some a) :
    a = addr.toNat + n := by
  unfold checkedAdd at h
  split at h
  · exact (Option.some.inj h).symm
  · cases h

/-- A read request writes nothing but the data part of its buffer. -/
theorem mem_serveIn (s : ReqState F) (d : Descriptor) :
    (serveIn vm hf blockSize s d).mem.layout = s.mem.layout ∧
      ∀ a, ¬(d.addr.toNat + 16 ≤ a ∧ a < d.addr.toNat + d.len.toNat) →
        (serveIn vm hf blockSize s d).mem.bytes a = s.mem.bytes a := by
  unfold serveIn
  cases hadd : checkedAdd d.addr 16 with
  | none => exact ⟨rfl, fun _ _ => rfl⟩
  | some w =>
      refine ⟨vm.writeSlice_layout _ _ _, fun a ha => vm.writeSlice_frame _ _ _ _ ?_⟩
      rw [eq_of_checkedAdd hadd, hf.readExact_length, List.length_replicate, dataLen]
      omega

variable (vm hf readOnly blockSize) in
/-- No descriptor writes outside the data part of its buffer. -/
theorem mem_serveDesc (s : ReqState F) (d : Descriptor) :
    (serveDesc vm hf readOnly blockSize s d).state.mem.layout = s.mem.layout ∧
      ∀ a, ¬(d.addr.toNat + 16 ≤ a ∧ a < d.addr.toNat + d.len.toNat) →
        (serveDesc vm hf readOnly blockSize s d).state.mem.bytes a = s.mem.bytes a := by
  rcases serveDesc_cases vm hf readOnly blockSize s d
    with ⟨e, -, h⟩ | ⟨-, h⟩ | ⟨-, -, h⟩ | ⟨-, -, h⟩ | ⟨-, h⟩ | ⟨t, -, -, -, -, h⟩
  · rw [h]
    exact ⟨rfl, fun _ _ => rfl⟩
  · rw [h]
    exact mem_serveIn s d
  all_goals
    rw [h]
    exact ⟨rfl, fun _ _ => rfl⟩

variable (vm hf readOnly blockSize) in
/-- A descriptor whose buffer avoids the rings leaves them alone. -/
theorem sameRings_serveDesc {ring : ℕ → Prop} {m : GuestMemory} {s : ReqState F}
    {d : Descriptor} (hd : d.Avoids ring) (hs : SameRings ring m s.mem) :
    SameRings ring m (serveDesc vm hf readOnly blockSize s d).state.mem := by
  obtain ⟨hL, hb⟩ := mem_serveDesc vm hf readOnly blockSize s d
  refine hs.trans ⟨hL, fun a ha => hb a fun hmem => ?_⟩
  exact hd a (by omega) hmem.2 ha

/-! ### One chain -/

/-- The inner loop over a list of descriptors, and the status it ends with. -/
def serveList (vm : VmMemory) (hf : HostFile F) (readOnly : Bool) (blockSize : UInt32)
    (s : ReqState F) (ds : List Descriptor) : ReqState F × Except HypervisorError UInt8 :=
  match forList (serveDesc vm hf readOnly blockSize) ds s with
  | (s', none) => (s', .ok virtioBlkSOk)
  | (s', some r) => (s', r)

/-- A chain without descriptors ends with `OK`. -/
theorem serveList_nil (s : ReqState F) :
    serveList vm hf readOnly blockSize s [] = (s, .ok virtioBlkSOk) := rfl

/-- A descriptor that is gone past leaves the rest of the list to serve. -/
theorem serveList_next {s s' : ReqState F} {d : Descriptor}
    (h : serveDesc vm hf readOnly blockSize s d = .next s') (ds : List Descriptor) :
    serveList vm hf readOnly blockSize s (d :: ds) =
      serveList vm hf readOnly blockSize s' ds := by
  simp only [serveList, forList, h]

/-- A descriptor that ends the chain leaves nothing to serve. -/
theorem serveList_exit {s s' : ReqState F} {d : Descriptor}
    {r : Except HypervisorError UInt8}
    (h : serveDesc vm hf readOnly blockSize s d = .exit s' r) (ds : List Descriptor) :
    serveList vm hf readOnly blockSize s (d :: ds) = (s', r) := by
  simp only [serveList, forList, h]

/-- A chain that yields `ds` while the rings are left alone is served as the list `ds`. -/
theorem serveChain_of_yields {ring : ℕ → Prop} {s : ReqState F} {chain : C}
    {ds : List Descriptor} (hy : Yields vq.next (SameRings ring s.mem) chain ds)
    (hds : ∀ d ∈ ds, d.Avoids ring) :
    serveChain vm hf vq readOnly blockSize s chain =
      serveList vm hf readOnly blockSize s ds := by
  have hrefl := SameRings.refl ring s.mem
  have hlen : ds.length ≤ vq.ttl chain :=
    length_le_of_yields (fun _ _ _ _ h => vq.next_ttl h) hrefl hy
  have hloop := forEach_of_yields (hy.comap ReqState.mem)
    (fun _ d hd ht => sameRings_serveDesc vm hf readOnly blockSize (hds d hd) ht) hlen hrefl
  rcases hlist : forList (serveDesc vm hf readOnly blockSize) ds s with ⟨s', _ | r⟩
  all_goals
    rw [hlist] at hloop
    simp only [serveChain, serveList, hloop, hlist]

variable (vm hf readOnly blockSize) in
/-- What a chain leaves of the rings. -/
theorem sameRings_serveList {ring : ℕ → Prop} {m : GuestMemory} {s : ReqState F}
    {ds : List Descriptor} (hds : ∀ d ∈ ds, d.Avoids ring) (hs : SameRings ring m s.mem) :
    SameRings ring m (serveList vm hf readOnly blockSize s ds).1.mem := by
  induction ds generalizing s with
  | nil => exact hs
  | cons d ds ih =>
      have hstep := sameRings_serveDesc vm hf readOnly blockSize (hds d List.mem_cons_self) hs
      cases hd : serveDesc vm hf readOnly blockSize s d with
      | next s' =>
          rw [hd] at hstep
          rw [serveList_next hd]
          exact ih (fun e he => hds e (List.mem_cons_of_mem _ he)) hstep
      | exit s' r =>
          rw [hd] at hstep
          rw [serveList_exit hd]
          exact hstep

/-! ### One iteration -/

variable (vm hf readOnly blockSize) in
/-- The first available chain is served as the list of its descriptors. -/
theorem serveChain_delivered (rings : vq.Rings) {s : QueueState Q F} {h : UInt16}
    {ds : List Descriptor} {rest : List (UInt16 × List Descriptor)}
    (hready : rings.ready s.mem s.queue)
    (havail : rings.avail s.mem s.queue = (h, ds) :: rest)
    (hds : ∀ d ∈ ds, d.Avoids (rings.ring s.queue)) :
    ∃ chain q', vq.pop s.mem s.queue = .ok (some (chain, q')) ∧ vq.headIndex chain = h ∧
      serveChain vm hf vq readOnly blockSize ⟨s.mem, s.disk⟩ chain =
        serveList vm hf readOnly blockSize ⟨s.mem, s.disk⟩ ds ∧
      rings.ring q' = rings.ring s.queue ∧ rings.ready s.mem q' ∧
      rings.validHead q' h ∧ rings.avail s.mem q' = rest ∧
      rings.used q' = rings.used s.queue := by
  obtain ⟨chain, q', hpop, hhead, hy, hrest⟩ := rings.pop_cons hready havail
  exact ⟨chain, q', hpop, hhead, serveChain_of_yields (s := ⟨s.mem, s.disk⟩) hy hds, hrest⟩

/-- **An iteration completes its chain**: the inner loop runs over the chain's list of
descriptors, its status is put in the used ring, and memory outside the rings is what
the chain has left. -/
theorem queueStep_completes (rings : vq.Rings) {s : QueueState Q F} {h : UInt16}
    {ds : List Descriptor} {rest : List (UInt16 × List Descriptor)} {r : ReqState F}
    {status : UInt8} (hready : rings.ready s.mem s.queue)
    (havail : rings.avail s.mem s.queue = (h, ds) :: rest)
    (hds : ∀ d ∈ ds, d.Avoids (rings.ring s.queue))
    (hserve : serveList vm hf readOnly blockSize ⟨s.mem, s.disk⟩ ds = (r, .ok status)) :
    ∃ s', queueStep vm hf vq readOnly blockSize s = .next s' ∧ s'.disk = r.disk ∧
      s'.mem.layout = s.mem.layout ∧
      (∀ a, ¬rings.ring s.queue a → s'.mem.bytes a = r.mem.bytes a) ∧
      rings.ring s'.queue = rings.ring s.queue ∧ rings.ready s'.mem s'.queue ∧
      rings.avail s'.mem s'.queue = rest ∧
      rings.used s'.queue = rings.used s.queue ++ [(h, status.toUInt32)] := by
  obtain ⟨chain, q', hpop, hhead, hchain, hring, hready', hvalid, hrest, hused⟩ :=
    serveChain_delivered vm hf readOnly blockSize rings hready havail hds
  have hsame : SameRings (rings.ring s.queue) s.mem r.mem := by
    have h := sameRings_serveList vm hf readOnly blockSize (s := ⟨s.mem, s.disk⟩) hds
      (SameRings.refl _ s.mem)
    rwa [hserve] at h
  obtain ⟨m', q'', hadd, hL, hframe, hring', hready'', havail', hused'⟩ :=
    rings.addUsed_spec status.toUInt32 (rings.ready_congr (hring ▸ hsame) hready') hvalid
  refine ⟨⟨m', r.disk, q''⟩, ?_, rfl, hL.trans hsame.1, ?_, hring'.trans hring, hready'', ?_, ?_⟩
  · simp only [queueStep, hpop, hchain, hserve, completeChain, hhead, hadd]
  · rw [← hring]
    exact hframe
  · rw [havail', rings.avail_congr (hring ▸ hsame), hrest]
  · rw [hused', hused]

/-- An iteration whose chain fails returns the failure; the chain is not completed. -/
theorem queueStep_fails (rings : vq.Rings) {s : QueueState Q F} {h : UInt16}
    {ds : List Descriptor} {rest : List (UInt16 × List Descriptor)} {r : ReqState F}
    {e : HypervisorError} (hready : rings.ready s.mem s.queue)
    (havail : rings.avail s.mem s.queue = (h, ds) :: rest)
    (hds : ∀ d ∈ ds, d.Avoids (rings.ring s.queue))
    (hserve : serveList vm hf readOnly blockSize ⟨s.mem, s.disk⟩ ds = (r, .error e)) :
    ∃ s', queueStep vm hf vq readOnly blockSize s = .exit s' (.error e) ∧
      s'.disk = r.disk ∧ rings.used s'.queue = rings.used s.queue := by
  obtain ⟨chain, q', hpop, -, hchain, -, -, -, -, hused⟩ :=
    serveChain_delivered vm hf readOnly blockSize rings hready havail hds
  exact ⟨⟨r.mem, r.disk, q'⟩, by simp only [queueStep, hpop, hchain, hserve], rfl, hused⟩

/-- With no chain available the loop ends. -/
theorem queueStep_done (rings : vq.Rings) {s : QueueState Q F}
    (hready : rings.ready s.mem s.queue) (havail : rings.avail s.mem s.queue = []) :
    queueStep vm hf vq readOnly blockSize s = .exit s (.ok ()) := by
  simp only [queueStep, rings.pop_nil hready havail]

/-! ### Decoding covered memory -/

/-- The word the device takes for the request type. -/
def typeWord (bytes : ℕ → UInt8) (d : Descriptor) : UInt32 :=
  UInt32.ofNat (leNat (slice bytes d.addr.toNat 4))

/-- The eight bytes the device takes for the sector number, times 512. -/
def byteOffset (bytes : ℕ → UInt8) (d : Descriptor) : ℕ :=
  leNat (slice bytes d.addr.toNat 8) * 512 % 2 ^ 64

/-- The type of a descriptor that begins in guest memory is its first word. -/
theorem requestType_of_covers {m : GuestMemory} {d : Descriptor}
    (h : m.layout.Covers d.addr.toNat 4) :
    requestType vm m d = .ok (typeWord m.bytes d) := by
  have hbuf : (vm.readSlice m d.addr.toNat (List.replicate 4 0)).1 =
      slice m.bytes d.addr.toNat 4 := vm.readSlice_of_covers h
  have hok := (vm.readSlice_ok_iff m d.addr.toNat (List.replicate 4 0) (by decide)).mpr h
  rw [requestType]
  generalize vm.readSlice m d.addr.toNat (List.replicate 4 0) = p at hbuf hok
  obtain ⟨buf, res⟩ := p
  obtain rfl : buf = _ := hbuf
  obtain rfl : res = _ := hok
  rfl

/-- Otherwise the type cannot be read. -/
theorem requestType_of_not_covers {m : GuestMemory} {d : Descriptor}
    (h : ¬m.layout.Covers d.addr.toNat 4) :
    requestType vm m d = .error (.memoryError "Failed to read request type") := by
  have hok := mt (vm.readSlice_ok_iff m d.addr.toNat (List.replicate 4 0) (by decide)).mp h
  rw [requestType]
  generalize vm.readSlice m d.addr.toNat (List.replicate 4 0) = p at hok
  rcases p with ⟨buf, e | u⟩
  · rfl
  · exact absurd rfl hok

/-- The offset is computed from the first eight bytes of the descriptor. -/
theorem requestOffset_of_covers {m : GuestMemory} {d : Descriptor}
    (h : m.layout.Covers d.addr.toNat 8) :
    requestOffset vm 512 m d = byteOffset m.bytes d := by
  have hlt : leNat (slice m.bytes d.addr.toNat 8) < 2 ^ 64 := by
    have := leNat_lt (slice m.bytes d.addr.toNat 8)
    rwa [length_slice] at this
  have hbuf : (vm.readSlice m d.addr.toNat (List.replicate 8 0)).1 =
      slice m.bytes d.addr.toNat 8 := vm.readSlice_of_covers h
  rw [requestOffset, requestSector, hbuf, UInt64.toNat_mul, UInt64.toNat_ofNat',
    Nat.mod_eq_of_lt hlt]
  rfl

/-- The data of a write in covered memory. -/
theorem outData_of_covers {m : GuestMemory} {d : Descriptor}
    (h : m.layout.Covers d.addr.toNat d.len.toNat) :
    outData vm m d = slice m.bytes (d.addr.toNat + 16) (dataLen d) := by
  rw [outData]
  by_cases hlen : dataLen d = 0
  · rw [hlen]
    cases checkedAdd d.addr 16 with
    | none => rfl
    | some a => exact List.eq_nil_of_length_eq_zero (vm.readSlice_length m a [])
  · rw [dataLen] at hlen
    have hlt := (h 16 (by omega)).lt
    have hadd : checkedAdd d.addr 16 = some (d.addr.toNat + 16) := if_pos hlt
    have hcov : m.layout.Covers (d.addr.toNat + 16)
        (List.replicate (dataLen d) (0 : UInt8)).length := by
      rw [List.length_replicate, dataLen]
      exact h.mono (by omega) (by omega)
    rw [hadd]
    simp only
    rw [vm.readSlice_of_covers hcov, List.length_replicate]

/-- A read inside the disk into covered memory. -/
theorem bytes_serveIn_of_covers (hfl : hf.Faultless) {s : ReqState F} {d : Descriptor}
    (h : s.mem.layout.Covers d.addr.toNat d.len.toNat)
    (hin : dataLen d = 0 ∨
      requestOffset vm blockSize s.mem d + dataLen d ≤ (hf.content s.disk).length) :
    (serveIn vm hf blockSize s d).mem.bytes =
      patch s.mem.bytes (d.addr.toNat + 16)
        (load (hf.content s.disk) (requestOffset vm blockSize s.mem d) (dataLen d)) := by
  by_cases hlen : dataLen d = 0
  · funext a
    rw [(mem_serveIn s d).2 a (by rw [dataLen] at hlen; omega), hlen, load, List.take_zero,
      patch_nil]
  · have hin' : requestOffset vm blockSize s.mem d +
        (List.replicate (dataLen d) (0 : UInt8)).length ≤ (hf.content s.disk).length := by
      rw [List.length_replicate]
      exact hin.resolve_left hlen
    have hread := hfl.seek_read hin'
    rw [List.length_replicate] at hread
    rw [dataLen] at hlen
    have hadd : checkedAdd d.addr 16 = some (d.addr.toNat + 16) := if_pos (h 16 (by omega)).lt
    have hbuf := hf.readExact_length
      (hf.seek s.disk (requestOffset vm blockSize s.mem d)).1 (List.replicate (dataLen d) 0)
    have hcov : s.mem.layout.Covers (d.addr.toNat + 16)
        (hf.readExact (hf.seek s.disk (requestOffset vm blockSize s.mem d)).1
          (List.replicate (dataLen d) 0)).2.1.length := by
      rw [hbuf, List.length_replicate, dataLen]
      exact h.mono (by omega) (by omega)
    simp only [serveIn, hadd]
    rw [vm.writeSlice_of_covers hcov, hread]

end MoVm
