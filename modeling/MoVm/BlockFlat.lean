import MoVm.BlockChain
import MoVm.BlockRun

/-!
# The Block Device as a Flat Array of Bytes

What a disk is for: an array of bytes that returns what was last stored. `FlatDisk` states
this over the stores made so far, and `FlatState.serve` is the meaning of a request under
the virtio header layout, type, reserved word and sector at offsets 0, 4 and 8, with the
data from offset 16.

The device decodes the sector from offset 0 instead, where the type and the reserved word
are. `SectorDecoded` is the condition under which this comes to the same, and under it
the device refines the flat disk: `serveDesc_flat` for one request, `loop_flat` for a
call, and `flatDisk_run` for every run. `readsWrongSector` is a request that does not
meet the condition and is answered with the wrong bytes.
-/

open Lib

namespace MoVm

variable {Q C F : Type} {vm : VmMemory} {hf : HostFile F} {vq : VirtioQueue Q C}

/-! ### The flat disk -/

/-- A disk given by its initial content and the stores made since, oldest first. -/
structure FlatDisk where
  initial : List UInt8
  stores : List (ℕ × List UInt8)

namespace FlatDisk

/-- The byte last stored at `o`, or the initial one. -/
def byteAt (k : FlatDisk) (o : ℕ) : UInt8 :=
  (lastWrite k.stores o).getD (k.initial.getD o 0)

def read (k : FlatDisk) (o n : ℕ) : List UInt8 :=
  slice k.byteAt o n

def write (k : FlatDisk) (o : ℕ) (data : List UInt8) : FlatDisk :=
  { k with stores := k.stores ++ [(o, data)] }

theorem byteAt_eq_patches (k : FlatDisk) :
    k.byteAt = patches (fun o => k.initial.getD o 0) k.stores := by
  funext o
  rw [patches_apply]
  rfl

/-- A store changes the bytes it covers and no others. -/
theorem byteAt_write (k : FlatDisk) (o : ℕ) (data : List UInt8) :
    (k.write o data).byteAt = patch k.byteAt o data := by
  rw [byteAt_eq_patches, byteAt_eq_patches, write, patches_append, patches_cons, patches_nil]

end FlatDisk

/-! ### Requests -/

/-- The header of a virtio block request. -/
structure Header where
  type : UInt32
  reserved : UInt32
  sector : UInt64

/-- The header at address `a`: two words and a double word, little endian. -/
def Header.read (bytes : ℕ → UInt8) (a : ℕ) : Header where
  type := UInt32.ofNat (leNat (slice bytes a 4))
  reserved := UInt32.ofNat (leNat (slice bytes (a + 4) 4))
  sector := UInt64.ofNat (leNat (slice bytes (a + 8) 8))

/-- The byte of the disk a request addresses. -/
def Header.offset (h : Header) : ℕ :=
  h.sector.toNat * 512

/-- The guest's memory and the disk. -/
structure FlatState where
  mem : ℕ → UInt8
  disk : FlatDisk

/-- The meaning of a request of one descriptor. -/
def FlatState.serve (s : FlatState) (d : Descriptor) : FlatState :=
  let h := Header.read s.mem d.addr.toNat
  if h.type = virtioBlkTIn then
    { s with mem := patch s.mem (d.addr.toNat + 16) (s.disk.read h.offset (dataLen d)) }
  else if h.type = virtioBlkTOut then
    { s with disk := s.disk.write h.offset (slice s.mem (d.addr.toNat + 16) (dataLen d)) }
  else s

/-- A read or a write in the layout of one descriptor: a header and then data, in covered
memory outside the rings, that addresses bytes inside a disk of the given size. -/
structure FlatRequest (size : ℕ) (L : Layout) (ring : ℕ → Prop) (bytes : ℕ → UInt8)
    (d : Descriptor) : Prop where
  header : 16 ≤ d.len.toNat
  covered : L.Covers d.addr.toNat d.len.toNat
  avoids : d.Avoids ring
  type : (Header.read bytes d.addr.toNat).type = virtioBlkTIn ∨
    (Header.read bytes d.addr.toNat).type = virtioBlkTOut
  inside : (Header.read bytes d.addr.toNat).offset + dataLen d ≤ size

/-- What the device takes for the byte offset, the double word at offset 0, is that of
the header; or there is no data to transfer. -/
def SectorDecoded (bytes : ℕ → UInt8) (d : Descriptor) : Prop :=
  dataLen d = 0 ∨
    ((Header.read bytes d.addr.toNat).type.toNat +
        2 ^ 32 * (Header.read bytes d.addr.toNat).reserved.toNat) * 512 % 2 ^ 64 =
      (Header.read bytes d.addr.toNat).offset

theorem Header.read_congr {f g : ℕ → UInt8} {a : ℕ} (h : ∀ i < 16, f (a + i) = g (a + i)) :
    Header.read f a = Header.read g a := by
  have h4 : slice f a 4 = slice g a 4 := slice_congr fun i hi => h i (by omega)
  have h8 : slice f (a + 4) 4 = slice g (a + 4) 4 := slice_congr fun i hi => by
    rw [Nat.add_assoc]
    exact h (4 + i) (by omega)
  have h16 : slice f (a + 8) 8 = slice g (a + 8) 8 := slice_congr fun i hi => by
    rw [Nat.add_assoc]
    exact h (8 + i) (by omega)
  rw [Header.read, Header.read, h4, h8, h16]

/-- The double word the device decodes is made of the type and the reserved word. -/
theorem byteOffset_eq_header (bytes : ℕ → UInt8) (d : Descriptor) :
    byteOffset bytes d =
      ((Header.read bytes d.addr.toNat).type.toNat +
        2 ^ 32 * (Header.read bytes d.addr.toNat).reserved.toNat) * 512 % 2 ^ 64 := by
  have hword : ∀ a, (UInt32.ofNat (leNat (slice bytes a 4))).toNat = leNat (slice bytes a 4) := by
    intro a
    have hlt := leNat_lt (slice bytes a 4)
    rw [length_slice] at hlt
    rw [UInt32.toNat_ofNat', Nat.mod_eq_of_lt (by omega)]
  have hsplit : leNat (slice bytes d.addr.toNat 8) = leNat (slice bytes d.addr.toNat 4) +
      256 ^ 4 * leNat (slice bytes (d.addr.toNat + 4) 4) := by
    rw [slice_add bytes d.addr.toNat 4 4, leNat_append, length_slice]
  simp only [byteOffset, Header.read, hword]
  omega

/-! ### One request -/

/-- Device memory and disk agree with the flat state, up to the rings. -/
structure Represents (hf : HostFile F) (ring : ℕ → Prop) (L : Layout) (t : ReqState F)
    (s : FlatState) : Prop where
  layout : t.mem.layout = L
  mem : ∀ a, ¬ring a → t.mem.bytes a = s.mem a
  size : (hf.content t.disk).length = s.disk.initial.length
  disk : ∀ o, (hf.content t.disk).getD o 0 = s.disk.byteAt o

section OneRequest

variable {ring : ℕ → Prop} {L : Layout} {t : ReqState F} {s : FlatState} {d : Descriptor}

theorem Represents.slice_eq (hrep : Represents hf ring L t s) (hd : d.Avoids ring) {i n : ℕ}
    (hin : i + n ≤ d.len.toNat) :
    slice t.mem.bytes (d.addr.toNat + i) n = slice s.mem (d.addr.toNat + i) n :=
  slice_congr fun j _ => hrep.mem _ (hd _ (by omega) (by omega))

theorem Represents.header_eq (hrep : Represents hf ring L t s) (hd : d.Avoids ring)
    (hlen : 16 ≤ d.len.toNat) :
    Header.read t.mem.bytes d.addr.toNat = Header.read s.mem d.addr.toNat :=
  Header.read_congr fun i hi => hrep.mem _ (hd _ (by omega) (by omega))

/-- The device finds the type the header has. -/
theorem Represents.requestType_eq (vm : VmMemory) (hrep : Represents hf ring L t s)
    (hd : FlatRequest s.disk.initial.length L ring s.mem d) :
    requestType vm t.mem d = .ok (Header.read s.mem d.addr.toNat).type := by
  have hcov : t.mem.layout.Covers d.addr.toNat 4 :=
    hrep.layout ▸ hd.covered.mono (Nat.le_refl _) (by have := hd.header; omega)
  rw [requestType_of_covers hcov, ← hrep.header_eq hd.avoids hd.header]
  rfl

/-- Under the condition the device finds the offset the header has. -/
theorem Represents.requestOffset_eq (vm : VmMemory) (hrep : Represents hf ring L t s)
    (hd : FlatRequest s.disk.initial.length L ring s.mem d) (hsec : SectorDecoded s.mem d) :
    dataLen d = 0 ∨
      requestOffset vm 512 t.mem d = (Header.read s.mem d.addr.toNat).offset := by
  have hcov : t.mem.layout.Covers d.addr.toNat 8 :=
    hrep.layout ▸ hd.covered.mono (Nat.le_refl _) (by have := hd.header; omega)
  refine hsec.imp_right fun hsec => ?_
  rw [requestOffset_of_covers hcov, byteOffset_eq_header,
    hrep.header_eq hd.avoids hd.header, hsec]

/-- Reading puts the bytes of the flat disk into the guest's buffer. -/
theorem Represents.serveIn (hrep : Represents hf ring L t s) (hfl : hf.Faultless)
    (hd : FlatRequest s.disk.initial.length L ring s.mem d) (hsec : SectorDecoded s.mem d) :
    Represents hf ring L (serveIn vm hf 512 t d)
      { s with
        mem := patch s.mem (d.addr.toNat + 16)
          (s.disk.read (Header.read s.mem d.addr.toNat).offset (dataLen d)) } := by
  have hoff := hrep.requestOffset_eq vm hd hsec
  have hdisk := hrep.disk
  have hsize := hrep.size
  have hinside := hd.inside
  have hcov : t.mem.layout.Covers d.addr.toNat d.len.toNat := hrep.layout ▸ hd.covered
  have hin : dataLen d = 0 ∨
      requestOffset vm 512 t.mem d + dataLen d ≤ (hf.content t.disk).length :=
    hoff.imp_right fun h => by rw [h, hsize]; exact hinside
  -- what is read is what the flat disk holds
  have hload : load (hf.content t.disk) (requestOffset vm 512 t.mem d) (dataLen d) =
      s.disk.read (Header.read s.mem d.addr.toNat).offset (dataLen d) := by
    rcases hoff with h0 | hoff
    · rw [h0, load, List.take_zero, FlatDisk.read, slice_zero]
    · rw [hoff, load_eq_slice (by rw [hsize]; exact hinside)]
      exact slice_congr fun i _ => hdisk _
  refine ⟨(mem_serveIn t d).1.trans hrep.layout, fun a ha => ?_, ?_, fun o => ?_⟩
  · rw [bytes_serveIn_of_covers hfl hcov hin, hload]
    simp only [patch, hrep.mem a ha]
  · rw [content_serveIn, hsize]
  · rw [content_serveIn]
    exact hdisk o

/-- Writing stores the guest's data at the header's offset. -/
theorem Represents.serveOut (hrep : Represents hf ring L t s) (hfl : hf.Faultless)
    (hd : FlatRequest s.disk.initial.length L ring s.mem d) (hsec : SectorDecoded s.mem d) :
    Represents hf ring L (serveOut vm hf 512 t d)
      { s with
        disk := s.disk.write (Header.read s.mem d.addr.toNat).offset
          (slice s.mem (d.addr.toNat + 16) (dataLen d)) } := by
  have hoff := hrep.requestOffset_eq vm hd hsec
  have hinside := hd.inside
  have hheader := hd.header
  have hcov : t.mem.layout.Covers d.addr.toNat d.len.toNat := hrep.layout ▸ hd.covered
  have hdata : outData vm t.mem d = slice s.mem (d.addr.toNat + 16) (dataLen d) := by
    rw [outData_of_covers hcov, hrep.slice_eq hd.avoids (by rw [dataLen]; omega)]
  have hcontent : hf.content (MoVm.serveOut vm hf 512 t d).disk =
      store (hf.content t.disk) (Header.read s.mem d.addr.toNat).offset
        (slice s.mem (d.addr.toNat + 16) (dataLen d)) := by
    rw [MoVm.serveOut, hfl.seek_write, hdata]
    rcases hoff with h0 | hoff
    · rw [h0, slice_zero, store_nil, store_nil]
    · rw [hoff]
  refine ⟨hrep.layout, hrep.mem, ?_, fun o => ?_⟩
  · rw [hcontent, length_store_of_le (by rw [length_slice, hrep.size]; exact hinside)]
    exact hrep.size
  · rw [hcontent, getD_store, FlatDisk.byteAt_write]
    simp only [patch, hrep.disk]

/-- **One request refines the flat disk.** -/
theorem serveDesc_flat (vm : VmMemory) (hrep : Represents hf ring L t s) (hfl : hf.Faultless)
    (hd : FlatRequest s.disk.initial.length L ring s.mem d) (hsec : SectorDecoded s.mem d) :
    ∃ t', serveDesc vm hf false 512 t d = .next t' ∧ Represents hf ring L t' (s.serve d) := by
  have ht := hrep.requestType_eq vm hd
  rcases hd.type with htype | htype
  · refine ⟨serveIn vm hf 512 t d, ?_, ?_⟩
    · rw [serveDesc, ht, htype]
      rfl
    · rw [FlatState.serve, if_pos htype]
      exact hrep.serveIn hfl hd hsec
  · refine ⟨serveOut vm hf 512 t d, ?_, ?_⟩
    · rw [serveDesc, ht, htype]
      rfl
    · rw [FlatState.serve, if_neg (by rw [htype]; decide), if_pos htype]
      exact hrep.serveOut hfl hd hsec

end OneRequest

/-! ### One call -/

/-- The requests `ds`, each met in the state the ones before have left, are all well
formed and satisfy `cond`. -/
def Served (cond : (ℕ → UInt8) → Descriptor → Prop) (size : ℕ) (L : Layout)
    (ring : ℕ → Prop) : FlatState → List Descriptor → Prop
  | _, [] => True
  | s, d :: ds =>
      FlatRequest size L ring s.mem d ∧ cond s.mem d ∧ Served cond size L ring (s.serve d) ds

theorem FlatState.initial_serve (s : FlatState) (d : Descriptor) :
    (s.serve d).disk.initial = s.disk.initial := by
  unfold FlatState.serve
  simp only
  split
  · rfl
  · split <;> rfl

theorem FlatState.initial_foldl_serve (s : FlatState) (ds : List Descriptor) :
    (ds.foldl FlatState.serve s).disk.initial = s.disk.initial := by
  induction ds generalizing s with
  | nil => rfl
  | cons d ds ih => rw [List.foldl_cons, ih, s.initial_serve]

/-- **One call refines the flat disk**: the outer loop serves the available requests in
order and ends. -/
theorem loop_flat (vm : VmMemory) (rings : vq.Rings) (hfl : hf.Faultless) {L : Layout}
    {ring : ℕ → Prop} {requests : List (UInt16 × Descriptor)} {q : QueueState Q F}
    {s : FlatState} {fuel : ℕ}
    (hring : rings.ring q.queue = ring) (hready : rings.ready q.mem q.queue)
    (havail : rings.avail q.mem q.queue = requests.map fun x => (x.1, [x.2]))
    (hrep : Represents hf ring L ⟨q.mem, q.disk⟩ s)
    (hserved : Served SectorDecoded s.disk.initial.length L ring s (requests.map Prod.snd))
    (hfuel : requests.length < fuel) :
    ∃ q', loop (queueStep vm hf vq false 512) fuel q = (q', some (.ok ())) ∧
      Represents hf ring L ⟨q'.mem, q'.disk⟩
        ((requests.map Prod.snd).foldl FlatState.serve s) := by
  induction requests generalizing q s fuel with
  | nil =>
      obtain ⟨n, rfl⟩ : ∃ n, fuel = n + 1 := ⟨fuel - 1, by rw [List.length_nil] at hfuel; omega⟩
      exact ⟨q, loop_exit (queueStep_done rings hready havail) n, hrep⟩
  | cons x requests ih =>
      obtain ⟨h, d⟩ := x
      obtain ⟨n, rfl⟩ : ∃ n, fuel = n + 1 := ⟨fuel - 1, by rw [List.length_cons] at hfuel; omega⟩
      obtain ⟨hd, hsec, hserved⟩ := hserved
      obtain ⟨t, hserve, hrep'⟩ := serveDesc_flat vm hrep hfl hd hsec
      have hlist : serveList vm hf false 512 ⟨q.mem, q.disk⟩ [d] = (t, .ok virtioBlkSOk) := by
        rw [serveList_next hserve, serveList_nil]
      obtain ⟨q', hstep, hdisk, hL, hmem, hring', hready', havail', -⟩ :=
        queueStep_completes rings hready havail
          (by rw [hring]; exact List.forall_mem_singleton.mpr hd.avoids) hlist
      rw [loop_next hstep]
      rw [List.length_cons] at hfuel
      refine ih (hring'.trans hring) hready' havail' ?_ ?_ (by omega)
      · refine ⟨hL.trans hrep.layout, fun a ha => ?_, ?_, fun o => ?_⟩
        · exact (hmem a (hring ▸ ha)).trans (hrep'.mem a ha)
        · exact hdisk ▸ hrep'.size
        · exact hdisk ▸ hrep'.disk o
      · rw [s.initial_serve]
        exact hserved

/-! ### Runs -/

/-- What the guest does before a notification: its memory, the queue with the requests it
makes available, and the device's other queues. -/
structure Round (Q : Type) where
  mem : GuestMemory
  queue : Q
  rest : List Q
  requests : List (UInt16 × Descriptor)

namespace Round

/-- The device as the notification finds it. -/
def deliver (r : Round Q) (dev : VirtioBlock Q F) : VirtioBlock Q F :=
  dev.offer r.mem (r.queue :: r.rest)

/-- What the requests of the round mean. -/
def after (r : Round Q) (disk : FlatDisk) : FlatState :=
  (r.requests.map Prod.snd).foldl FlatState.serve ⟨r.mem.bytes, disk⟩

/-- The queue delivers the round's requests, each a chain of one descriptor, and they are
well formed and satisfy `cond`. -/
structure Ok (rings : vq.Rings) (cond : (ℕ → UInt8) → Descriptor → Prop) (r : Round Q)
    (disk : FlatDisk) : Prop where
  ready : rings.ready r.mem r.queue
  avail : rings.avail r.mem r.queue = r.requests.map fun x => (x.1, [x.2])
  served : Served cond disk.initial.length r.mem.layout (rings.ring r.queue)
    ⟨r.mem.bytes, disk⟩ (r.requests.map Prod.snd)

end Round

/-- Runs of rounds, with the flat state they mean. -/
inductive FlatRun (vm : VmMemory) (hf : HostFile F) (rings : vq.Rings)
    (cond : (ℕ → UInt8) → Descriptor → Prop) (dev₀ : VirtioBlock Q F) :
    VirtioBlock Q F → FlatDisk → Prop
  | start : FlatRun vm hf rings cond dev₀ dev₀ ⟨hf.content dev₀.disk, []⟩
  | round {dev : VirtioBlock Q F} {disk : FlatDisk}
      (h : FlatRun vm hf rings cond dev₀ dev disk) (r : Round Q) (hr : r.Ok rings cond disk)
      (fuel : ℕ) (hfuel : r.requests.length < fuel) :
      FlatRun vm hf rings cond dev₀
        (VirtioBlock.processQueue vm hf vq fuel (r.deliver dev) 0).1 (r.after disk).disk

/-- A round on a device whose disk agrees with a flat disk. -/
theorem Round.processQueue_flat (rings : vq.Rings) (hfl : hf.Faultless)
    {dev : VirtioBlock Q F} {disk : FlatDisk} (hro : dev.readOnly = false)
    (hbs : dev.blockSize = 512) (hsize : (hf.content dev.disk).length = disk.initial.length)
    (hdisk : ∀ o, (hf.content dev.disk).getD o 0 = disk.byteAt o) {r : Round Q}
    (hr : r.Ok rings SectorDecoded disk) {fuel : ℕ} (hfuel : r.requests.length < fuel) :
    ∃ dev' result,
      VirtioBlock.processQueue vm hf vq fuel (r.deliver dev) 0 = (dev', some result) ∧
      (hf.content dev'.disk).length = disk.initial.length ∧
      (∀ o, (hf.content dev'.disk).getD o 0 = (r.after disk).disk.byteAt o) ∧
      ∀ a, ¬rings.ring r.queue a → dev'.config.mem.bytes a = (r.after disk).mem a := by
  have hrep : Represents hf (rings.ring r.queue) r.mem.layout
      ⟨r.mem, dev.disk⟩ ⟨r.mem.bytes, disk⟩ := ⟨rfl, fun _ _ => rfl, hsize, hdisk⟩
  obtain ⟨q', hloop, hrep'⟩ := loop_flat vm (q := ⟨r.mem, dev.disk, r.queue⟩) rings hfl
    rfl hr.ready hr.avail hrep hr.served hfuel
  have hq : (r.deliver dev).config.queues = r.queue :: r.rest := rfl
  obtain ⟨evt, result, hpq, hsome⟩ := VirtioBlock.processQueue_of_queue vm hf vq hq fuel
  have hstart : (r.deliver dev).queueState r.queue = ⟨r.mem, dev.disk, r.queue⟩ := rfl
  have hsetup : (r.deliver dev).readOnly = false ∧ (r.deliver dev).blockSize = 512 := ⟨hro, hbs⟩
  rw [hstart, hsetup.1, hsetup.2, hloop] at hpq hsome
  obtain ⟨res, rfl⟩ := Option.isSome_iff_exists.mp hsome
  refine ⟨_, res, hpq, ?_, hrep'.disk, hrep'.mem⟩
  exact hrep'.size.trans (by rw [FlatState.initial_foldl_serve])

/-- **Refinement of the flat disk**: along every run whose requests meet the condition,
the image agrees with the flat disk byte by byte, and the next round returns, stores at
the header's sector and nowhere else, and fills the guest's buffers with the bytes last
stored there. -/
theorem flatDisk_run (rings : vq.Rings) (hfl : hf.Faultless) {evt : Except String EventFd}
    {mem : GuestMemory} {guestMem : UInt64} {irq : UInt32} {path : String}
    {dev₀ dev : VirtioBlock Q F} {disk : FlatDisk}
    (hnew : VirtioBlock.new hf vq evt mem guestMem irq path false = .ok dev₀)
    (hrun : FlatRun vm hf rings SectorDecoded dev₀ dev disk) :
    (hf.content dev.disk).length = (hf.content dev₀.disk).length ∧
      (∀ o, (hf.content dev.disk).getD o 0 = disk.byteAt o) ∧
      ∀ (r : Round Q) (fuel : ℕ), r.Ok rings SectorDecoded disk → r.requests.length < fuel →
        ∃ dev' result,
          VirtioBlock.processQueue vm hf vq fuel (r.deliver dev) 0 = (dev', some result) ∧
          (hf.content dev'.disk).length = (hf.content dev₀.disk).length ∧
          (∀ o, (hf.content dev'.disk).getD o 0 = (r.after disk).disk.byteAt o) ∧
          ∀ a, ¬rings.ring r.queue a → dev'.config.mem.bytes a = (r.after disk).mem a := by
  obtain ⟨hro₀, hbs₀, -⟩ := VirtioBlock.new_spec hnew
  have hinv : dev.readOnly = false ∧ dev.blockSize = 512 ∧
      disk.initial = hf.content dev₀.disk ∧
      (hf.content dev.disk).length = disk.initial.length ∧
      ∀ o, (hf.content dev.disk).getD o 0 = disk.byteAt o := by
    induction hrun with
    | start => exact ⟨hro₀, hbs₀, rfl, rfl, fun _ => rfl⟩
    | @round dev disk h r hr fuel hfuel ih =>
        obtain ⟨hro, hbs, hinit, hsize, hdisk⟩ := ih
        obtain ⟨hro', hbs', -⟩ := VirtioBlock.processQueue_setup vm hf vq fuel (r.deliver dev) 0
        obtain ⟨dev', result, hpq, hsize', hdisk', -⟩ :=
          Round.processQueue_flat rings hfl hro hbs hsize hdisk hr hfuel
        have hinit' := FlatState.initial_foldl_serve ⟨r.mem.bytes, disk⟩ (r.requests.map Prod.snd)
        rw [hpq] at hro' hbs' ⊢
        exact ⟨hro'.trans hro, hbs'.trans hbs, hinit'.trans hinit,
          hsize'.trans (congrArg List.length hinit').symm, hdisk'⟩
  obtain ⟨hro, hbs, hinit, hsize, hdisk⟩ := hinv
  rw [← hinit]
  exact ⟨hsize, hdisk, fun r fuel hr hfuel =>
    Round.processQueue_flat rings hfl hro hbs hsize hdisk hr hfuel⟩

/-- A request that transfers one byte, with the given header and data. -/
def oneByteRound (header : List UInt8) : Round ScriptedQueue where
  mem := GuestMemory.page header
  queue := oneByteRequest
  rest := []
  requests := [(0, oneByteDesc)]

/-- A disk whose first sector is zero and whose second begins with a seven. -/
def secondSectorSeven : List UInt8 :=
  List.replicate 512 0 ++ [7]

/-- The guest stores a nine at the beginning of sector one. -/
def storeNine : Round ScriptedQueue :=
  oneByteRound [1, 0, 0, 0, 0, 0, 0, 0, 1, 0, 0, 0, 0, 0, 0, 0, 9]

/-- Sixteen bytes of header and 513 of data. -/
def wholeDiskDesc : Descriptor where
  addr := 0
  len := 529
  flags := 0

/-- The guest asks for all of the disk, with a header of zeros. -/
def readAll : Round ScriptedQueue where
  mem := GuestMemory.page []
  queue := ⟨[(0, [wholeDiskDesc])], []⟩
  rest := []
  requests := [(0, wholeDiskDesc)]

/-- What one notification has stored in sector one, the next one finds behind sector zero. -/
theorem flatDisk_run_secondSector :
    ∃ dev dev' result,
      dev = (VirtioBlock.processQueue VmMemory.mmap (DiskFile.host secondSectorSeven)
        ScriptedQueue.queue 2 (storeNine.deliver (attachedDevice secondSectorSeven false)) 0).1 ∧
      VirtioBlock.processQueue VmMemory.mmap (DiskFile.host secondSectorSeven)
        ScriptedQueue.queue 2 (readAll.deliver dev) 0 = (dev', some result) ∧
      dev'.config.mem.bytes 16 = 0 ∧ dev'.config.mem.bytes 528 = 9 := by
  have hstore : storeNine.Ok ScriptedQueue.rings SectorDecoded ⟨secondSectorSeven, []⟩ :=
    ⟨trivial, rfl,
      ⟨by decide, by decide, fun _ _ _ h => h, Or.inr (by decide), by decide +kernel⟩,
      Or.inr (by decide), trivial⟩
  have hread : readAll.Ok ScriptedQueue.rings SectorDecoded
      (storeNine.after ⟨secondSectorSeven, []⟩).disk :=
    ⟨trivial, rfl,
      ⟨by decide, by decide +kernel, fun _ _ _ h => h, Or.inl (by decide), by decide +kernel⟩,
      Or.inr (by decide), trivial⟩
  obtain ⟨dev', result, hpq, -, -, hmem⟩ :=
    (flatDisk_run ScriptedQueue.rings (DiskFile.faultless secondSectorSeven)
      (new_attachedDevice (by decide +kernel) false)
      (.round .start storeNine hstore 2 (by decide))).2.2 readAll 2 hread (by decide)
  exact ⟨_, dev', result, rfl, hpq, (hmem 16 id).trans (by decide +kernel),
    (hmem 528 id).trans (by decide +kernel)⟩

/-- The first byte of sector one is asked for with a well-formed header, and the device
answers with that of sector zero. -/
theorem readsWrongSector :
    (oneByteRound [0, 0, 0, 0, 0, 0, 0, 0, 1]).Ok ScriptedQueue.rings (fun _ _ => True)
        ⟨secondSectorSeven, []⟩ ∧
      ((oneByteRound [0, 0, 0, 0, 0, 0, 0, 0, 1]).after ⟨secondSectorSeven, []⟩).mem 16 = 7 ∧
      (VirtioBlock.processQueue VmMemory.mmap (DiskFile.host secondSectorSeven)
        ScriptedQueue.queue 2
        ((oneByteRound [0, 0, 0, 0, 0, 0, 0, 0, 1]).deliver
          (attachedDevice secondSectorSeven false)) 0).1.config.mem.bytes 16 = 0 := by
  refine ⟨⟨trivial, rfl, ⟨by decide, by decide, fun _ _ _ h => h, Or.inl (by decide), ?_⟩,
    trivial, trivial⟩, ?_, ?_⟩
  · decide +kernel
  · decide +kernel
  · decide +kernel

end MoVm
