import MoVm.ConsoleNet

/-!
# What a Transmit Queue Sends

The transmit loops of the console and of the network device on a queue that delivers its chains
(`VirtioQueue.Rings`), with buffers outside the rings. Such a call comes to its end, and what it
hands over is given by the chains alone: for each chain, in order, the contents of the
descriptors that count, one behind the other (`chainBytes`).

The contents of a descriptor are as long as it says (`Descriptor.contents`): the guest's bytes
up to the first address that no region backs, and zeros from there on.

## Main results

* `loop_sendStep`: the transmit loop, whatever becomes of the bytes.
* `VirtioConsole.processTxQueue_output`: the host stream gets what the guest has queued.
* `VirtioNet.processTxQueue_frames`: the socket gets one datagram for each chain.
-/

open Lib

namespace MoVm

variable {Q C S W T : Type} {vm : VmMemory} {vq : VirtioQueue Q C}

/-! ### The contents of chains -/

/-- The contents of a descriptor: guest bytes up to the first address that is not backed, and
zeros from there on. -/
def Descriptor.contents (m : GuestMemory) (d : Descriptor) : List UInt8 :=
  (List.range d.len.toNat).map fun i =>
    if m.layout.Covers d.addr.toNat (i + 1) then m.bytes (d.addr.toNat + i) else 0

@[simp] theorem Descriptor.length_contents (m : GuestMemory) (d : Descriptor) :
    (d.contents m).length = d.len.toNat := by
  rw [contents, List.length_map, List.length_range]

theorem Descriptor.contents_of_covers {m : GuestMemory} {d : Descriptor}
    (h : m.layout.Covers d.addr.toNat d.len.toNat) :
    d.contents m = slice m.bytes d.addr.toNat d.len.toNat := by
  rw [contents, slice]
  refine List.map_congr_left fun i hi => if_pos (h.mono (Nat.le_refl _) ?_)
  have := List.mem_range.mp hi
  omega

/-- The contents depend on the bytes of the buffer only. -/
theorem Descriptor.contents_congr {m m' : GuestMemory} {d : Descriptor}
    (hL : m'.layout = m.layout)
    (h : ∀ a, d.addr.toNat ≤ a → a < d.addr.toNat + d.len.toNat → m'.bytes a = m.bytes a) :
    d.contents m' = d.contents m := by
  rw [contents, contents, hL]
  refine List.map_congr_left fun i hi => ?_
  have := List.mem_range.mp hi
  rw [h _ (by omega) (by omega)]

/-- A read into a buffer of zeros gives the contents. -/
theorem Descriptor.readSlice_zeros (vm : VmMemory) (m : GuestMemory) (d : Descriptor) :
    (vm.readSlice m d.addr.toNat (List.replicate d.len.toNat 0)).1 = d.contents m := by
  have hlen := vm.readSlice_length m d.addr.toNat (List.replicate d.len.toNat 0)
  rw [List.length_replicate] at hlen
  refine List.ext_getElem? fun i => ?_
  by_cases hi : i < d.len.toNat
  · rw [vm.readSlice_get _ _ _ _ (by rwa [List.length_replicate]), contents, List.getElem?_map,
      List.getElem?_range hi, Option.map_some, List.getElem?_replicate, if_pos hi]
    split <;> rfl
  · rw [List.getElem?_eq_none (by omega), List.getElem?_eq_none (by rw [length_contents]; omega)]

/-- What the descriptors selected by `keep` contain, one behind the other. -/
def chainBytes (keep : Descriptor → Bool) (m : GuestMemory) (ds : List Descriptor) :
    List UInt8 :=
  (ds.filter keep).flatMap (Descriptor.contents m)

/-- How many bytes the buffers of a chain have together. -/
def chainLen : List Descriptor → ℕ
  | [] => 0
  | d :: ds => d.len.toNat + chainLen ds

/-- A chain sends no more bytes than its descriptors have together. -/
theorem length_chainBytes_le (keep : Descriptor → Bool) (m : GuestMemory)
    (ds : List Descriptor) : (chainBytes keep m ds).length ≤ chainLen ds := by
  induction ds with
  | nil => exact Nat.le_refl 0
  | cons d ds ih =>
      cases hk : keep d with
      | false =>
          rw [chainBytes, List.filter_cons_of_neg (by rw [hk]; exact Bool.false_ne_true)]
          exact Nat.le_trans ih (Nat.le_add_left _ _)
      | true =>
          rw [chainBytes, List.filter_cons_of_pos hk, List.flatMap_cons, List.length_append,
            Descriptor.length_contents]
          exact Nat.add_le_add_left ih _

theorem chainBytes_congr {keep : Descriptor → Bool} {ring : ℕ → Prop} {m m' : GuestMemory}
    {ds : List Descriptor} (hL : m'.layout = m.layout)
    (h : ∀ a, ¬ring a → m'.bytes a = m.bytes a) (hds : ∀ d ∈ ds, d.Avoids ring) :
    chainBytes keep m' ds = chainBytes keep m ds := by
  refine List.flatMap_congr fun d hd => Descriptor.contents_congr hL fun a hlo hhi => h a ?_
  exact hds d (List.mem_of_mem_filter hd) a hlo hhi

/-- The loop over a list of descriptors. -/
theorem forList_collect (vm : VmMemory) (keep : Descriptor → Bool) (m : GuestMemory)
    (ds : List Descriptor) (buf : List UInt8) :
    (forList (fun buf d => (.next
      (if keep d then
        buf ++ (vm.readSlice m d.addr.toNat (List.replicate d.len.toNat 0)).1
      else buf) : Flow (List UInt8) Empty)) ds buf).1 = buf ++ chainBytes keep m ds := by
  induction ds generalizing buf with
  | nil => exact (List.append_nil buf).symm
  | cons d ds ih =>
      rw [forList, ih]
      cases hk : keep d with
      | false => rw [if_neg Bool.false_ne_true, chainBytes, chainBytes,
          List.filter_cons_of_neg (by rw [hk]; exact Bool.false_ne_true)]
      | true => rw [if_pos rfl, Descriptor.readSlice_zeros, chainBytes, chainBytes,
          List.filter_cons_of_pos hk, List.flatMap_cons, List.append_assoc]

/-- A chain that yields `ds` is collected to the contents of `ds`. -/
theorem collectChain_of_yields {keep : Descriptor → Bool} {ring : ℕ → Prop} {m : GuestMemory}
    {chain : C} {ds : List Descriptor} (hy : Yields vq.next (SameRings ring m) chain ds) :
    collectChain vm vq keep m chain = chainBytes keep m ds := by
  have hrefl := SameRings.refl ring m
  have hlen : ds.length ≤ vq.ttl chain :=
    length_le_of_yields (fun _ _ _ _ h => vq.next_ttl h) hrefl hy
  rw [collectChain, forEach_of_yields (hy.comap fun _ => m) (fun _ _ _ h => h) hlen hrefl,
    forList_collect, List.nil_append]

/-! ### The transmit loop -/

/-- What the transmit loop has done when it has worked off the chains `sent`. -/
structure Transmitted (rings : vq.Rings) (ur : vq.UsedRing) (keep : Descriptor → Bool)
    (deliver : T → List UInt8 → T) (s : SendState Q T) (sent : List (UInt16 × List Descriptor))
    (t : SendState Q T) : Prop where
  ready : rings.ready t.mem t.queue
  ring : rings.ring t.queue = rings.ring s.queue
  area : ur.area t.queue = ur.area s.queue
  layout : t.mem.layout = s.mem.layout
  /-- Memory has changed in the rings only, and there only in the used ring. -/
  rings_frame : ∀ a, ¬rings.ring s.queue a → t.mem.bytes a = s.mem.bytes a
  used_frame : ∀ a, ¬ur.area s.queue a → t.mem.bytes a = s.mem.bytes a
  sink : t.sink = (sent.map fun c => chainBytes keep s.mem c.2).foldl deliver s.sink
  used : rings.used t.queue = rings.used s.queue ++
    sent.map fun c => (c.1, UInt32.ofNat (chainBytes keep s.mem c.2).length)

/-- One iteration sends the first available chain. -/
theorem Transmitted.step {rings : vq.Rings} {ur : vq.UsedRing} {keep : Descriptor → Bool}
    {deliver : T → List UInt8 → T} {s t : SendState Q T}
    {sent rest : List (UInt16 × List Descriptor)} {c : UInt16 × List Descriptor}
    (ht : Transmitted rings ur keep deliver s sent t)
    (havail : rings.avail t.mem t.queue = c :: rest)
    (hds : ∀ d ∈ c.2, d.Avoids (rings.ring s.queue)) :
    ∃ t', sendStep vm vq keep deliver t = .next t' ∧ rings.avail t'.mem t'.queue = rest ∧
      Transmitted rings ur keep deliver s (sent ++ [c]) t' := by
  obtain ⟨h, ds⟩ := c
  obtain ⟨chain, q, hpop, hhead, hy, hring, hready, hvalid, hrest, hused⟩ :=
    rings.pop_cons ht.ready havail
  have hbytes : collectChain vm vq keep t.mem chain = chainBytes keep s.mem ds := by
    rw [collectChain_of_yields hy, chainBytes_congr ht.layout ht.rings_frame hds]
  obtain ⟨m', q', hadd, hL, hframe, hring', hready', havail', hused'⟩ :=
    rings.addUsed_spec (UInt32.ofNat (chainBytes keep s.mem ds).length) hready hvalid
  have hstep : sendStep vm vq keep deliver t =
      .next ⟨m', q', deliver t.sink (chainBytes keep s.mem ds)⟩ := by
    simp only [sendStep, hpop, hbytes, hhead, hadd]
  have harea : ur.area q = ur.area s.queue := (ur.pop_area hpop).trans ht.area
  refine ⟨_, hstep, havail'.trans hrest, ?_⟩
  constructor
  · exact hready'
  · exact hring'.trans (hring.trans ht.ring)
  · exact (ur.addUsed_area hadd).trans harea
  · exact hL.trans ht.layout
  · exact fun a ha => (hframe a (by rwa [hring, ht.ring])).trans (ht.rings_frame a ha)
  · exact fun a ha => (ur.addUsed_frame hadd a (by rwa [harea])).trans (ht.used_frame a ha)
  · rw [List.map_append, List.foldl_append, ← ht.sink]
    rfl
  · rw [hused', hused, ht.used, List.map_append, List.append_assoc]
    rfl

variable (vm) in
/-- **The transmit loop** ends when all available chains are sent. -/
theorem loop_sendStep (rings : vq.Rings) (ur : vq.UsedRing) (keep : Descriptor → Bool)
    (deliver : T → List UInt8 → T) {s : SendState Q T}
    (hready : rings.ready s.mem s.queue)
    (havoid : ∀ c ∈ rings.avail s.mem s.queue, ∀ d ∈ c.2, d.Avoids (rings.ring s.queue))
    {fuel : ℕ} (hfuel : (rings.avail s.mem s.queue).length < fuel) :
    ∃ t, loop (sendStep vm vq keep deliver) fuel s = (t, some (.ok ())) ∧
      rings.avail t.mem t.queue = [] ∧
      Transmitted rings ur keep deliver s (rings.avail s.mem s.queue) t := by
  refine loop_drain (fun t : SendState Q T => rings.avail t.mem t.queue) ?_ ?_ ?_ hfuel
  · intro t ht hnil
    simp only [sendStep, rings.pop_nil ht.ready hnil]
  · intro sent t c rest hsplit ht havail
    refine ht.step havail (havoid c ?_)
    rw [hsplit]
    exact List.mem_append_right _ List.mem_cons_self
  · exact ⟨hready, rfl, rfl, rfl, fun _ _ => rfl, fun _ _ => rfl, rfl, (List.append_nil _).symm⟩

/-! ### Console -/

/-- What the console has written after some buffers. -/
theorem VirtioConsole.written_deliver {out : HostWriter W} (acc : out.Accepts)
    (bufs : List (List UInt8)) (sink : W × Bool) :
    acc.written (bufs.foldl (deliver out) sink).1 = acc.written sink.1 ++ bufs.flatten := by
  induction bufs generalizing sink with
  | nil => exact (List.append_nil _).symm
  | cons buf bufs ih =>
      rw [List.foldl_cons, ih, List.flatten_cons, ← List.append_assoc]
      congr 1
      rw [deliver]
      split
      · next h => rw [List.isEmpty_iff.mp h, List.append_nil]
      · exact acc.writeAll_written _ _

variable (vm) in
/-- **Console output is what the guest has queued**: a call on a ready queue returns, and the
host stream has got, for each available chain in order, the contents of its descriptors that
are not write-only. The used ring has one more entry for each chain, with its head index and
the number of bytes, and memory has changed nowhere else. -/
theorem VirtioConsole.processTxQueue_output (rings : vq.Rings) (ur : vq.UsedRing)
    {out : HostWriter W} (acc : out.Accepts) {dev : VirtioConsole Q} {queue : Q}
    (hq : dev.config.queues[1]? = some queue)
    (hready : rings.ready dev.config.mem queue)
    (havoid : ∀ c ∈ rings.avail dev.config.mem queue, ∀ d ∈ c.2, d.Avoids (rings.ring queue))
    (htotal : ∀ c ∈ rings.avail dev.config.mem queue, chainLen c.2 < 2 ^ 32)
    {fuel : ℕ} (hfuel : (rings.avail dev.config.mem queue).length < fuel) (output : W) :
    ∃ dev' output' r queue' entries,
      processTxQueue vm vq out fuel dev output = ((dev', output'), some r) ∧
      dev'.config.queues[1]? = some queue' ∧ rings.avail dev'.config.mem queue' = [] ∧
      acc.written output' = acc.written output ++
        (rings.avail dev.config.mem queue).flatMap
          (fun c => chainBytes (!·.isWriteOnly) dev.config.mem c.2) ∧
      rings.used queue' = rings.used queue ++ entries ∧
      entries.map (fun e => (e.1, e.2.toNat)) = (rings.avail dev.config.mem queue).map
        (fun c => (c.1, (chainBytes (!·.isWriteOnly) dev.config.mem c.2).length)) ∧
      dev'.config.mem.layout = dev.config.mem.layout ∧
      ∀ a, ¬ur.area queue a → dev'.config.mem.bytes a = dev.config.mem.bytes a := by
  obtain ⟨t, hloop, hnil, ht⟩ := loop_sendStep vm rings ur (!·.isWriteOnly) (deliver out)
    (s := ⟨dev.config.mem, queue, (output, false)⟩) hready havoid hfuel
  have hqueue : (dev.config.queues.set 1 t.queue)[1]? = some t.queue :=
    List.getElem?_set_self (List.getElem?_eq_some_iff.mp hq).1
  have hwritten : acc.written t.sink.1 = acc.written output ++
      (rings.avail dev.config.mem queue).flatMap
        (fun c => chainBytes (!·.isWriteOnly) dev.config.mem c.2) := by
    rw [ht.sink, written_deliver, List.flatMap_def]
  have hentries : (((rings.avail dev.config.mem queue).map fun c =>
        (c.1, UInt32.ofNat (chainBytes (!·.isWriteOnly) dev.config.mem c.2).length)).map
          fun e => (e.1, e.2.toNat)) = (rings.avail dev.config.mem queue).map
        (fun c => (c.1, (chainBytes (!·.isWriteOnly) dev.config.mem c.2).length)) := by
    rw [List.map_map]
    refine List.map_congr_left fun c hc => ?_
    have hle := length_chainBytes_le (!·.isWriteOnly) dev.config.mem c.2
    have hlt := htotal c hc
    exact congrArg _ (UInt32.toNat_ofNat_of_lt' (Nat.lt_of_le_of_lt hle hlt))
  obtain ⟨evt, r, hcall⟩ : ∃ evt r, processTxQueue vm vq out fuel dev output =
      (({ dev with config := { dev.config.withQueue 1 t.mem t.queue with interruptEvt := evt } },
        t.sink.1), some r) := by
    simp only [processTxQueue, hq, hloop]
    split
    · exact ⟨_, _, rfl⟩
    · exact ⟨_, _, rfl⟩
  exact ⟨_, _, r, t.queue, _, hcall, hqueue, hnil, hwritten, ht.used, hentries, ht.layout,
    ht.used_frame⟩

/-- A stream that keeps what is written to it, at a log level at which `info!` does nothing. -/
def keepingWriter : HostWriter (List UInt8) where
  writeAll w bytes := (w ++ bytes, .ok ())
  flush w := (w, .ok ())
  info w _ := w

/-- It is what has been written to it. -/
def keepingWriter.accepts : keepingWriter.Accepts where
  written := id
  writeAll_written _ _ := rfl
  info_written _ _ := rfl

/-- A page with two bytes at its start and two at its end. -/
def edgePage : GuestMemory :=
  (GuestMemory.page [104, 105]).withBlock 4094 [33, 10]

/-- A device with two queues of which the second has these chains available. -/
def transmitConfig (chains : List (UInt16 × List Descriptor)) :
    VirtioDeviceConfig ScriptedQueue where
  mem := edgePage
  guestMem := 0
  irq := 5
  queues := [⟨[], []⟩, ⟨chains, []⟩]
  interruptEvt := some ⟨0⟩

/-- The first chain has a write-only buffer besides its text, and the buffer of the second
reaches two bytes past the end of memory. -/
def edgeConsole : VirtioConsole ScriptedQueue where
  config := transmitConfig [(3, [⟨0, 2, 0⟩, ⟨8, 4, 2⟩]), (7, [⟨4094, 4, 0⟩])]
  configSpace := { cols := 80, rows := 24, maxNrPorts := 1, emergWr := 0 }

theorem processTxQueue_output_edge :
    ∃ dev' output' r, VirtioConsole.processTxQueue VmMemory.mmap ScriptedQueue.queue keepingWriter
        3 edgeConsole [] = ((dev', output'), some r) ∧ output' = [104, 105, 33, 10, 0, 0] := by
  have hq : edgeConsole.config.queues[1]? =
      some ⟨[(3, [⟨0, 2, 0⟩, ⟨8, 4, 2⟩]), (7, [⟨4094, 4, 0⟩])], []⟩ := rfl
  obtain ⟨dev', output', r, queue', entries, hcall, -, -, hwritten, -⟩ :=
    VirtioConsole.processTxQueue_output VmMemory.mmap ScriptedQueue.rings ScriptedQueue.usedRing
      keepingWriter.accepts hq trivial (fun _ _ _ _ _ _ _ => id) (by decide)
      (show 2 < 3 by decide) []
  exact ⟨dev', output', r, hcall, hwritten.trans (by decide)⟩

/-! ### Network -/

/-- What the socket has been handed after some buffers. -/
theorem VirtioNet.handed_deliver {sock : HostSocket S} (log : sock.Handed) (peer : String)
    (bufs : List (List UInt8)) (socket : S) :
    log.handed (bufs.foldl (deliver sock (some peer)) socket) =
      log.handed socket ++ bufs.map fun buf => (buf, peer) := by
  induction bufs generalizing socket with
  | nil => exact (List.append_nil _).symm
  | cons buf bufs ih =>
      rw [List.foldl_cons, ih, List.map_cons, deliver, log.sendTo_handed, List.append_assoc]
      rfl

variable (vm) in
/-- **One frame for each chain**: a call on a ready queue returns `Ok`, and the socket of a
device with a peer has been handed one datagram for each available chain, in order, with the
contents of the chain. The used ring has one more entry for each of them, whether or not the
datagram could be sent, and memory has changed nowhere else. -/
theorem VirtioNet.processTxQueue_frames (rings : vq.Rings) (ur : vq.UsedRing) {sock : HostSocket S}
    (log : sock.Handed) {dev : VirtioNet Q S} {queue : Q} {peer : String}
    (hpeer : dev.peerAddr = some peer) (hq : dev.config.queues[1]? = some queue)
    (hready : rings.ready dev.config.mem queue)
    (havoid : ∀ c ∈ rings.avail dev.config.mem queue, ∀ d ∈ c.2, d.Avoids (rings.ring queue))
    (hcovers : ∀ c ∈ rings.avail dev.config.mem queue, ∀ d ∈ c.2,
      dev.config.mem.layout.Covers d.addr.toNat d.len.toNat)
    {fuel : ℕ} (hfuel : (rings.avail dev.config.mem queue).length < fuel) :
    let payload (ds : List Descriptor) : List UInt8 :=
      ds.flatMap fun d => slice dev.config.mem.bytes d.addr.toNat d.len.toNat
    ∃ dev' queue',
      processTxQueue vm vq sock fuel dev = (dev', some (.ok ())) ∧
      dev'.config.queues[1]? = some queue' ∧ rings.avail dev'.config.mem queue' = [] ∧
      log.handed dev'.socket = log.handed dev.socket ++
        (rings.avail dev.config.mem queue).map (fun c => (payload c.2, peer)) ∧
      rings.used queue' = rings.used queue ++
        (rings.avail dev.config.mem queue).map
          (fun c => (c.1, UInt32.ofNat (payload c.2).length)) ∧
      (∀ c ∈ rings.avail dev.config.mem queue, chainLen c.2 < 2 ^ 32 →
        (UInt32.ofNat (payload c.2).length).toNat = (payload c.2).length) ∧
      dev'.config.mem.layout = dev.config.mem.layout ∧
      ∀ a, ¬ur.area queue a → dev'.config.mem.bytes a = dev.config.mem.bytes a := by
  intro payload
  have hpayload : ∀ c ∈ rings.avail dev.config.mem queue,
      chainBytes (fun _ => true) dev.config.mem c.2 = payload c.2 := by
    intro c hc
    rw [chainBytes, List.filter_true]
    exact List.flatMap_congr fun d hd => Descriptor.contents_of_covers (hcovers c hc d hd)
  obtain ⟨t, hloop, hnil, ht⟩ := loop_sendStep vm rings ur (fun _ => true)
    (deliver sock (some peer)) (s := ⟨dev.config.mem, queue, dev.socket⟩) hready havoid hfuel
  have hqueue : (dev.config.queues.set 1 t.queue)[1]? = some t.queue :=
    List.getElem?_set_self (List.getElem?_eq_some_iff.mp hq).1
  have hcall : processTxQueue vm vq sock fuel dev =
      ({ dev with config := dev.config.withQueue 1 t.mem t.queue, socket := t.sink },
        some (.ok ())) := by
    simp only [processTxQueue, hq, hpeer, hloop]
  have hhanded : log.handed t.sink = log.handed dev.socket ++
      (rings.avail dev.config.mem queue).map (fun c => (payload c.2, peer)) := by
    rw [ht.sink, handed_deliver, List.map_map]
    congr 1
    exact List.map_congr_left fun c hc => congrArg (·, peer) (hpayload c hc)
  have hused : rings.used t.queue = rings.used queue ++
      (rings.avail dev.config.mem queue).map
        (fun c => (c.1, UInt32.ofNat (payload c.2).length)) := by
    rw [ht.used]
    congr 1
    exact List.map_congr_left fun c hc => by rw [← hpayload c hc]
  refine ⟨_, t.queue, hcall, hqueue, hnil, hhanded, hused, fun c hc htotal => ?_, ht.layout,
    ht.used_frame⟩
  have hle := length_chainBytes_le (fun _ => true) dev.config.mem c.2
  rw [hpayload c hc] at hle
  exact UInt32.toNat_ofNat_of_lt' (Nat.lt_of_le_of_lt hle htotal)

/-- A socket that remembers what it was handed, and from which nothing can be sent. -/
def downSocket : HostSocket (List (List UInt8 × String)) where
  recvFrom s _ := (s, .wouldBlock)
  sendTo s bytes peer := (s ++ [(bytes, peer)], .error "Network is down")

def downSocket.handed : downSocket.Handed where
  handed := id
  sendTo_handed _ _ _ := rfl

/-- Two frames, the first in two buffers. -/
def downNet : VirtioNet ScriptedQueue (List (List UInt8 × String)) where
  config := transmitConfig [(3, [⟨0, 2, 0⟩, ⟨4094, 2, 0⟩]), (7, [⟨1, 1, 0⟩])]
  socket := []
  localMac := Vector.replicate 6 0x02
  peerAddr := some "10.0.0.2:4000"

theorem processTxQueue_frames_down :
    ∃ dev', VirtioNet.processTxQueue VmMemory.mmap ScriptedQueue.queue downSocket 3 downNet =
        (dev', some (.ok ())) ∧
      dev'.socket = [([104, 105, 33, 10], "10.0.0.2:4000"), ([105], "10.0.0.2:4000")] := by
  have hq : downNet.config.queues[1]? =
      some ⟨[(3, [⟨0, 2, 0⟩, ⟨4094, 2, 0⟩]), (7, [⟨1, 1, 0⟩])], []⟩ := rfl
  obtain ⟨dev', queue', hcall, -, -, hhanded, -⟩ :=
    VirtioNet.processTxQueue_frames VmMemory.mmap ScriptedQueue.rings ScriptedQueue.usedRing
      downSocket.handed (show downNet.peerAddr = some _ from rfl) hq trivial
      (fun _ _ _ _ _ _ _ => id) (by decide) (show 2 < 3 by decide)
  exact ⟨dev', hcall, hhanded.trans (by decide)⟩

end MoVm
