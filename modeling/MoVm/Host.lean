import MoVm.Lib.Bytes

/-!
# The Host Side

What the hypervisor takes from the machine it runs on: the unified error type of
`error.rs`, event file descriptors, output streams, sockets, and the disk image file.

The file is a parameter. A `HostFile F` is any type `F` of open file handles with the
operations the block device calls and what is documented about them: a handle has a
content and a position, `seek` moves the position or is refused, `read_exact` leaves
the content alone, and `write_all` writes a prefix of its argument at the position and
all of it when it succeeds. The kernel may refuse any of these calls at any time, so
nothing here says that they succeed; `HostFile.Faultless` is the extra assumption that
the file behaves as an array of bytes.

`DiskFile` is the plain in-memory file, which satisfies both.
-/

open Lib

namespace MoVm

/-- The error type of `error.rs`. Errors of other crates are carried by their display
text, as the source does for most of them. -/
inductive HypervisorError
  | kvmError (e : String)
  | ioError (e : String)
  | bincodeError (e : String)
  | memoryError (e : String)
  | virtioError (e : String)
  | unsupportedArchitecture
  | vcpuError (e : String)
  | snapshotError (e : String)
  | threadSpawnError (e : String)
  | networkError (e : String)
  | famError (e : String)
  | genericError (e : String)
deriving DecidableEq

/-- The display text of an error. -/
def HypervisorError.display : HypervisorError → String
  | .kvmError e => "KVM error: " ++ e
  | .ioError e => "IO error: " ++ e
  | .bincodeError e => "Bincode error: " ++ e
  | .memoryError e => "Memory error: " ++ e
  | .virtioError e => "Virtio error: " ++ e
  | .unsupportedArchitecture => "Unsupported architecture"
  | .vcpuError e => "VCPU error: " ++ e
  | .snapshotError e => "Snapshot error: " ++ e
  | .threadSpawnError e => "Thread spawn error: " ++ e
  | .networkError e => "Network error: " ++ e
  | .famError e => "FAM error: " ++ e
  | .genericError e => "Generic error: " ++ e

/-- How a call can end: with a value, with an error, or in a panic. -/
inductive Outcome (ε α : Type)
  | ok (a : α)
  | err (e : ε)
  | panic
deriving DecidableEq

/-- Go on after a call that returned a value, as `?` does. -/
def Outcome.bind {ε α β : Type} : Outcome ε α → (α → Outcome ε β) → Outcome ε β
  | .ok a, f => f a
  | .err e, _ => .err e
  | .panic, _ => .panic

instance (ε : Type) : Monad (Outcome ε) where
  pure := .ok
  bind := .bind

instance (ε : Type) : LawfulMonad (Outcome ε) :=
  LawfulMonad.mk' (Outcome ε) (fun x => by cases x <;> rfl) (fun _ _ => rfl)
    (fun x _ _ => by cases x <;> rfl)

@[simp] theorem Outcome.ok_bind {ε α β : Type} (a : α) (f : α → Outcome ε β) :
    (Outcome.ok a >>= f) = f a := rfl

@[simp] theorem Outcome.err_bind {ε α β : Type} (e : ε) (f : α → Outcome ε β) :
    (Outcome.err e >>= f) = .err e := rfl

@[simp] theorem Outcome.panic_bind {ε α β : Type} (f : α → Outcome ε β) :
    (Outcome.panic >>= f) = .panic := rfl

@[simp] theorem Outcome.pure_eq {ε α : Type} (a : α) : (pure a : Outcome ε α) = .ok a := rfl

/-- A call and what follows it return a value together. -/
theorem Outcome.bind_ok_iff {ε α β : Type} {x : Outcome ε α} {f : α → Outcome ε β} {b : β} :
    (x >>= f) = .ok b ↔ ∃ a, x = .ok a ∧ f a = .ok b := by
  cases x with
  | ok a => simp only [ok_bind, ok.injEq, exists_eq_left']
  | err e => simp only [err_bind, reduceCtorEq, false_and, exists_false]
  | panic => simp only [panic_bind, reduceCtorEq, false_and, exists_false]

/-- A call and what follows it panic when one of them does. -/
theorem Outcome.bind_panic_iff {ε α β : Type} {x : Outcome ε α} {f : α → Outcome ε β} :
    (x >>= f) = .panic ↔ x = .panic ∨ ∃ a, x = .ok a ∧ f a = .panic := by
  cases x with
  | ok a => simp only [ok_bind, ok.injEq, exists_eq_left', reduceCtorEq, false_or]
  | err e => simp only [err_bind, reduceCtorEq, false_and, exists_false, or_self]
  | panic => simp only [panic_bind, reduceCtorEq, false_and, exists_false, or_false]

/-- The bytes of a string. -/
def utf8Bytes (s : String) : List UInt8 :=
  s.toList.flatMap String.utf8EncodeChar

/-- The `{:x}` format of a number. -/
def hex (n : ℕ) : String :=
  String.ofList (Nat.toDigits 16 n)

/-- A non-blocking event file descriptor: a 64-bit counter. -/
structure EventFd where
  count : ℕ
deriving DecidableEq

/-- Adding to the counter fails when the sum would pass `2 ^ 64 - 2`. -/
def EventFd.write (e : EventFd) (v : ℕ) : EventFd × Except String Unit :=
  if e.count + v ≤ 2 ^ 64 - 2 then ({ count := e.count + v }, .ok ())
  else (e, .error "Resource temporarily unavailable (os error 11)")

/-! ### Streams and sockets -/

/-- An output stream of type `W`, with the calls of `std::io::Write` the hypervisor makes. The
log goes to the same stream: `main` sets its logger up for the terminal. -/
structure HostWriter (W : Type) where
  writeAll : W → List UInt8 → W × Except String Unit
  flush : W → W × Except String Unit
  /-- `info!`. What the logger makes of the message depends on the log level. -/
  info : W → String → W

/-- A stream that takes all bytes it is given: what `write_all` has written to it so far, without
the lines of the log in between. -/
structure HostWriter.Accepts {W : Type} (out : HostWriter W) where
  written : W → List UInt8
  writeAll_written : ∀ w bytes, written (out.writeAll w bytes).1 = written w ++ bytes
  info_written : ∀ w message, written (out.info w message) = written w

/-- What `recv_from` on a non-blocking socket answers. -/
inductive Received
  | datagram (bytes : List UInt8)
  | wouldBlock
  | error (e : String)
deriving DecidableEq

/-- A UDP socket of type `S`, with the calls the network device makes. -/
structure HostSocket (S : Type) where
  /-- `recv_from` into a buffer of this many bytes; what does not fit is cut off. -/
  recvFrom : S → ℕ → S × Received
  sendTo : S → List UInt8 → String → S × Except String ℕ

/-- The datagrams that `send_to` has been called with so far, and for whom, whether or not the
calls succeeded. -/
structure HostSocket.Handed {S : Type} (sock : HostSocket S) where
  handed : S → List (List UInt8 × String)
  sendTo_handed : ∀ s bytes peer,
    handed (sock.sendTo s bytes peer).1 = handed s ++ [(bytes, peer)]

/-! ### The disk image file -/

/-- Open file handles of type `F`, with the operations of `std::fs::File` that the
block device uses. -/
structure HostFile (F : Type) where
  /-- `File::open`. -/
  openRead : String → Except String F
  /-- `OpenOptions::new().read(true).write(true).open`. -/
  openReadWrite : String → Except String F
  /-- `file.metadata()?.len()`. -/
  metadataLen : F → Except String UInt64
  content : F → List UInt8
  pos : F → ℕ
  /-- `seek(SeekFrom::Start(n))`. -/
  seek : F → ℕ → F × Except String Unit
  /-- `read_exact` into a buffer: the handle, the buffer afterwards, the result. -/
  readExact : F → List UInt8 → F × List UInt8 × Except String Unit
  writeAll : F → List UInt8 → F × Except String Unit
  /-- How many bytes of its argument `write_all` has written when it returns. -/
  taken : F → List UInt8 → ℕ
  flush : F → F × Except String Unit
  metadataLen_ok : ∀ {f n}, metadataLen f = .ok n → n.toNat = (content f).length
  seek_content : ∀ f n, content (seek f n).1 = content f
  seek_pos : ∀ {f n}, (seek f n).2 = .ok () → pos (seek f n).1 = n
  readExact_content : ∀ f buf, content (readExact f buf).1 = content f
  readExact_length : ∀ f buf, (readExact f buf).2.1.length = buf.length
  /-- A write that fails may still have written the beginning of its argument. -/
  writeAll_content : ∀ f bs,
    content (writeAll f bs).1 = store (content f) (pos f) (bs.take (taken f bs))
  flush_content : ∀ f, content (flush f).1 = content f

/-- The file acts as an array of bytes: seeking works, a read inside the file returns
its bytes, and a write writes all of its argument. -/
structure HostFile.Faultless {F : Type} (hf : HostFile F) : Prop where
  seek_ok : ∀ f n, (hf.seek f n).2 = .ok ()
  read : ∀ {f buf}, hf.pos f + buf.length ≤ (hf.content f).length →
    (hf.readExact f buf).2.1 = load (hf.content f) (hf.pos f) buf.length
  write : ∀ f bs, hf.content (hf.writeAll f bs).1 = store (hf.content f) (hf.pos f) bs

/-- The offsets that `seek` has been called with so far, whether or not the calls succeeded. -/
structure HostFile.Seeks {F : Type} (hf : HostFile F) where
  seeks : F → List ℕ
  seek_seeks : ∀ f n, seeks (hf.seek f n).1 = seeks f ++ [n]
  readExact_seeks : ∀ f buf, seeks (hf.readExact f buf).1 = seeks f
  writeAll_seeks : ∀ f bs, seeks (hf.writeAll f bs).1 = seeks f
  flush_seeks : ∀ f, seeks (hf.flush f).1 = seeks f

/-- Any file, with a record of the offsets. -/
def HostFile.recording {F : Type} (hf : HostFile F) : HostFile (F × List ℕ) where
  openRead path := (hf.openRead path).map fun f => (f, [])
  openReadWrite path := (hf.openReadWrite path).map fun f => (f, [])
  metadataLen f := hf.metadataLen f.1
  content f := hf.content f.1
  pos f := hf.pos f.1
  seek f n := (((hf.seek f.1 n).1, f.2 ++ [n]), (hf.seek f.1 n).2)
  readExact f buf := (((hf.readExact f.1 buf).1, f.2), (hf.readExact f.1 buf).2)
  writeAll f bs := (((hf.writeAll f.1 bs).1, f.2), (hf.writeAll f.1 bs).2)
  taken f bs := hf.taken f.1 bs
  flush f := (((hf.flush f.1).1, f.2), (hf.flush f.1).2)
  metadataLen_ok h := hf.metadataLen_ok h
  seek_content f n := hf.seek_content f.1 n
  seek_pos h := hf.seek_pos h
  readExact_content f buf := hf.readExact_content f.1 buf
  readExact_length f buf := hf.readExact_length f.1 buf
  writeAll_content f bs := hf.writeAll_content f.1 bs
  flush_content f := hf.flush_content f.1

/-- The record is what `seek` has been called with. -/
def HostFile.recording_seeks {F : Type} (hf : HostFile F) : hf.recording.Seeks where
  seeks f := f.2
  seek_seeks _ _ := rfl
  readExact_seeks _ _ := rfl
  writeAll_seeks _ _ := rfl
  flush_seeks _ := rfl

section HostFile

variable {F : Type} (hf : HostFile F)

/-- Seeking and then reading leaves the image alone. -/
theorem HostFile.content_seek_readExact (f : F) (n : ℕ) (buf : List UInt8) :
    hf.content (hf.readExact (hf.seek f n).1 buf).1 = hf.content f := by
  rw [hf.readExact_content, hf.seek_content]

/-- A write that lands inside the image keeps its length. -/
theorem HostFile.length_writeAll {f : F} {bs : List UInt8}
    (h : hf.pos f + bs.length ≤ (hf.content f).length) :
    (hf.content (hf.writeAll f bs).1).length = (hf.content f).length := by
  have htake : (bs.take (hf.taken f bs)).length ≤ bs.length := List.length_take_le' _ bs
  rw [hf.writeAll_content, length_store_of_le (by omega)]

/-- Writing nothing changes nothing. -/
theorem HostFile.content_writeAll_nil (f : F) :
    hf.content (hf.writeAll f []).1 = hf.content f := by
  rw [hf.writeAll_content, List.take_nil, store_nil]

variable {hf}

/-- Every seek gets to its offset. -/
theorem HostFile.Faultless.pos_seek (h : hf.Faultless) (f : F) (n : ℕ) :
    hf.pos (hf.seek f n).1 = n :=
  hf.seek_pos (h.seek_ok f n)

/-- A read inside the image, after a seek. -/
theorem HostFile.Faultless.seek_read (h : hf.Faultless) {f : F} {n : ℕ} {buf : List UInt8}
    (hn : n + buf.length ≤ (hf.content f).length) :
    (hf.readExact (hf.seek f n).1 buf).2.1 = load (hf.content f) n buf.length := by
  rw [h.read (by rw [h.pos_seek, hf.seek_content]; exact hn), h.pos_seek, hf.seek_content]

/-- A write after a seek. -/
theorem HostFile.Faultless.seek_write (h : hf.Faultless) (f : F) (n : ℕ) (bs : List UInt8) :
    hf.content (hf.writeAll (hf.seek f n).1 bs).1 = store (hf.content f) n bs := by
  rw [h.write, h.pos_seek, hf.seek_content]

end HostFile

/-! ### The plain file -/

/-- A file that is nothing but its content and a position. -/
structure DiskFile where
  content : List UInt8
  pos : ℕ
deriving DecidableEq

/-- `read_exact` of the plain file: a short read fills what there is, leaves the rest
of the buffer and ends at the end of the file. -/
def DiskFile.readExact (f : DiskFile) (buf : List UInt8) :
    DiskFile × List UInt8 × Except String Unit :=
  let got := load f.content f.pos buf.length
  ({ f with pos := f.pos + got.length }, got ++ buf.drop got.length,
    if got.length = buf.length then .ok () else .error "failed to fill whole buffer")

/-- A host with one disk image, found under every path. -/
def DiskFile.host (image : List UInt8) : HostFile DiskFile where
  openRead _ := .ok ⟨image, 0⟩
  openReadWrite _ := .ok ⟨image, 0⟩
  metadataLen f :=
    if f.content.length < 2 ^ 64 then .ok (UInt64.ofNat f.content.length)
    else .error "Value too large for defined data type (os error 75)"
  content := DiskFile.content
  pos := DiskFile.pos
  seek f n := ({ f with pos := n }, .ok ())
  readExact := DiskFile.readExact
  writeAll f bs :=
    ({ content := store f.content f.pos bs, pos := f.pos + bs.length }, .ok ())
  taken _ bs := bs.length
  flush f := (f, .ok ())
  metadataLen_ok {f n} h := by
    split at h
    · next hlt =>
        rw [← Except.ok.inj h, UInt64.toNat_ofNat', Nat.mod_eq_of_lt hlt]
    · cases h
  seek_content _ _ := rfl
  seek_pos _ := rfl
  readExact_content _ _ := rfl
  readExact_length f buf := by
    have hle : (load f.content f.pos buf.length).length ≤ buf.length :=
      List.length_take_le _ _
    simp only [DiskFile.readExact, List.length_append, List.length_drop]
    omega
  writeAll_content f bs := by rw [List.take_length]
  flush_content _ := rfl

/-- The plain file acts as an array of bytes. -/
theorem DiskFile.faultless (image : List UInt8) : (DiskFile.host image).Faultless where
  seek_ok _ _ := rfl
  read {f buf} h := by
    have hlen : (load f.content f.pos buf.length).length = buf.length := by
      have h' : f.pos + buf.length ≤ f.content.length := h
      rw [load, List.length_take, List.length_drop]
      omega
    show load f.content f.pos buf.length ++ buf.drop _ = _
    rw [hlen, List.drop_length, List.append_nil]
    rfl
  write _ _ := rfl

end MoVm
