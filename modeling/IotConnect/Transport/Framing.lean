import IotConnect.Coap.TcpV1
import IotConnect.Foundations.Bytes
import IotConnect.Foundations.Chunks
import IotConnect.Transport.TlsSocket

/-! # Frames of the cloud link

The peer sends frames, a length of two bytes and as many bytes. The link reads one frame of the stream
into its buffer, whatever chunks the TLS stack delivers, exactly when the frame fits the buffer as it is
handed out: the second reading after an expansion takes the rest of the frame for a new one. -/
namespace IotConnect.Transport
open Memory Bytes Coap Chunks
set_option autoImplicit false

structure Frame where
  body : List UInt8
  body_length : body.length < 2 ^ 16

def Frame.header (f : Frame) : List UInt8 := toBytes 2 f.body.length

def Frame.bytes (f : Frame) : List UInt8 := f.header ++ f.body

@[simp] theorem Frame.header_length (f : Frame) : f.header.length = 2 := toBytes_length _ _

@[simp] theorem Frame.bytes_length (f : Frame) : f.bytes.length = 2 + f.body.length := by
  simp [Frame.bytes]

/-- The socket of the cloud link: `IotcTlsClientRecv` delivers the stream in chunks, and in time. -/
def cloudSocket (chunk : ℕ → ℕ) : TlsSocket := ⟨coapTcpV1GetRemainSize, fun i => .chunk (chunk i)⟩

/-- The call returns with the frame in the buffer, nothing more, and leaves the rest of the stream. -/
def ReadsFrame (sock : TlsSocket) (calloc : Bool) (ctx : UtilsBufferCtx) (f : Frame) (rest : List UInt8) : Prop :=
  ∃ fuel ctx' stream, transLinkReadDataFromSocket sock calloc fuel ctx ⟨0, f.bytes ++ rest⟩ = some (0, ctx', stream) ∧
    load ctx'.buffer.buffer 0 ctx'.buffer.len = f.bytes ∧ stream.rest = rest

/-! ## How much is missing -/

theorem getRemainSize_header (packet : ℕ → UInt8) {curLen : ℕ} (h : curLen < 2) :
    coapTcpV1GetRemainSize packet curLen = .ok (2 - curLen) := if_pos h

theorem bodyLen_of_holds {packet : ℕ → UInt8} {f : Frame} (h : Holds packet 0 f.header) :
    (packet 0).toNat * 256 + (packet 1).toNat = f.body.length := by
  have hlen : f.body.length < 256 ^ 2 := f.body_length
  have e : ofBytes (load packet 0 2) = f.body.length := by
    rw [Holds, Frame.header_length] at h
    rw [h]
    exact ofBytes_toBytes hlen
  rw [← e]
  show _ = (0 * 256 + (packet 0).toNat) * 256 + (packet 1).toNat
  rw [Nat.zero_mul, Nat.zero_add]

theorem getRemainSize_body {packet : ℕ → UInt8} {f : Frame} (h : Holds packet 0 f.header) {n : ℕ}
    (hn : n ≤ f.body.length) : coapTcpV1GetRemainSize packet (2 + n) = .ok (f.body.length - n) := by
  have hcur : ¬ 2 + n < coapTcpV1RawHeaderLen := by
    show ¬ 2 + n < 2
    omega
  have hsub : 2 + n - coapTcpV1RawHeaderLen = n := Nat.add_sub_cancel_left 2 n
  simp only [coapTcpV1GetRemainSize, if_neg hcur, hsub, bodyLen_of_holds h]
  split_ifs with heq hgt
  · rw [heq, Nat.sub_self]
  · rfl
  · omega

/-! ## Reading a part of known length -/

/-- The loop with `done` read after the first `r` bytes, and `todo` next on the stream. -/
def midway (buf : UtilsBuffer) (r : ℕ) (rest : List UInt8) (i : ℕ) (done todo : List UInt8) : TlsRecv where
  recvLen := r + done.length
  buf := { buf with buffer := store buf.buffer (buf.len + r) done }
  stream := ⟨i, todo ++ rest⟩

theorem tlsRecvRound_chunk (chunk : ℕ → ℕ) {buf : UtilsBuffer} {r : ℕ} (rest : List UInt8) (i : ℕ)
    {done todo : List UInt8} (htodo : todo ≠ []) (hroom : buf.len + r + (done ++ todo).length ≤ buf.size)
    (hremain : coapTcpV1GetRemainSize (fun i => store buf.buffer (buf.len + r) done (buf.len + i)) (r + done.length) =
      .ok todo.length) :
    tlsRecvRound (cloudSocket chunk) (midway buf r rest i done todo) =
      .inr (midway buf r rest (i + 1) (done ++ todo.take (chunk i)) (todo.drop (chunk i))) := by
  rw [List.length_append] at hroom
  have hin : (midway buf r rest i done todo).InRoom := by
    show buf.len + (r + done.length) ≤ buf.size
    omega
  have hgt : ¬ todo.length > (midway buf r rest i done todo).curBufSize := by
    rw [TlsRecv.curBufSize_eq hin]
    show ¬ todo.length > buf.size - buf.len - (r + done.length)
    omega
  have hzero : ¬ todo.length = 0 := fun h => htodo (List.length_eq_zero_iff.mp h)
  have hremain' : (cloudSocket chunk).onUpdateRemainLen
      (fun j => (midway buf r rest i done todo).buf.buffer ((midway buf r rest i done todo).buf.len + j))
      (midway buf r rest i done todo).recvLen = .ok todo.length := hremain
  have hdata : (todo ++ rest).take (Nat.min (chunk i) todo.length) = todo.take (chunk i) := by
    rw [List.take_append_of_le_length (Nat.min_le_right _ _)]
    exact (List.take_eq_take_min ..).symm
  have hdrop : (todo ++ rest).drop (todo.take (chunk i)).length = todo.drop (chunk i) ++ rest := by
    rw [List.length_take, List.drop_append_of_le_length (Nat.min_le_right _ _)]
    congr 1
    exact (List.drop_eq_drop_min ..).symm
  unfold tlsRecvRound
  rw [hremain']
  simp only [if_neg hgt, if_neg hzero]
  simp only [cloudSocket, midway, hdata, hdrop, List.length_append, store_append, Nat.add_assoc]

variable {chunk : ℕ → ℕ}

theorem tlsRecvLoop_part (hfair : Fair chunk) (buf : UtilsBuffer) (r : ℕ) (part rest : List UInt8)
    (i : ℕ) (hroom : buf.len + r + part.length ≤ buf.size)
    (hremain : ∀ done todo, done ++ todo = part → todo ≠ [] →
      coapTcpV1GetRemainSize (fun i => store buf.buffer (buf.len + r) done (buf.len + i)) (r + done.length) =
        .ok todo.length) :
    ∃ k j, ∀ fuel, tlsRecvLoop (cloudSocket chunk) (fuel + k) (midway buf r rest i [] part) =
      tlsRecvLoop (cloudSocket chunk) fuel (midway buf r rest j part []) := by
  refine hfair.exhaust (P := fun i done todo => done ++ todo = part → ∃ k j, ∀ fuel,
    tlsRecvLoop (cloudSocket chunk) (fuel + k) (midway buf r rest i done todo) =
      tlsRecvLoop (cloudSocket chunk) fuel (midway buf r rest j part [])) ?_ ?_ part i [] rfl
  · intro i done hpart
    rw [List.append_nil] at hpart
    subst hpart
    exact ⟨0, i, fun fuel => rfl⟩
  · intro i done todo htodo hnext hpart
    obtain ⟨k, j, hk⟩ := hnext (by rw [List.append_assoc, List.take_append_drop, hpart])
    refine ⟨k + 1, j, fun fuel => ?_⟩
    have hround := tlsRecvRound_chunk chunk rest i htodo (by rw [hpart]; exact hroom)
      (hremain done todo hpart htodo)
    rw [← Nat.add_assoc, tlsRecvLoop_next _ _ hround, hk]

/-! ## Reading a frame -/

/-- The free part of the buffer after the length of the frame has been read to it. -/
def headerRead (size : ℕ) (f : Frame) : UtilsBuffer := ⟨store (fun _ => 0) 0 f.header, size, 0⟩

variable {size : ℕ}

theorem tlsRecvLoop_header (hfair : Fair chunk) (f : Frame) (rest : List UInt8) (hsize : 2 ≤ size) :
    ∃ k j, ∀ fuel, tlsRecvLoop (cloudSocket chunk) (fuel + k) ⟨0, UtilsBuffer.zeroed size, ⟨0, f.bytes ++ rest⟩⟩ =
      tlsRecvLoop (cloudSocket chunk) fuel ⟨2, headerRead size f, ⟨j, f.body ++ rest⟩⟩ := by
  obtain ⟨k, j, hk⟩ := tlsRecvLoop_part hfair (UtilsBuffer.zeroed size) 0 f.header (f.body ++ rest) 0
    (by simpa [UtilsBuffer.zeroed] using hsize) (by
      intro done todo hpart htodo
      have hlen : done.length + todo.length = 2 := by rw [← List.length_append, hpart, Frame.header_length]
      have hpos : 0 < todo.length := List.length_pos_iff.mpr htodo
      rw [getRemainSize_header _ (by omega)]
      congr 1
      omega)
  have hstart : midway (UtilsBuffer.zeroed size) 0 (f.body ++ rest) 0 [] f.header =
      ⟨0, UtilsBuffer.zeroed size, ⟨0, f.bytes ++ rest⟩⟩ := by
    simp [midway, Frame.bytes]
  have hend : midway (UtilsBuffer.zeroed size) 0 (f.body ++ rest) j f.header [] =
      ⟨2, headerRead size f, ⟨j, f.body ++ rest⟩⟩ := by
    simp [midway, UtilsBuffer.zeroed, headerRead]
  refine ⟨k, j, fun fuel => ?_⟩
  rw [← hstart, ← hend]
  exact hk fuel

theorem tlsRecvLoop_body (hfair : Fair chunk) (f : Frame) (rest : List UInt8) (i : ℕ)
    (hsize : f.bytes.length ≤ size) :
    ∃ k j, ∀ fuel, tlsRecvLoop (cloudSocket chunk) (fuel + k) ⟨2, headerRead size f, ⟨i, f.body ++ rest⟩⟩ =
      tlsRecvLoop (cloudSocket chunk) fuel
        ⟨f.bytes.length, ⟨store (fun _ => 0) 0 f.bytes, size, 0⟩, ⟨j, rest⟩⟩ := by
  obtain ⟨k, j, hk⟩ := tlsRecvLoop_part hfair (headerRead size f) 2 f.body rest i
    (by simpa [headerRead] using hsize) (by
      intro done todo hpart htodo
      have hheld : Holds (store (store (fun _ => 0) 0 f.header) 2 done) 0 f.header := by
        rw [Holds, load_store_before _ _ _ _ _ (by simp)]
        exact holds_store _ _ _
      have hlen : done.length + todo.length = f.body.length := by rw [← List.length_append, hpart]
      have hview : (fun i => store (headerRead size f).buffer ((headerRead size f).len + 2) done
          ((headerRead size f).len + i)) = store (store (fun _ => 0) 0 f.header) 2 done := by
        funext i
        simp [headerRead]
      rw [hview, getRemainSize_body hheld (by omega)]
      congr 1
      omega)
  have hstart : midway (headerRead size f) 2 rest i [] f.body = ⟨2, headerRead size f, ⟨i, f.body ++ rest⟩⟩ := by
    simp [midway]
  have hend : midway (headerRead size f) 2 rest j f.body [] =
      ⟨f.bytes.length, ⟨store (fun _ => 0) 0 f.bytes, size, 0⟩, ⟨j, rest⟩⟩ := by
    simp [midway, headerRead, Frame.bytes, store_append]
  refine ⟨k, j, fun fuel => ?_⟩
  rw [← hstart, ← hend]
  exact hk fuel

theorem transSocketRecv_zeroed (sock : TlsSocket) (fuel : ℕ) (hpos : 0 < size) (stream : TlsStream) :
    transSocketRecv sock fuel (UtilsBuffer.zeroed size) stream =
      tlsRecvLoop sock fuel ⟨0, UtilsBuffer.zeroed size, stream⟩ := by
  rw [transSocketRecv_eq]
  exact if_pos hpos

theorem toInt32_of_lt {n : ℕ} (h : n < 2 ^ 31) : toInt32 n = n := by
  unfold toInt32
  rw [Int.bmod_eq_of_le] <;> omega

theorem transSocketRecv_fits (hfair : Fair chunk) (f : Frame) (rest : List UInt8) (hsize : f.bytes.length ≤ size) :
    ∃ fuel j, transSocketRecv (cloudSocket chunk) fuel (UtilsBuffer.zeroed size) ⟨0, f.bytes ++ rest⟩ =
      some (0, ⟨store (fun _ => 0) 0 f.bytes, size, f.bytes.length⟩, ⟨j, rest⟩) := by
  have hpos : 2 ≤ size := by
    rw [Frame.bytes_length] at hsize
    omega
  obtain ⟨k, i, hk⟩ := tlsRecvLoop_header hfair f rest hpos
  obtain ⟨k', j, hk'⟩ := tlsRecvLoop_body hfair f rest i hsize
  refine ⟨1 + k' + k, j, ?_⟩
  have hheld : Holds (store (fun _ => 0) 0 f.bytes) 0 f.header := by
    have h := holds_store (fun _ => (0 : UInt8)) 0 f.bytes
    exact ((holds_append _ _ _ _).mp h).1
  have hremain : coapTcpV1GetRemainSize (store (fun _ => 0) 0 f.bytes) f.bytes.length = .ok 0 := by
    rw [Frame.bytes_length, getRemainSize_body hheld (Nat.le_refl _), Nat.sub_self]
  rw [transSocketRecv_zeroed _ _ (by omega), hk, hk']
  apply tlsRecvLoop_return _ 0
  unfold tlsRecvRound
  simp only [cloudSocket, Nat.zero_add, hremain]
  rfl

theorem transSocketRecv_short (hfair : Fair chunk) (f : Frame) (rest : List UInt8)
    (hpos : 0 < size) (hsize : size < f.bytes.length) :
    ∃ fuel ret buf stream, transSocketRecv (cloudSocket chunk) fuel (UtilsBuffer.zeroed size)
      ⟨0, f.bytes ++ rest⟩ = some (((ret : ℕ) : Int), buf, stream) ∧ 0 < ret ∧
      (buf.len < buf.size → Nat.max buf.size (ret + buf.len) < f.bytes.length) := by
  rw [Frame.bytes_length] at hsize ⊢
  have hbody := f.body_length
  by_cases h2 : 2 ≤ size
  · obtain ⟨k, i, hk⟩ := tlsRecvLoop_header hfair f rest h2
    refine ⟨1 + k, 2 + f.body.length - size, { headerRead size f with len := 2 }, ⟨i, f.body ++ rest⟩, ?_, by omega, ?_⟩
    · rw [transSocketRecv_zeroed _ _ hpos, hk]
      apply tlsRecvLoop_return _ 0
      have hremain : coapTcpV1GetRemainSize (headerRead size f).buffer 2 = .ok f.body.length :=
        getRemainSize_body (n := 0) (holds_store _ _ _) (Nat.zero_le _)
      have hcur : (TlsRecv.mk 2 (headerRead size f) ⟨i, f.body ++ rest⟩).curBufSize = size - 2 :=
        TlsRecv.curBufSize_eq (by show 0 + 2 ≤ size; omega)
      have hret : toInt32 (f.body.length - (size - 2)) = ((2 + f.body.length - size : ℕ) : Int) := by
        rw [toInt32_of_lt (by omega)]
        congr 1
        omega
      unfold tlsRecvRound
      simp only [cloudSocket, show (headerRead size f).len = 0 from rfl, Nat.zero_add, hremain, hcur]
      rw [if_pos (by omega), hret]
    · intro hlt
      have hlt' : 2 < size := hlt
      show Nat.max size (2 + f.body.length - size + 2) < _
      exact Nat.max_lt.mpr ⟨by omega, by omega⟩
  · obtain rfl : size = 1 := by omega
    refine ⟨1, 1, UtilsBuffer.zeroed 1, ⟨0, f.bytes ++ rest⟩, ?_, by omega, ?_⟩
    · rw [transSocketRecv_zeroed _ _ hpos]
      apply tlsRecvLoop_return _ 0
      have hcur : (TlsRecv.mk 0 (UtilsBuffer.zeroed 1) ⟨0, f.bytes ++ rest⟩).curBufSize = 1 := rfl
      have hret : toInt32 (2 - 0 - 1) = ((1 : ℕ) : Int) := toInt32_of_lt (by omega)
      unfold tlsRecvRound
      simp only [cloudSocket, getRemainSize_header _ (show 0 < 2 by omega), hcur]
      rw [if_pos (by omega), hret]
      rfl
    · intro _
      show Nat.max 1 (1 + 0) < _
      exact Nat.max_lt.mpr ⟨by omega, by omega⟩

theorem readsFrame_of_fits (hfair : Fair chunk) (calloc : Bool) {ctx : UtilsBufferCtx} (f : Frame)
    (rest : List UInt8) (hget : ctx.buffer = UtilsBuffer.zeroed ctx.buffer.size)
    (hsize : f.bytes.length ≤ ctx.buffer.size) : ReadsFrame (cloudSocket chunk) calloc ctx f rest := by
  obtain ⟨fuel, j, hrecv⟩ := transSocketRecv_fits hfair f rest hsize
  rw [← hget] at hrecv
  refine ⟨fuel, { ctx with buffer := ⟨store (fun _ => 0) 0 f.bytes, ctx.buffer.size, f.bytes.length⟩ }, ⟨j, rest⟩,
    ?_, ?_, rfl⟩
  · rw [transLinkReadDataFromSocket, hrecv]
    rfl
  · exact load_store_self (fun _ => 0) 0 f.bytes

theorem not_readsFrame_of_short (hfair : Fair chunk) (calloc : Bool) {ctx : UtilsBufferCtx}
    (f : Frame) (rest : List UInt8) (hget : ctx.buffer = UtilsBuffer.zeroed ctx.buffer.size)
    (hsize : ctx.buffer.size < f.bytes.length) : ¬ ReadsFrame (cloudSocket chunk) calloc ctx f rest := by
  rintro ⟨fuel, ctx', stream', hread, hload, -⟩
  have hlen : ctx'.buffer.len = f.bytes.length := by rw [← hload, load_length]
  have hsome : (transSocketRecv (cloudSocket chunk) fuel ctx.buffer ⟨0, f.bytes ++ rest⟩).isSome := by
    unfold transLinkReadDataFromSocket at hread
    split at hread
    · cases hread
    · rename_i hrecv
      rw [hrecv]
      rfl
  obtain ⟨r, hrecv⟩ := Option.isSome_iff_exists.mp hsome
  by_cases hpos : 0 < ctx.buffer.size
  · obtain ⟨fuel', ret, buf, stream, hrecv', hret, hshort⟩ := transSocketRecv_short hfair f rest hpos hsize
    rw [← hget] at hrecv'
    rw [transSocketRecv_unique hrecv hrecv'] at hrecv
    obtain ⟨hroom, hle⟩ := transLinkReadDataFromSocket_expended hrecv (by omega) hread
    have hlt := hshort hroom
    rw [Int.toNat_natCast] at hle
    omega
  · have hzero : ¬ ctx.buffer.len < ctx.buffer.size := by omega
    unfold transLinkReadDataFromSocket at hread
    rw [transSocketRecv_eq, if_neg hzero] at hread
    exact absurd (Prod.mk.inj (Option.some.inj hread)).1 (by decide)

/-- Whatever follows on the stream and however it is delivered, the link reads a frame exactly when the buffer
it was handed is as long as the frame. -/
theorem transLink_readsFrame_iff {chunk : ℕ → ℕ} (hfair : Fair chunk) (f : Frame) (rest : List UInt8)
    {callocGet callocExpend : Bool} {ctx₀ ctx : UtilsBufferCtx} (hget : utilsGetBuffer callocGet ctx₀ = some ctx) :
    ReadsFrame (cloudSocket chunk) callocExpend ctx f rest ↔ f.bytes.length ≤ ctx.buffer.size := by
  have hzeroed := utilsGetBuffer_eq_some hget
  constructor
  · intro hreads
    by_contra hlt
    exact not_readsFrame_of_short hfair callocExpend f rest hzeroed (Nat.lt_of_not_le hlt) hreads
  · exact readsFrame_of_fits hfair callocExpend f rest hzeroed

/-- A context as `UtilsBufferCtxNew preAlloc max` and `UtilsGetBuffer` leave it. -/
def freshCtx (preAlloc max : ℕ) : UtilsBufferCtx := ⟨0, preAlloc, max, UtilsBuffer.zeroed preAlloc⟩

/-- A frame with `n` zero bytes. -/
def zeroFrame (n : ℕ) (h : n < 2 ^ 16) : Frame := ⟨List.replicate n 0, by rwa [List.length_replicate]⟩

theorem fair_odd : Fair (fun i => i % 2) := fun i => ⟨2 * i + 1, by omega, by show 0 < (2 * i + 1) % 2; omega⟩

/-- Single bytes, with a pause before each. -/
theorem transLink_readsFrame_bytewise :
    ReadsFrame (cloudSocket fun i => i % 2) true (freshCtx 32 64) (zeroFrame 18 (by omega)) [7] := by
  have hget : utilsGetBuffer true (freshCtx 32 64) = some (freshCtx 32 64) := rfl
  exact (transLink_readsFrame_iff fair_odd _ [7] hget).mpr (by decide)

/-- A frame of 20 bytes for a context of 8 bytes that may grow to 64: the call returns `IOTC_OK` with the first
four bytes of the frame, and leaves the other sixteen for the next call. -/
theorem transLink_expanded_truncates :
    let f := zeroFrame 18 (by omega)
    utilsBufferCtxNew true 8 64 = some (freshCtx 8 64) ∧ f.bytes.length ≤ (freshCtx 8 64).maxSize - 1 ∧
    (transLinkReadDataFromSocket (cloudSocket fun _ => 100) true 10 (freshCtx 8 64) ⟨0, f.bytes⟩).map
      (fun r => (r.1, r.2.1.buffer.size, r.2.1.buffer.len, r.2.2.rest.length)) = some (0, 14, 4, 16) ∧
    ¬ ReadsFrame (cloudSocket fun _ => 100) true (freshCtx 8 64) f [] := by
  have hfair : Fair (fun _ => 100) := fun i => ⟨i, Nat.le_refl i, by show 0 < 100; omega⟩
  exact ⟨rfl, by decide, by decide, not_readsFrame_of_short hfair true _ [] rfl (by decide)⟩

end IotConnect.Transport
