import IotConnect.Transport.Buffer

/-! # Receiving from a TLS socket (`trans_socket_tls.c`, `trans_socket.c`, `trans_link.c`)

The socket asks its owner how many bytes of the message are missing, reads at most so many, and asks
again. A positive return value says by how much the buffer is too short. The TLS stack is the stream
of bytes that will arrive, and what each of its calls does with it. The loop of the code has no bound of
its own: `fuel` is the number of rounds it is run for. -/
namespace IotConnect.Transport
open Memory
set_option autoImplicit false

/-- One round of the loop: the clock is past the limit, or `IotcTlsClientRecv` fails, or it delivers at
most `n` bytes, where `0` stands for no data yet. -/
inductive TlsRound
  | timeout
  | fail
  | chunk (n : ℕ)

/-- The rounds that are over, and the bytes that have not been read. -/
structure TlsStream where
  rounds : ℕ
  rest : List UInt8

/-- `onUpdateRemainLen` of `SocketTlsInitParam`. -/
abbrev UpdateRemainLen := (packet : ℕ → UInt8) → (curLen : ℕ) → Except IotcErr ℕ

structure TlsSocket where
  onUpdateRemainLen : UpdateRemainLen
  round : ℕ → TlsRound

/-- A value returned as `int32_t`. -/
def toInt32 (n : ℕ) : Int := Int.bmod n (2 ^ 32)

/-- The variables of the loop of `TlsSocketRecv`: `recvLen` bytes have been read to the free part of the
buffer. -/
structure TlsRecv where
  recvLen : ℕ
  buf : UtilsBuffer
  stream : TlsStream

abbrev Received := Int × UtilsBuffer × TlsStream

def TlsRecv.curBufSize (s : TlsRecv) : ℕ := u32Sub (u32Sub s.buf.size s.buf.len) s.recvLen

def tlsRecvRound (sock : TlsSocket) (s : TlsRecv) : Received ⊕ TlsRecv :=
  match sock.onUpdateRemainLen (fun i => s.buf.buffer (s.buf.len + i)) s.recvLen with
  | .error ret => .inl (ret.val.code, s.buf, s.stream)
  | .ok remainLen =>
    if remainLen > s.curBufSize then
      .inl (toInt32 (remainLen - s.curBufSize), { s.buf with len := s.buf.len + s.recvLen }, s.stream)
    else if remainLen = 0 then .inl (0, { s.buf with len := s.buf.len + s.recvLen }, s.stream)
    else match sock.round s.stream.rounds with
      | .timeout => .inl (IotcRet.errTimeout.code, s.buf, s.stream)
      | .fail => .inl (IotcRet.transErrTlsSocketRecv.code, s.buf, { s.stream with rounds := s.stream.rounds + 1 })
      | .chunk n =>
        let data := s.stream.rest.take (Nat.min n remainLen)
        .inr {
          recvLen := s.recvLen + data.length
          buf := { s.buf with buffer := store s.buf.buffer (s.buf.len + s.recvLen) data }
          stream := ⟨s.stream.rounds + 1, s.stream.rest.drop data.length⟩ }

def tlsRecvLoop (sock : TlsSocket) : ℕ → TlsRecv → Option Received
  | 0, _ => none
  | fuel + 1, s =>
    match tlsRecvRound sock s with
    | .inl r => some r
    | .inr s => tlsRecvLoop sock fuel s

def tlsSocketRecv (sock : TlsSocket) (fuel : ℕ) (buf : UtilsBuffer) (stream : TlsStream) :
    Option Received :=
  if ¬ (buf.size ≠ 0 ∧ buf.size > buf.len) then some (IotcRet.errParamInvalid.code, buf, stream)
  else tlsRecvLoop sock fuel ⟨0, buf, stream⟩

def transSocketRecv (sock : TlsSocket) (fuel : ℕ) (buf : UtilsBuffer) (stream : TlsStream) :
    Option Received :=
  if ¬ (buf.size ≠ 0 ∧ buf.size ≥ buf.len) then some (IotcRet.errParamInvalid.code, buf, stream)
  else tlsSocketRecv sock fuel buf stream

def transLinkReadDataFromSocket (sock : TlsSocket) (calloc : Bool) (fuel : ℕ) (ctx : UtilsBufferCtx)
    (stream : TlsStream) : Option (Int × UtilsBufferCtx × TlsStream) :=
  match transSocketRecv sock fuel ctx.buffer stream with
  | none => none
  | some (ret, buf, stream) =>
    let ctx := { ctx with buffer := buf }
    if ret = 0 then some (0, ctx, stream)
    else if ret < 0 then some (ret, ctx, stream)
    else if buf.len > buf.size ∨ ret > (2 ^ 32 - 1 - buf.len : ℕ) ∨ ret < (buf.size - buf.len : ℕ) then
      some (IotcRet.transErrSocketRecvInvalid.code, ctx, stream)
    else
      let expectSize := ret.toNat + buf.len
      let (ret, ctx) := utilsExpendBuffer calloc ctx expectSize
      if ret ≠ .ok then some (ret.code, ctx, stream)
      else
        match transSocketRecv sock fuel ctx.buffer stream with
        | none => none
        | some (ret, buf, stream) =>
          let ctx := { ctx with buffer := buf }
          if ret ≠ 0 then some (ret, ctx, stream) else some (0, ctx, stream)

/-! ## The loop -/

variable {s : TlsRecv} {r : Received}

theorem tlsRecvLoop_return (sock : TlsSocket) (fuel : ℕ)
    (h : tlsRecvRound sock s = .inl r) : tlsRecvLoop sock (fuel + 1) s = some r := by
  rw [tlsRecvLoop, h]

theorem tlsRecvLoop_next (sock : TlsSocket) (fuel : ℕ) {s' : TlsRecv} (h : tlsRecvRound sock s = .inr s') :
    tlsRecvLoop sock (fuel + 1) s = tlsRecvLoop sock fuel s' := by
  rw [tlsRecvLoop, h]

variable {fuel : ℕ}

theorem tlsRecvLoop_mono (sock : TlsSocket) (k : ℕ)
    (h : tlsRecvLoop sock fuel s = some r) : tlsRecvLoop sock (fuel + k) s = some r := by
  induction fuel generalizing s with
  | zero => cases h
  | succ fuel ih =>
    rw [Nat.add_right_comm]
    cases hround : tlsRecvRound sock s with
    | inl r' =>
      rw [tlsRecvLoop_return sock _ hround] at h ⊢
      exact h
    | inr s' =>
      rw [tlsRecvLoop_next sock _ hround] at h ⊢
      exact ih h

theorem transSocketRecv_eq (sock : TlsSocket) (fuel : ℕ) (buf : UtilsBuffer) (stream : TlsStream) :
    transSocketRecv sock fuel buf stream =
      if buf.len < buf.size then tlsRecvLoop sock fuel ⟨0, buf, stream⟩
      else some (IotcRet.errParamInvalid.code, buf, stream) := by
  unfold transSocketRecv tlsSocketRecv
  by_cases h : buf.len < buf.size
  · have h0 : buf.size ≠ 0 := by omega
    rw [if_neg (not_not.mpr ⟨h0, Nat.le_of_lt h⟩), if_neg (not_not.mpr ⟨h0, h⟩), if_pos h]
  · rw [if_neg h, if_pos (c := ¬ (buf.size ≠ 0 ∧ buf.size > buf.len)) (fun hc => h hc.2), ite_self]

variable {buf : UtilsBuffer} {stream : TlsStream}

theorem transSocketRecv_unique {sock : TlsSocket} {fuel' : ℕ}
    {r' : Received} (h : transSocketRecv sock fuel buf stream = some r)
    (h' : transSocketRecv sock fuel' buf stream = some r') : r = r' := by
  rw [transSocketRecv_eq] at h h'
  split_ifs at h h'
  · have e := tlsRecvLoop_mono sock fuel' h
    have e' := tlsRecvLoop_mono sock fuel h'
    rw [Nat.add_comm, e] at e'
    exact Option.some.inj e'
  · exact Option.some.inj (h.symm.trans h')

/-! ## Reading stays within the buffer -/

def TlsRecv.InRoom (s : TlsRecv) : Prop := s.buf.len + s.recvLen ≤ s.buf.size

theorem TlsRecv.curBufSize_eq (hroom : s.InRoom) : s.curBufSize = s.buf.size - s.buf.len - s.recvLen := by
  unfold InRoom at hroom
  rw [curBufSize, u32Sub_of_le (show s.buf.len ≤ s.buf.size by omega), u32Sub_of_le (by omega)]

variable {ret : Int}

theorem tlsRecvRound_return (sock : TlsSocket)
    (hroom : s.InRoom) (h : tlsRecvRound sock s = .inl (ret, buf, stream)) :
    buf.size = s.buf.size ∧ buf.len ≤ s.buf.size := by
  have hle : s.buf.len ≤ s.buf.size := Nat.le_trans (Nat.le_add_right _ _) hroom
  unfold tlsRecvRound at h
  split at h
  · cases h
    exact ⟨rfl, hle⟩
  · split_ifs at h
    · obtain ⟨-, rfl, -⟩ : _ ∧ _ ∧ _ := by simpa only [Sum.inl.injEq, Prod.mk.injEq] using h
      exact ⟨rfl, hroom⟩
    · cases h
      exact ⟨rfl, hroom⟩
    · split at h
      · cases h
        exact ⟨rfl, hle⟩
      · cases h
        exact ⟨rfl, hle⟩
      · cases h

theorem tlsRecvRound_next (sock : TlsSocket) {s' : TlsRecv} (hroom : s.InRoom)
    (h : tlsRecvRound sock s = .inr s') : s'.buf.size = s.buf.size ∧ s'.InRoom := by
  unfold tlsRecvRound at h
  split at h
  · cases h
  · rename_i remainLen _
    split_ifs at h with hgt
    split at h
    · cases h
    · cases h
    · rename_i n _
      cases h
      refine ⟨rfl, ?_⟩
      rw [TlsRecv.curBufSize_eq hroom] at hgt
      unfold TlsRecv.InRoom at hroom
      have hdata : (s.stream.rest.take (Nat.min n remainLen)).length ≤ Nat.min n remainLen :=
        List.length_take_le _ _
      have hmin : Nat.min n remainLen ≤ remainLen := Nat.min_le_right _ _
      show s.buf.len + (s.recvLen + _) ≤ s.buf.size
      omega

theorem tlsRecvLoop_bound (sock : TlsSocket)
    (hroom : s.InRoom) (h : tlsRecvLoop sock fuel s = some (ret, buf, stream)) :
    buf.size = s.buf.size ∧ buf.len ≤ s.buf.size := by
  induction fuel generalizing s with
  | zero => cases h
  | succ fuel ih =>
    cases hround : tlsRecvRound sock s with
    | inl r =>
      rw [tlsRecvLoop_return sock _ hround] at h
      rw [Option.some.inj h] at hround
      exact tlsRecvRound_return sock hroom hround
    | inr s' =>
      rw [tlsRecvLoop_next sock _ hround] at h
      obtain ⟨hsize, hroom'⟩ := tlsRecvRound_next sock hroom hround
      rw [← hsize]
      exact ih hroom' h

theorem transSocketRecv_bound (sock : TlsSocket) {buf' : UtilsBuffer} {stream' : TlsStream}
    (hle : buf.len ≤ buf.size) (h : transSocketRecv sock fuel buf stream = some (ret, buf', stream')) :
    buf'.size = buf.size ∧ buf'.len ≤ buf.size := by
  rw [transSocketRecv_eq] at h
  split_ifs at h
  · exact tlsRecvLoop_bound sock (s := ⟨0, buf, stream⟩) hle h
  · cases h
    exact ⟨rfl, hle⟩

/-- A call that needed a longer buffer and succeeds: there was room in the buffer, and what is read fits the
size that was asked for. -/
theorem transLinkReadDataFromSocket_expended {sock : TlsSocket} {calloc : Bool} {ctx ctx' : UtilsBufferCtx}
    {stream₁ stream' : TlsStream}
    (hrecv : transSocketRecv sock fuel ctx.buffer stream = some (ret, buf, stream₁)) (hret : 0 < ret)
    (hread : transLinkReadDataFromSocket sock calloc fuel ctx stream = some (0, ctx', stream')) :
    buf.len < buf.size ∧ ctx'.buffer.len ≤ Nat.max buf.size (ret.toNat + buf.len) := by
  unfold transLinkReadDataFromSocket at hread
  simp only [hrecv] at hread
  rw [if_neg (by omega), if_neg (by omega)] at hread
  obtain ⟨eret, ectx, hexpend⟩ : ∃ eret ectx,
      utilsExpendBuffer calloc { ctx with buffer := buf } (ret.toNat + buf.len) = (eret, ectx) := ⟨_, _, rfl⟩
  simp only [hexpend] at hread
  split_ifs at hread with hinvalid herr
  · cases (IotcRet.code_eq_zero_iff _).mp (Prod.mk.inj (Option.some.inj hread)).1
  · exact absurd ((IotcRet.code_eq_zero_iff _).mp (Prod.mk.inj (Option.some.inj hread)).1) herr
  · rw [not_not.mp herr] at hexpend
    obtain ⟨hroom, hlen, hsize⟩ := utilsExpendBuffer_ok hexpend
    refine ⟨hroom, ?_⟩
    split at hread
    · cases hread
    · rename_i ret₂ buf₂ stream₂ hagain
      have hle : ectx.buffer.len ≤ ectx.buffer.size := by
        rw [hlen, hsize]
        exact Nat.le_trans (Nat.le_of_lt hroom) (Nat.le_max_left _ _)
      have hbound := (transSocketRecv_bound sock hle hagain).2
      split_ifs at hread with hne
      · exact absurd (Prod.mk.inj (Option.some.inj hread)).1 hne
      · obtain rfl := (Prod.mk.inj (Prod.mk.inj (Option.some.inj hread)).2).1
        rw [← hsize]
        exact hbound

end IotConnect.Transport
