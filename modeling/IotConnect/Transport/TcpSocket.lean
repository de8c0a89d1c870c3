import IotConnect.Transport.Buffer

/-! # Sending and receiving on a TCP socket (`trans_socket_tcp.c`)

`TcpSocketSend` offers the whole buffer to `IotcSend` until the results add up to its length. `TcpSocketRecv` reads until
nothing more is there; when it has read all but one byte of the buffer it leaves the loop and returns an error with a
length of `0`. The results of `IotcSend` and the chunks of `IotcRecv` are inputs, a function without a result has used
them up; `sendLen` is counted without the bound of its type. -/
namespace IotConnect.Transport
open Memory
set_option autoImplicit false

/-! ## Sending -/

/-- The loop of `TcpSocketSend`: its result and the bytes that went to the stream. -/
def tcpSendLoop (data : List UInt8) : List Int → ℕ → List UInt8 → Option (Int × List UInt8)
  | [], _, _ => none
  | ret :: rets, sendLen, written =>
    if ret < 0 then some (ret, written)
    else
      let sendLen := sendLen + ret.toNat
      let written := written ++ data.take ret.toNat
      if sendLen < data.length then tcpSendLoop data rets sendLen written else some (IotcRet.ok.code, written)

def tcpSocketSend (data : List UInt8) (rets : List Int) : Option (Int × List UInt8) :=
  if data.length = 0 then some (IotcRet.errParamInvalid.code, []) else tcpSendLoop data rets 0 []

/-- Each part of `rest` that a call has reported is like the beginning of the data. -/
def Repeats (data : List UInt8) : List ℕ → List UInt8 → Prop
  | [], _ => True
  | n :: ns, rest => rest.take n = data.take n ∧ Repeats data ns (rest.drop n)

def sentParts (data : List UInt8) (ns : List ℕ) : List UInt8 := ns.flatMap data.take

variable {data : List UInt8} {ns : List ℕ}

theorem tcpSendLoop_eq (hpos : ∀ n ∈ ns, 0 < n) {sendLen : ℕ} (hlt : sendLen < data.length)
    (hsum : sendLen + ns.sum = data.length) (written : List UInt8) :
    tcpSendLoop data (ns.map Int.ofNat) sendLen written = some (IotcRet.ok.code, written ++ sentParts data ns) := by
  induction ns generalizing sendLen written with
  | nil =>
    rw [List.sum_nil] at hsum
    omega
  | cons n ns ih =>
    obtain ⟨hn, hpos⟩ := List.forall_mem_cons.mp hpos
    rw [List.sum_cons] at hsum
    rw [List.map_cons, tcpSendLoop, if_neg (by simp), Int.ofNat_eq_natCast, Int.toNat_natCast]
    dsimp only
    split_ifs with hmore
    · rw [ih hpos hmore (by omega), sentParts, sentParts, List.flatMap_cons, List.append_assoc]
    · obtain rfl : ns = [] := by
        cases ns with
        | nil => rfl
        | cons k ns =>
          have hk := hpos k List.mem_cons_self
          rw [List.sum_cons] at hsum
          omega
      simp [sentParts]

theorem sentParts_eq_iff (hle : ∀ n ∈ ns, n ≤ data.length) {rest : List UInt8} (hsum : ns.sum = rest.length) :
    sentParts data ns = rest ↔ Repeats data ns rest := by
  induction ns generalizing rest with
  | nil =>
    rw [List.sum_nil] at hsum
    rw [List.length_eq_zero_iff.mp hsum.symm]
    exact iff_of_true rfl trivial
  | cons n ns ih =>
    obtain ⟨hn, hle⟩ := List.forall_mem_cons.mp hle
    rw [List.sum_cons] at hsum
    have hdrop : ns.sum = (rest.drop n).length := by
      rw [List.length_drop]
      omega
    rw [Repeats, ← ih hle hdrop, sentParts, List.flatMap_cons]
    constructor
    · rintro rfl
      have hlen : (data.take n).length = n := List.length_take_of_le hn
      exact ⟨List.take_left' hlen, (List.drop_left' hlen).symm⟩
    · rintro ⟨htake, hparts⟩
      rw [← htake]
      exact (congrArg _ hparts).trans (List.take_append_drop n rest)

theorem tcpSocketSend_iff (hdata : data ≠ []) (hpos : ∀ n ∈ ns, 0 < n) (hsum : ns.sum = data.length) :
    tcpSocketSend data (ns.map Int.ofNat) = some (IotcRet.ok.code, sentParts data ns) ∧
      (sentParts data ns = data ↔ Repeats data ns data) := by
  have hlen : 0 < data.length := List.length_pos_iff.mpr hdata
  have hle : ∀ n ∈ ns, n ≤ data.length := by
    intro n hn
    obtain ⟨before, after, rfl⟩ := List.append_of_mem hn
    rw [List.sum_append, List.sum_cons] at hsum
    omega
  refine ⟨?_, sentParts_eq_iff hle hsum⟩
  rw [tcpSocketSend, if_neg (Nat.ne_of_gt hlen), tcpSendLoop_eq hpos hlen (by rw [hsum, Nat.zero_add]), List.nil_append]

/-! ## Receiving -/

/-- The variables of `TcpSocketRecv`, and the bytes that it has taken from the stream. -/
structure TcpRecv where
  recSize : ℕ
  count : ℕ
  buf : UtilsBuffer
  consumed : List UInt8

/-- The loop of `TcpSocketRecv`. `IotcRecv` delivers no more than it is asked for; an empty chunk is a result that is
not positive. `limit` is the number of empty rounds until the timeout. -/
def tcpRecvLoop (limit : ℕ) : List (List UInt8) → TcpRecv → Option (IotcRet × TcpRecv)
  | [], _ => none
  | chunk :: chunks, s =>
    let data := chunk.take (s.buf.size - s.recSize - 1)
    if data ≠ [] then
      let s : TcpRecv :=
        ⟨s.recSize + data.length, s.count, { s.buf with buffer := store s.buf.buffer s.recSize data }, s.consumed ++ data⟩
      if s.recSize < s.buf.size - 1 then tcpRecvLoop limit chunks s else some (.error, s)
    else if 0 < s.recSize then some (.ok, { s with buf := { s.buf with len := s.recSize } })
    else if limit ≤ s.count + 1 then some (.error, { s with count := s.count + 1 })
    else if s.recSize < s.buf.size - 1 then tcpRecvLoop limit chunks { s with count := s.count + 1 }
    else some (.error, { s with count := s.count + 1 })

/-- `TCP_RECV_TIMEOUT_MS` -/
def tcpRecvTimeoutMs : ℕ := 10

/-- `TcpSocketRecv`; `hasRemainLen` says whether the socket has an `onUpdateRemainLen`. -/
def tcpSocketRecv (hasRemainLen : Bool) (tmo : ℕ) (chunks : List (List UInt8)) (buf : UtilsBuffer) :
    Option (IotcRet × TcpRecv) :=
  if ¬ (buf.size ≠ 0 ∧ buf.size > buf.len) then some (.errParamInvalid, ⟨0, 0, buf, []⟩)
  else if hasRemainLen = false then some (.errCallbackNull, ⟨0, 0, buf, []⟩)
  else tcpRecvLoop (tmo / tcpRecvTimeoutMs) chunks ⟨0, 0, { buf with len := 0 }, []⟩

/-- The bytes taken from the stream are those in the buffer. -/
def TcpRecv.Kept (s : TcpRecv) : Prop := s.buf.len = s.consumed.length ∧ Holds s.buf.buffer 0 s.consumed

/-- The length of the chunks up to the next empty one. -/
def burst (chunks : List (List UInt8)) : ℕ := (chunks.takeWhile (· ≠ [])).flatten.length

/-- The empty rounds at the beginning. -/
def silence (chunks : List (List UInt8)) : ℕ := (chunks.takeWhile (· = [])).length

/-- The first bytes come too late, or they leave room for more than one byte. -/
def Fits (limit count size : ℕ) (chunks : List (List UInt8)) : Prop :=
  0 < silence chunks ∧ limit ≤ count + silence chunks ∨ burst (chunks.dropWhile (· = [])) < size - 1

/-- What holds before every call of `IotcRecv`. -/
structure Reading (s : TcpRecv) : Prop where
  size : s.recSize = s.consumed.length
  holds : Holds s.buf.buffer 0 s.consumed
  len : s.buf.len = 0
  room : s.recSize < s.buf.size - 1

variable {s s' : TcpRecv} {limit : ℕ} {ret : IotcRet} {chunks : List (List UInt8)}

def TcpRecv.read (s : TcpRecv) (data : List UInt8) : TcpRecv :=
  ⟨s.recSize + data.length, s.count, { s.buf with buffer := store s.buf.buffer s.recSize data }, s.consumed ++ data⟩

/-- A chunk leaves room in the buffer, or it fills the buffer and is lost. -/
theorem Reading.next (h : Reading s) {chunk : List UInt8} (hchunk : chunk ≠ []) :
    s.recSize + chunk.length < s.buf.size - 1 ∧ Reading (s.read chunk) ∧
        tcpRecvLoop limit (chunk :: chunks) s = tcpRecvLoop limit chunks (s.read chunk) ∨
      s.buf.size - 1 ≤ s.recSize + chunk.length ∧
        ∃ s', tcpRecvLoop limit (chunk :: chunks) s = some (.error, s') ∧ ¬ s'.Kept := by
  have hroom := h.room
  have hdata : chunk.take (s.buf.size - s.recSize - 1) ≠ [] := by
    rw [ne_eq, List.take_eq_nil_iff, not_or]
    exact ⟨by omega, hchunk⟩
  have hlen := List.length_take (i := s.buf.size - s.recSize - 1) (l := chunk)
  rw [tcpRecvLoop, if_pos hdata]
  dsimp only
  by_cases hmore : s.recSize + chunk.length < s.buf.size - 1
  · have hfull : chunk.take (s.buf.size - s.recSize - 1) = chunk := List.take_of_length_le (by omega)
    have hstore := h.holds.store_append chunk
    rw [Nat.zero_add, ← h.size] at hstore
    rw [hfull, if_pos hmore]
    exact .inl ⟨hmore, ⟨by simp [TcpRecv.read, h.size], hstore, h.len, hmore⟩, rfl⟩
  · rw [if_neg (by omega)]
    refine .inr ⟨by omega, _, rfl, fun hkept => hdata ?_⟩
    have hnil := h.len.symm.trans hkept.1
    rw [eq_comm, List.length_eq_zero_iff, List.append_eq_nil_iff] at hnil
    exact hnil.2

theorem burst_cons {chunk : List UInt8} (h : chunk ≠ []) : burst (chunk :: chunks) = chunk.length + burst chunks := by
  simp [burst, h]

/-- Once bytes have come, the rest of the burst decides. -/
theorem Reading.kept_iff_burst (h : Reading s) (hpos : 0 < s.recSize)
    (hloop : tcpRecvLoop limit chunks s = some (ret, s')) : s'.Kept ↔ s.recSize + burst chunks < s.buf.size - 1 := by
  induction chunks generalizing s with
  | nil => cases hloop
  | cons chunk chunks ih =>
    by_cases hchunk : chunk = []
    · rw [tcpRecvLoop, hchunk, List.take_nil, if_neg (not_not.mpr rfl), if_pos hpos] at hloop
      cases hloop
      refine iff_of_true ⟨h.size, h.holds⟩ ?_
      simpa [burst, hchunk] using h.room
    · rw [burst_cons hchunk, ← Nat.add_assoc]
      rcases h.next hchunk with ⟨-, hnext, heq⟩ | ⟨hfull, s'', heq, hlost⟩
      · rw [heq] at hloop
        exact ih hnext (Nat.lt_of_lt_of_le hpos (Nat.le_add_right _ _)) hloop
      · rw [heq] at hloop
        cases hloop
        exact iff_of_false hlost (by omega)

theorem Reading.kept_iff (h : Reading s) (hzero : s.recSize = 0)
    (hloop : tcpRecvLoop limit chunks s = some (ret, s')) : s'.Kept ↔ Fits limit s.count s.buf.size chunks := by
  have hnone : s.consumed = [] := List.length_eq_zero_iff.mp (h.size.symm.trans hzero)
  induction chunks generalizing s with
  | nil => cases hloop
  | cons chunk chunks ih =>
    by_cases hchunk : chunk = []
    · have hsilence : silence (chunk :: chunks) = silence chunks + 1 := by simp [silence, hchunk]
      have hdrop : (chunk :: chunks).dropWhile (· = []) = chunks.dropWhile (· = []) := by simp [hchunk]
      rw [tcpRecvLoop, hchunk, List.take_nil, if_neg (not_not.mpr rfl), if_neg (by omega)] at hloop
      rw [Fits, hsilence, hdrop]
      by_cases hlimit : limit ≤ s.count + 1
      · rw [if_pos hlimit] at hloop
        cases hloop
        exact iff_of_true ⟨by rw [hnone]; exact h.len, h.holds⟩ (.inl ⟨Nat.succ_pos _, by omega⟩)
      · rw [if_neg hlimit, if_pos h.room] at hloop
        have hnext : Reading { s with count := s.count + 1 } := ⟨h.size, h.holds, h.len, h.room⟩
        refine (ih hnext hzero hloop hnone).trans ?_
        dsimp only [Fits]
        exact or_congr_left ⟨fun ⟨_, _⟩ => ⟨by omega, by omega⟩, fun ⟨_, _⟩ => ⟨by omega, by omega⟩⟩
    · have hfits : Fits limit s.count s.buf.size (chunk :: chunks) ↔
          s.recSize + chunk.length + burst chunks < s.buf.size - 1 := by
        simp [Fits, silence, hchunk, hzero, burst]
      rw [hfits]
      rcases h.next hchunk with ⟨-, hnext, heq⟩ | ⟨hfull, s'', heq, hlost⟩
      · rw [heq] at hloop
        exact hnext.kept_iff_burst (Nat.lt_of_lt_of_le (List.length_pos_iff.mpr hchunk) (Nat.le_add_left _ _)) hloop
      · rw [heq] at hloop
        cases hloop
        exact iff_of_false hlost (by omega)

/-- The loop ends: every round fills the buffer or brings the timeout nearer. -/
theorem Reading.returns (h : Reading s) (hlen : s.buf.size - 1 - s.recSize + (limit - s.count) ≤ chunks.length) :
    (tcpRecvLoop limit chunks s).isSome = true := by
  induction chunks generalizing s with
  | nil =>
    have hroom := h.room
    rw [List.length_nil] at hlen
    omega
  | cons chunk chunks ih =>
    rw [List.length_cons] at hlen
    by_cases hchunk : chunk = []
    · rw [tcpRecvLoop, hchunk, List.take_nil, if_neg (not_not.mpr rfl)]
      split_ifs with hpos hlimit
      · rfl
      · rfl
      · exact ih ⟨h.size, h.holds, h.len, h.room⟩ (by dsimp only; omega)
      · rfl
    · rcases h.next hchunk with ⟨_, hnext, heq⟩ | ⟨-, s'', heq, -⟩
      · have hpos := List.length_pos_iff.mpr hchunk
        rw [heq]
        refine ih hnext ?_
        show s.buf.size - 1 - (s.recSize + chunk.length) + (limit - s.count) ≤ chunks.length
        omega
      · rw [heq]
        rfl

/-- A call that reads from the stream has `Fits`, another one was given an empty buffer. -/
def RecvFits (hasRemainLen : Bool) (tmo : ℕ) (chunks : List (List UInt8)) (buf : UtilsBuffer) : Prop :=
  if buf.len < buf.size ∧ hasRemainLen = true then Fits (tmo / tcpRecvTimeoutMs) 0 buf.size chunks else buf.len = 0

theorem reading_start {buf : UtilsBuffer} (h : 2 ≤ buf.size) : Reading ⟨0, 0, { buf with len := 0 }, []⟩ :=
  ⟨rfl, load_zero _ _, rfl, by dsimp only; omega⟩

theorem tcpSocketRecv_kept_iff {hasRemainLen : Bool} {tmo : ℕ} {buf : UtilsBuffer} (hsize : 2 ≤ buf.size)
    (h : tcpSocketRecv hasRemainLen tmo chunks buf = some (ret, s)) : s.Kept ↔ RecvFits hasRemainLen tmo chunks buf := by
  have hempty : (TcpRecv.mk 0 0 buf []).Kept ↔ buf.len = 0 := and_iff_left (load_zero _ _)
  unfold tcpSocketRecv at h
  unfold RecvFits
  by_cases hparam : buf.size ≠ 0 ∧ buf.size > buf.len
  · rw [if_neg (not_not.mpr hparam)] at h
    cases hasRemainLen with
    | false =>
      cases h
      rw [if_neg (by simp), hempty]
    | true =>
      rw [if_pos ⟨hparam.2, rfl⟩]
      exact (reading_start hsize).kept_iff rfl h
  · rw [if_pos hparam] at h
    cases h
    rw [if_neg (by omega), hempty]

theorem tcpSocketRecv_returns {hasRemainLen : Bool} {tmo : ℕ} {buf : UtilsBuffer} (hsize : 2 ≤ buf.size)
    (h : buf.size + tmo / tcpRecvTimeoutMs ≤ chunks.length) :
    (tcpSocketRecv hasRemainLen tmo chunks buf).isSome = true := by
  have hlen : buf.size - 1 - 0 + (tmo / tcpRecvTimeoutMs - 0) ≤ chunks.length := by
    generalize tmo / tcpRecvTimeoutMs = limit at h ⊢
    omega
  have hloop := (reading_start hsize).returns hlen
  unfold tcpSocketRecv
  split_ifs
  · rfl
  · exact hloop
  · rfl

/-! ## The stream -/

/-- What is sent is the data exactly when it repeats its beginning at every partial result; a receive returns, and what
it has read is in the buffer exactly when the buffer is not filled up. -/
theorem tcp_stream_iff (data : List UInt8) (ns : List ℕ) (hasRemainLen : Bool) (tmo : ℕ) (chunks : List (List UInt8))
    (buf : UtilsBuffer) :
    (data ≠ [] → (∀ n ∈ ns, 0 < n) → ns.sum = data.length →
      tcpSocketSend data (ns.map Int.ofNat) = some (IotcRet.ok.code, sentParts data ns) ∧
        (sentParts data ns = data ↔ Repeats data ns data)) ∧
    (2 ≤ buf.size →
      (buf.size + tmo / tcpRecvTimeoutMs ≤ chunks.length →
        (tcpSocketRecv hasRemainLen tmo chunks buf).isSome = true) ∧
      ∀ ret s, tcpSocketRecv hasRemainLen tmo chunks buf = some (ret, s) →
        (s.Kept ↔ RecvFits hasRemainLen tmo chunks buf)) :=
  ⟨fun hdata hpos hsum => tcpSocketSend_iff hdata hpos hsum,
    fun hsize => ⟨tcpSocketRecv_returns hsize, fun _ _ => tcpSocketRecv_kept_iff hsize⟩⟩

/-- Four bytes in two parts, which are alike; two bytes to a buffer of four. -/
theorem tcp_stream_short :
    tcpSocketSend [7, 8, 7, 8] [2, 2] = some (0, [7, 8, 7, 8]) ∧
      ∃ s, tcpSocketRecv true 100 [[1, 2], []] (.zeroed 4) = some (.ok, s) ∧ s.Kept := by
  obtain ⟨hsend, hrecv⟩ := tcp_stream_iff [7, 8, 7, 8] [2, 2] true 100 [[1, 2], []] (.zeroed 4)
  refine ⟨(hsend (by decide) (by decide) (by decide)).1, _, rfl, ?_⟩
  exact ((hrecv (by decide)).2 _ _ rfl).mpr (.inr (by decide))

/-- Two partial results send the first byte twice; three bytes fill a buffer of four. -/
theorem tcp_stream_broken :
    tcpSocketSend [1, 2] [1, 1] = some (0, [1, 1]) ∧
      ∃ s, tcpSocketRecv true 100 [[1, 2], [3]] (.zeroed 4) = some (.error, s) ∧ s.consumed = [1, 2, 3] ∧
        s.buf.len = 0 ∧ ¬ s.Kept :=
  ⟨by rfl, _, rfl, rfl, rfl, fun h => nomatch h.1⟩

end IotConnect.Transport
