import IotConnect.Endpoint.Retrans
import IotConnect.Foundations.Mutex
import IotConnect.Transport.Buffer

/-! # The tasks that share a buffer

`utils_buffer.c`: a semaphore with one permit guards the buffer of a context. `UtilsGetBuffer` waits for it, and
`UtilsReleaseBuffer` posts it. The first part lets any number of tasks call the two; a wait may time out, and an
allocation may fail. The second part follows `TransLinkRecvReadEvent` and `CoapEndpointSendPacket` from the first call
to the return. The semaphore is correct: it is posted and taken in one step. -/
namespace IotConnect.BufferShare
open Mutex Trace Transport
set_option autoImplicit false

/-! ## The tasks -/

/-- Where a task is: outside, before `IotcSemWait`, before the post after a failed wait, past the wait, before the post
after a failed allocation, out of `UtilsGetBuffer` with the buffer, before the post of `UtilsReleaseBuffer`. -/
inductive TaskPc
  | idle
  | waiting
  | timedOut
  | got
  | noMemory
  | holding
  | releasing
  deriving DecidableEq

/-- The places where the task has the buffer of the context for itself. -/
def TaskPc.holds : TaskPc → Bool
  | .idle | .waiting | .timedOut => false
  | .got | .noMemory | .holding | .releasing => true

structure BufferTasks where
  ctx : UtilsBufferCtx
  sem : ℕ
  pc : ℕ → TaskPc

def BufferTasks.holds (s : BufferTasks) (n : ℕ) : Bool := (s.pc n).holds

def BufferTasks.goto (s : BufferTasks) (n : ℕ) (p : TaskPc) : BufferTasks :=
  { s with pc := Function.update s.pc n p }

/-- `IotcSemPost`, then the return of the task. -/
def BufferTasks.post (s : BufferTasks) (n : ℕ) : BufferTasks := { s.goto n .idle with sem := s.sem + 1 }

inductive Event
  | get (n : ℕ)
  | use (n : ℕ) (buffer : UtilsBuffer)
  | release (n : ℕ) (calloc : Bool)
  | task (n : ℕ) (ok : Bool)

/-- The next step of a task inside a call. `ok` is the outcome of the wait or of the allocation; a task whose wait does
not fail stays there until there is a permit. -/
def taskStep (s : BufferTasks) (n : ℕ) (ok : Bool) : BufferTasks :=
  match s.pc n with
  | .waiting =>
    if ok = false then s.goto n .timedOut
    else if s.sem = 0 then s
    else { s.goto n .got with sem := s.sem - 1 }
  | .got =>
    match utilsGetBuffer ok s.ctx with
    | none => s.goto n .noMemory
    | some ctx => { s.goto n .holding with ctx := ctx }
  -- `UtilsGetBuffer` posts the semaphore on both of its error paths
  | .timedOut | .noMemory | .releasing => s.post n
  | .idle | .holding => s

def step (s : BufferTasks) : Event → BufferTasks
  | .get n => if s.pc n = .idle then s.goto n .waiting else s
  | .use n buffer => if s.pc n = .holding then { s with ctx := { s.ctx with buffer := buffer } } else s
  | .release n calloc =>
    if s.pc n = .holding then { s.goto n .releasing with ctx := utilsReleaseBuffer calloc s.ctx } else s
  | .task n ok => taskStep s n ok

/-- After `UtilsBufferCtxNew`. -/
def start (ctx : UtilsBufferCtx) : BufferTasks := ⟨ctx, 1, fun _ => .idle⟩

def Exclusive (s : BufferTasks) : Prop := ∀ n m, s.holds n = true → s.holds m = true → n = m

def Patient (s : BufferTasks) : Event → Prop
  | .task n ok => s.pc n = .waiting → ok = true
  | _ => True

instance (s : BufferTasks) (e : Event) : Decidable (Patient s e) := by
  cases e <;> unfold Patient <;> infer_instance

/-! ## The permit -/

def permits : Option ℕ → ℕ
  | none => 1
  | some _ => 0

/-- The permit is in the semaphore, or a task has it for the buffer. -/
structure Owned (s : BufferTasks) (lock : Option ℕ) : Prop where
  held : Held s.holds lock
  sem : s.sem = permits lock
  noTimeout : ∀ n, s.pc n ≠ .timedOut

theorem owned_start (ctx : UtilsBufferCtx) : Owned (start ctx) none where
  held _ := ⟨nofun, nofun⟩
  sem := rfl
  noTimeout _ := nofun

theorem Owned.exclusive {s : BufferTasks} {lock : Option ℕ} (h : Owned s lock) : Exclusive s :=
  fun _ _ hn hm => h.held.unique hn hm

theorem Owned.goto {s s' : BufferTasks} {lock lock' : Option ℕ} {n : ℕ} {p : TaskPc} (h : Owned s lock)
    (hpc : s'.pc = Function.update s.pc n p) (hp : p ≠ .timedOut)
    (hlock : Relock n (s.pc n).holds p.holds lock lock') (hsem : s'.sem = permits lock') : Owned s' lock' := by
  have hself : s'.holds n = p.holds := by rw [BufferTasks.holds, hpc, Function.update_self]
  refine ⟨?_, hsem, fun m => ?_⟩
  · refine h.held.relock (i := n) (by rw [hself]; exact hlock) fun m hm => ?_
    rw [BufferTasks.holds, hpc, Function.update_of_ne hm, BufferTasks.holds]
  · rw [hpc]
    by_cases hm : m = n
    · rw [hm, Function.update_self]
      exact hp
    · rw [Function.update_of_ne hm]
      exact h.noTimeout m

theorem Owned.post {s : BufferTasks} {lock : Option ℕ} {n : ℕ} (h : Owned s lock) (hn : s.holds n = true) :
    Owned (s.post n) none := by
  refine h.goto (p := .idle) rfl nofun (.drop lock hn rfl) ?_
  show s.sem + 1 = 1
  rw [h.sem, (h.held n).mp hn, permits]

theorem Owned.task {s : BufferTasks} {lock : Option ℕ} {n : ℕ} {ok : Bool} (h : Owned s lock)
    (hok : s.pc n = .waiting → ok = true) : ∃ lock', Owned (taskStep s n ok) lock' := by
  cases hp : s.pc n <;> simp only [taskStep, hp]
  case idle => exact ⟨lock, h⟩
  case waiting =>
    rw [hok hp, if_neg nofun]
    split_ifs with hsem
    · exact ⟨lock, h⟩
    · -- there is a permit, so that no task has it
      cases lock with
      | some m => exact absurd h.sem hsem
      | none => exact ⟨some n, h.goto (p := .got) rfl nofun (.take rfl) (by show s.sem - 1 = 0; rw [h.sem]; rfl)⟩
  case timedOut => exact absurd hp (h.noTimeout n)
  case got =>
    cases utilsGetBuffer ok s.ctx with
    | none => exact ⟨lock, h.goto (p := .noMemory) rfl nofun (.keep lock (by rw [hp]; rfl)) h.sem⟩
    | some ctx => exact ⟨lock, h.goto (p := .holding) rfl nofun (.keep lock (by rw [hp]; rfl)) h.sem⟩
  case noMemory => exact ⟨none, h.post (by rw [BufferTasks.holds, hp]; rfl)⟩
  case holding => exact ⟨lock, h⟩
  case releasing => exact ⟨none, h.post (by rw [BufferTasks.holds, hp]; rfl)⟩

theorem Owned.step {s : BufferTasks} {lock : Option ℕ} {e : Event} (h : Owned s lock) (he : Patient s e) :
    ∃ lock', Owned (step s e) lock' := by
  cases e with
  | get n =>
    by_cases hp : s.pc n = .idle
    · refine ⟨lock, ?_⟩
      rw [BufferShare.step, if_pos hp]
      exact h.goto (p := .waiting) rfl nofun (.keep lock (by rw [hp]; rfl)) h.sem
    · exact ⟨lock, by rw [BufferShare.step, if_neg hp]; exact h⟩
  | use n buffer =>
    by_cases hp : s.pc n = .holding
    · exact ⟨lock, by rw [BufferShare.step, if_pos hp]; exact ⟨h.held, h.sem, h.noTimeout⟩⟩
    · exact ⟨lock, by rw [BufferShare.step, if_neg hp]; exact h⟩
  | release n calloc =>
    by_cases hp : s.pc n = .holding
    · refine ⟨lock, ?_⟩
      rw [BufferShare.step, if_pos hp]
      exact h.goto (p := .releasing) rfl nofun (.keep lock (by rw [hp]; rfl)) h.sem
    · exact ⟨lock, by rw [BufferShare.step, if_neg hp]; exact h⟩
  | task n ok => exact h.task he

theorem exclusive_of_patient {ctx : UtilsBufferCtx} {es : List Event} (h : Along step Patient (start ctx) es) :
    Exclusive (run step (start ctx) es) := by
  have hstep : ∀ s e, Patient s e → (∃ lock, Owned s lock) → ∃ lock, Owned (step s e) lock :=
    fun _ _ he ⟨_, hs⟩ => hs.step he
  obtain ⟨lock, howned⟩ := run_invariant hstep h ⟨none, owned_start ctx⟩
  exact howned.exclusive

/-! ## The callers -/

inductive BufferCall
  | got
  | released
  deriving DecidableEq

/-- A context, the permits of its semaphore, and the calls of `UtilsGetBuffer` that gave the buffer and those of
`UtilsReleaseBuffer`, in order. -/
structure BufferUse where
  ctx : UtilsBufferCtx
  sem : ℕ
  calls : List BufferCall

/-- `UtilsGetBuffer`: whether it gives the buffer. `wait` is the outcome of the wait. -/
def BufferUse.getBuffer (wait calloc : Bool) (s : BufferUse) : Bool × BufferUse :=
  if wait = false then (false, { s with sem := s.sem + 1 })
  else
    match utilsGetBuffer calloc s.ctx with
    | none => (false, { s with sem := s.sem - 1 + 1 })
    | some ctx => (true, ⟨ctx, s.sem - 1, s.calls ++ [.got]⟩)

def BufferUse.releaseBuffer (calloc : Bool) (s : BufferUse) : BufferUse :=
  ⟨utilsReleaseBuffer calloc s.ctx, s.sem + 1, s.calls ++ [.released]⟩

/-- The outcomes that a call of `TransLinkRecvReadEvent` meets: of the wait, of the allocations in `UtilsGetBuffer` and
`UtilsReleaseBuffer`, of `TransLinkReadDataFromSocket`, and of the link's `dataFunc` if it has one. -/
structure ReadEnv where
  wait : Bool
  getCalloc : Bool
  releaseCalloc : Bool
  readDataFromSocket : UtilsBufferCtx → Int × UtilsBufferCtx
  dataFunc : Option (UtilsBufferCtx → Int × UtilsBufferCtx)

/-- The buffer's use in `TransLinkRecvReadEvent`, and how often it calls `TransLinkRecvErrorEvent`. -/
def transLinkRecvReadEvent (env : ReadEnv) (s : BufferUse) : ℕ × BufferUse :=
  match s.getBuffer env.wait env.getCalloc with
  | (false, s) => (0, s)
  | (true, s) =>
    let (ret, ctx) := env.readDataFromSocket s.ctx
    let s := { s with ctx := ctx }
    -- the return of this path leaves the buffer with the task
    if ret ≠ 0 then (1, s)
    else
      match env.dataFunc with
      | none => (0, s.releaseBuffer env.releaseCalloc)
      | some dataFunc =>
        let (ret, ctx) := dataFunc s.ctx
        (if ret ≠ 0 then 1 else 0, { s with ctx := ctx }.releaseBuffer env.releaseCalloc)

/-- The outcomes that a call of `CoapEndpointSendPacket` meets. `encoder` and `transSessMsgSend` are of any endpoint;
the result of `CoapRetransAddPacket` is not looked at. -/
structure SendEnv where
  wait : Bool
  getCalloc : Bool
  expendCalloc : Bool
  releaseCalloc : Bool
  encoder : UtilsBufferCtx → IotcRet × UtilsBufferCtx
  transSessMsgSend : UtilsBufferCtx → IotcRet × UtilsBufferCtx
  coapRetransAddPacket : UtilsBufferCtx → UtilsBufferCtx

def expendTo (env : SendEnv) (preSize : ℕ) (ctx : UtilsBufferCtx) : IotcRet × UtilsBufferCtx :=
  if preSize > ctx.buffer.size then utilsExpendBuffer env.expendCalloc ctx preSize else (.ok, ctx)

/-- What `CoapEndpointSendPacket` does between the two calls. -/
def sendWithBuffer (env : SendEnv) (preSize : ℕ) (ctx : UtilsBufferCtx) : IotcRet × UtilsBufferCtx :=
  let (ret, ctx) := expendTo env preSize ctx
  if ret ≠ .ok then (ret, ctx)
  else
    let (ret, ctx) := env.encoder ctx
    if ret ≠ .ok then (ret, ctx)
    else
      let (ret, ctx) := env.transSessMsgSend ctx
      if ret ≠ .ok then (ret, ctx) else (ret, env.coapRetransAddPacket ctx)

def coapEndpointSendPacket (env : SendEnv) (preSize : ℕ) (s : BufferUse) : IotcRet × BufferUse :=
  match s.getBuffer env.wait env.getCalloc with
  | (false, s) => (.utilsErrBufferGet, s)
  | (true, s) =>
    let (ret, ctx) := sendWithBuffer env preSize s.ctx
    (ret, { s with ctx := ctx }.releaseBuffer env.releaseCalloc)

/-- Since `s`, the buffer was not given, or it was given and then released once. -/
def GivenBack (s s' : BufferUse) : Prop := s'.calls = s.calls ∨ s'.calls = s.calls ++ [.got, .released]

/-- `TransLinkReadDataFromSocket` does not fail if the buffer is given. -/
def ReadSucceeds (env : ReadEnv) (s : BufferUse) : Prop :=
  ∀ s', s.getBuffer env.wait env.getCalloc = (true, s') → (env.readDataFromSocket s'.ctx).1 = 0

theorem getBuffer_false {wait calloc : Bool} {s s' : BufferUse} (h : s.getBuffer wait calloc = (false, s')) :
    s'.calls = s.calls := by
  unfold BufferUse.getBuffer at h
  split_ifs at h
  · obtain rfl := (Prod.mk.inj h).2
    rfl
  · split at h
    · obtain rfl := (Prod.mk.inj h).2
      rfl
    · cases (Prod.mk.inj h).1

theorem getBuffer_true {wait calloc : Bool} {s s' : BufferUse} (h : s.getBuffer wait calloc = (true, s')) :
    s'.calls = s.calls ++ [.got] := by
  unfold BufferUse.getBuffer at h
  split_ifs at h
  · cases (Prod.mk.inj h).1
  · split at h
    · cases (Prod.mk.inj h).1
    · obtain rfl := (Prod.mk.inj h).2
      rfl

theorem givenBack_release {s s' : BufferUse} (calloc : Bool) (h : s'.calls = s.calls ++ [.got]) :
    GivenBack s (s'.releaseBuffer calloc) := by
  right
  rw [BufferUse.releaseBuffer, h, List.append_assoc]
  rfl

theorem not_givenBack_got {s s' : BufferUse} (h : s'.calls = s.calls ++ [.got]) : ¬ GivenBack s s' := by
  rintro (hsame | hboth)
  · rw [h] at hsame
    simpa using congrArg List.length hsame
  · rw [h] at hboth
    simpa using congrArg List.length hboth

theorem transLinkRecvReadEvent_givenBack_iff (env : ReadEnv) (s : BufferUse) :
    GivenBack s (transLinkRecvReadEvent env s).2 ↔ ReadSucceeds env s := by
  unfold transLinkRecvReadEvent ReadSucceeds
  obtain ⟨given, s', hget⟩ : ∃ given s', s.getBuffer env.wait env.getCalloc = (given, s') := ⟨_, _, rfl⟩
  rw [hget]
  cases given with
  | false =>
    refine ⟨fun _ t ht => ?_, fun _ => .inl (getBuffer_false hget)⟩
    cases (Prod.mk.inj ht).1
  | true =>
    have hcalls := getBuffer_true hget
    have hret : (∀ t, (true, s') = (true, t) → (env.readDataFromSocket t.ctx).1 = 0) ↔
        (env.readDataFromSocket s'.ctx).1 = 0 := by
      refine ⟨fun h => h s' rfl, fun h t ht => ?_⟩
      obtain rfl := (Prod.mk.inj ht).2
      exact h
    rw [hret]
    by_cases hread : (env.readDataFromSocket s'.ctx).1 = 0
    · simp only [hread, ne_eq, not_true_eq_false, if_false, iff_true]
      cases env.dataFunc with
      | none => exact givenBack_release _ hcalls
      | some dataFunc => exact givenBack_release _ hcalls
    · simp only [ne_eq, hread, not_false_eq_true, if_true, iff_false]
      exact not_givenBack_got hcalls

theorem coapEndpointSendPacket_givenBack (env : SendEnv) (preSize : ℕ) (s : BufferUse) :
    GivenBack s (coapEndpointSendPacket env preSize s).2 := by
  unfold coapEndpointSendPacket
  obtain ⟨given, s', hget⟩ : ∃ given s', s.getBuffer env.wait env.getCalloc = (given, s') := ⟨_, _, rfl⟩
  rw [hget]
  cases given with
  | false => exact .inl (getBuffer_false hget)
  | true =>
    have hcalls := getBuffer_true hget
    exact givenBack_release _ hcalls

/-! ## A call is a run of its task -/

theorem run_getBuffer {s : BufferTasks} {n : ℕ} {wait : Bool} (calloc : Bool) (calls : List BufferCall)
    (hn : s.pc n = .idle) (hsem : wait = true → s.sem ≠ 0) :
    let s' := run step s [.get n, .task n wait, .task n calloc, .task n true]
    let r := BufferUse.getBuffer wait calloc ⟨s.ctx, s.sem, calls⟩
    s'.ctx = r.2.ctx ∧ s'.sem = r.2.sem ∧ s'.pc n = if r.1 = true then .holding else .idle := by
  cases wait with
  | false =>
    simp [run, step, taskStep, hn, BufferTasks.goto, BufferTasks.post, BufferUse.getBuffer]
  | true =>
    have hne := hsem rfl
    cases hget : utilsGetBuffer calloc s.ctx with
    | none => simp [run, step, taskStep, hn, hne, hget, BufferTasks.goto, BufferTasks.post, BufferUse.getBuffer]
    | some ctx => simp [run, step, taskStep, hn, hne, hget, BufferTasks.goto, BufferUse.getBuffer]

theorem run_releaseBuffer {s : BufferTasks} {n : ℕ} (calloc : Bool) (calls : List BufferCall)
    (hn : s.pc n = .holding) :
    let s' := run step s [.release n calloc, .task n true]
    let r := BufferUse.releaseBuffer calloc ⟨s.ctx, s.sem, calls⟩
    s'.ctx = r.ctx ∧ s'.sem = r.sem ∧ s'.pc n = .idle := by
  simp [run, step, taskStep, hn, BufferTasks.goto, BufferTasks.post, BufferUse.releaseBuffer]

/-! ## A call sends as the endpoint does -/

/-- The buffer a packet is encoded in: given by `UtilsGetBuffer` and grown to the estimated size. -/
def preparedBuffer (env : SendEnv) (preSize : ℕ) (s : BufferUse) : Except IotcErr UtilsBufferCtx :=
  match s.getBuffer env.wait env.getCalloc with
  | (false, _) => .error ⟨.utilsErrBufferGet, nofun⟩
  | (true, s) =>
    let (ret, ctx) := expendTo env preSize s.ctx
    if h : ret = .ok then .ok ctx else .error ⟨ret, h⟩

/-- `view` shows the encoder and the session the bytes of the buffer of a context. -/
structure SendsAs (env : SendEnv) (packet : Endpoint.PacketEnv) (build : Coap.CoapBuildPacket)
    (view : UtilsBufferCtx → Coap.CoapBuffer) : Prop where
  encoder : ∀ ctx, ((env.encoder ctx).1, view (env.encoder ctx).2) =
    ((Coap.coapUdpEncode build .init (view ctx)).1, (Coap.coapUdpEncode build .init (view ctx)).2.2)
  send : ∀ ctx, (env.transSessMsgSend ctx).1 = (packet.transSessMsgSend (view ctx)).1

theorem coapEndpointSendPacket_ret {env : SendEnv} {packet : Endpoint.PacketEnv} {build : Coap.CoapBuildPacket}
    {view : UtilsBufferCtx → Coap.CoapBuffer} {preSize : ℕ} {s : BufferUse} (h : SendsAs env packet build view)
    (hbuffer : packet.buffer = (preparedBuffer env preSize s).map view) (answers : Bool)
    (exchange : Endpoint.Exchange) (retrans : Endpoint.CoapEndpointRetrans) :
    (coapEndpointSendPacket env preSize s).1 =
      (Endpoint.coapEndpointSendPacket packet answers exchange build retrans).1 := by
  unfold coapEndpointSendPacket Endpoint.coapEndpointSendPacket
  unfold preparedBuffer at hbuffer
  rw [hbuffer]
  cases s.getBuffer env.wait env.getCalloc with
  | mk given s' =>
    cases given with
    | false => rfl
    | true =>
      dsimp only [sendWithBuffer]
      generalize expendTo env preSize s'.ctx = r
      by_cases hret : r.1 = .ok
      · have hencode := (Prod.mk.inj (h.encoder r.2)).1
        have hsend := h.send (env.encoder r.2).2
        rw [(Prod.mk.inj (h.encoder r.2)).2] at hsend
        rw [if_neg (not_not.mpr hret), dif_pos hret, hencode, hsend]
        dsimp only [Except.map]
        split_ifs with hcode hsent
        · rfl
        · rfl
        · exact not_not.mp hsent
      · rw [if_pos hret, dif_neg hret]
        rfl

/-! ## One holder, and the way back -/

/-- While no wait fails, at most one task has the buffer. `TransLinkRecvReadEvent` gives the buffer back exactly when
the data can be read, `CoapEndpointSendPacket` on every path. -/
theorem buffer_shared (ctx : UtilsBufferCtx) (es : List Event) (readEnv : ReadEnv) (sendEnv : SendEnv) (preSize : ℕ)
    (s : BufferUse) :
    (Along step Patient (start ctx) es → Exclusive (run step (start ctx) es)) ∧
      (GivenBack s (transLinkRecvReadEvent readEnv s).2 ↔ ReadSucceeds readEnv s) ∧
      GivenBack s (coapEndpointSendPacket sendEnv preSize s).2 :=
  ⟨exclusive_of_patient, transLinkRecvReadEvent_givenBack_iff readEnv s,
    coapEndpointSendPacket_givenBack sendEnv preSize s⟩

/-- `UtilsBufferCtxNew(8, 16)` -/
def smallCtx : UtilsBufferCtx := ⟨0, 8, 16, UtilsBuffer.zeroed 8⟩

/-- Task `1` waits while task `0` has the buffer, and gets it after the release. -/
def twoInTurn : List Event :=
  [.get 0, .task 0 true, .task 0 true, .get 1, .task 1 true, .release 0 true, .task 0 true, .task 1 true, .task 1 true]

def emptySocket : ReadEnv := ⟨true, true, true, fun ctx => (0, ctx), none⟩

def plainSend : SendEnv := ⟨true, true, true, true, fun ctx => (.ok, ctx), fun ctx => (.ok, ctx), id⟩

theorem two_in_turn_shared :
    (run step (start smallCtx) twoInTurn).pc 1 = .holding ∧ Along step Patient (start smallCtx) twoInTurn ∧
      Exclusive (run step (start smallCtx) twoInTurn) := by
  have hpatient : Along step Patient (start smallCtx) twoInTurn := by
    unfold twoInTurn
    simp only [Along]
    decide
  obtain ⟨hexclusive, _⟩ := buffer_shared smallCtx twoInTurn emptySocket plainSend 4 ⟨smallCtx, 1, []⟩
  exact ⟨by decide, hpatient, hexclusive hpatient⟩

/-- The wait of task `1` fails while task `0` has the buffer; its post lets task `2` in. -/
def waitFails : List Event :=
  [.get 0, .task 0 true, .task 0 true, .get 1, .task 1 false, .task 1 true, .get 2, .task 2 true, .task 2 true]

def brokenSocket : ReadEnv := ⟨true, true, true, fun ctx => (-1, ctx), none⟩

theorem buffer_taken_and_kept :
    ¬ Exclusive (run step (start smallCtx) waitFails) ∧
      ¬ GivenBack ⟨smallCtx, 1, []⟩ (transLinkRecvReadEvent brokenSocket ⟨smallCtx, 1, []⟩).2 := by
  constructor
  · intro h
    have hzero : (run step (start smallCtx) waitFails).holds 0 = true := by decide
    have htwo : (run step (start smallCtx) waitFails).holds 2 = true := by decide
    exact absurd (h 0 2 hzero htwo) (by decide)
  · unfold GivenBack
    decide

end IotConnect.BufferShare
