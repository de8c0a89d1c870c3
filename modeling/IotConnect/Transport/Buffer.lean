import IotConnect.Common.Utils

/-! # The shared buffer of a link (`utils_buffer.c`)

A buffer context owns one buffer. It is handed out empty, can be exchanged for a longer one while it is
in use, and goes back to its first size when the longer one is no longer needed. A null pointer is a
buffer of size `0`. The outcomes of the allocations are inputs. -/
namespace IotConnect.Transport
open Memory
set_option autoImplicit false

def utilsBufferMaxAllocSize : ℕ := 64 * 1024
def utilsBufferMaxSize : ℕ := 2 * 1024 * 1024 + utilsBufferMaxAllocSize
def utilsEachExpendCntIncrease : ℕ := 5

structure UtilsBuffer where
  buffer : ℕ → UInt8
  size : ℕ
  len : ℕ

structure UtilsBufferCtx where
  exCnt : ℕ
  allocSize : ℕ
  maxSize : ℕ
  buffer : UtilsBuffer

/-- What `IotcCalloc` gives. -/
def UtilsBuffer.zeroed (size : ℕ) : UtilsBuffer := ⟨fun _ => 0, size, 0⟩

def utilsBufferCtxNew (calloc : Bool) (preAlloc max : ℕ) : Option UtilsBufferCtx :=
  if preAlloc > utilsBufferMaxAllocSize ∨ max > utilsBufferMaxSize then none
  else if calloc = false then none
  else some ⟨0, preAlloc, max, UtilsBuffer.zeroed preAlloc⟩

def bufferRealloc (calloc : Bool) (buf : UtilsBuffer) (size : ℕ) : IotcRet × UtilsBuffer :=
  if buf.size = size ∧ buf.size ≠ 0 then (.ok, buf)
  else if calloc = false then (.memErrCalloc, { buf with size := 0 })
  else (.ok, { buf with buffer := fun _ => 0, size := size })

def utilsGetBuffer (calloc : Bool) (ctx : UtilsBufferCtx) : Option UtilsBufferCtx :=
  let (ret, buffer) := if ctx.buffer.size = 0 then bufferRealloc calloc ctx.buffer ctx.allocSize
    else (.ok, ctx.buffer)
  if ret ≠ .ok then none else some { ctx with buffer := UtilsBuffer.zeroed buffer.size }

def utilsExpendBuffer (calloc : Bool) (ctx : UtilsBufferCtx) (max : ℕ) : IotcRet × UtilsBufferCtx :=
  if ¬ ctx.buffer.len < ctx.buffer.size then (.errParamInvalid, ctx)
  else if max ≤ ctx.buffer.size then (.ok, ctx)
  else if max > ctx.maxSize then (.utilsErrBufferExpendOversize, ctx)
  else
    let temp := ctx.buffer
    let (ret, buffer) := bufferRealloc calloc ⟨fun _ => 0, 0, 0⟩ max
    if ret ≠ .ok then (ret, ctx)
    else match memcpyS buffer.buffer 0 buffer.size (load temp.buffer 0 temp.len) with
      | none => (.errSecurecMemcpy, { ctx with buffer := { buffer with len := temp.len } })
      | some mem =>
        (.ok, { ctx with exCnt := utilsEachExpendCntIncrease, buffer := { buffer with buffer := mem, len := temp.len } })

def utilsReleaseBuffer (calloc : Bool) (ctx : UtilsBufferCtx) : UtilsBufferCtx :=
  if ctx.buffer.len > ctx.allocSize then { ctx with exCnt := utilsEachExpendCntIncrease }
  else if ctx.exCnt > 0 then
    let ctx := { ctx with exCnt := ctx.exCnt - 1 }
    if ctx.exCnt = 0 then { ctx with buffer := (bufferRealloc calloc ctx.buffer ctx.allocSize).2 } else ctx
  else ctx

theorem utilsGetBuffer_eq_some {calloc : Bool} {ctx ctx' : UtilsBufferCtx}
    (h : utilsGetBuffer calloc ctx = some ctx') : ctx'.buffer = UtilsBuffer.zeroed ctx'.buffer.size := by
  unfold utilsGetBuffer at h
  split at h
  split_ifs at h
  cases h
  rfl

theorem utilsExpendBuffer_ok {calloc : Bool} {ctx ctx' : UtilsBufferCtx} {max : ℕ}
    (h : utilsExpendBuffer calloc ctx max = (.ok, ctx')) :
    ctx.buffer.len < ctx.buffer.size ∧ ctx'.buffer.len = ctx.buffer.len ∧
      ctx'.buffer.size = Nat.max ctx.buffer.size max := by
  unfold utilsExpendBuffer at h
  by_cases hlen : ctx.buffer.len < ctx.buffer.size
  · refine ⟨hlen, ?_⟩
    rw [if_neg (not_not.mpr hlen)] at h
    split_ifs at h with hmax hover
    · obtain rfl : ctx = ctx' := (Prod.mk.inj h).2
      exact ⟨rfl, (Nat.max_eq_left hmax).symm⟩
    · cases (Prod.mk.inj h).1
    · cases calloc with
      | false => simp [bufferRealloc] at h
      | true =>
        simp only [bufferRealloc, ne_eq, not_true_eq_false, and_false, if_false, Bool.true_eq_false] at h
        split at h
        · cases (Prod.mk.inj h).1
        · obtain rfl := (Prod.mk.inj h).2
          exact ⟨rfl, (Nat.max_eq_right (Nat.le_of_not_le hmax)).symm⟩
  · rw [if_pos hlen] at h
    cases (Prod.mk.inj h).1

end IotConnect.Transport
