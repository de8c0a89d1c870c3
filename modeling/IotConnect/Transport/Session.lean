import Mathlib.Tactic.Common

/-! # Chains of message handlers (`trans_sess.c`)

A session runs the handlers of a list on a message, a buffer and whatever else they work on, which together
are the state here. A handler ends the chain or lets it go on. -/
namespace IotConnect.Transport
set_option autoImplicit false

structure SocketAddr where
  port : UInt16
  addr : UInt32
  deriving DecidableEq

inductive SessCode
  | ok
  | err
  | continue
  deriving DecidableEq

variable {σ : Type}

def transSessMsgCorNodeProcess : List (σ → SessCode × σ) → σ → Bool × σ
  | [], s => (true, s)
  | handler :: corList, s =>
    match handler s with
    | (.continue, s) => transSessMsgCorNodeProcess corList s
    | (.err, s) => (false, s)
    | (.ok, s) => (true, s)

variable {handler : σ → SessCode × σ} {corList : List (σ → SessCode × σ)} {s s' : σ}

theorem transSessMsgCorNodeProcess_continue (h : handler s = (.continue, s')) :
    transSessMsgCorNodeProcess (handler :: corList) s = transSessMsgCorNodeProcess corList s' := by
  rw [transSessMsgCorNodeProcess, h]

theorem transSessMsgCorNodeProcess_end {code : SessCode} (h : handler s = (code, s')) (hcode : code ≠ .continue) :
    (transSessMsgCorNodeProcess (handler :: corList) s).2 = s' := by
  rw [transSessMsgCorNodeProcess, h]
  cases code with
  | ok => rfl
  | err => rfl
  | «continue» => exact absurd rfl hcode

theorem transSessMsgCorNodeProcess_single (handler : σ → SessCode × σ) (s : σ) :
    (transSessMsgCorNodeProcess [handler] s).2 = (handler s).2 := by
  rw [transSessMsgCorNodeProcess]
  cases handler s with
  | mk code s' => cases code <;> rfl

end IotConnect.Transport
