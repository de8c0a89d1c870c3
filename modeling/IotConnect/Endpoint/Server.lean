import IotConnect.Coap.Utils
import IotConnect.Foundations.Bytes

/-! # The CoAP server of an endpoint (`coap_endpoint_server.c`)

Which handler is called for a request: that of the first resource with its URI, whatever the method, or the default
handler if there is no such resource or it has none. A handler
is a value of a type `H`, and calling it is returning it. -/
namespace IotConnect.Endpoint
open Coap
set_option autoImplicit false

variable {H : Type}

def coapMethodTypeGet : UInt8 := 1
def coapMethodTypePost : UInt8 := 2

/-- `COAP_CODE_CLASS` is that of a request. -/
def isRequest (pkt : CoapPacket) : Bool := (pkt.header.code &&& 0xE0) >>> 5 = 0

structure CoapResource (H : Type) where
  methods : List UInt8
  uri : List UInt8
  checker : Option (CoapPacket → Bool)
  handler : Option H

structure CoapEndpointServer (H : Type) where
  resList : List (List (CoapResource H))
  globalChecker : Option (CoapPacket → Bool)
  defaultHandler : Option H

def coapReqChecker (pkt : CoapPacket) (globalChecker sourceChecker : Option (CoapPacket → Bool)) : Bool :=
  globalChecker.all (fun checker => checker pkt) && sourceChecker.all fun checker => checker pkt

def coapEndpointServerRecvReqPacket (lock : Bool) (server : CoapEndpointServer H) (pkt : CoapPacket) (raw : CoapRaw) :
    IotcRet × Option H :=
  match coapUriString pkt raw with
  | .error ret => (ret.val, none)
  | .ok uri =>
    if lock = false then (.errTimeout, none)
    else
      let resource := server.resList.flatten.find? fun res => res.uri = uri
      if coapReqChecker pkt server.globalChecker (resource.bind CoapResource.checker) then
        (.ok, (resource.bind CoapResource.handler).or server.defaultHandler)
      else (.ok, none)

theorem recvReqPacket_resource {lock : Bool} {server : CoapEndpointServer H} {pkt : CoapPacket} {raw : CoapRaw}
    {handler : H} (h : (coapEndpointServerRecvReqPacket lock server pkt raw).2 = some handler)
    (hdefault : server.defaultHandler = none) :
    ∃ res ∈ server.resList.flatten, coapUriString pkt raw = .ok res.uri ∧ res.handler = some handler := by
  unfold coapEndpointServerRecvReqPacket at h
  split at h
  · cases h
  rename_i uri huri
  split at h
  · cases h
  dsimp only at h
  split at h
  · rw [hdefault, Option.or_none] at h
    obtain ⟨res, hfind, hhandler⟩ := Option.bind_eq_some_iff.mp h
    have hmatch : res.uri = uri := by simpa using List.find?_some hfind
    subst hmatch
    exact ⟨res, List.mem_of_find?_eq_some hfind, huri, hhandler⟩
  · cases h

def coapUriWhiteListMatch (pkt : CoapPacket) (raw : CoapRaw) (uriWhiteList : List (List UInt8)) : Bool :=
  isRequest pkt &&
    match coapUriString pkt raw with
    | .error _ => false
    | .ok uri => uri ∈ uriWhiteList

end IotConnect.Endpoint
