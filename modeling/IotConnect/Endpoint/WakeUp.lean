import IotConnect.Endpoint.Retrans

/-! # When an endpoint wakes up (`coap_endpoint_event_source.c`)

The event source of an endpoint tells the event loop how long it may sleep, and whether there is something to do.
`CoapClientReqPrepare` overwrites the time that `CoapEndpointRetransPrepare` has left, and it and
`CoapEndpointReqCheck` look at the first request only, whose time they compare with the clock directly. -/
namespace IotConnect.Endpoint
set_option autoImplicit false

variable {C : Type}

def CoapRetransNode.due (cur : UInt32) (node : CoapRetransNode) : Bool :=
  node.remainTime < utilsDeltaTime cur node.lastTime

variable {now t : UInt32} {cli : CoapEndpointClient C} {retrans : CoapEndpointRetrans}

end IotConnect.Endpoint
