import IotConnect.Coap.Body
import IotConnect.Endpoint.Server

/-! # Which handler a request gets

The URI that `CoapUtilsGetUri` builds is that of the request, unless one of its options is empty or it comes too
near to the end of the buffer. `strcmp` compares it up to its first zero byte, and nothing looks at the methods of
a resource. -/
namespace IotConnect.Endpoint
open Bytes Coap
set_option autoImplicit false

/-! ## Requests -/

/-- A parsed packet with a request: its options are in the order of their numbers. -/
structure Request where
  pkt : CoapPacket
  raw : CoapRaw
  request : isRequest pkt = true
  ascending : pkt.optionList.Pairwise fun a b => a.option ≤ b.option

theorem parseBody_ascending {pkt pkt' : CoapPacket} {raw : CoapRaw} {pos : ℕ}
    (h : parseBody pkt raw pos = .ok pkt') :
    pkt'.optionList.Pairwise fun a b => a.option ≤ b.option := by
  rw [CoapPacket.optionList, List.pairwise_map]
  refine List.Pairwise.imp_of_mem ?_ List.pairwise_lt_range
  intro i j _ hj hij
  exact parseBody_options_ascending h i j hij.le (List.mem_range.mp hj)

/-- Both decoders parse the token, the options and the payload with `parseBody`. -/
def Request.ofParsed {pkt pkt' : CoapPacket} {raw : CoapRaw} {pos : ℕ} (h : parseBody pkt raw pos = .ok pkt')
    (hrequest : isRequest pkt' = true) : Request where
  pkt := pkt'
  raw := raw
  request := hrequest
  ascending := parseBody_ascending h

def Request.values (r : Request) (option : UInt16) : List (List UInt8) :=
  (r.pkt.optionList.filter fun o => o.option = option).map fun o => r.raw.read o.value

def Request.path (r : Request) : List (List UInt8) := r.values coapOptionTypeUriPath
def Request.query (r : Request) : List (List UInt8) := r.values coapOptionTypeUriQuery

/-- The URI of a request: the segments of the path and, if there is one, the query. -/
def Request.uri (r : Request) : List UInt8 :=
  if r.query = [] then ['/'.toUInt8].intercalate r.path
  else ['/'.toUInt8].intercalate r.path ++ '?'.toUInt8 :: ['&'.toUInt8].intercalate r.query

/-! ## The resource for a request -/

/-- What a server knows of a resource apart from its functions. -/
structure Registration where
  methods : List UInt8
  uri : List UInt8
  deriving DecidableEq

def CoapResource.registration {H : Type} (res : CoapResource H) : Registration := ⟨res.methods, res.uri⟩

def CoapEndpointServer.registrations {H : Type} (server : CoapEndpointServer H) : List (List Registration) :=
  server.resList.map (List.map CoapResource.registration)

def Registration.Serves (reg : Registration) (r : Request) : Prop :=
  reg.uri = r.uri ∧ r.pkt.header.code ∈ reg.methods

instance (reg : Registration) (r : Request) : Decidable (reg.Serves r) := inferInstanceAs (Decidable (_ ∧ _))

/-- The handler that is called when `resource` is what was found: its own, or else the default handler. -/
def CoapEndpointServer.call {H : Type} (server : CoapEndpointServer H) (pkt : CoapPacket)
    (resource : Option (CoapResource H)) : Option H :=
  if coapReqChecker pkt server.globalChecker (resource.bind CoapResource.checker) then
    (resource.bind CoapResource.handler).or server.defaultHandler
  else none

/-- Whatever functions are registered, the one that is called is that of the first resource for the request. -/
def Dispatches (tables : List (List Registration)) (r : Request) : Prop :=
  ∀ (H : Type) (server : CoapEndpointServer H), server.registrations = tables →
    (coapEndpointServerRecvReqPacket true server r.pkt r.raw).2 =
      server.call r.pkt (server.resList.flatten.find? fun res => res.registration.Serves r)

/-- What `strcmp` sees of the URI: it ends at a zero byte, and is empty without a path. -/
def Request.shown (r : Request) : List UInt8 := if r.path = [] then [] else cString r.uri

/-- No option of the URI is empty, and a URI without a query leaves two bytes of the buffer free. -/
def Request.Plain (r : Request) : Prop :=
  r.path ≠ [] → [] ∉ r.path ∧ [] ∉ r.query ∧ (r.query = [] → r.uri.length + 2 ≤ coapUriMaxLen)

/-- The first resource with the URI that `strcmp` sees is the first for the request. -/
def FirstServes (tables : List (List Registration)) (r : Request) : Prop :=
  (tables.flatten.find? fun reg => reg.uri = r.shown) = tables.flatten.find? fun reg => reg.Serves r

instance (r : Request) : Decidable r.Plain := inferInstanceAs (Decidable (_ → _))

instance (tables : List (List Registration)) (r : Request) : Decidable (FirstServes tables r) :=
  inferInstanceAs (Decidable (_ = _))

/-! ## The options of a number -/

section Runs
variable {α : Type} {key : α → UInt16} {n : UInt16} {l : List α}

theorem takeWhile_eq_filter (h : l.Pairwise fun a b => key a ≤ key b) (hn : ∀ a ∈ l, n ≤ key a) :
    l.takeWhile (fun a => key a = n) = l.filter fun a => key a = n := by
  induction l with
  | nil => rfl
  | cons a l ih =>
    obtain ⟨hle, hl⟩ := List.pairwise_cons.mp h
    obtain ⟨hna, hnl⟩ := List.forall_mem_cons.mp hn
    by_cases ha : key a = n
    · rw [List.takeWhile_cons_of_pos (by simpa using ha), List.filter_cons_of_pos (by simpa using ha), ih hl hnl]
    · have hnone : l.filter (fun b => key b = n) = [] := by
        rw [List.filter_eq_nil_iff]
        intro b hb
        have hab := UInt16.le_iff_toNat_le.mp (hle b hb)
        have hlt := UInt16.le_iff_toNat_le.mp hna
        have hne := mt UInt16.toNat_inj.mp ha
        rw [decide_eq_true_eq, ← UInt16.toNat_inj]
        omega
      rw [List.takeWhile_cons_of_neg (by simpa using ha), List.filter_cons_of_neg (by simpa using ha), hnone]

theorem takeWhile_dropWhile_eq_filter (h : l.Pairwise fun a b => key a ≤ key b) :
    (l.dropWhile fun a => key a ≠ n).takeWhile (fun a => key a = n) = l.filter fun a => key a = n := by
  induction l with
  | nil => rfl
  | cons a l ih =>
    obtain ⟨hle, hl⟩ := List.pairwise_cons.mp h
    by_cases ha : key a = n
    · rw [List.dropWhile_cons_of_neg (by simpa using ha)]
      refine takeWhile_eq_filter h (List.forall_mem_cons.mpr ⟨?_, fun b hb => ?_⟩)
      · rw [ha]
        exact UInt16.le_refl n
      · rw [← ha]
        exact hle b hb
    · rw [List.dropWhile_cons_of_pos (by simpa using ha), ih hl, List.filter_cons_of_neg (by simpa using ha)]

end Runs

theorem Request.findOption (r : Request) (option : UInt16) :
    (coapUtilsFindOption r.pkt option).map (fun o => r.raw.read o.value) = r.values option := by
  rw [coapUtilsFindOption, takeWhile_dropWhile_eq_filter r.ascending]
  rfl

/-! ## The text of the URI -/

theorem read_eq_nil_iff (raw : CoapRaw) (d : CoapData) : raw.read d = [] ↔ d.data = none ∨ d.len = 0 := by
  rw [CoapRaw.read]
  cases d.data with
  | none => simp
  | some off => simp [← List.length_eq_zero_iff]

theorem intercalate_cons_cons {α : Type} (sep a b : List α) (l : List (List α)) :
    sep.intercalate (a :: b :: l) = a ++ sep ++ sep.intercalate (b :: l) := by
  simp [List.intercalate, List.intersperse]

section Segments
variable {raw : CoapRaw} {size : ℕ} {delimiter : UInt8}

theorem read_length {d : CoapData} (h : raw.read d ≠ []) : (raw.read d).length = d.len := by
  rw [ne_eq, read_eq_nil_iff, not_or] at h
  rw [CoapRaw.read]
  cases hdata : d.data with
  | none => exact absurd hdata h.1
  | some off => exact Memory.load_length _ _ _

theorem uriSegments_ok {os : List CoapOption} {text t : List UInt8} (hle : text.length ≤ size) (hne : os ≠ []) :
    uriSegments raw size delimiter text os = .ok t ↔ [] ∉ os.map (fun o => raw.read o.value) ∧ t.length ≤ size ∧
      t = text ++ [delimiter].intercalate (os.map fun o => raw.read o.value) := by
  induction os generalizing text with
  | nil => exact absurd rfl hne
  | cons o os ih =>
    by_cases hempty : raw.read o.value = []
    · rw [uriSegments, if_pos ((read_eq_nil_iff raw o.value).mp hempty)]
      simp [hempty]
    have hlen := read_length hempty
    rw [uriSegments, if_neg (mt (read_eq_nil_iff raw o.value).mpr hempty)]
    cases os with
    | nil =>
      simp only [List.map_cons, List.map_nil, List.intercalate_singleton]
      by_cases hroom : size - text.length < o.value.len
      · rw [if_pos hroom]
        refine iff_of_false nofun ?_
        rintro ⟨-, hfit, rfl⟩
        rw [List.length_append] at hfit
        omega
      · rw [if_neg hroom, if_pos trivial, Except.ok.injEq]
        constructor
        · rintro rfl
          refine ⟨by simpa using Ne.symm hempty, ?_, rfl⟩
          rw [List.length_append]
          omega
        · rintro ⟨-, -, rfl⟩
          rfl
    | cons o' os =>
      simp only [List.map_cons, intercalate_cons_cons]
      by_cases hroom : size - text.length < o.value.len
      · rw [if_pos hroom]
        refine iff_of_false nofun ?_
        rintro ⟨-, hfit, rfl⟩
        simp only [List.length_append] at hfit
        omega
      rw [if_neg hroom, if_neg (List.cons_ne_nil _ _)]
      by_cases hdelimiter : (text ++ raw.read o.value).length < size
      · have hle' : (text ++ raw.read o.value ++ [delimiter]).length ≤ size := by
          rw [List.length_append, List.length_singleton]
          omega
        rw [if_pos hdelimiter, ih hle' (List.cons_ne_nil _ _)]
        simp [Ne.symm hempty]
      · rw [if_neg hdelimiter]
        refine iff_of_false nofun ?_
        rintro ⟨-, hfit, rfl⟩
        simp only [List.length_append, List.length_singleton] at hfit hdelimiter
        omega

end Segments

theorem Request.getUriOption_ok (r : Request) {size : ℕ} {option : UInt16} {delimiter : UInt8} {t : List UInt8} :
    coapUtilsGetUriOption r.pkt r.raw size option delimiter = .ok t ↔
      [] ∉ r.values option ∧ t.length ≤ size ∧ t = [delimiter].intercalate (r.values option) := by
  rw [coapUtilsGetUriOption, ← r.findOption]
  by_cases hne : coapUtilsFindOption r.pkt option = []
  · rw [hne, uriSegments, Except.ok.injEq, List.map_nil, List.intercalate_nil]
    constructor
    · rintro rfl
      exact ⟨List.not_mem_nil, Nat.zero_le _, rfl⟩
    · rintro ⟨-, -, rfl⟩
      rfl
  · rw [uriSegments_ok (Nat.zero_le _) hne]
    rfl

theorem Request.getUriOption_error (r : Request) {size : ℕ} {option : UInt16} {delimiter : UInt8}
    (h : [] ∈ r.values option) :
    ∃ err, coapUtilsGetUriOption r.pkt r.raw size option delimiter = .error err := by
  cases hget : coapUtilsGetUriOption r.pkt r.raw size option delimiter with
  | error err => exact ⟨err, rfl⟩
  | ok t => exact absurd h (r.getUriOption_ok.mp hget).1

theorem intercalate_length_eq_zero (delimiter : UInt8) {l : List (List UInt8)} (h : [] ∉ l) :
    ([delimiter].intercalate l).length = 0 ↔ l = [] := by
  cases l with
  | nil => simp
  | cons a l =>
    have ha : a ≠ [] := fun heq => h (heq ▸ List.mem_cons_self)
    have hpos := List.length_pos_iff.mpr ha
    refine iff_of_false ?_ (List.cons_ne_nil a l)
    cases l with
    | nil =>
      rw [List.intercalate_singleton]
      omega
    | cons b l =>
      rw [intercalate_cons_cons]
      simp only [List.length_append]
      omega

theorem Request.uri_length (r : Request) : r.uri.length = (['/'.toUInt8].intercalate r.path).length +
    if r.query = [] then 0 else 1 + (['&'.toUInt8].intercalate r.query).length := by
  rw [Request.uri]
  split_ifs
  · rfl
  · rw [List.length_append, List.length_cons]
    omega

theorem Request.Plain.path_length {r : Request} (h : r.Plain) (hpath : r.path ≠ [])
    (hfits : r.uri.length ≤ coapUriMaxLen) :
    (['/'.toUInt8].intercalate r.path).length + 2 ≤ coapUriMaxLen := by
  obtain ⟨-, hquery, hlen⟩ := h hpath
  have huri := r.uri_length
  by_cases hq : r.query = []
  · have := hlen hq
    rw [if_pos hq] at huri
    omega
  · have := mt (intercalate_length_eq_zero '&'.toUInt8 hquery).mp hq
    rw [if_neg hq] at huri
    omega

theorem Request.getUri_ok (r : Request) (hfits : r.uri.length ≤ coapUriMaxLen) {t : List UInt8} :
    coapUtilsGetUri r.pkt r.raw coapUriMaxLen = .ok t ↔ r.Plain ∧ t = if r.path = [] then [] else r.uri := by
  have huri := r.uri_length
  have hsize : coapUriMaxLen = 128 := rfl
  have hfind : coapUtilsFindOption r.pkt coapOptionTypeUriPath = [] ↔ r.path = [] := by
    rw [Request.path, ← r.findOption, List.map_eq_nil_iff]
  rw [coapUtilsGetUri, if_neg (by decide)]
  by_cases hpath : r.path = []
  · have hget : coapUtilsGetUriOption r.pkt r.raw coapUriMaxLen coapOptionTypeUriPath '/'.toUInt8 = .ok [] := by
      rw [coapUtilsGetUriOption, hfind.mpr hpath]
      rfl
    rw [hget]
    dsimp only
    rw [if_pos (hfind.mpr hpath), if_pos hpath, Except.ok.injEq, eq_comm]
    exact (and_iff_right fun hne => absurd hpath hne).symm
  rw [if_neg hpath]
  by_cases hempty : [] ∈ r.path
  · obtain ⟨err, herr⟩ := r.getUriOption_error hempty
    rw [herr]
    exact iff_of_false (fun heq => by cases heq) fun h => (h.1 hpath).1 hempty
  rw [r.getUriOption_ok.mpr ⟨hempty, by show (['/'.toUInt8].intercalate r.path).length ≤ _; omega, rfl⟩]
  dsimp only
  rw [if_neg (mt hfind.mp hpath)]
  rw [← Request.path]
  by_cases hlong : coapUriMaxLen - 1 ≤ (['/'.toUInt8].intercalate r.path).length
  · rw [if_pos hlong]
    refine iff_of_false (fun heq => by cases heq) fun h => ?_
    have := h.1.path_length hpath hfits
    omega
  rw [if_neg hlong]
  by_cases hemptyQuery : [] ∈ r.query
  · obtain ⟨err, herr⟩ := r.getUriOption_error hemptyQuery
    rw [herr]
    exact iff_of_false (fun heq => by cases heq) fun h => (h.1 hpath).2.1 hemptyQuery
  rw [r.getUriOption_ok.mpr ⟨hemptyQuery, ?_, rfl⟩]
  · dsimp only
    rw [← Request.query]
    have hplain : r.Plain := fun _ => ⟨hempty, hemptyQuery, fun hq => by rw [if_pos hq] at huri; omega⟩
    rw [and_iff_right hplain, Request.uri]
    by_cases hq : r.query = []
    · rw [if_pos ((intercalate_length_eq_zero _ hemptyQuery).mpr hq), if_pos hq, Except.ok.injEq, eq_comm]
    · rw [if_neg (mt (intercalate_length_eq_zero _ hemptyQuery).mp hq), if_neg hq, Except.ok.injEq, eq_comm]
  · show (['&'.toUInt8].intercalate r.query).length ≤ _
    by_cases hq : r.query = []
    · rw [hq]
      exact Nat.zero_le _
    · rw [if_neg hq] at huri
      omega

theorem Request.uriString_of_plain {r : Request} (hfits : r.uri.length ≤ coapUriMaxLen) (h : r.Plain) :
    coapUriString r.pkt r.raw = .ok r.shown := by
  rw [coapUriString, (r.getUri_ok hfits).mpr ⟨h, rfl⟩, Request.shown]
  split_ifs
  · rfl
  · rfl

theorem Request.uriString_of_not_plain {r : Request} (hfits : r.uri.length ≤ coapUriMaxLen) (h : ¬r.Plain) :
    ∃ err, coapUriString r.pkt r.raw = .error err := by
  rw [coapUriString]
  cases hget : coapUtilsGetUri r.pkt r.raw coapUriMaxLen with
  | error err => exact ⟨err, rfl⟩
  | ok t => exact absurd ((r.getUri_ok hfits).mp hget).1 h

/-! ## The first resource -/

section First
variable {α : Type} {l : List α} {p q : α → Bool}

theorem find?_of_imp {a : α} (h : l.find? p = some a) (hqa : q a = true) (hqp : ∀ x, q x = true → p x = true) :
    l.find? q = some a := by
  induction l with
  | nil => cases h
  | cons x l ih =>
    by_cases hpx : p x = true
    · rw [List.find?_cons_of_pos hpx] at h
      cases h
      exact List.find?_cons_of_pos hqa
    · rw [List.find?_cons_of_neg hpx] at h
      rw [List.find?_cons_of_neg (mt (hqp x) hpx)]
      exact ih h

end First

theorem serves_shown {r : Request} {reg : Registration} (huri : reg.uri = r.shown) (hserves : reg.Serves r) :
    ∀ other : Registration, other.Serves r → other.uri = r.shown :=
  fun _ hother => hother.1.trans (hserves.1.symm.trans huri)

section Server
variable {H : Type} (server : CoapEndpointServer H)

theorem find?_registrations (p : Registration → Bool) :
    (server.resList.flatten.find? fun res => p res.registration).map CoapResource.registration =
      server.registrations.flatten.find? p := by
  rw [CoapEndpointServer.registrations, ← List.map_flatten, List.find?_map]
  rfl

theorem find?_resource {tables : List (List Registration)} (htables : server.registrations = tables) {r : Request}
    (h : FirstServes tables r) :
    (server.resList.flatten.find? fun res => res.uri = r.shown) =
      server.resList.flatten.find? fun res => res.registration.Serves r := by
  have hshown := find?_registrations server fun reg => reg.uri = r.shown
  have hserves := find?_registrations server fun reg => reg.Serves r
  rw [htables, h, ← htables, ← hserves] at hshown
  cases hfirst : server.resList.flatten.find? fun res => res.registration.uri = r.shown with
  | none =>
    rw [hfirst, Option.map_none, eq_comm, Option.map_eq_none_iff] at hshown
    rw [hshown]
    exact hfirst
  | some res =>
    have huri : res.registration.uri = r.shown := by simpa using List.find?_some hfirst
    rw [hfirst, Option.map_some, eq_comm, Option.map_eq_some_iff] at hshown
    obtain ⟨res', hres', heq⟩ := hshown
    have hres : res.registration.Serves r := by simpa [heq] using List.find?_some hres'
    have hsecond : (server.resList.flatten.find? fun res => res.registration.Serves r) = some res :=
      find?_of_imp hfirst (decide_eq_true hres) fun x hx =>
        decide_eq_true (serves_shown huri hres _ (of_decide_eq_true hx))
    rw [hsecond]
    exact hfirst

theorem call_recvReqPacket {r : Request} (hfits : r.uri.length ≤ coapUriMaxLen) (hplain : r.Plain) :
    (coapEndpointServerRecvReqPacket true server r.pkt r.raw).2 =
      server.call r.pkt (server.resList.flatten.find? fun res => res.uri = r.shown) := by
  rw [coapEndpointServerRecvReqPacket, r.uriString_of_plain hfits hplain, CoapEndpointServer.call]
  dsimp only
  rw [if_neg (by decide)]
  split_ifs
  · rfl
  · rfl

end Server

def Registration.resource {H : Type} (handler : Registration → H) (reg : Registration) : CoapResource H where
  methods := reg.methods
  uri := reg.uri
  checker := none
  handler := some (handler reg)

/-- A server for the tables with a handler for each registration, and no checkers. -/
def serverOf {H : Type} (tables : List (List Registration)) (handler : Registration → H)
    (defaultHandler : Option H) : CoapEndpointServer H where
  resList := tables.map (List.map (Registration.resource handler))
  globalChecker := none
  defaultHandler := defaultHandler

section ServerOf
variable {H : Type} (tables : List (List Registration)) (handler : Registration → H) (defaultHandler : Option H)

theorem registrations_serverOf : (serverOf tables handler defaultHandler).registrations = tables := by
  simp [CoapEndpointServer.registrations, serverOf, CoapResource.registration, Registration.resource,
    Function.comp_def]

theorem call_serverOf (pkt : CoapPacket) (p : Registration → Bool) :
    (serverOf tables handler defaultHandler).call pkt
        ((serverOf tables handler defaultHandler).resList.flatten.find? fun res => p res.registration) =
      ((tables.flatten.find? p).map handler).or defaultHandler := by
  have hfind : ((serverOf tables handler defaultHandler).resList.flatten.find? fun res => p res.registration) =
      (tables.flatten.find? p).map (Registration.resource handler) := by
    rw [serverOf, ← List.map_flatten, List.find?_map]
    rfl
  rw [hfind, CoapEndpointServer.call]
  cases tables.flatten.find? p with
  | none => rfl
  | some reg => rfl

end ServerOf

section Necessary
variable {tables : List (List Registration)} {r : Request} (hfits : r.uri.length ≤ coapUriMaxLen)
  (h : Dispatches tables r)
include hfits h

theorem plain_of_dispatches : r.Plain := by
  by_contra hplain
  obtain ⟨err, herr⟩ := Request.uriString_of_not_plain hfits hplain
  have hcall := h Unit (serverOf tables (fun _ => ()) (some ())) (registrations_serverOf _ _ _)
  rw [call_serverOf _ _ _ _ fun reg => reg.Serves r, coapEndpointServerRecvReqPacket, herr] at hcall
  cases hfind : tables.flatten.find? fun reg => reg.Serves r with
  | none =>
    rw [hfind] at hcall
    cases hcall
  | some reg =>
    rw [hfind] at hcall
    cases hcall

theorem firstServes_of_dispatches : FirstServes tables r := by
  have hplain := plain_of_dispatches hfits h
  have hcall := h Bool (serverOf tables (fun reg => decide (reg.Serves r)) none) (registrations_serverOf _ _ _)
  rw [call_recvReqPacket _ hfits hplain, call_serverOf _ _ _ _ fun reg => reg.Serves r] at hcall
  have hshown := call_serverOf tables (fun reg => decide (reg.Serves r)) none r.pkt fun reg => reg.uri = r.shown
  have hfound := hshown.symm.trans hcall
  rw [Option.or_none, Option.or_none] at hfound
  rw [FirstServes]
  cases hfirst : tables.flatten.find? fun reg => reg.uri = r.shown with
  | none =>
    rw [hfirst, Option.map_none, eq_comm, Option.map_eq_none_iff] at hfound
    exact hfound.symm
  | some reg =>
    have huri : reg.uri = r.shown := by simpa using List.find?_some hfirst
    rw [hfirst, Option.map_some, eq_comm, Option.map_eq_some_iff] at hfound
    obtain ⟨reg', hreg', heq⟩ := hfound
    rw [List.find?_some hreg', eq_comm, decide_eq_true_eq] at heq
    exact (find?_of_imp hfirst (decide_eq_true heq) fun x hx =>
      decide_eq_true (serves_shown huri heq x (of_decide_eq_true hx))).symm

end Necessary

/-- A request that fits gets the handler of its resource exactly if its URI is plain and the first resource with
the URI that `strcmp` sees is the one for the request. -/
theorem request_dispatch_iff (tables : List (List Registration)) (r : Request)
    (hfits : r.uri.length ≤ coapUriMaxLen) : Dispatches tables r ↔ r.Plain ∧ FirstServes tables r := by
  constructor
  · intro h
    exact ⟨plain_of_dispatches hfits h, firstServes_of_dispatches hfits h⟩
  · rintro ⟨hplain, hfirst⟩ H server htables
    rw [call_recvReqPacket server hfits hplain, find?_resource server htables hfirst]

/-! One URI with a resource for each of two methods, as in the tables of local control. -/

def switchTables : List (List Registration) :=
  [[⟨[coapMethodTypeGet], ascii "switch"⟩, ⟨[coapMethodTypePost], ascii "switch"⟩]]

def switchPacket (code : UInt8) : CoapPacket :=
  { CoapPacket.init with
    header := ⟨1, 0, 0, code, 0⟩
    opNum := 1
    options := fun _ => ⟨coapOptionTypeUriPath, ⟨some 0, 6⟩⟩ }

def switchRequest (code : UInt8) (h : isRequest (switchPacket code) = true) : Request where
  pkt := switchPacket code
  raw := ⟨fun i => (ascii "switch").getD i 0, 6⟩
  request := h
  ascending := List.pairwise_singleton _ _

theorem get_switch_dispatched : Dispatches switchTables (switchRequest coapMethodTypeGet (by decide)) :=
  (request_dispatch_iff switchTables (switchRequest coapMethodTypeGet (by decide)) (by decide)).mpr
    (by decide)

/-- The handler of the other method is called. -/
theorem post_switch_not_dispatched : ¬Dispatches switchTables (switchRequest coapMethodTypePost (by decide)) := by
  intro h
  exact absurd (firstServes_of_dispatches (by decide) h) (by decide)

end IotConnect.Endpoint
