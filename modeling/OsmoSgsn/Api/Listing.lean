import OsmoSgsn.Basic
import OsmoSgsn.Iu.Rnc
import OsmoSgsn.Library.Json

/-!
# Listings

The HTTP interface lists PDP contexts and links as JSON. The entries of a list are formatted piece
by piece into a buffer of fixed size, and what does not fit any more is cut off there; the buffer is
then put into the text around it, which has no such limit.

A buffer shows what has been appended to it up to its size, so all appending is to one text, and
only that text is looked at in the end.
-/

namespace OsmoSgsn.Api

open JsonText OsmoSgsn.Iu

/-! ## Texts -/

/-- The text of a literal. -/
def lit (s : String) : List Char := s.toList

/-- `json_escape`. What it cannot show is left out. -/
def jsonEscape (outLen : ℕ) : List Char → List Char → List Char
  | [], out => out
  | c :: s, out =>
    if c = '\x00' ∨ outLen ≤ out.length + 2 then out
    else if c = '"' ∨ c = '\\' then jsonEscape outLen s (out ++ ['\\', c])
    else if ' ' ≤ c ∧ c < '\x7f' then jsonEscape outLen s (out ++ [c])
    else jsonEscape outLen s out

/-- The text of `%08x`. -/
def hex8 (n : BitVec 32) : List Char :=
  (List.range 8).reverse.map fun k ↦ Nat.digitChar (n.toNat / 16 ^ k % 16)

/-- `struct in_addr`. -/
structure InAddr where
  a : UInt8
  b : UInt8
  c : UInt8
  d : UInt8
  deriving DecidableEq, Repr

/-- `inet_ntop`. -/
def inetNtop (ia : InAddr) : List Char :=
  decimal ia.a.toNat ++ '.' :: (decimal ia.b.toNat ++ '.' :: (decimal ia.c.toNat ++
    '.' :: decimal ia.d.toNat))

/-! ## Buffers -/

/-- A buffer that text is appended to, and the space that is left in it. -/
structure Buf where
  text : List Char
  space : ℕ
  deriving DecidableEq, Repr

/-- `json_append`: `vsnprintf` keeps a place for the octet that ends the text. -/
def jsonAppend (cur : Buf) (formatted : List Char) : Buf :=
  if cur.space = 0 then cur
  else if cur.space ≤ formatted.length then ⟨cur.text ++ formatted.take (cur.space - 1), 0⟩
  else ⟨cur.text ++ formatted, cur.space - formatted.length⟩

/-! ## PDP contexts -/

/-- What of `struct pdp_t` is listed. -/
structure PdpT where
  version : ℕ
  gsnlc : Bytes
  gsnlu : Bytes
  gsnrc : Bytes
  gsnru : Bytes
  teicOwn : BitVec 32
  teidOwn : BitVec 32
  teicGn : BitVec 32
  teidGn : BitVec 32
  apnUse : Bytes
  eua : Bytes
  deriving DecidableEq, Repr

/-- What of `struct sgsn_pdp_ctx` is listed; of the MM context, there is the IMSI. -/
structure ApiPdp where
  mm : Option (List Char)
  nsapi : ℕ
  sapi : ℕ
  ti : ℕ
  sgsnTeidOwn : BitVec 32
  lib : Option PdpT
  deriving DecidableEq, Repr

/-- Functions of the libraries. -/
structure ApiLib where
  /-- `gsna2in_addr`. -/
  gsna2inAddr : Bytes → Option InAddr
  /-- The text that `osmo_apn_to_str` leaves, or that was there before. -/
  osmoApnToStr : Bytes → List Char

variable (lib : ApiLib)

/-- `pdp_addr_str`. -/
def pdpAddrStr (pdpa : Bytes) : List Char :=
  if pdpa.length < 2 then lit "none"
  else if octet pdpa 0 &&& 0x0f = 1 ∧ octet pdpa 1 = 0x21 ∧ 6 ≤ pdpa.length then
    lit "IPv4:" ++ inetNtop ⟨octet pdpa 2, octet pdpa 3, octet pdpa 4, octet pdpa 5⟩
  else lit "invalid"

/-- `api_gtp_ip_str`. -/
def apiGtpIpStr (ul : Bytes) : List Char := ((lib.gsna2inAddr ul).map inetNtop).getD []

/-- `api_append_pdp_gtp_json`. -/
def apiAppendPdpGtpJson (cur : Buf) (pdp : ApiPdp) : Buf :=
  match pdp.lib with
  | none => jsonAppend cur (lit "\"gtp\":null")
  | some p =>
    let cur := jsonAppend cur (lit "\"gtp\":\x7b\"version\":" ++ (decimal p.version ++
      (lit ",\"local\":\x7b\"control_ip\":\"" ++ (apiGtpIpStr lib p.gsnlc ++
      (lit "\",\"control_teid\":\"0x" ++ (hex8 p.teicOwn ++
      (lit "\",\"user_ip\":\"" ++ (apiGtpIpStr lib p.gsnlu ++
      (lit "\",\"user_teid\":\"0x" ++ (hex8 p.teidOwn ++ lit "\""))))))))))
    let cur := if pdp.sgsnTeidOwn ≠ 0 ∧ pdp.sgsnTeidOwn ≠ p.teidOwn then
      jsonAppend cur (lit ",\"sgsn_user_teid\":\"0x" ++ (hex8 pdp.sgsnTeidOwn ++ lit "\"")) else cur
    jsonAppend cur (lit "\x7d,\"remote\":\x7b\"control_ip\":\"" ++ (apiGtpIpStr lib p.gsnrc ++
      (lit "\",\"control_teid\":\"0x" ++ (hex8 p.teicGn ++
      (lit "\",\"user_ip\":\"" ++ (apiGtpIpStr lib p.gsnru ++
      (lit "\",\"user_teid\":\"0x" ++ (hex8 p.teidGn ++ lit "\"\x7d\x7d"))))))))

/-- `api_append_pdp_json`. -/
def apiAppendPdpJson (cur : Buf) (pdp : ApiPdp) : Buf :=
  let cur := jsonAppend cur (lit "\x7b")
  let cur := jsonAppend cur
    (lit "\"imsi\":\"" ++ (jsonEscape 256 (pdp.mm.getD []) [] ++ lit "\","))
  let cur := jsonAppend cur (lit "\"nsapi\":" ++ (decimal pdp.nsapi ++ (lit ",\"sapi\":" ++
    (decimal pdp.sapi ++ (lit ",\"ti\":" ++ (decimal pdp.ti ++ lit ","))))))
  let apn := (pdp.lib.map (·.apnUse)).getD []
  let cur := if apn ≠ [] then
    let cur := jsonAppend cur
      (lit "\"apn\":\"" ++ (jsonEscape 256 (lib.osmoApnToStr apn) [] ++ lit "\","))
    jsonAppend cur (lit "\"pdp_address\":\"" ++
      (jsonEscape 256 (pdpAddrStr ((pdp.lib.map (·.eua)).getD [])) [] ++ lit "\","))
    else jsonAppend cur (lit "\"apn\":\"\",\"pdp_address\":\"\",")
  let cur := apiAppendPdpGtpJson lib cur pdp
  jsonAppend cur (lit "\x7d")

/-- `struct api_pdp_list_query`. -/
structure ApiPdpListQuery where
  imsiPrefix : List Char
  limit : ℕ
  hasImsiPrefix : Bool
  deriving DecidableEq, Repr

/-- `api_pdp_imsi_matches`. -/
def apiPdpImsiMatches (pdp : ApiPdp) (pref : List Char) : Bool :=
  pref = [] || (match pdp.mm with
    | none => false
    | some imsi => imsi ≠ [] && pref.isPrefixOf imsi)

def sgsnApiPdpMaxScan : ℕ := 65535

/-- The loop of `build_pdp_list_json`: how many contexts were looked at and listed, and whether the
next one is the first. -/
def listPdps (query : ApiPdpListQuery) :
    List ApiPdp → ℕ → ℕ → Bool → Buf → ℕ × Buf
  | [], _, returned, _, cur => (returned, cur)
  | pdp :: pdps, scanned, returned, first, cur =>
    if sgsnApiPdpMaxScan < scanned + 1 then (returned, cur)
    else if pdp.mm = none then listPdps query pdps (scanned + 1) returned first cur
    else if query.hasImsiPrefix ∧ apiPdpImsiMatches pdp query.imsiPrefix = false then
      listPdps query pdps (scanned + 1) returned first cur
    else if query.limit ≤ returned then (returned, cur)
    else
      let cur := if first then cur else jsonAppend cur (lit ",")
      let cur := apiAppendPdpJson lib cur pdp
      if cur.space = 0 then (returned, cur)
      else listPdps query pdps (scanned + 1) (returned + 1) false cur

/-- `build_pdp_list_json`. -/
def buildPdpListJson (query : ApiPdpListQuery) (pdpList : List ApiPdp) : List Char :=
  let (returned, items) := listPdps lib query pdpList 0 0 true ⟨[], 256 * 1024⟩
  if query.hasImsiPrefix then
    lit "\x7b\"count\":" ++ (decimal returned ++ (lit ",\"limit\":" ++ (decimal query.limit ++
      (lit ",\"imsi_prefix\":\"" ++ (jsonEscape 32 query.imsiPrefix [] ++
      (lit "\",\"pdp_contexts\":[" ++ (items.text ++ lit "]\x7d")))))))
  else
    lit "\x7b\"count\":" ++ (decimal returned ++ (lit ",\"limit\":" ++ (decimal query.limit ++
      (lit ",\"pdp_contexts\":[" ++ (items.text ++ lit "]\x7d")))))

/-! ## Links -/

/-- What the cache takes for the state of an RNC: one that an RNC can be in, `DISCARDING`, which
none ever is in, or another number. -/
inductive IuRncApiState
  | fsm (state : IuRncState)
  | discarding
  | unknown
  deriving DecidableEq, Repr

/-- `struct iu_rnc_api_entry`; of the SCCP address, there is the point code. -/
structure IuRncApiEntry where
  valid : Bool
  rncId : Ra.RncId
  pc : BitVec 32
  state : IuRncApiState
  deriving DecidableEq, Repr

/-- `api_fmt_iu_rnc_state_cached`. -/
def apiFmtIuRncStateCached : IuRncApiState → List Char
  | .fsm .ready => lit "READY"
  | .fsm .waitRxReset => lit "WAIT_RX_RESET"
  | .fsm .waitRxResetAck => lit "WAIT_RX_RESET_ACK"
  | .discarding => lit "DISCARDING"
  | .unknown => lit "UNKNOWN"

/-- `api_fmt_rnc_id`. -/
def apiFmtRncId (id : Ra.RncId) : List Char :=
  decimal id.plmn.mcc.toNat ++ '-' :: (decimal id.plmn.mnc.toNat ++ '-' :: decimal id.rncId.toNat)

/-- `api_fmt_sccp_pc`. -/
def apiFmtSccpPc (pc : BitVec 32) : List Char := lit "pc=" ++ decimal pc.toNat

/-- The GSUP client. Its address is what `inet_ntoa` has made of the one that is configured. -/
structure GsupClient where
  remAddr : InAddr
  remPort : ℕ
  isConnected : Bool

/-- What is listed as links. -/
structure Links where
  gtpListenaddr : InAddr
  gsupClient : Option GsupClient
  /-- The configured server, unless it is 0.0.0.0. -/
  gsupServer : Option (InAddr × ℕ)
  /-- `gsnc` and `gsnu` of the GSN. -/
  gsn : Option (InAddr × InAddr)
  /-- `iu_rnc_api_cache`. -/
  rncs : List IuRncApiEntry

/-- The text of an RNC. -/
def rncText (e : IuRncApiEntry) : List Char :=
  lit "\x7b\"rnc_id\":\"" ++ (apiFmtRncId e.rncId ++ (lit "\",\"sccp_addr\":\"" ++
    (apiFmtSccpPc e.pc ++ (lit "\",\"state\":\"" ++ (apiFmtIuRncStateCached e.state ++
    lit "\"\x7d")))))

/-- The loop of `build_links_json` over the entries that are valid. -/
def listRncs : List IuRncApiEntry → Bool → Buf → Buf
  | [], _, cur => cur
  | e :: es, first, cur =>
    let cur := if first then cur else jsonAppend cur (lit ",")
    listRncs es false (jsonAppend cur (rncText e))

/-- The text of the GSUP link. -/
def gsupText (links : Links) : List Char :=
  let ip := match links.gsupClient, links.gsupServer with
    | some client, _ => inetNtop client.remAddr
    | none, some server => inetNtop server.1
    | none, none => []
  let port := match links.gsupClient, links.gsupServer with
    | some client, _ => client.remPort
    | none, some server => server.2
    | none, none => 0
  let up := links.gsupClient.any (·.isConnected)
  lit "\"gsup\":\x7b\"remote_ip\":\"" ++ (ip ++ (lit "\",\"remote_port\":" ++ (decimal port ++
    (lit ",\"connected\":" ++ ((if up then lit "true" else lit "false") ++ lit "\x7d,")))))

/-- `build_links_json`. -/
def buildLinksJson (links : Links) : List Char :=
  let rncs := listRncs (links.rncs.filter (·.valid)) true ⟨[], 512⟩
  let rest := lit "\"gtp_local_ip\":\"" ++ (inetNtop links.gtpListenaddr ++
    (lit "\",\"ggsn\":[],\"mme\":[]," ++ (gsupText links ++ (lit "\"iu_rnc\":[" ++
    (rncs.text ++ lit "]\x7d\x7d")))))
  match links.gsn with
  | some (gsnc, gsnu) =>
    lit "\x7b\"network\":\x7b\"gtp\":\x7b\"signalling_ip\":\"" ++ (inetNtop gsnc ++
      (lit "\",\"user_ip\":\"" ++ (inetNtop gsnu ++ (lit "\"\x7d," ++ rest))))
  | none => lit "\x7b\"network\":\x7b\"gtp\":null," ++ rest

end OsmoSgsn.Api
