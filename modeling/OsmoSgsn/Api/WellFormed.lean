import OsmoSgsn.Api.Listing

/-!
# Well-formed listings

Everything that is appended to a buffer is one text, and the buffer shows the front of it. The text
is a list of JSON objects, so a listing is well-formed if the whole list fits into the buffer, and
otherwise only if the buffer ends just where one of the objects ends. The comma behind that one is
dropped then, and the loop has counted no more objects than there are.
-/

namespace OsmoSgsn.Api

open JsonText OsmoSgsn.Iu

/-! ## Buffers -/

/-- A buffer of a size, that a text was appended to. -/
def shown (size : ℕ) (text : List Char) : Buf := ⟨text.take (size - 1), size - text.length⟩

theorem jsonAppend_shown {size : ℕ} (text formatted : List Char) :
    jsonAppend (shown size text) formatted = shown size (text ++ formatted) := by
  have hspace : (shown size text).space = size - text.length := rfl
  have htext : (shown size text).text = text.take (size - 1) := rfl
  rw [jsonAppend, hspace, htext]
  by_cases hfull : size - text.length = 0
  · -- nothing was left
    rw [if_pos hfull, shown, shown, List.take_append_of_le_length (by omega), List.length_append]
    congr 1
    omega
  · have hall : text.take (size - 1) = text := List.take_of_length_le (by omega)
    rw [if_neg hfull, hall, shown, List.length_append]
    by_cases hcut : size - text.length ≤ formatted.length
    · have hsize : size - 1 - text.length = size - text.length - 1 := by omega
      rw [if_pos hcut, List.take_append, hall, hsize]
      congr 1
      omega
    · rw [if_neg hcut, List.take_of_length_le (by rw [List.length_append]; omega)]
      congr 1
      omega

/-! ## Entries -/

variable (lib : ApiLib)

/-- The text of the GTP part. -/
def gtpText (pdp : ApiPdp) : List Char :=
  match pdp.lib with
  | none => lit "null"
  | some p => object [
      (lit "version", decimal p.version),
      (lit "local", object ([
        (lit "control_ip", quoted (apiGtpIpStr lib p.gsnlc)),
        (lit "control_teid", quoted (lit "0x" ++ hex8 p.teicOwn)),
        (lit "user_ip", quoted (apiGtpIpStr lib p.gsnlu)),
        (lit "user_teid", quoted (lit "0x" ++ hex8 p.teidOwn))] ++
        if pdp.sgsnTeidOwn ≠ 0 ∧ pdp.sgsnTeidOwn ≠ p.teidOwn then
          [(lit "sgsn_user_teid", quoted (lit "0x" ++ hex8 pdp.sgsnTeidOwn))] else [])),
      (lit "remote", object [
        (lit "control_ip", quoted (apiGtpIpStr lib p.gsnrc)),
        (lit "control_teid", quoted (lit "0x" ++ hex8 p.teicGn)),
        (lit "user_ip", quoted (apiGtpIpStr lib p.gsnru)),
        (lit "user_teid", quoted (lit "0x" ++ hex8 p.teidGn))])]

/-- The text of a PDP context. -/
def pdpText (pdp : ApiPdp) : List Char :=
  let apn := (pdp.lib.map (·.apnUse)).getD []
  let named := if apn ≠ [] then
      (jsonEscape 256 (lib.osmoApnToStr apn) [],
        jsonEscape 256 (pdpAddrStr ((pdp.lib.map (·.eua)).getD [])) [])
    else ([], [])
  object [
    (lit "imsi", quoted (jsonEscape 256 (pdp.mm.getD []) [])),
    (lit "nsapi", decimal pdp.nsapi),
    (lit "sapi", decimal pdp.sapi),
    (lit "ti", decimal pdp.ti),
    (lit "apn", quoted named.1),
    (lit "pdp_address", quoted named.2),
    (lit "gtp", gtpText lib pdp)]

-- the pieces are literals, so both texts are the same character by character
set_option maxRecDepth 2000 in
theorem apiAppendPdpGtpJson_shown {size : ℕ} (text : List Char) (pdp : ApiPdp) :
    apiAppendPdpGtpJson lib (shown size text) pdp =
      shown size (text ++ (lit "\"gtp\":" ++ gtpText lib pdp)) := by
  cases hlib : pdp.lib with
  | none =>
    simp only [apiAppendPdpGtpJson, gtpText, hlib, jsonAppend_shown]
    rfl
  | some p =>
    simp only [apiAppendPdpGtpJson, gtpText, hlib, jsonAppend_shown]
    split_ifs <;>
    · simp only [jsonAppend_shown, List.append_assoc, object, join, field, quoted, List.map_cons,
        List.map_nil, List.cons_append, List.nil_append, List.append_nil, if_true,
        Bool.false_eq_true, if_false]
      rfl

set_option maxRecDepth 2000 in
/-- **The pieces of an entry are a JSON object.** -/
theorem apiAppendPdpJson_shown {size : ℕ} (text : List Char) (pdp : ApiPdp) :
    apiAppendPdpJson lib (shown size text) pdp = shown size (text ++ pdpText lib pdp) := by
  simp only [apiAppendPdpJson, pdpText, jsonAppend_shown]
  split_ifs <;>
  · simp only [jsonAppend_shown, apiAppendPdpGtpJson_shown, List.append_assoc, object, join, field,
      quoted, List.map_cons, List.map_nil, List.cons_append, List.nil_append, if_true,
      Bool.false_eq_true, if_false]
    rfl

theorem rncText_eq (e : IuRncApiEntry) : rncText e = object [
    (lit "rnc_id", quoted (apiFmtRncId e.rncId)),
    (lit "sccp_addr", quoted (apiFmtSccpPc e.pc)),
    (lit "state", quoted (apiFmtIuRncStateCached e.state))] := by
  simp only [rncText, object, join, field, quoted, List.map_cons, List.map_nil, List.cons_append,
    List.append_assoc, List.nil_append, if_true, Bool.false_eq_true, if_false]
  rfl

/-! ## Entries are objects -/

/-- The literals that stand in strings. -/
theorem chars_lit {s : String} (hs : s ∈ ["imsi", "nsapi", "sapi", "ti", "apn", "pdp_address",
    "gtp", "version", "local", "remote", "control_ip", "control_teid", "user_ip", "user_teid",
    "sgsn_user_teid", "rnc_id", "sccp_addr", "state", "0x", "pc=", "READY", "WAIT_RX_RESET",
    "WAIT_RX_RESET_ACK", "DISCARDING", "UNKNOWN", "count", "limit", "imsi_prefix", "pdp_contexts",
    "signalling_ip", "gtp_local_ip", "ggsn", "mme", "gsup", "remote_ip", "remote_port",
    "connected", "iu_rnc", "network"]) : Chars (lit s) := by
  refine chars_of_unescaped ?_
  fin_cases hs <;> simp [lit, Unescaped]

/-- What is escaped is cut off between characters. -/
theorem chars_jsonEscape {outLen : ℕ} (s : List Char) {out : List Char} (hout : Chars out) :
    Chars (jsonEscape outLen s out) := by
  induction s generalizing out with
  | nil => exact hout
  | cons c s ih =>
    rw [jsonEscape]
    split_ifs with hstop hescape hshown
    · exact hout
    · refine ih (hout.append (.escaped ?_ .nil))
      rcases hescape with rfl | rfl <;> simp
    · obtain ⟨hquote, hbackslash⟩ := not_or.mp hescape
      exact ih (hout.append (.unescaped hshown.1 hquote hbackslash .nil))
    · exact ih hout

theorem chars_hex8 (n : BitVec 32) : Chars (hex8 n) := by
  have hdigit : ∀ k < 16, Unescaped (Nat.digitChar k) := by
    intro k hk
    interval_cases k <;> decide +kernel
  refine chars_of_unescaped fun c hc ↦ ?_
  obtain ⟨k, -, rfl⟩ := List.mem_map.mp hc
  exact hdigit _ (Nat.mod_lt _ (by decide))

theorem chars_teid (n : BitVec 32) : Chars (lit "0x" ++ hex8 n) :=
  (chars_lit (by simp)).append (chars_hex8 n)

theorem chars_inetNtop (ia : InAddr) : Chars (inetNtop ia) := by
  have hdot {s : List Char} (hs : Chars s) : Chars ('.' :: s) :=
    .unescaped (by decide) (by decide) (by decide) hs
  exact (chars_decimal _).append (hdot ((chars_decimal _).append (hdot ((chars_decimal _).append
    (hdot (chars_decimal _))))))

theorem chars_apiGtpIpStr (ul : Bytes) : Chars (apiGtpIpStr lib ul) := by
  rw [apiGtpIpStr]
  cases lib.gsna2inAddr ul with
  | none => exact .nil
  | some ia => exact chars_inetNtop ia

theorem isValue_gtpText (pdp : ApiPdp) : IsValue (gtpText lib pdp) := by
  rw [gtpText]
  cases pdp.lib with
  | none => exact ⟨_, .litNull⟩
  | some p =>
    have hip (ul : Bytes) := isValue_quoted (chars_apiGtpIpStr lib ul)
    have hteid (n : BitVec 32) := isValue_quoted (chars_teid n)
    have hsgsn : Members (if pdp.sgsnTeidOwn ≠ 0 ∧ pdp.sgsnTeidOwn ≠ p.teidOwn then
        [(lit "sgsn_user_teid", quoted (lit "0x" ++ hex8 pdp.sgsnTeidOwn))] else []) := by
      split_ifs
      · exact .cons (chars_lit (by simp)) (hteid _) .nil
      · exact .nil
    have hends (gsnc gsnu : Bytes) (teic teid : BitVec 32) : Members [
        (lit "control_ip", quoted (apiGtpIpStr lib gsnc)),
        (lit "control_teid", quoted (lit "0x" ++ hex8 teic)),
        (lit "user_ip", quoted (apiGtpIpStr lib gsnu)),
        (lit "user_teid", quoted (lit "0x" ++ hex8 teid))] :=
      .cons (chars_lit (by simp)) (hip _) (.cons (chars_lit (by simp)) (hteid _)
        (.cons (chars_lit (by simp)) (hip _) (.cons (chars_lit (by simp)) (hteid _) .nil)))
    refine Members.isValue (List.cons_ne_nil _ _) ?_
    refine .cons (chars_lit (by simp)) (isValue_decimal _) ?_
    refine .cons (chars_lit (by simp)) (Members.isValue (by simp) ((hends _ _ _ _).append hsgsn)) ?_
    exact .cons (chars_lit (by simp)) (Members.isValue (by simp) (hends _ _ _ _)) .nil

theorem exists_pdpText (pdp : ApiPdp) :
    ∃ ms, Derives (.value (.obj ms)) (pdpText lib pdp) := by
  have hescape (s : List Char) : Chars (jsonEscape 256 s []) := chars_jsonEscape s .nil
  refine Members.exists_object (List.cons_ne_nil _ _) ?_
  refine .cons (chars_lit (by simp)) (isValue_quoted (hescape _)) ?_
  refine .cons (chars_lit (by simp)) (isValue_decimal _) ?_
  refine .cons (chars_lit (by simp)) (isValue_decimal _) ?_
  refine .cons (chars_lit (by simp)) (isValue_decimal _) ?_
  refine .cons (chars_lit (by simp)) (isValue_quoted ?_) ?_
  · split_ifs
    · exact hescape _
    · exact .nil
  refine .cons (chars_lit (by simp)) (isValue_quoted ?_) ?_
  · split_ifs
    · exact hescape _
    · exact .nil
  exact .cons (chars_lit (by simp)) (isValue_gtpText lib pdp) .nil

theorem exists_rncText (e : IuRncApiEntry) : ∃ ms, Derives (.value (.obj ms)) (rncText e) := by
  have hdash {s : List Char} (hs : Chars s) : Chars ('-' :: s) :=
    .unescaped (by decide) (by decide) (by decide) hs
  have hid : Chars (apiFmtRncId e.rncId) :=
    (chars_decimal _).append (hdash ((chars_decimal _).append (hdash (chars_decimal _))))
  have hpc : Chars (apiFmtSccpPc e.pc) := (chars_lit (by simp)).append (chars_decimal _)
  have hstate : Chars (apiFmtIuRncStateCached e.state) := by
    cases e.state with
    | fsm state => cases state <;> exact chars_lit (by simp)
    | discarding => exact chars_lit (by simp)
    | unknown => exact chars_lit (by simp)
  rw [rncText_eq]
  refine Members.exists_object (List.cons_ne_nil _ _) ?_
  refine .cons (chars_lit (by simp)) (isValue_quoted hid) ?_
  refine .cons (chars_lit (by simp)) (isValue_quoted hpc) ?_
  exact .cons (chars_lit (by simp)) (isValue_quoted hstate) .nil

/-! ## Loops -/

/-- A PDP context is listed. -/
def listed (query : ApiPdpListQuery) (pdp : ApiPdp) : Bool :=
  pdp.mm ≠ none && !(query.hasImsiPrefix && !apiPdpImsiMatches pdp query.imsiPrefix)

/-- The PDP contexts that a query asks for, if there is space for all of them. -/
def selected (query : ApiPdpListQuery) (pdpList : List ApiPdp) : List ApiPdp :=
  ((pdpList.take sgsnApiPdpMaxScan).filter (listed query)).take query.limit

/-- How many texts are put into a buffer before it is full, if there are so many characters in it
before. -/
def fitting (size : ℕ) : ℕ → Bool → List (List Char) → ℕ
  | _, _, [] => 0
  | len, first, e :: es =>
    let len := len + (if first then e else ',' :: e).length
    if size ≤ len then 0 else fitting size len false es + 1

theorem shown_of_full {size : ℕ} {text : List Char} (hfull : size ≤ text.length)
    (more : List Char) : shown size (text ++ more) = shown size text := by
  rw [shown, shown, List.take_append_of_le_length (by omega), List.length_append]
  congr 1
  omega

/-- What is put in front of a text of the list. -/
def separator (first : Bool) : List Char := if first then [] else [',']

theorem separator_append (first : Bool) (e : List Char) :
    separator first ++ e = if first then e else ',' :: e := by
  cases first <;> rfl

theorem separate_shown {size : ℕ} (text : List Char) (first : Bool) :
    (if first then shown size text else jsonAppend (shown size text) (lit ",")) =
      shown size (text ++ separator first) := by
  cases first with
  | true => rw [separator, if_pos rfl, if_pos rfl, List.append_nil]
  | false => exact jsonAppend_shown text (lit ",")

section Loop

variable (query : ApiPdpListQuery) {size : ℕ}

theorem listPdps_cons (pdp : ApiPdp) (pdps : List ApiPdp) {scanned returned : ℕ} {first : Bool}
    {cur : Buf} (hscan : scanned < sgsnApiPdpMaxScan) :
    listPdps lib query (pdp :: pdps) scanned returned first cur =
      if listed query pdp then
        if query.limit ≤ returned then (returned, cur)
        else
          let cur := apiAppendPdpJson lib (if first then cur else jsonAppend cur (lit ",")) pdp
          if cur.space = 0 then (returned, cur)
          else listPdps lib query pdps (scanned + 1) (returned + 1) false cur
      else listPdps lib query pdps (scanned + 1) returned first cur := by
  rw [listPdps, if_neg (Nat.not_lt.mpr hscan)]
  by_cases hmm : pdp.mm = none
  · simp [listed, hmm]
  · by_cases hmatch : query.hasImsiPrefix ∧ apiPdpImsiMatches pdp query.imsiPrefix = false
    · simp [listed, hmm, hmatch]
    · have hlisted : listed query pdp = true := by
        simp only [listed]
        grind
      rw [if_neg hmm, if_neg hmatch, hlisted, if_pos rfl]

/-- An entry is appended, and counted if it was not cut off. -/
theorem listPdps_entry (pdp : ApiPdp) (pdps : List ApiPdp) {scanned returned : ℕ} (first : Bool)
    (text : List Char) (hscan : scanned < sgsnApiPdpMaxScan) (hlisted : listed query pdp = true)
    (hlimit : returned < query.limit) :
    listPdps lib query (pdp :: pdps) scanned returned first (shown size text) =
      let text := text ++ if first then pdpText lib pdp else ',' :: pdpText lib pdp
      if size ≤ text.length then (returned, shown size text)
      else listPdps lib query pdps (scanned + 1) (returned + 1) false (shown size text) := by
  rw [listPdps_cons lib query pdp pdps hscan, if_pos hlisted, if_neg (Nat.not_le.mpr hlimit)]
  simp only [separate_shown, apiAppendPdpJson_shown, List.append_assoc, separator_append]
  simp only [shown, Nat.sub_eq_zero_iff_le]

/-- **The loop.** It counts the texts that fit, and what the buffer shows is the front of all. -/
theorem listPdps_shown (pdps : List ApiPdp) (scanned returned : ℕ) (first : Bool)
    (text : List Char) {es : List (List Char)}
    (hes : es = (((pdps.take (sgsnApiPdpMaxScan - scanned)).filter (listed query)).take
      (query.limit - returned)).map (pdpText lib)) :
    listPdps lib query pdps scanned returned first (shown size text) =
      (returned + fitting size text.length first es, shown size (text ++ join first es)) := by
  induction pdps generalizing scanned returned first text es with
  | nil =>
    obtain rfl : es = [] := by simpa using hes
    simp [listPdps, fitting, join]
  | cons pdp pdps ih =>
    rcases Nat.lt_or_ge scanned sgsnApiPdpMaxScan with hscan | hscan
    · have htake : (pdp :: pdps).take (sgsnApiPdpMaxScan - scanned) =
          pdp :: pdps.take (sgsnApiPdpMaxScan - (scanned + 1)) := by
        rw [← List.take_succ_cons]
        congr 1
        omega
      rw [htake, List.filter_cons] at hes
      cases hlisted : listed query pdp with
      | false =>
        rw [listPdps_cons lib query pdp pdps hscan, hlisted]
        exact ih _ _ _ _ (by simpa [hlisted] using hes)
      | true =>
        rw [hlisted, if_pos rfl] at hes
        rcases Nat.lt_or_ge returned query.limit with hlimit | hlimit
        · rw [show query.limit - returned = query.limit - (returned + 1) + 1 by omega,
            List.take_succ_cons, List.map_cons] at hes
          rw [listPdps_entry lib query pdp pdps first text hscan hlisted hlimit, hes, fitting, join]
          generalize (if first then pdpText lib pdp else ',' :: pdpText lib pdp) = entry
          rw [← List.length_append, ← List.append_assoc]
          -- behind an entry that is cut off, nothing is to be seen any more
          by_cases hfull : size ≤ (text ++ entry).length
          · simp only [if_pos hfull, shown_of_full hfull, Nat.add_zero]
          · simp only [if_neg hfull]
            rw [ih (scanned + 1) (returned + 1) false (text ++ entry) rfl, Nat.add_right_comm,
              Nat.add_assoc]
        · rw [Nat.sub_eq_zero_of_le hlimit, List.take_zero, List.map_nil] at hes
          rw [listPdps_cons lib query pdp pdps hscan, if_pos hlisted, if_pos hlimit, hes]
          simp [fitting, join]
    · -- enough of them were looked at
      rw [Nat.sub_eq_zero_of_le hscan] at hes
      obtain rfl : es = [] := by simpa using hes
      rw [listPdps, if_pos (Nat.lt_succ_of_le hscan)]
      simp [fitting, join]

end Loop

theorem listRncs_shown {size : ℕ} (rncs : List IuRncApiEntry) (first : Bool) (text : List Char) :
    listRncs rncs first (shown size text) =
      shown size (text ++ join first (rncs.map rncText)) := by
  induction rncs generalizing first text with
  | nil => simp [listRncs, join]
  | cons e rncs ih =>
    rw [listRncs, List.map_cons, join]
    rw [separate_shown, jsonAppend_shown, ih, List.append_assoc text, separator_append,
      List.append_assoc]

/-- So many texts fit, and no more. -/
theorem fitting_eq {size len k : ℕ} {first : Bool} {es : List (List Char)} (hk : k ≤ es.length)
    (hfit : len + (join first (es.take k)).length < size)
    (hnext : k = es.length ∨ size ≤ len + (join first (es.take (k + 1))).length) :
    fitting size len first es = k := by
  induction es generalizing len first k with
  | nil => exact (Nat.le_zero.mp hk).symm
  | cons e es ih =>
    rw [fitting]
    cases k with
    | zero =>
      rcases hnext with hnext | hnext
      · exact absurd hnext (by simp)
      · exact if_pos (by simpa [join] using hnext)
    | succ k =>
      rw [List.take_succ_cons, join, List.length_append, ← Nat.add_assoc] at hfit hnext
      rw [if_neg (by omega), ih (Nat.le_of_succ_le_succ hk) hfit (hnext.imp_left Nat.succ.inj)]

/-! ## Bodies -/

/-- What stands before the PDP contexts. -/
def pdpListHead (query : ApiPdpListQuery) (returned : ℕ) : List (List Char × List Char) :=
  [(lit "count", decimal returned), (lit "limit", decimal query.limit)] ++
    if query.hasImsiPrefix then
      [(lit "imsi_prefix", quoted (jsonEscape 32 query.imsiPrefix []))] else []

/-- The text up to the PDP contexts. -/
def pdpListFront (query : ApiPdpListQuery) (returned : ℕ) : List Char :=
  '{' :: (join true ((pdpListHead query returned).map fun f ↦ field f.1 f.2) ++
    lit ",\"pdp_contexts\":[")

/-- The texts of the PDP contexts that a query asks for. -/
def pdpTexts (query : ApiPdpListQuery) (pdpList : List ApiPdp) : List (List Char) :=
  (selected query pdpList).map (pdpText lib)

theorem buildPdpListJson_eq (query : ApiPdpListQuery) (pdpList : List ApiPdp) :
    buildPdpListJson lib query pdpList =
      pdpListFront query (fitting (256 * 1024) 0 true (pdpTexts lib query pdpList)) ++
        ((join true (pdpTexts lib query pdpList)).take (256 * 1024 - 1) ++ lit "]\x7d") := by
  have hbuf : (⟨[], 256 * 1024⟩ : Buf) = shown (256 * 1024) [] := by simp [shown]
  have hloop : listPdps lib query pdpList 0 0 true ⟨[], 256 * 1024⟩ =
      (fitting (256 * 1024) 0 true (pdpTexts lib query pdpList),
        shown (256 * 1024) (join true (pdpTexts lib query pdpList))) := by
    rw [hbuf, listPdps_shown lib query pdpList 0 0 true [] rfl, Nat.zero_add, List.nil_append]
    rfl
  rw [buildPdpListJson, hloop, pdpListFront, pdpListHead]
  dsimp only [shown]
  split_ifs <;>
  · simp only [join, field, quoted, List.map_cons, List.map_nil, List.cons_append,
      List.append_assoc, List.nil_append, List.append_nil, if_true, Bool.false_eq_true, if_false]
    rfl

/-- The address and the port of the GSUP link, and whether it is up. -/
def gsupEnd (links : Links) : List Char × ℕ × Bool :=
  match links.gsupClient, links.gsupServer with
  | some client, _ => (inetNtop client.remAddr, client.remPort, client.isConnected)
  | none, some server => (inetNtop server.1, server.2, false)
  | none, none => ([], 0, false)

/-- The text of the GSUP link. -/
def gsupObject (links : Links) : List Char := object [
  (lit "remote_ip", quoted (gsupEnd links).1),
  (lit "remote_port", decimal (gsupEnd links).2.1),
  (lit "connected", if (gsupEnd links).2.2 then lit "true" else lit "false")]

/-- What stands before the RNCs. -/
def linksHead (links : Links) : List (List Char × List Char) :=
  [(lit "gtp", match links.gsn with
      | some gsn => object [
        (lit "signalling_ip", quoted (inetNtop gsn.1)),
        (lit "user_ip", quoted (inetNtop gsn.2))]
      | none => lit "null"),
    (lit "gtp_local_ip", quoted (inetNtop links.gtpListenaddr)),
    (lit "ggsn", lit "[]"),
    (lit "mme", lit "[]"),
    (lit "gsup", gsupObject links)]

/-- The text up to the RNCs. -/
def linksFront (links : Links) : List Char :=
  lit "\x7b\"network\":\x7b" ++ (join true ((linksHead links).map fun f ↦ field f.1 f.2) ++
    lit ",\"iu_rnc\":[")

/-- The texts of the RNCs. -/
def rncTexts (links : Links) : List (List Char) := (links.rncs.filter (·.valid)).map rncText

theorem gsupText_eq (links : Links) :
    gsupText links = lit "\"gsup\":" ++ (gsupObject links ++ lit ",") := by
  rw [gsupText, gsupObject, gsupEnd]
  cases links.gsupClient <;> cases links.gsupServer <;>
  · simp only [Option.any_some, Option.any_none, object, join, field, quoted, List.map_cons,
      List.map_nil, List.cons_append, List.append_assoc, List.nil_append, if_true,
      Bool.false_eq_true, if_false]
    rfl

set_option maxRecDepth 2000 in
theorem buildLinksJson_eq (links : Links) :
    buildLinksJson links =
      linksFront links ++ ((join true (rncTexts links)).take (512 - 1) ++ lit "]\x7d\x7d") := by
  have hbuf : (⟨[], 512⟩ : Buf) = shown 512 [] := by simp [shown]
  have hloop : (listRncs (links.rncs.filter (·.valid)) true ⟨[], 512⟩).text =
      (join true (rncTexts links)).take (512 - 1) := by
    rw [hbuf, listRncs_shown, List.nil_append]
    rfl
  rw [buildLinksJson, hloop, gsupText_eq, linksFront, linksHead]
  cases links.gsn <;>
  · simp only [object, join, field, quoted, List.map_cons, List.map_nil, List.cons_append,
      List.append_assoc, List.nil_append, if_true, Bool.false_eq_true, if_false]
    rfl

/-! ## Documents -/

/-- A listing of PDP contexts is a JSON document, and the count is right. -/
def PdpListOk (body : List Char) : Prop :=
  ∃ ms vs, Document (.obj ms) body ∧ ms.lookup (lit "pdp_contexts") = some (.arr vs) ∧
    ms.lookup (lit "count") = some (.num (decimal vs.length))

theorem objects_pdpTexts (query : ApiPdpListQuery) (pdpList : List ApiPdp) :
    Objects (pdpTexts lib query pdpList) :=
  List.forall_mem_map.mpr fun pdp _ ↦ exists_pdpText lib pdp

theorem objects_rncTexts (links : Links) : Objects (rncTexts links) :=
  List.forall_mem_map.mpr fun e _ ↦ exists_rncText e

/-- The members before the PDP contexts. -/
def pdpListMembers (query : ApiPdpListQuery) (returned : ℕ) : List (List Char × JsonValue) :=
  [(lit "count", .num (decimal returned)), (lit "limit", .num (decimal query.limit))] ++
    if query.hasImsiPrefix then
      [(lit "imsi_prefix", .str (jsonEscape 32 query.imsiPrefix []))] else []

theorem isMember_pdpListHead (query : ApiPdpListQuery) (returned : ℕ) :
    List.Forall₂ IsMember (pdpListMembers query returned) (pdpListHead query returned) := by
  refine .cons ⟨rfl, chars_lit (by simp), .num (number_decimal _)⟩
    (.cons ⟨rfl, chars_lit (by simp), .num (number_decimal _)⟩ ?_)
  split_ifs
  · exact .cons ⟨rfl, chars_lit (by simp), .str (chars_jsonEscape _ .nil)⟩ .nil
  · exact .nil

theorem members_linksHead (links : Links) : Members (linksHead links) := by
  have hip (ia : InAddr) := isValue_quoted (chars_inetNtop ia)
  have hempty : IsValue (lit "[]") := ⟨_, .arrNil (List.forall_mem_nil _)⟩
  have hgsup : IsValue (gsupObject links) := by
    have haddr : Chars (gsupEnd links).1 := by
      rw [gsupEnd]
      cases links.gsupClient with
      | some client => exact chars_inetNtop _
      | none =>
        cases links.gsupServer with
        | some server => exact chars_inetNtop _
        | none => exact .nil
    have hup : IsValue (if (gsupEnd links).2.2 then lit "true" else lit "false") := by
      split_ifs
      · exact ⟨_, .litTrue⟩
      · exact ⟨_, .litFalse⟩
    exact Members.isValue (by simp) (.cons (chars_lit (by simp)) (isValue_quoted haddr)
      (.cons (chars_lit (by simp)) (isValue_decimal _) (.cons (chars_lit (by simp)) hup .nil)))
  refine .cons (chars_lit (by simp)) ?_ (.cons (chars_lit (by simp)) (hip _)
    (.cons (chars_lit (by simp)) hempty (.cons (chars_lit (by simp)) hempty
      (.cons (chars_lit (by simp)) hgsup .nil))))
  cases links.gsn with
  | none => exact ⟨_, .litNull⟩
  | some gsn =>
    exact Members.isValue (by simp) (.cons (chars_lit (by simp)) (hip _)
      (.cons (chars_lit (by simp)) (hip _) .nil))

/-- The front of a body leads into its list. -/
theorem scan_pdpListFront (query : ApiPdpListQuery) (returned : ℕ) :
    scan (.out 0 false) (pdpListFront query returned) = .out 2 false := by
  have hhead := ((Derives.fields (isMember_pdpListHead query returned)
    (List.cons_ne_nil _ _)).runs 1 false).ends
  rw [pdpListFront, scan_cons, scan_append,
    show (Scan.out 0 false).step '\x7b' = .out 1 false from rfl, hhead]
  rfl

theorem scan_linksFront (links : Links) :
    scan (.out 0 false) (linksFront links) = .out 3 false := by
  obtain ⟨ms, hms⟩ := (members_linksHead links).exists_fields
  have hhead := ((Derives.fields hms (List.cons_ne_nil _ _)).runs 2 false).ends
  rw [linksFront, scan_append, scan_append,
    show scan (.out 0 false) (lit "\x7b\"network\":\x7b") = .out 2 false from rfl, hhead]
  rfl

/-- **Listings of PDP contexts.** -/
theorem pdpListOk_iff (query : ApiPdpListQuery) (pdpList : List ApiPdp) :
    PdpListOk (buildPdpListJson lib query pdpList) ↔
      Whole (256 * 1024 - 1) (pdpTexts lib query pdpList) := by
  have hes := objects_pdpTexts lib query pdpList
  have hbody := buildPdpListJson_eq lib query pdpList
  constructor
  · -- the count does not matter where the list cannot be closed
    rintro ⟨ms, vs, hdoc, -, -⟩
    rw [hbody] at hdoc
    exact whole_of_document hes (scan_pdpListFront query _) (by simp [lit]) (by simp [lit])
      (by simp [lit]) hdoc
  · intro hwhole
    obtain ⟨k, hk, htake, hfit, hnext⟩ := hwhole.exists_take hes
    have hcount : fitting (256 * 1024) 0 true (pdpTexts lib query pdpList) = k :=
      fitting_eq hk (by omega) (hnext.imp_right (by omega))
    obtain ⟨vs, hvs⟩ := (hes.take k).exists_values
    have hlen : vs.length = k := by
      rw [hvs.length_eq, List.length_take]
      omega
    rw [hcount, htake] at hbody
    refine ⟨pdpListMembers query k ++ [(lit "pdp_contexts", .arr vs)], vs, ?_, ?_, ?_⟩
    · have hname : Chars (lit "pdp_contexts") := chars_lit (by simp)
      have hobj := (Derives.endsInArray (isMember_pdpListHead query k) (List.cons_ne_nil _ _) hname
        hvs).compact
      rw [hbody, pdpListFront, List.cons_append, List.append_assoc]
      exact hobj
    · rw [pdpListMembers]
      split_ifs <;> simp [List.lookup, lit]
    · rw [hlen]
      rfl

/-- **Listings of links.** -/
theorem exists_document_links_iff (links : Links) :
    (∃ v, Document v (buildLinksJson links)) ↔ Whole (512 - 1) (rncTexts links) := by
  have hes := objects_rncTexts links
  have hbody := buildLinksJson_eq links
  constructor
  · rintro ⟨v, hdoc⟩
    rw [hbody] at hdoc
    exact whole_of_document hes (scan_linksFront links) (by simp [lit]) (by simp [lit])
      (by simp [lit]) hdoc
  · intro hwhole
    obtain ⟨k, -, htake, -, -⟩ := hwhole.exists_take hes
    obtain ⟨vs, hvs⟩ := (hes.take k).exists_values
    obtain ⟨ms, hms⟩ := (members_linksHead links).exists_fields
    have hname : Chars (lit "iu_rnc") := chars_lit (by simp)
    have hobj := Derives.endsInArray hms (List.cons_ne_nil _ _) hname hvs
    have hnetwork : IsMember (lit "network", _) (lit "network", _) :=
      ⟨rfl, chars_lit (by simp), hobj⟩
    refine ⟨.obj [(lit "network", .obj (ms ++ [(lit "iu_rnc", .arr vs)]))], ?_⟩
    rw [hbody, htake, linksFront]
    have hdoc := (Derives.obj (.oneField hnetwork)).compact
    simp only [field, List.append_assoc, List.cons_append] at hdoc ⊢
    exact hdoc

/-- **When listings are well-formed.** A list that is cut off within an entry cannot be closed. So
the listings are well-formed if their lists fit into the buffers, or else are cut off where one of
the entries ends. -/
theorem listings_wellFormed_iff (query : ApiPdpListQuery) (pdpList : List ApiPdp) (links : Links) :
    (PdpListOk (buildPdpListJson lib query pdpList) ∧ ∃ v, Document v (buildLinksJson links)) ↔
      Whole (256 * 1024 - 1) (pdpTexts lib query pdpList) ∧ Whole (512 - 1) (rncTexts links) :=
  and_congr (pdpListOk_iff lib query pdpList) (exists_document_links_iff links)

/-- Eight RNCs that have connected, but not sent a reset yet. -/
def eightRncs : Links where
  gtpListenaddr := ⟨10, 0, 0, 1⟩
  gsupClient := none
  gsupServer := none
  gsn := none
  rncs := (List.range 8).map fun i ↦
    ⟨true, ⟨⟨901, 70, false⟩, 12345 + i⟩, 12345, .fsm .waitRxReset⟩

theorem not_document_eightRncs : ¬ ∃ v, Document v (buildLinksJson eightRncs) := by
  rw [exists_document_links_iff]
  have hlens : (rncTexts eightRncs).map List.length = List.replicate 8 72 := by decide
  have hlen (k : ℕ) : (join true ((rncTexts eightRncs).take k)).length =
      min k 8 * 72 + (min k 8 - 1) := by
    rw [length_join_true, List.map_take, hlens, List.take_replicate, List.sum_replicate,
      List.length_take, ← List.length_map, hlens, List.length_replicate]
    rfl
  rintro (hfit | ⟨k, hk⟩)
  · have hall := hlen 8
    rw [List.take_of_length_le (by decide)] at hall
    omega
  · rw [hlen] at hk
    omega

end OsmoSgsn.Api
