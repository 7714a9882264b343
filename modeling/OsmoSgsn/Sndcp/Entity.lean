import OsmoSgsn.Basic

/-!
# Subnetwork dependent convergence

SNDCP carries network packets (N-PDUs) over a logical link. A packet that does not fit into one
frame is cut into segments, each with a header that names the packet and the segment; the other
end collects segments until it has one for every number from 0 to the highest and puts them
together again.

The fragmenter (`sndcpSnUnitdataReq`) and the reassembler (`sndcpLlUnitdataInd`) are two
independent readings of one header layout. This module has both, with the state they keep and in
the source's own order of steps; whether one undoes the other is the subject of
`OsmoSgsn.Sndcp.RoundTrip`.
-/

namespace OsmoSgsn.Sndcp

/-! ## State -/

/-- What is known about the packet that is being reassembled. -/
structure DefragState where
  npdu : ℕ
  highestSeg : ℕ
  /-- One bit for each segment number that has come. -/
  segHave : BitVec 32
  noMore : Bool
  totLen : ℕ
  /-- The queue of segments with their numbers, newest first. -/
  fragList : List (ℕ × Bytes)
  pcomp : ℕ
  dcomp : ℕ
  deriving DecidableEq, Repr

/-- An SNDCP entity: one NSAPI on one logical link. -/
structure GprsSndcpEntity where
  nsapi : ℕ
  /-- The number of the next packet to send. -/
  txNpduNr : ℕ
  defrag : DefragState
  deriving DecidableEq, Repr

/-- A new entity. -/
def gprsSndcpEntityAlloc (nsapi : ℕ) : GprsSndcpEntity where
  nsapi := nsapi
  txNpduNr := 0
  defrag := ⟨0, 0, 0, false, 0, [], 0, 0⟩

/-- What the two functions take from their surroundings. -/
structure SndcpEnv where
  /-- Whether any compression is configured. -/
  anyPcompOrDcompActive : Bool
  /-- Header and data compression of a packet, with the two compression modes it chose. -/
  compress : Bytes → Option (Bytes × ℕ × ℕ)
  /-- Expansion of a packet under a header and a data compression mode. -/
  decompress : ℕ → ℕ → Bytes → Option Bytes
  /-- Whether the TLLI of a received message belongs to an MM context. -/
  mmctxFound : Bool
  /-- What a freshly allocated message buffer holds before anything is written to it. -/
  uninit : ℕ → UInt8
  /-- The answer of `gprs_llc_tx_ui` to an SN-PDU. -/
  llcTxUi : Bytes → Except Errno Unit

/-! ## Headers -/

/-- Octet 1: NSAPI, the bit for more segments, the type bit of SN-UNITDATA, the first bit. -/
def commonHdr (nsapi : ℕ) (more first : Bool) : UInt8 :=
  (UInt8.ofNat nsapi &&& 0xf) ||| (if more then 0x10 else 0) ||| 0x20 |||
    (if first then 0x40 else 0)

/-- Octet 2, of a first segment only. -/
def compHdr (pcomp dcomp : ℕ) : UInt8 :=
  (UInt8.ofNat pcomp &&& (0xf : UInt8)) ||| (UInt8.ofNat dcomp <<< (4 : UInt8))

/-- Octets 3 and 4: segment number and packet number. -/
def udataHdr (npduNr segNr : ℕ) : Bytes :=
  [(UInt8.ofNat (npduNr >>> 8) &&& (0xf : UInt8)) ||| (UInt8.ofNat segNr <<< (4 : UInt8)),
    UInt8.ofNat npduNr]

/-! ## Sending -/

/-- The state of the fragmenter: the number of the next fragment, in eight bits, and the part of
the packet that is still to be sent. -/
structure SndcpFragState where
  fragNr : ℕ
  rest : Bytes

/-- Build the next fragment. The result is the SN-PDU, the state behind it, and whether there is
more to send. -/
def sndcpSendUdFrag (n201U pcomp dcomp : ℕ) (sne : GprsSndcpEntity) (fs : SndcpFragState) :
    Bytes × SndcpFragState × Bool :=
  let first : Bool := fs.fragNr = 0
  let suh := udataHdr sne.txNpduNr (fs.fragNr % 0xf)
  let maxPayloadLen := (((n201U : ℤ) - 3 - if first then 1 else 0) % 2 ^ 32).toNat
  let len := min fs.rest.length maxPayloadLen
  let fs' : SndcpFragState := ⟨(fs.fragNr + 1) % 256, fs.rest.drop len⟩
  let more : Bool := fs'.rest ≠ []
  (commonHdr sne.nsapi more first :: (if first then [compHdr pcomp dcomp] else []) ++ suh ++
    fs.rest.take len, fs', more)

/-- The outcome of `sndcp_sn_unitdata_req`. -/
structure TxResult where
  rc : Except Errno Unit
  /-- The SN-PDUs that logical link control took, in order. -/
  pdus : List Bytes
  sne : GprsSndcpEntity

/-- The number of the next packet. -/
def GprsSndcpEntity.nextNpdu (sne : GprsSndcpEntity) : GprsSndcpEntity :=
  { sne with txNpduNr := (sne.txNpduNr + 1) % 0xfff }

/-- The loop over the fragments of a packet. A fragment takes at least one octet of the packet, the
first one possibly none, so `rest.length + 2` rounds are enough. -/
def sndcpSendAll (env : SndcpEnv) (n201U pcomp dcomp : ℕ) (sne : GprsSndcpEntity) :
    ℕ → SndcpFragState → TxResult
  | 0, _ => ⟨.error .eagain, [], sne⟩
  | rounds + 1, fs =>
    let (pdu, fs, more) := sndcpSendUdFrag n201U pcomp dcomp sne fs
    match env.llcTxUi pdu with
    | .error e => ⟨.error e, [], sne⟩
    | .ok () =>
      if more then
        let r := sndcpSendAll env n201U pcomp dcomp sne rounds fs
        { r with pdus := pdu :: r.pdus }
      else ⟨.ok (), [pdu], sne.nextNpdu⟩

/-- `N201-U` less the four octets of a first segment's header, as the unsigned 64 bit difference
that the length of the packet is compared with. -/
def unfragmentedMax (n201U : ℕ) : ℕ := (((n201U : ℤ) - 4) % 2 ^ 64).toNat

/-- Request transmission of a packet. -/
def sndcpSnUnitdataReq (env : SndcpEnv) (n201U : ℕ) (sne : GprsSndcpEntity) (npdu : Bytes) :
    TxResult :=
  match if env.anyPcompOrDcompActive then env.compress npdu else some (npdu, 0, 0) with
  | none => ⟨.error .eio, [], sne⟩
  | some (npdu, pcomp, dcomp) =>
    if npdu.length > unfragmentedMax n201U then
      sndcpSendAll env n201U pcomp dcomp sne (npdu.length + 2) ⟨0, npdu⟩
    else
      let pdu := commonHdr sne.nsapi false true :: compHdr pcomp dcomp ::
        udataHdr sne.txNpduNr 0 ++ npdu
      match env.llcTxUi pdu with
      | .error e => ⟨.error e, [], sne.nextNpdu⟩
      | .ok () => ⟨.ok (), [pdu], sne.nextNpdu⟩

/-! ## Receiving -/

/-- The largest block that the allocator hands out. -/
def maxTallocSize : ℕ := 0x10000000

/-- Enqueue a segment. Its length is a 32 bit difference of pointers, and an absurd one fails at
allocation. -/
def defragEnqueue (d : DefragState) (segNr dataLen : ℕ) (data : Bytes) :
    Except Errno DefragState :=
  if dataLen ≥ maxTallocSize then .error .enomem
  else .ok { d with
    fragList := (segNr, data.take dataLen) :: d.fragList
    highestSeg := max d.highestSeg segNr
    segHave := d.segHave ||| (1#32 <<< segNr)
    totLen := d.totLen + dataLen }

/-- The bits of segments 0 to the highest. -/
def segNeeded (highestSeg : ℕ) : BitVec 32 :=
  (List.range (highestSeg + 1)).foldl (fun mask i ↦ mask ||| (1#32 <<< i)) 0

/-- Whether there is a segment for every number. -/
def defragHaveAllSegments (d : DefragState) : Bool := segNeeded d.highestSeg = d.segHave

/-- Take the newest segment of a number out of the queue. -/
def defragGetSeg (fragList : List (ℕ × Bytes)) (segNr : ℕ) :
    Option Bytes × List (ℕ × Bytes) :=
  ((fragList.find? (·.1 = segNr)).map (·.2), fragList.eraseP (·.1 = segNr))

/-- The loop that appends the segments of a list of numbers. -/
def defragCollect (fragList : List (ℕ × Bytes)) : List ℕ → Option Bytes × List (ℕ × Bytes)
  | [] => (some [], fragList)
  | segNr :: segNrs =>
    match defragGetSeg fragList segNr with
    | (none, fragList) => (none, fragList)
    | (some data, fragList) =>
      let (npdu, fragList) := defragCollect fragList segNrs
      (npdu.map (data ++ ·), fragList)

/-- The outcome of a received SN-PDU. -/
structure RxResult where
  rc : Except Errno Unit
  /-- The packet that was handed up, if one was. -/
  delivered : Option Bytes
  sne : GprsSndcpEntity

/-- Hand a packet up, after expanding it if compression is configured. -/
def handOff (env : SndcpEnv) (sne : GprsSndcpEntity) (npdu : Bytes) : RxResult :=
  if env.anyPcompOrDcompActive then
    match env.decompress sne.defrag.pcomp sne.defrag.dcomp npdu with
    | none => ⟨.error .eio, none, sne⟩
    | some npdu => ⟨.ok (), some npdu, sne⟩
  else ⟨.ok (), some npdu, sne⟩

/-- Put a packet together. Its length is the sum of all segments that came, whereas only one
segment of each number is written to the buffer. -/
def defragSegments (env : SndcpEnv) (sne : GprsSndcpEntity) : RxResult :=
  match defragCollect sne.defrag.fragList (List.range (sne.defrag.highestSeg + 1)) with
  | (none, fragList) =>
    ⟨.error .eio, none, { sne with defrag.fragList := fragList }⟩
  | (some buf, fragList) =>
    let npdu := (List.range sne.defrag.totLen).map fun i ↦ buf.getD i (env.uninit i)
    handOff env { sne with defrag.fragList := fragList } npdu

/-- The fields of the header of a received SN-PDU. -/
structure SnHdr where
  nsapi : ℕ
  more : Bool
  type : Bool
  first : Bool
  /-- Offset of the user data header, behind the compression octet of a first segment. -/
  suh : ℕ
  npduNum : ℕ
  segNr : ℕ

/-- Read the header. -/
def snHdr (pdu : Bytes) : SnHdr :=
  let sch := octet pdu 0
  let first : Bool := sch &&& 0x40 ≠ 0
  let suh := if first then 2 else 1
  { nsapi := (sch &&& 0xf).toNat
    more := sch &&& 0x10 ≠ 0
    type := sch &&& 0x20 ≠ 0
    first := first
    suh := suh
    npduNum := (octet pdu suh &&& 0xf).toNat <<< 8 ||| (octet pdu (suh + 1)).toNat
    segNr := (octet pdu suh >>> 4).toNat }

/-- Take a segment into the packet under reassembly, and put the packet together if it was the
last one missing. A first segment discards whatever was there. -/
def defragInput (env : SndcpEnv) (sne : GprsSndcpEntity) (pdu : Bytes) : RxResult :=
  let hdr := snHdr pdu
  let d := if hdr.first then
      { sne.defrag with
        fragList := []
        npdu := hdr.npduNum
        noMore := false
        highestSeg := 0
        segHave := 0
        totLen := 0 }
    else sne.defrag
  let dataLen := (((pdu.length : ℤ) - (hdr.suh + 2)) % 2 ^ 32).toNat
  match defragEnqueue d hdr.segNr dataLen (pdu.drop (hdr.suh + 2)) with
  | .error e => ⟨.error e, none, { sne with defrag := d }⟩
  | .ok d =>
    let d := if hdr.more then d else { d with noMore := true }
    let sne := { sne with defrag := d }
    if d.noMore && defragHaveAllSegments d then defragSegments env sne
    else ⟨.ok (), none, sne⟩

/-- Receive an SN-PDU for the entity of its NSAPI. -/
def sndcpLlUnitdataInd (env : SndcpEnv) (sne : GprsSndcpEntity) (pdu : Bytes) : RxResult :=
  let hdr := snHdr pdu
  if !hdr.type then ⟨.error .einval, none, sne⟩
  else if pdu.length < 3 then ⟨.error .eio, none, sne⟩
  else if hdr.nsapi ≠ sne.nsapi then ⟨.error .eio, none, sne⟩
  else if !env.mmctxFound then ⟨.error .eio, none, sne⟩
  else
    let sne := if hdr.first then
        { sne with
          defrag.pcomp := (octet pdu 1 &&& 0xf).toNat
          defrag.dcomp := (octet pdu 1 >>> 4).toNat }
      else sne
    if !hdr.first || hdr.more then defragInput env sne pdu
    else if pdu.length ≤ hdr.suh + 2 then ⟨.error .eio, none, sne⟩
    else handOff env sne (pdu.drop (hdr.suh + 2))

end OsmoSgsn.Sndcp
