import OsmoSgsn.Basic

/-!
# SNDCP-XID messages

Compression is negotiated with messages that carry a list of compression fields: one for each
compression entity, with the algorithm it proposes, the PCOMP or DCOMP values it wants to use, the
NSAPIs it applies to, and the parameters of the algorithm. A message is a sequence of TLV elements:
the version number, a block of data compression fields and a block of protocol compression fields.

The encoder is full of assertions; an input that violates one ends the process. The decoder reads
from memory: it is told the length of the message but does not look at it everywhere, so it is given
whatever lies behind the message too. A parameter that is not there is decoded as -1.
-/

namespace OsmoSgsn.Sndcp

/-- The memory that the decoder reads from, counted from the start of the message. -/
abbrev Mem := ℕ → UInt8

/-- A message, and whatever lies behind it. -/
def message (bytes : Bytes) (behind : Mem) : Mem := fun i ↦ bytes.getD i (behind i)

/-! ## Compression fields -/

/-- The tags of the elements of a message, which name the compression classes too. -/
inductive XidParamType
  | versionNumber | dataCompression | protocolCompression | invalidCompression
  deriving DecidableEq, Repr

/-- Parameters of header compression as per RFC 1144. -/
structure Rfc1144Params where
  nsapi : List ℕ
  s01 : ℤ
  deriving DecidableEq, Repr

/-- Parameters of header compression as per RFC 2507. -/
structure Rfc2507Params where
  nsapi : List ℕ
  fMaxPeriod : ℤ
  fMaxTime : ℤ
  maxHeader : ℤ
  tcpSpace : ℤ
  nonTcpSpace : ℤ
  deriving DecidableEq, Repr

/-- Parameters of robust header compression. -/
structure RohcParams where
  nsapi : List ℕ
  maxCid : ℤ
  maxHeader : ℤ
  profile : List ℤ
  deriving DecidableEq, Repr

/-- Parameters of data compression as per V.42bis. -/
structure V42bisParams where
  nsapi : List ℕ
  p0 : ℤ
  p1 : ℤ
  p2 : ℤ
  deriving DecidableEq, Repr

/-- Parameters of data compression as per V.44. -/
structure V44Params where
  nsapi : List ℕ
  c0 : ℤ
  p0 : ℤ
  p1t : ℤ
  p1r : ℤ
  p3t : ℤ
  p3r : ℤ
  deriving DecidableEq, Repr

/-- The parameters of a field. Of the five pointers in the source only one is in use. -/
inductive CompParams
  | rfc1144 (params : Rfc1144Params)
  | rfc2507 (params : Rfc2507Params)
  | rohc (params : RohcParams)
  | v42bis (params : V42bisParams)
  | v44 (params : V44Params)
  deriving DecidableEq, Repr

/-- A compression field. -/
structure CompField where
  /-- The propose bit. -/
  p : Bool
  entity : ℕ
  /-- The number of the algorithm within its class, or an invalid one. -/
  algo : ℤ
  /-- The PCOMP or DCOMP values. -/
  comp : List ℕ
  params : Option CompParams
  deriving DecidableEq, Repr

/-- The class that a set of parameters belongs to. -/
def CompParams.compclass : CompParams → XidParamType
  | .rfc1144 _ | .rfc2507 _ | .rohc _ => .protocolCompression
  | .v42bis _ | .v44 _ => .dataCompression

/-- The number of the algorithm that a set of parameters belongs to. -/
def CompParams.algo : CompParams → ℤ
  | .rfc1144 _ => 0
  | .rfc2507 _ => 1
  | .rohc _ => 2
  | .v42bis _ => 0
  | .v44 _ => 1

def CompParams.nsapi : CompParams → List ℕ
  | .rfc1144 params => params.nsapi
  | .rfc2507 params => params.nsapi
  | .rohc params => params.nsapi
  | .v42bis params => params.nsapi
  | .v44 params => params.nsapi

/-- The class of a field. -/
def gprsSndcpGetCompressionClass (f : CompField) : XidParamType :=
  match f.params with
  | some params => params.compclass
  | none => .invalidCompression

/-- How many PCOMP or DCOMP values an algorithm has. -/
def compNum : XidParamType → ℤ → Option ℕ
  | .protocolCompression, 0 => some 2
  | .protocolCompression, 1 => some 5
  | .protocolCompression, 2 => some 2
  | .dataCompression, 0 => some 1
  | .dataCompression, 1 => some 2
  | _, _ => none

/-! ## Numeric parameters

The parameters of an algorithm follow one another, each of one or two octets and with a range of
its own. -/

/-- The size and the range of a parameter. -/
structure ParamRange where
  wide : Bool
  min : ℤ
  max : ℤ
  deriving DecidableEq, Repr

/-- The number of octets of a parameter. -/
def ParamRange.width (r : ParamRange) : ℕ := if r.wide then 2 else 1

/-- The ranges for RFC 1144: the number of slots less one. -/
def rfc1144Ranges : List ParamRange := [⟨false, 0, 255⟩]

/-- The ranges for RFC 2507. -/
def rfc2507Ranges : List ParamRange :=
  [⟨true, 1, 65535⟩, ⟨false, 1, 255⟩, ⟨false, 60, 255⟩, ⟨false, 3, 255⟩, ⟨true, 3, 65535⟩]

/-- The ranges for robust header compression, without the profiles. -/
def rohcRanges : List ParamRange := [⟨true, 0, 16383⟩, ⟨true, 60, 255⟩]

/-- The range of a profile. -/
def profileRange : ParamRange := ⟨true, 0, 65535⟩

/-- The ranges for V.42bis. -/
def v42bisRanges : List ParamRange := [⟨false, 0, 3⟩, ⟨true, 512, 65535⟩, ⟨false, 6, 250⟩]

/-- The ranges for V.44 that the encoder asserts. -/
def v44EncodeRanges : List ParamRange :=
  [⟨false, 0, 255⟩, ⟨false, 0, 3⟩, ⟨true, 256, 65535⟩, ⟨true, 256, 65535⟩, ⟨true, 0, 65535⟩,
    ⟨true, 0, 65535⟩]

/-- The ranges for V.44 that the decoder accepts. -/
def v44DecodeRanges : List ParamRange :=
  [⟨false, 0, 255⟩, ⟨false, 0, 3⟩, ⟨true, 265, 65535⟩, ⟨true, 265, 65535⟩, ⟨true, 265, 65535⟩,
    ⟨true, 265, 65535⟩]

/-! ## Encoding -/

/-- How a function ends other than with a result. -/
inductive XidFailure
  /-- An assertion is violated. -/
  | assertion
  /-- The function returns `-EINVAL`. -/
  | einval
  /-- A null pointer is followed. -/
  | nullPointer
  deriving DecidableEq, Repr

/-- `OSMO_ASSERT`. -/
def osmoAssert (p : Prop) [Decidable p] : Except XidFailure Unit :=
  if p then .ok () else .error .assertion

/-- The octets of a parameter. -/
def ParamRange.put (r : ParamRange) (value : ℤ) : Bytes :=
  if r.wide then [UInt8.ofNat (value.toNat >>> 8), UInt8.ofNat value.toNat]
  else [UInt8.ofNat value.toNat]

/-- Encode the parameters of an algorithm. -/
def encodeRanges : List (ParamRange × ℤ) → Except XidFailure Bytes
  | [] => .ok []
  | (r, value) :: rest => do
    osmoAssert (r.min ≤ value ∧ value ≤ r.max)
    let bytes ← encodeRanges rest
    return r.put value ++ bytes

/-- Encode applicable SAPIs, as a bit for each NSAPI. -/
def encodePcompApplicableSapis (nsapis : List ℕ) : Except XidFailure Bytes := do
  osmoAssert (nsapis.length ≤ 11)
  osmoAssert (∀ nsapi ∈ nsapis, 5 ≤ nsapi ∧ nsapi ≤ 15)
  let blob := nsapis.foldl (fun blob nsapi ↦ blob ||| (1#16 <<< nsapi)) 0
  return [UInt8.ofNat (blob.toNat >>> 8), UInt8.ofNat blob.toNat]

/-- The values of an RFC 1144 field, in the order of its ranges. -/
def Rfc1144Params.values (params : Rfc1144Params) : List ℤ := [params.s01]

def Rfc2507Params.values (params : Rfc2507Params) : List ℤ :=
  [params.fMaxPeriod, params.fMaxTime, params.maxHeader, params.tcpSpace, params.nonTcpSpace]

def V42bisParams.values (params : V42bisParams) : List ℤ := [params.p0, params.p1, params.p2]

def V44Params.values (params : V44Params) : List ℤ :=
  [params.c0, params.p0, params.p1t, params.p1r, params.p3t, params.p3r]

/-- Encode an RFC 1144 parameter field. -/
def encodePcompRfc1144Params (params : Rfc1144Params) : Except XidFailure Bytes := do
  let sapis ← encodePcompApplicableSapis params.nsapi
  let bytes ← encodeRanges (rfc1144Ranges.zip params.values)
  return sapis ++ bytes

/-- Encode an RFC 2507 parameter field. -/
def encodePcompRfc2507Params (params : Rfc2507Params) : Except XidFailure Bytes := do
  let sapis ← encodePcompApplicableSapis params.nsapi
  let bytes ← encodeRanges (rfc2507Ranges.zip params.values)
  return sapis ++ bytes

/-- Encode a ROHC parameter field. A profile is a 16 bit number, so it is always in range. -/
def encodePcompRohcParams (params : RohcParams) : Except XidFailure Bytes := do
  osmoAssert (params.profile.length ≤ 16)
  let sapis ← encodePcompApplicableSapis params.nsapi
  let bytes ← encodeRanges (rohcRanges.zip [params.maxCid, params.maxHeader])
  return sapis ++ bytes ++ params.profile.flatMap profileRange.put

/-- Encode a V.42bis parameter field. -/
def encodeDcompV42bisParams (params : V42bisParams) : Except XidFailure Bytes := do
  let sapis ← encodePcompApplicableSapis params.nsapi
  let bytes ← encodeRanges (v42bisRanges.zip params.values)
  return sapis ++ bytes

/-- Encode a V.44 parameter field. -/
def encodeDcompV44Params (params : V44Params) : Except XidFailure Bytes := do
  let sapis ← encodePcompApplicableSapis params.nsapi
  osmoAssert (params.c0 = 0x80 ∨ params.c0 = 0xc0)
  let bytes ← encodeRanges (v44EncodeRanges.zip params.values)
  osmoAssert (2 * params.p1t ≤ params.p3t)
  osmoAssert (2 * params.p1r ≤ params.p3r)
  return sapis ++ bytes

/-- Encode the parameters of a field. -/
def encodeCompParams : CompParams → Except XidFailure Bytes
  | .rfc1144 params => encodePcompRfc1144Params params
  | .rfc2507 params => encodePcompRfc2507Params params
  | .rohc params => encodePcompRohcParams params
  | .v42bis params => encodeDcompV42bisParams params
  | .v44 params => encodeDcompV44Params params

/-- PCOMP or DCOMP values, two to an octet. -/
def packCompValues : List ℕ → Bytes
  | [] => []
  | [a] => [UInt8.ofNat (a <<< 4)]
  | a :: b :: rest => UInt8.ofNat (a <<< 4 ||| b) :: packCompValues rest

/-- Encode a compression field into a buffer of a given size. -/
def encodeCompField (dstMaxlen : ℕ) (f : CompField) : Except XidFailure Bytes := do
  let payload ← match f.params with
    | some params => encodeCompParams params
    | none => .error .assertion
  osmoAssert (f.comp.length ≤ 16)
  let len := if f.p then payload.length + (f.comp.length + 1) / 2 else payload.length
  osmoAssert (len + (if f.p then 3 else 2) ≤ dstMaxlen)
  osmoAssert (f.entity ≤ 0x1f)
  osmoAssert (0 ≤ f.algo ∧ f.algo ≤ 0x1f)
  if f.p then
    if ∃ c ∈ f.comp, 0xf < c then .error .einval
    else return UInt8.ofNat (0x80 ||| f.entity) :: UInt8.ofNat f.algo.toNat :: UInt8.ofNat len ::
      packCompValues f.comp ++ payload
  else return UInt8.ofNat f.entity :: UInt8.ofNat len :: payload

/-- The size of the buffer for the fields of one class. -/
def compBytesLen : ℕ := 512

/-- Append a field of one class to the buffer. A field that cannot be encoded violates an
assertion. -/
def packField (compclass : XidParamType) (bytes : Bytes) (f : CompField) :
    Except XidFailure Bytes :=
  if gprsSndcpGetCompressionClass f = compclass then
    match encodeCompField (compBytesLen - bytes.length) f with
    | .ok field => .ok (bytes ++ field)
    | .error _ => .error .assertion
  else .ok bytes

/-- Encode the fields of one class, the last of the list first. -/
def gprsSndcpPackFields (compclass : XidParamType) (fields : List CompField) :
    Except XidFailure Bytes :=
  fields.reverse.foldlM (packField compclass) []

/-- `tlv_put` of libosmocore, a plain TLV: the octets that it writes. The length is an octet. -/
def tlvPut (tag : UInt8) (value : Bytes) : Bytes :=
  tag :: UInt8.ofNat value.length :: value.take (value.length % 256)

/-- A block of fields; none if there are no fields of its class. -/
def tlvBlock (tag : UInt8) (block : Bytes) : Bytes := if block = [] then [] else tlvPut tag block

/-- A compiled message. -/
structure CompiledXid where
  /-- What is written to the destination. -/
  written : Bytes
  /-- The length that is returned. -/
  rc : ℕ
  deriving DecidableEq, Repr

/-- Transform a list of fields into a message. -/
def gprsSndcpCompileXid (dstMaxlen : ℕ) (fields : List CompField) (version : ℤ) :
    Except XidFailure CompiledXid := do
  osmoAssert (3 ≤ dstMaxlen)
  let head := if 0 ≤ version then tlvPut 0 [UInt8.ofNat (version % 256).toNat] else []
  if fields = [] then return ⟨head, head.length⟩
  let data ← gprsSndcpPackFields .dataCompression fields
  let proto ← gprsSndcpPackFields .protocolCompression fields
  return ⟨head ++ tlvBlock 1 data ++ tlvBlock 2 proto,
    head.length + (if data = [] then 0 else data.length + 2) +
      if proto = [] then 0 else proto.length + 2⟩

/-! ## Decoding -/

/-- Decode applicable SAPIs. -/
def decodePcompApplicableSapis (mem : Mem) (pos srcLen : ℕ) : Option (List ℕ) :=
  if srcLen < 2 then none
  else
    let blob := ((mem pos).toNat <<< 8 ||| (mem (pos + 1)).toNat) >>> 5
    some (((List.range 15).filter blob.testBit).map (· + 5))

/-- Decode a 16 bit field. -/
def decodePcomp16BitField (mem : Mem) (pos srcLen : ℕ) (min max : ℤ) : Option ℤ :=
  if srcLen < 2 then none
  else
    let blob := (mem pos).toNat <<< 8 ||| (mem (pos + 1)).toNat
    if (blob : ℤ) < min then none else if max < (blob : ℤ) then none else some blob

/-- Decode an 8 bit field. -/
def decodePcomp8BitField (mem : Mem) (pos srcLen : ℕ) (min max : ℤ) : Option ℤ :=
  if srcLen < 1 then none
  else
    let blob := (mem pos).toNat
    if (blob : ℤ) < min then none else if max < (blob : ℤ) then none else some blob

/-- Decode a parameter. -/
def ParamRange.get (r : ParamRange) (mem : Mem) (pos srcLen : ℕ) : Option ℤ :=
  if r.wide then decodePcomp16BitField mem pos srcLen r.min r.max
  else decodePcomp8BitField mem pos srcLen r.min r.max

/-- Decode the parameters of an algorithm up to the first one that is missing or out of range; that
one and the others are -1. The second part of the result is the number of octets. -/
def decodeRanges (mem : Mem) : ℕ → ℕ → List ParamRange → List ℤ × ℕ
  | _, _, [] => ([], 0)
  | pos, srcLen, r :: rs =>
    match r.get mem pos srcLen with
    | none => ((r :: rs).map fun _ ↦ -1, 0)
    | some value =>
      let (values, n) := decodeRanges mem (pos + r.width) (srcLen - r.width) rs
      (value :: values, r.width + n)

/-- Decode the SAPIs and the parameters of an algorithm. -/
def decodeSapisAndRanges (mem : Mem) (pos srcLen : ℕ) (ranges : List ParamRange) :
    List ℕ × List ℤ × ℕ :=
  match decodePcompApplicableSapis mem pos srcLen with
  | none => ([], ranges.map fun _ ↦ -1, 0)
  | some nsapis =>
    let (values, n) := decodeRanges mem (pos + 2) (srcLen - 2) ranges
    (nsapis, values, 2 + n)

/-- Decode an RFC 1144 parameter field. -/
def decodePcompRfc1144Params (mem : Mem) (pos srcLen : ℕ) : Rfc1144Params × ℕ :=
  let (nsapi, values, n) := decodeSapisAndRanges mem pos srcLen rfc1144Ranges
  (⟨nsapi, values.getD 0 (-1)⟩, n)

/-- Decode an RFC 2507 parameter field. -/
def decodePcompRfc2507Params (mem : Mem) (pos srcLen : ℕ) : Rfc2507Params × ℕ :=
  let (nsapi, values, n) := decodeSapisAndRanges mem pos srcLen rfc2507Ranges
  (⟨nsapi, values.getD 0 (-1), values.getD 1 (-1), values.getD 2 (-1), values.getD 3 (-1),
    values.getD 4 (-1)⟩, n)

/-- Decode a ROHC parameter field. The number of profiles is set back to 0 before each one is
decoded, so it is 16 or nothing. -/
def decodePcompRohcParams (mem : Mem) (pos srcLen : ℕ) : RohcParams × ℕ :=
  let (nsapi, values, n) :=
    decodeSapisAndRanges mem pos srcLen (rohcRanges ++ List.replicate 16 profileRange)
  (⟨nsapi, values.getD 0 (-1), values.getD 1 (-1),
    if ∀ profile ∈ values.drop 2, 0 ≤ profile then values.drop 2 else []⟩, n)

/-- Decode a V.42bis parameter field. -/
def decodeDcompV42bisParams (mem : Mem) (pos srcLen : ℕ) : V42bisParams × ℕ :=
  let (nsapi, values, n) := decodeSapisAndRanges mem pos srcLen v42bisRanges
  (⟨nsapi, values.getD 0 (-1), values.getD 1 (-1), values.getD 2 (-1)⟩, n)

/-- Decode a V.44 parameter field. A value that is decoded and contradicts another one fails. -/
def decodeDcompV44Params (mem : Mem) (pos srcLen : ℕ) : Option (V44Params × ℕ) :=
  let (nsapi, values, n) := decodeSapisAndRanges mem pos srcLen v44DecodeRanges
  let params : V44Params := ⟨nsapi, values.getD 0 (-1), values.getD 1 (-1), values.getD 2 (-1),
    values.getD 3 (-1), values.getD 4 (-1), values.getD 5 (-1)⟩
  if 0 ≤ params.c0 ∧ params.c0 ≠ 0x80 ∧ params.c0 ≠ 0xc0 then none
  else if 0 ≤ params.p3t ∧ params.p3t < 2 * params.p1t then none
  else if 0 ≤ params.p3r ∧ params.p3r < 2 * params.p1r then none
  else some (params, n)

/-- An entry of the table of algorithms that were proposed. -/
structure EntityAlgo where
  entity : ℕ
  algo : ℤ
  compclass : XidParamType
  deriving DecidableEq, Repr

/-- The number that stands for an unknown algorithm in a table. -/
def unknownAlgo : ℤ := 3

/-- Look up an algorithm by its entity. -/
def lookupAlgorithmIdentifier (compclass : XidParamType) (entity : ℕ) :
    Option (List EntityAlgo) → ℤ
  | none => -1
  | some lt =>
    match lt.find? fun e ↦ e.entity = entity ∧ e.compclass = compclass with
    | some e => e.algo
    | none => unknownAlgo

/-- Decode PCOMP or DCOMP values. They are there only if the propose bit is set. -/
def decodeCompValues (mem : Mem) (pos : ℕ) (p : Bool) (compclass : XidParamType) (algo : ℤ) :
    Option (List ℕ × ℕ) :=
  if p then
    match compNum compclass algo with
    | none => none
    | some n =>
      some ((List.range n).map fun i ↦
        if i % 2 = 1 then (mem (pos + i / 2)).toNat % 16 else (mem (pos + i / 2)).toNat / 16,
        (n + 1) / 2)
  else some ([], 0)

/-- The octets that are left undecoded where no decoder fits. The length is a signed number. -/
def undecoded (srcLen : ℕ) : Option (Option CompParams × ℕ) :=
  if srcLen < 2 ^ 31 then some (none, srcLen) else none

/-- Decode the parameters of a protocol compression field. -/
def decodePcompParams (mem : Mem) (pos srcLen : ℕ) (algo : ℤ) : Option (Option CompParams × ℕ) :=
  if algo = 0 then
    let (params, n) := decodePcompRfc1144Params mem pos srcLen
    some (some (.rfc1144 params), n)
  else if algo = 1 then
    let (params, n) := decodePcompRfc2507Params mem pos srcLen
    some (some (.rfc2507 params), n)
  else if algo = 2 then
    let (params, n) := decodePcompRohcParams mem pos srcLen
    some (some (.rohc params), n)
  else undecoded srcLen

/-- Decode the parameters of a data compression field. -/
def decodeDcompParams (mem : Mem) (pos srcLen : ℕ) (algo : ℤ) : Option (Option CompParams × ℕ) :=
  if algo = 0 then
    let (params, n) := decodeDcompV42bisParams mem pos srcLen
    some (some (.v42bis params), n)
  else if algo = 1 then
    match decodeDcompV44Params mem pos srcLen with
    | none => none
    | some (params, n) => some (some (.v44 params), n)
  else undecoded srcLen

/-- Decode the parameters of a field. -/
def decodeCompParams (mem : Mem) (pos srcLen : ℕ) (compclass : XidParamType) (algo : ℤ) :
    Option (Option CompParams × ℕ) :=
  match compclass with
  | .protocolCompression => decodePcompParams mem pos srcLen algo
  | .dataCompression => decodeDcompParams mem pos srcLen algo
  | _ => none

/-- Decode a compression field. Only the first octet is known to be there; the length octet is less
the octets of the PCOMP or DCOMP values, in 32 bits. The result is the field and the number of
octets that it took. -/
def decodeCompField (mem : Mem) (pos srcLen : ℕ) (lt : Option (List EntityAlgo))
    (compclass : XidParamType) : Option (CompField × ℕ) :=
  if srcLen < 1 then none
  else
    let p : Bool := (mem pos).toNat.testBit 7
    let entity := (mem pos).toNat % 32
    let algo : ℤ := if p then ((mem (pos + 1)).toNat % 32 : ℕ)
      else lookupAlgorithmIdentifier compclass entity lt
    let hdr := if p then 2 else 1
    let len := (mem (pos + hdr)).toNat
    match decodeCompValues mem (pos + hdr + 1) p compclass algo with
    | none => none
    | some (comp, n) =>
      let left := (((len : ℤ) - n) % 2 ^ 32).toNat
      match decodeCompParams mem (pos + hdr + 1 + n) left compclass algo with
      | none => none
      | some (params, m) => some (⟨p, entity, algo, comp, params⟩, hdr + 1 + n + m)

/-- Decode a block of fields, each one put in front of those before. The first argument that
decreases counts the fields that are still allowed. -/
def decodeXidBlock (mem : Mem) (val tagLen : ℕ) (lt : Option (List EntityAlgo))
    (compclass : XidParamType) : ℕ → ℕ → List CompField → Option (List CompField)
  | 0, _, _ => none
  | n + 1, byteCounter, fields =>
    match decodeCompField mem (val + byteCounter) (tagLen - byteCounter) lt compclass with
    | none => none
    | some (f, rc) =>
      if byteCounter + rc < tagLen then
        decodeXidBlock mem val tagLen lt compclass n (byteCounter + rc) (f :: fields)
      else some (f :: fields)

/-- The most fields in a block. -/
def maxFields : ℕ := 65

/-- `tlv_parse_one` of libosmocore for the tags of a message, each a plain TLV: tag and length. -/
def tlvParseOne (mem : Mem) (pos bufLen : ℕ) : Option (XidParamType × ℕ) :=
  if bufLen < 2 then none
  else if bufLen < (mem (pos + 1)).toNat + 2 then none
  else if mem pos = 0 then some (.versionNumber, (mem (pos + 1)).toNat)
  else if mem pos = 1 then some (.dataCompression, (mem (pos + 1)).toNat)
  else if mem pos = 2 then some (.protocolCompression, (mem (pos + 1)).toNat)
  else none

/-- The loop over the elements of a message. The first argument that decreases counts the elements
that are still allowed. -/
def decodeElements (mem : Mem) (srcLen : ℕ) (lt : Option (List EntityAlgo)) :
    ℕ → ℕ → ℤ → List CompField → Option (ℤ × List CompField)
  | 0, _, _, _ => none
  | n + 1, srcPos, version, fields =>
    match tlvParseOne mem srcPos (srcLen - srcPos) with
    | none => none
    | some (tag, tagLen) =>
      let version := if tag = .versionNumber then ((mem (srcPos + 2)).toNat : ℤ) else version
      match
        if tag = .versionNumber then some fields
        else decodeXidBlock mem (srcPos + 2) tagLen lt tag maxFields 0 fields with
      | none => none
      | some fields =>
        let srcPos := srcPos + 2 + tagLen
        if srcLen - srcPos ≤ 2 then some (version, fields)
        else decodeElements mem srcLen lt n srcPos version fields

/-- Transform a message into a version number, -1 if there is none, and a list of fields. -/
def gprsSndcpDecodeXid (mem : Mem) (srcLen : ℕ) (lt : Option (List EntityAlgo)) :
    Option (ℤ × List CompField) :=
  decodeElements mem srcLen lt 3 0 (-1) []

/-! ## Responses

A response repeats a request without the algorithms, and without the parameters that are left as
they were. -/

/-- The table of the algorithms in a list of fields. -/
def gprsSndcpFillTable (fields : List CompField) : List EntityAlgo :=
  fields.filterMap fun f ↦
    if gprsSndcpGetCompressionClass f = .invalidCompression then none
    else some ⟨f.entity, f.algo, gprsSndcpGetCompressionClass f⟩

/-- The value of a response, or that of the request if the response has none. -/
def completedBy (dst src : ℤ) : ℤ := if dst < 0 then src else dst

/-- Complete the parameters of a field from those of another one. -/
def completeCompFieldParams : CompParams → CompParams → Option CompParams
  | .rfc1144 dst, .rfc1144 src => some (.rfc1144 { dst with s01 := completedBy dst.s01 src.s01 })
  | .rfc2507 dst, .rfc2507 src => some (.rfc2507
      { dst with
        fMaxPeriod := completedBy dst.fMaxPeriod src.fMaxPeriod
        fMaxTime := completedBy dst.fMaxTime src.fMaxTime
        maxHeader := completedBy dst.maxHeader src.maxHeader
        tcpSpace := completedBy dst.tcpSpace src.tcpSpace
        nonTcpSpace := completedBy dst.nonTcpSpace src.nonTcpSpace })
  | .rohc dst, .rohc src => some (.rohc
      { dst with
        maxCid := completedBy dst.maxCid src.maxCid
        maxHeader := completedBy dst.maxHeader src.maxHeader
        profile := if 0 < dst.profile.length then src.profile else dst.profile })
  | .v42bis dst, .v42bis src => some (.v42bis
      { dst with
        p0 := completedBy dst.p0 src.p0
        p1 := completedBy dst.p1 src.p1
        p2 := completedBy dst.p2 src.p2 })
  | .v44 dst, .v44 src => some (.v44
      { dst with
        c0 := completedBy dst.c0 src.c0
        p0 := completedBy dst.p0 src.p0
        p1t := completedBy dst.p1t src.p1t
        p1r := completedBy dst.p1r src.p1r
        p3t := completedBy dst.p3t src.p3t
        p3r := completedBy dst.p3r src.p3r })
  | _, _ => none

/-- Complete a field from every field of a list that has its entity. The outcome of the last one
counts. -/
def gprsSndcpCompleteCompField (f : CompField) (src : List CompField) : CompField × Bool :=
  src.foldl (fun (f, rc) s ↦
    if s.entity = f.entity then
      let f := if s.comp = [] then f else { f with comp := s.comp }
      match f.params, s.params with
      | some dst, some src =>
        match completeCompFieldParams dst src with
        | some params => ({ f with params := some params }, true)
        | none => (f, false)
      | _, _ => (f, false)
    else (f, rc)) (f, true)

/-- Complete all fields of a list; the first one that cannot be completed fails. -/
def gprsSndcpCompleteCompFields : List CompField → List CompField → Option (List CompField)
  | [], _ => some []
  | f :: fields, src =>
    match gprsSndcpCompleteCompField f src with
    | (_, false) => none
    | (f, true) => (gprsSndcpCompleteCompFields fields src).map (f :: ·)

/-- Transform a message into a version number and a list of fields. The fields of a request are
given where the message is a response. -/
def gprsSndcpParseXid (mem : Mem) (srcLen : ℕ) (req : Option (List CompField)) :
    Option (ℤ × List CompField) :=
  if srcLen = 0 then none
  else
    match req with
    | none => gprsSndcpDecodeXid mem srcLen none
    | some req =>
      match gprsSndcpDecodeXid mem srcLen (some (gprsSndcpFillTable req)) with
      | none => none
      | some (version, fields) =>
        (gprsSndcpCompleteCompFields fields req).map fun fields ↦ (version, fields)

end OsmoSgsn.Sndcp
