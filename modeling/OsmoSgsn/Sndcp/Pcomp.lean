import OsmoSgsn.Sndcp.Slhc
import OsmoSgsn.Sndcp.Tags

/-!
# Header compression of packets

What SNDCP asks the compressor for is a packet and one of three ways in which it goes: as it is,
with the number of a slot, or compressed. The compressor tells them apart by where it leaves the
packet, and it marks the first octet of the two that it has changed. The caller looks at the mark,
in its own copy of the packet, and takes it off.

A packet that the compressor has not touched has no mark, but its first octet may look like one.
It is left alone exactly if that octet is below 0x70.
-/

namespace OsmoSgsn.Sndcp

/-! ## The code -/

/-- A compression entity with the state of its algorithm. -/
structure PcompEntity extends CompEntity where
  state : SlCompress

/-- How header compression does not return. -/
inductive PcompFailure
  | assertFailed
  | hangs
  deriving DecidableEq, Repr

/-- What `rfc1144_compress` leaves: the index of the way, the buffer, and the length that it
returns. -/
structure Rfc1144Sent where
  pcompIndex : ℕ
  data : Bytes
  len : ℕ
  comp : SlCompress

/-- `rfc1144_compress`. The working copy is followed by what is on the heap. -/
def rfc1144Compress (comp : SlCompress) (p : Packet) (heap : ℕ → UInt8) : Option Rfc1144Sent := do
  let r ← slhcCompress comp p p.data false
  let first := (⟨r.ocp, heap⟩ : Packet).at 0
  let sent (mask : UInt8) : Bytes := overwrite p.data 0 ((r.ocp.set 0 (first &&& mask)).take r.len)
  if first &&& slTypeCompressedTcp ≠ 0 then
    pure ⟨2, sent (~~~slTypeCompressedTcp), r.len, r.comp⟩
  else if first &&& slTypeUncompressedTcp = slTypeUncompressedTcp then
    pure ⟨1, sent 0x4F, r.len, r.comp⟩
  else pure ⟨0, p.data, r.len, r.comp⟩

/-- `rfc1144_expand`. -/
def rfc1144Expand (comp : SlCompress) (p : Packet) (pcompIndex : ℕ) : Expanded :=
  if pcompIndex = 1 then
    slhcRemember comp { p with data := p.data.set 0 (octet p.data 0 &&& 0x4F) }
  else if pcompIndex = 2 then slhcUncompress comp p
  else ⟨comp, p.data, p.data.length⟩

/-- The state of an entity changes. -/
def setState (entities : List PcompEntity) (i : ℕ) (comp : SlCompress) : List PcompEntity :=
  entities.modify i fun e ↦ { e with state := comp }

/-- Only header compression as per RFC 1144 is supported. -/
def PcompEntity.supported (e : PcompEntity) : Bool :=
  e.compclass = .protocolCompression ∧ e.algo = 0

/-- A packet with its tag, and the entities afterwards. -/
structure PcompSent where
  len : ℕ
  pcomp : ℕ
  data : Bytes
  entities : List PcompEntity

/-- `gprs_sndcp_pcomp_compress`. -/
def gprsSndcpPcompCompress (entities : List PcompEntity) (p : Packet) (heap : ℕ → UInt8)
    (nsapi : ℕ) : Except PcompFailure PcompSent :=
  let i := entities.findIdx fun e ↦ nsapi ∈ e.nsapi
  match entities[i]? with
  | none => .ok ⟨p.data.length, 0, p.data, entities⟩
  | some e =>
    if e.supported then
      match rfc1144Compress e.state p heap with
      | none => .error .hangs
      | some r => .ok
        ⟨r.len, gprsSndcpCompGetComp e.toCompEntity r.pcompIndex, r.data,
          setState entities i r.comp⟩
    else .error .assertFailed

/-- A packet that was received, and the entities afterwards. -/
structure PcompReceived where
  len : ℕ
  data : Bytes
  entities : List PcompEntity

/-- `gprs_sndcp_pcomp_expand`. -/
def gprsSndcpPcompExpand (entities : List PcompEntity) (p : Packet) (pcomp : ℕ) :
    Except PcompFailure PcompReceived :=
  if pcomp = 0 then .ok ⟨p.data.length, p.data, entities⟩
  else
    let i := entities.findIdx fun e ↦ pcomp ∈ e.comp
    match entities[i]? with
    | none => .ok ⟨p.data.length, p.data, entities⟩
    | some e =>
      if e.supported then
        let r := rfc1144Expand e.state p (gprsSndcpCompGetIdx e.toCompEntity pcomp)
        .ok ⟨r.len, r.data, setState entities i r.comp⟩
      else .error .assertFailed

/-! ## Packets that go as they are -/

section AsIs

variable {comp : SlCompress} {p : Packet} {heap : ℕ → UInt8} {r : Compressed}

/-- A compressor that reports its input has done nothing. -/
theorem slhcCompress_asIs {ocp : Bytes} {compressCid : Bool}
    (h : slhcCompress comp p ocp compressCid = some r) (hcopy : r.useCopy = false) :
    r = ⟨comp, p.data.length, ocp, false⟩ := by
  unfold slhcCompress at h
  dsimp only at h
  split_ifs at h
  · exact (Option.some.inj h).symm
  · exact (Option.some.inj h).symm
  · exact (Option.some.inj h).symm
  · -- past the checks the output buffer is always used
    obtain ⟨s, -, hs⟩ := Option.bind_eq_some_iff.mp h
    exfalso
    split_ifs at hs
    · obtain rfl := Option.some.inj hs
      simp [sendUncompressed] at hcopy
    · split at hs
      · obtain rfl := Option.some.inj hs
        simp [sendUncompressed] at hcopy
      · obtain rfl := Option.some.inj hs
        simp [sendCompressed] at hcopy
    · obtain rfl := Option.some.inj hs
      simp [sendUncompressed] at hcopy

/-- The first octet of a packet, or the one that lies on the heap behind an empty copy of it. -/
def firstOctet (p : Packet) (heap : ℕ → UInt8) : UInt8 := (⟨p.data, heap⟩ : Packet).at 0

/-- The marks of the compressor are those that an octet from 0x70 on has. -/
theorem marked_iff (b : UInt8) :
    (b &&& slTypeCompressedTcp ≠ 0 ∨
      b &&& slTypeUncompressedTcp = slTypeUncompressedTcp) ↔ 0x70 ≤ b := by
  have hall : ∀ n : Fin 256, (UInt8.ofNat n &&& slTypeCompressedTcp ≠ 0 ∨
      UInt8.ofNat n &&& slTypeUncompressedTcp = slTypeUncompressedTcp) ↔
        0x70 ≤ UInt8.ofNat n := by decide +kernel
  have hb := hall ⟨b.toNat, b.toNat_lt⟩
  rwa [UInt8.ofNat_toNat] at hb

variable (heap) in
/-- What is made of a packet that the compressor has not touched. -/
theorem rfc1144Compress_asIs (h : slhcCompress comp p p.data false = some r)
    (hcopy : r.useCopy = false) :
    ∃ s, rfc1144Compress comp p heap = some s ∧ s.comp = comp ∧ s.len = p.data.length ∧
      (s.pcompIndex = 0 ∧ s.data = p.data ↔ firstOctet p heap < 0x70) := by
  obtain rfl := slhcCompress_asIs h hcopy
  have hmarked := marked_iff (firstOctet p heap)
  have hlt : firstOctet p heap < 0x70 ↔ ¬0x70 ≤ firstOctet p heap := by
    rw [UInt8.not_le]
  unfold rfc1144Compress
  rw [h, hlt, ← hmarked, not_or]
  simp only [Option.bind_eq_bind, Option.bind_some]
  rw [show (⟨p.data, heap⟩ : Packet).at 0 = firstOctet p heap from rfl]
  split_ifs with h2 h1
  · exact ⟨_, rfl, rfl, rfl, by simp [h2]⟩
  · exact ⟨_, rfl, rfl, rfl, by simp [h1]⟩
  · exact ⟨_, rfl, rfl, rfl, by simp [h1, not_not.mp h2]⟩

/-- An entity that is supported sends what its algorithm makes of a packet. -/
theorem gprsSndcpPcompCompress_of_found {entities : List PcompEntity} {nsapi : ℕ} {e : PcompEntity}
    {s : Rfc1144Sent} (hfound : entities[entities.findIdx fun e ↦ nsapi ∈ e.nsapi]? = some e)
    (hsupported : e.supported) (hs : rfc1144Compress e.state p heap = some s) :
    gprsSndcpPcompCompress entities p heap nsapi =
      .ok ⟨s.len, gprsSndcpCompGetComp e.toCompEntity s.pcompIndex, s.data,
        setState entities (entities.findIdx fun e ↦ nsapi ∈ e.nsapi) s.comp⟩ := by
  unfold gprsSndcpPcompCompress
  dsimp only
  rw [hfound]
  dsimp only
  rw [if_pos hsupported, hs]

/-- A packet is left alone: the compressor's caller gives it index 0 and changes nothing, whatever
the entity it is sent with it goes with tag 0, and every receiver has it as it was. -/
def LeftAlone (comp : SlCompress) (p : Packet) (heap : ℕ → UInt8) : Prop :=
  (∃ s, rfc1144Compress comp p heap = some s ∧ s.pcompIndex = 0 ∧ s.data = p.data ∧
    s.len = p.data.length) ∧
  ∀ entities nsapi e, entities[entities.findIdx fun e ↦ nsapi ∈ e.nsapi]? = some e →
    e.supported → e.state = comp →
    ∃ s, gprsSndcpPcompCompress entities p heap nsapi = .ok s ∧ s.pcomp = 0 ∧ s.data = p.data ∧
      s.len = p.data.length ∧
      ∀ entities' behind, gprsSndcpPcompExpand entities' ⟨s.data, behind⟩ s.pcomp =
        .ok ⟨p.data.length, p.data, entities'⟩

/-- **What the compressor has not touched is left alone exactly if its first octet is not one of
those that a mark would leave.** -/
theorem leftAlone_iff (h : slhcCompress comp p p.data false = some r)
    (hcopy : r.useCopy = false) : LeftAlone comp p heap ↔ firstOctet p heap < 0x70 := by
  obtain ⟨s, hs, -, hlen, hiff⟩ := rfc1144Compress_asIs heap h hcopy
  rw [← hiff]
  constructor
  · rintro ⟨⟨s', hs', hindex, hdata, -⟩, -⟩
    obtain rfl := Option.some.inj (hs.symm.trans hs')
    exact ⟨hindex, hdata⟩
  · rintro ⟨hindex, hdata⟩
    refine ⟨⟨s, hs, hindex, hdata, hlen⟩, fun entities nsapi e hfound hsupported hstate ↦ ?_⟩
    have hsent := gprsSndcpPcompCompress_of_found hfound hsupported (hstate ▸ hs)
    have htag : gprsSndcpCompGetComp e.toCompEntity s.pcompIndex = 0 := by
      rw [hindex]
      rfl
    refine ⟨_, hsent, htag, hdata, hlen, fun entities' behind ↦ ?_⟩
    unfold gprsSndcpPcompExpand
    rw [if_pos htag]
    simp only [hdata]

/-- An IPv4 packet that is too short to be one is left alone. -/
theorem leftAlone_iff_runt :
    LeftAlone (.mk (fun _ ↦ .zero 0 0) (fun _ ↦ .zero 0 0) 0 0 0 255 255 true)
      ⟨[0x45], fun _ ↦ 0⟩ (fun _ ↦ 0) :=
  (leftAlone_iff (r := ⟨_, 1, [0x45], false⟩) rfl rfl).mpr (by decide)

/-- A frame that starts with 0xff is changed by a compressor that was just started. -/
theorem not_leftAlone :
    ∃ comp r, slhcInit 16 16 = some comp ∧
      slhcCompress comp ⟨[0xff, 0x03, 0x00, 0x21], fun _ ↦ 0⟩ [0xff, 0x03, 0x00, 0x21] false =
        some r ∧ r.useCopy = false ∧
      ¬LeftAlone comp ⟨[0xff, 0x03, 0x00, 0x21], fun _ ↦ 0⟩ fun _ ↦ 0 := by
  refine ⟨_, ⟨_, 4, [0xff, 0x03, 0x00, 0x21], false⟩, rfl, rfl, rfl, ?_⟩
  rintro ⟨⟨s, hs, hindex, -, -⟩, -⟩
  obtain rfl := Option.some.inj hs
  exact absurd hindex (by decide)

end AsIs

end OsmoSgsn.Sndcp
