import OsmoSgsn.Library.Span
import OsmoSgsn.Llc.Ui

/-!
# Where the information field lies

`gprs_llc_hdr_parse` checks once that there is more in a frame than the check sequence. The header
of a format comes in front of the check sequence too, and has two to four octets; the length of the
information field is what is left, in sixteen bits. A frame that is shorter than its header and the
check sequence is accepted nevertheless, and the difference wraps.

The information field is where it ought to be exactly if the frame has room for the header and the
check sequence, and for less than 2^16 octets more.
-/

namespace OsmoSgsn.Llc

/-- Length of the header: the address octet, and the control field of the format that the first
control octet tells. -/
def hdrLen (frame : Bytes) : ℕ :=
  if octet frame 1 &&& 0x80 = 0 then 4
  else if octet frame 1 &&& 0xc0 = 0x80 then 3
  else if octet frame 1 &&& 0xe0 = 0xc0 then uiHdrLen
  else 2

/-- The octets that `gprs_llc_rcvmsg` takes for the information field: what it deciphers and the
check sequence that it reads behind, if the frame is ciphered, and what it leaves in the message. -/
def rcvmsgSpans (llhp : GprsLlcHdrParsed) (off : ℕ) : List Span :=
  (if llhp.isEncrypted then
    [⟨off, (llhp.dataLen + crc24Length) % 2 ^ 16⟩, ⟨off + llhp.dataLen, crc24Length⟩]
  else []) ++ [⟨off, llhp.dataLen⟩]

/-- The information field is all that is between the header and the check sequence. -/
structure PayloadInside (frame : Bytes) (llhp : GprsLlcHdrParsed) (off : ℕ) : Prop where
  start : off = hdrLen frame
  total : hdrLen frame + llhp.dataLen + crc24Length = frame.length
  inside : ∀ span ∈ rcvmsgSpans llhp off, span.Inside frame.length

/-- What the parser says of the information field of a frame that it accepts. -/
theorem parse_data {frame : Bytes} {llhp : GprsLlcHdrParsed} {off : ℕ}
    (hparse : gprsLlcHdrParse frame = .ok llhp) (hdata : llhp.data = some off) :
    off = hdrLen frame ∧ llhp.dataLen = ptrDiff16 (frame.length - 3) off ∧ 3 < frame.length := by
  unfold gprsLlcHdrParse at hparse
  dsimp only at hparse
  split at hparse
  · cases hparse
  rename_i hlen
  have hlong : 3 < frame.length := Nat.lt_of_not_le hlen
  split at hparse
  · cases hparse
  split at hparse
  · cases hparse
  unfold hdrLen
  split at hparse
  · -- information transfer; what would have a bitmap in front of the data is refused
    rename_i hformat
    rw [if_pos hformat]
    simp only [Except.bind] at hparse
    split at hparse
    · cases hparse
    · obtain rfl := Except.ok.inj hparse
      simp only [Nat.add_zero, Option.some.injEq] at hdata ⊢
      exact ⟨hdata.symm, by rw [hdata], hlong⟩
  rename_i hI
  rw [if_neg hI]
  split at hparse
  · -- supervisory
    simp only [Except.bind] at hparse
    split at hparse
    · cases hparse
    · obtain rfl := Except.ok.inj hparse
      cases hdata
  rename_i hS
  rw [if_neg hS]
  split at hparse
  · -- unconfirmed information
    rename_i hformat
    rw [if_pos hformat]
    obtain rfl := Except.ok.inj hparse
    obtain rfl := Option.some.inj hdata
    exact ⟨rfl, rfl, hlong⟩
  rename_i hUI
  rw [if_neg hUI]
  -- unnumbered: only XID has an information field
  split at hparse
  · cases hparse
  · obtain rfl := Except.ok.inj hparse
    obtain rfl := Option.some.inj hdata
    exact ⟨rfl, rfl, hlong⟩
  · simp only [Except.bind] at hparse
    split at hparse
    · cases hparse
    · obtain rfl := Except.ok.inj hparse
      cases hdata

/-- The length of the information field is right exactly if nothing wraps. -/
theorem ptrDiff16_total {len hdr : ℕ} (hlen : 3 < len) :
    hdr + ptrDiff16 (len - 3) hdr + 3 = len ↔ hdr + 3 ≤ len ∧ len < hdr + 3 + 2 ^ 16 := by
  unfold ptrDiff16
  omega

/-- **Staying inside the frame.** For every frame that is accepted and has an information field, the
field lies between the header and the check sequence, and what is done with it stays inside the
frame, exactly if the frame has room for the header and the check sequence and for less than 2^16
octets between them. -/
theorem payloadInside_iff {frame : Bytes} {llhp : GprsLlcHdrParsed} {off : ℕ}
    (hparse : gprsLlcHdrParse frame = .ok llhp) (hdata : llhp.data = some off) :
    PayloadInside frame llhp off ↔
      hdrLen frame + 3 ≤ frame.length ∧ frame.length < hdrLen frame + 3 + 2 ^ 16 := by
  obtain ⟨rfl, hdataLen, hlong⟩ := parse_data hparse hdata
  have htotal := @ptrDiff16_total frame.length (hdrLen frame) hlong
  rw [← hdataLen] at htotal
  constructor
  · intro h
    exact htotal.mp h.total
  · intro h
    have hlen := htotal.mpr h
    refine ⟨rfl, hlen, ?_⟩
    have hgea : (⟨hdrLen frame, (llhp.dataLen + 3) % 2 ^ 16⟩ : Span).Inside frame.length := by
      apply Span.inside_of_stop_le
      change hdrLen frame + (llhp.dataLen + 3) % 2 ^ 16 ≤ frame.length
      have := Nat.mod_le (llhp.dataLen + 3) (2 ^ 16)
      omega
    have hfcs : (⟨hdrLen frame + llhp.dataLen, 3⟩ : Span).Inside frame.length :=
      Span.inside_of_stop_le hlen.le
    have htrim : (⟨hdrLen frame, llhp.dataLen⟩ : Span).Inside frame.length := by
      apply Span.inside_of_stop_le
      change hdrLen frame + llhp.dataLen ≤ frame.length
      omega
    intro span hspan
    rcases List.mem_append.mp hspan with hspan | hspan
    · split at hspan
      · rcases List.mem_pair.mp hspan with rfl | rfl
        · exact hgea
        · exact hfcs
      · cases hspan
    · obtain rfl := List.mem_singleton.mp hspan
      exact htrim

/-- A frame of seven octets, three of which are the header of unconfirmed information. -/
theorem payloadInside_iff_sevenOctets :
    ∃ llhp, PayloadInside [0x01, 0xc0, 0x03, 0xaa, 0, 0, 0] llhp 3 := by
  obtain ⟨llhp, hparse, hdata⟩ : ∃ llhp,
      gprsLlcHdrParse [0x01, 0xc0, 0x03, 0xaa, 0, 0, 0] = .ok llhp ∧ llhp.data = some 3 :=
    ⟨_, rfl, rfl⟩
  exact ⟨llhp, (payloadInside_iff hparse hdata).mpr (by decide)⟩

/-- In a ciphered frame of four octets the check sequence starts in the header: the information
field counts 65534 octets, and the check sequence to compare is read behind them. -/
theorem fourOctets_not_inside :
    ∃ llhp, gprsLlcHdrParse [0x01, 0xc0, 0x03, 0xaa] = .ok llhp ∧ llhp.data = some 3 ∧
      llhp.dataLen = 65534 ∧ ⟨65537, 3⟩ ∈ rcvmsgSpans llhp 3 ∧
      ¬ PayloadInside [0x01, 0xc0, 0x03, 0xaa] llhp 3 := by
  refine ⟨_, rfl, rfl, by decide, by decide, fun h ↦ ?_⟩
  exact absurd h.total (by decide)

end OsmoSgsn.Llc
