import OsmoSgsn.Library.Span
import OsmoSgsn.Sndcp.Entity

/-!
# The header of a received segment

The header of a segment has three octets, and four in a first one, which has a compression octet.
`sndcp_ll_unitdata_ind` checks the length against three, whatever the first octet says, and
`defrag_input` subtracts the length of the header that is there. A first segment of three octets
gets through: its packet number is read behind the message, and its length is 2^32 - 1.
-/

namespace OsmoSgsn.Sndcp

/-- Length of the header. -/
def SnHdr.len (hdr : SnHdr) : ℕ := hdr.suh + 2

theorem SnHdr.len_snHdr (pdu : Bytes) :
    (snHdr pdu).len = if (snHdr pdu).first then 4 else 3 := by
  unfold SnHdr.len snHdr
  dsimp only
  split <;> rfl

/-- The octets of the header that are read: the common header, the compression octet of a first
segment, and the user data header. -/
def hdrSpans (pdu : Bytes) : List Span :=
  ⟨0, 1⟩ :: (if (snHdr pdu).first then [⟨1, 1⟩] else []) ++ [⟨(snHdr pdu).suh, 2⟩]

/-- The length that `defrag_input` passes to `defrag_enqueue`. -/
def fragmentLen (pdu : Bytes) : ℕ := (((pdu.length : ℤ) - (snHdr pdu).len) % 2 ^ 32).toNat

/-- The packet under reassembly when a segment comes in. -/
def DefragState.begin (d : DefragState) (hdr : SnHdr) : DefragState :=
  if hdr.first then
    { d with
      fragList := []
      npdu := hdr.npduNum
      noMore := false
      highestSeg := 0
      segHave := 0
      totLen := 0 }
  else d

theorem defragInput_enqueue (env : SndcpEnv) (sne : GprsSndcpEntity) (pdu : Bytes) :
    defragInput env sne pdu =
      let d := sne.defrag.begin (snHdr pdu)
      match defragEnqueue d (snHdr pdu).segNr (fragmentLen pdu) (pdu.drop (snHdr pdu).len) with
      | .error e => ⟨.error e, none, { sne with defrag := d }⟩
      | .ok d =>
        let d := if (snHdr pdu).more then d else { d with noMore := true }
        let sne := { sne with defrag := d }
        if d.noMore && defragHaveAllSegments d then defragSegments env sne
        else ⟨.ok (), none, sne⟩ := rfl

/-- The header says nothing that is not in the octets that are read. -/
theorem snHdr_congr {pdu pdu' : Bytes}
    (h : ∀ span ∈ hdrSpans pdu, ∀ i, span.Has i → octet pdu i = octet pdu' i) :
    snHdr pdu = snHdr pdu' := by
  have hsch : octet pdu 0 = octet pdu' 0 :=
    h ⟨0, 1⟩ List.mem_cons_self 0 ⟨le_rfl, Nat.zero_lt_one⟩
  have hudata : ∀ i, (snHdr pdu).suh ≤ i → i < (snHdr pdu).suh + 2 →
      octet pdu i = octet pdu' i := fun i hle hlt ↦
    h ⟨(snHdr pdu).suh, 2⟩ (List.mem_append_right _ (List.mem_singleton.mpr rfl)) i ⟨hle, hlt⟩
  have hhigh := hudata _ le_rfl (by omega)
  have hlow := hudata _ (Nat.le_succ _) (Nat.lt_succ_self _)
  unfold snHdr at hhigh hlow ⊢
  dsimp only at hhigh hlow ⊢
  rw [← hsch, hhigh, hlow]

/-- The message gets past the length check. -/
def PastLengthCheck (pdu : Bytes) : Prop := (snHdr pdu).type ∧ 3 ≤ pdu.length

instance (pdu : Bytes) : Decidable (PastLengthCheck pdu) := inferInstanceAs (Decidable (_ ∧ _))

/-- Such a message is dealt with if there is an entity and a context for it. -/
theorem sndcpLlUnitdataInd_eq (env : SndcpEnv) (sne : GprsSndcpEntity) {pdu : Bytes}
    (hpdu : PastLengthCheck pdu) (hnsapi : (snHdr pdu).nsapi = sne.nsapi)
    (hmmctx : env.mmctxFound = true) :
    sndcpLlUnitdataInd env sne pdu =
      let sne := if (snHdr pdu).first then
          { sne with
            defrag.pcomp := (octet pdu 1 &&& 0xf).toNat
            defrag.dcomp := (octet pdu 1 >>> 4).toNat }
        else sne
      if !(snHdr pdu).first || (snHdr pdu).more then defragInput env sne pdu
      else if pdu.length ≤ (snHdr pdu).len then ⟨.error .eio, none, sne⟩
      else handOff env sne (pdu.drop (snHdr pdu).len) := by
  have htype : (!(snHdr pdu).type) = false := by rw [hpdu.1, Bool.not_true]
  have hlen : ¬ pdu.length < 3 := Nat.not_lt.mpr hpdu.2
  unfold sndcpLlUnitdataInd
  simp only [htype, hlen, hnsapi, hmmctx, Bool.false_eq_true, if_false, ne_eq, not_true_eq_false,
    Bool.not_true]
  rfl

/-- The header is inside the message, and the length of a segment that goes to reassembly is what
is left behind it. -/
structure HeaderInside (pdu : Bytes) : Prop where
  read : ∀ span ∈ hdrSpans pdu, span.Inside pdu.length
  fragment : (snHdr pdu).first = false ∨ (snHdr pdu).more = true →
    (snHdr pdu).len + fragmentLen pdu = pdu.length

/-- **Header lengths.** A message that gets past the length check has its header inside, and the
length of its segment right, exactly if it is not a first segment of three octets. The length of a
message is a 16 bit number. -/
theorem headerInside_iff {pdu : Bytes} (hpdu : PastLengthCheck pdu) (hmax : pdu.length < 2 ^ 16) :
    HeaderInside pdu ↔ ¬ ((snHdr pdu).first = true ∧ pdu.length = 3) := by
  have hthree := hpdu.2
  have hlen := SnHdr.len_snHdr pdu
  constructor
  · rintro h ⟨hfirst, hshort⟩
    have hudata : (⟨(snHdr pdu).suh, 2⟩ : Span) ∈ hdrSpans pdu :=
      List.mem_append_right _ (List.mem_singleton.mpr rfl)
    -- the second octet of the user data header is the fourth of the message
    rcases Span.inside_iff.mp (h.read _ hudata) with hempty | hstop
    · cases hempty
    · rw [hfirst, if_pos rfl] at hlen
      change (snHdr pdu).len ≤ pdu.length at hstop
      omega
  · intro h
    have hheader : (snHdr pdu).len ≤ pdu.length := by
      rw [hlen]
      split
      · rename_i hfirst
        have : pdu.length ≠ 3 := fun hshort ↦ h ⟨hfirst, hshort⟩
        omega
      · exact hthree
    refine ⟨fun span hspan ↦ Span.inside_of_stop_le ?_, fun _ ↦ ?_⟩
    · rcases List.mem_append.mp hspan with hspan | hspan
      · rcases List.mem_cons.mp hspan with rfl | hspan
        · exact le_trans (by decide) hthree
        · split at hspan
          · obtain rfl := List.mem_singleton.mp hspan
            exact le_trans (by decide) hthree
          · cases hspan
      · obtain rfl := List.mem_singleton.mp hspan
        exact hheader
    · unfold fragmentLen
      omega

/-- A first segment of four octets, with more to come. -/
theorem headerInside_iff_fourOctets : HeaderInside [0x75, 0, 0, 1] :=
  (headerInside_iff (by decide) (by decide)).mpr (by decide)

/-- A first segment of three octets, with more to come: its packet number ends behind the message,
and its length is one short of 2^32. -/
theorem threeOctets_not_inside : PastLengthCheck [0x75, 0, 0] ∧ ¬ HeaderInside [0x75, 0, 0] ∧
    fragmentLen [0x75, 0, 0] = 2 ^ 32 - 1 ∧ ∃ span ∈ hdrSpans [0x75, 0, 0], span.Has 3 := by
  refine ⟨by decide, fun h ↦ ?_, by decide, ⟨2, 2⟩, by decide, by decide, by decide⟩
  exact absurd (h.fragment (.inr (by decide))) (by decide)

end OsmoSgsn.Sndcp
