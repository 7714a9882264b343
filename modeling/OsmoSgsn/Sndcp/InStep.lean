import OsmoSgsn.Sndcp.FieldRoundTrip

/-!
# How far a field reaches

The length octet of a field announces how many octets follow it. The decoder takes the announced
length as a limit for the parameters, but goes on from where it has stopped: behind the last
parameter that is announced and in its range. So the two agree if the announced octets are exactly
the PCOMP or DCOMP values, the SAPIs and a first part of the parameters, each in its range.
-/

namespace OsmoSgsn.Sndcp

variable {mem : Mem} {pos srcLen left : ℕ}

/-! ## Parameters in memory -/

/-- The number that the octets of a parameter make. -/
def ParamRange.read (r : ParamRange) (mem : Mem) (pos : ℕ) : ℕ :=
  if r.wide then (mem pos).toNat <<< 8 ||| (mem (pos + 1)).toNat else (mem pos).toNat

/-- A parameter in its range is at a position. -/
def ParamRange.At (r : ParamRange) (mem : Mem) (pos : ℕ) : Prop :=
  r.min ≤ r.read mem pos ∧ (r.read mem pos : ℤ) ≤ r.max

instance (r : ParamRange) (mem : Mem) (pos : ℕ) : Decidable (r.At mem pos) :=
  inferInstanceAs (Decidable (_ ∧ _))

theorem ParamRange.width_pos (r : ParamRange) : 0 < r.width := by
  rw [width]
  split <;> decide

theorem ParamRange.get_eq (r : ParamRange) :
    r.get mem pos srcLen =
      if r.width ≤ srcLen ∧ r.At mem pos then some (r.read mem pos : ℤ) else none := by
  obtain ⟨wide, min, max⟩ := r
  have hrange (n blob : ℕ) :
      (if srcLen < n then none else if (blob : ℤ) < min then none
        else if max < (blob : ℤ) then none else some (blob : ℤ)) =
      if n ≤ srcLen ∧ min ≤ (blob : ℤ) ∧ (blob : ℤ) ≤ max then some (blob : ℤ) else none := by
    split_ifs <;> first | rfl | omega
  cases wide with
  | true => exact hrange 2 _
  | false => exact hrange 1 _

/-- Parameters in their ranges follow one another. -/
def AllAt (mem : Mem) : ℕ → List ParamRange → Prop
  | _, [] => True
  | pos, r :: rs => r.At mem pos ∧ AllAt mem (pos + r.width) rs

/-- The number of octets of a list of parameters. -/
def totalWidth (rs : List ParamRange) : ℕ := (rs.map ParamRange.width).sum

@[simp] theorem totalWidth_nil : totalWidth [] = 0 := rfl

@[simp] theorem totalWidth_cons (r : ParamRange) (rs : List ParamRange) :
    totalWidth (r :: rs) = r.width + totalWidth rs := by
  rw [totalWidth, List.map_cons, List.sum_cons, totalWidth]

@[simp] theorem totalWidth_append (rs rs' : List ParamRange) :
    totalWidth (rs ++ rs') = totalWidth rs + totalWidth rs' := by
  rw [totalWidth, List.map_append, List.sum_append, totalWidth, totalWidth]

/-- The first parameters of a list, if they are announced and in their ranges. -/
structure Found (mem : Mem) (pos left : ℕ) (rs found : List ParamRange) : Prop where
  isPrefix : found <+: rs
  announced : totalWidth found ≤ left
  allAt : AllAt mem pos found

theorem Found.nil {rs : List ParamRange} : Found mem pos left rs [] :=
  ⟨List.nil_prefix, Nat.zero_le _, trivial⟩

theorem found_cons {r r' : ParamRange} {rs found : List ParamRange} :
    Found mem pos left (r :: rs) (r' :: found) ↔
      r' = r ∧ (r.width ≤ left ∧ r.At mem pos) ∧
        Found mem (pos + r.width) (left - r.width) rs found := by
  constructor
  · rintro ⟨hbegins, hlen, hat, hall⟩
    obtain ⟨rfl, htail⟩ := List.cons_prefix_cons.mp hbegins
    rw [totalWidth_cons] at hlen
    exact ⟨rfl, ⟨by omega, hat⟩, htail, by omega, hall⟩
  · rintro ⟨rfl, ⟨hwidth, hat⟩, hbegins, hlen, hall⟩
    refine ⟨List.cons_prefix_cons.mpr ⟨rfl, hbegins⟩, ?_, hat, hall⟩
    rw [totalWidth_cons]
    omega

/-- The values of parameters that follow one another. -/
def readAll (mem : Mem) : ℕ → List ParamRange → List ℤ
  | _, [] => []
  | pos, r :: rs => r.read mem pos :: readAll mem (pos + r.width) rs

/-- The longest such part. -/
structure Longest (mem : Mem) (pos left : ℕ) (rs found : List ParamRange) : Prop extends
    Found mem pos left rs found where
  longest : ∀ found', Found mem pos left rs found' → totalWidth found' ≤ totalWidth found

/-- **The decoder stops behind the last parameter** that is announced and in its range. -/
theorem decodeRanges_eq (mem : Mem) (pos left : ℕ) (rs : List ParamRange) :
    ∃ found, Longest mem pos left rs found ∧ decodeRanges mem pos left rs =
      (readAll mem pos found ++ List.replicate (rs.length - found.length) (-1),
        totalWidth found) := by
  induction rs generalizing pos left with
  | nil =>
    refine ⟨[], ⟨.nil, fun found' hfound' ↦ ?_⟩, rfl⟩
    rw [List.prefix_nil.mp hfound'.isPrefix]
  | cons r rs ih =>
    rw [decodeRanges, r.get_eq]
    by_cases hr : r.width ≤ left ∧ r.At mem pos
    · obtain ⟨found, hlongest, heq⟩ := ih (pos + r.width) (left - r.width)
      rw [if_pos hr]
      refine ⟨r :: found, ⟨found_cons.mpr ⟨rfl, hr, hlongest.toFound⟩, ?_⟩, ?_⟩
      · intro found' hfound'
        cases found' with
        | nil => exact Nat.zero_le _
        | cons r' found' =>
          obtain ⟨rfl, -, hfound'⟩ := found_cons.mp hfound'
          rw [totalWidth_cons, totalWidth_cons]
          exact Nat.add_le_add_left (hlongest.longest found' hfound') _
      · simp only [heq, totalWidth_cons, readAll, List.length_cons, Nat.add_sub_add_right,
          List.cons_append]
    · rw [if_neg hr]
      refine ⟨[], ⟨.nil, fun found' hfound' ↦ ?_⟩, ?_⟩
      · cases found' with
        | nil => exact le_rfl
        | cons r' found' => exact absurd (found_cons.mp hfound').2.1 hr
      · simp only [readAll, List.nil_append, List.length_nil, Nat.sub_zero, totalWidth_nil,
          List.map_const']

/-- All that is announced is decoded if it is a first part of the parameters. -/
theorem decodeRanges_eq_left_iff {rs : List ParamRange} :
    (decodeRanges mem pos left rs).2 = left ↔
      ∃ found, found <+: rs ∧ totalWidth found = left ∧ AllAt mem pos found := by
  obtain ⟨found, hlongest, heq⟩ := decodeRanges_eq mem pos left rs
  rw [heq]
  constructor
  · intro hw
    exact ⟨found, hlongest.isPrefix, hw, hlongest.allAt⟩
  · rintro ⟨found', hbegins, hw', hall⟩
    refine le_antisymm hlongest.announced ?_
    exact hw' ▸ hlongest.longest found' ⟨hbegins, hw'.le, hall⟩

/-! ## Algorithms -/

/-- The SAPIs, as a parameter. -/
def sapiRange : ParamRange := ⟨true, 0, 65535⟩

theorem sapiRange_at (mem : Mem) (pos : ℕ) : sapiRange.At mem pos := by
  have hhigh := (mem pos).toNat_lt
  have hlow := (mem (pos + 1)).toNat_lt
  have hread : sapiRange.read mem pos = (mem pos).toNat * 256 + (mem (pos + 1)).toNat := by
    change (mem pos).toNat <<< 8 ||| (mem (pos + 1)).toNat = _
    rw [← Nat.shiftLeft_add_eq_or_of_lt hlow, Nat.shiftLeft_eq]
  rw [ParamRange.At, hread]
  simp only [sapiRange]
  omega

/-- What follows the PCOMP or DCOMP values, for the algorithms that have a decoder. -/
def algoRanges : XidParamType → ℤ → Option (List ParamRange)
  | .protocolCompression, 0 => some (sapiRange :: rfc1144Ranges)
  | .protocolCompression, 1 => some (sapiRange :: rfc2507Ranges)
  | .protocolCompression, 2 => some (sapiRange :: (rohcRanges ++ List.replicate 16 profileRange))
  | .dataCompression, 0 => some (sapiRange :: v42bisRanges)
  | .dataCompression, 1 => some (sapiRange :: v44DecodeRanges)
  | _, _ => none

theorem decodeSapisAndRanges_count (mem : Mem) (pos left : ℕ) (rs : List ParamRange) :
    (decodeSapisAndRanges mem pos left rs).2.2 =
      (decodeRanges mem pos left (sapiRange :: rs)).2 := by
  have hat := sapiRange_at mem pos
  rw [decodeSapisAndRanges, decodePcompApplicableSapis, decodeRanges, sapiRange.get_eq]
  by_cases hleft : left < 2
  · rw [if_pos hleft, if_neg fun h ↦ not_le.mpr hleft h.1]
  · rw [if_neg hleft, if_pos ⟨not_lt.mp hleft, hat⟩]
    rfl

/-- How many octets the parameters take. -/
theorem decodeCompParams_count {compclass : XidParamType} {algo : ℤ} {params : Option CompParams}
    {n : ℕ} (h : decodeCompParams mem pos left compclass algo = some (params, n)) :
    match algoRanges compclass algo with
    | some rs => n = (decodeRanges mem pos left rs).2
    | none => n = left := by
  have hnone (hun : undecoded left = some (params, n)) : n = left := by
    rw [undecoded] at hun
    split_ifs at hun
    exact (Prod.ext_iff.mp (Option.some_inj.mp hun)).2.symm
  cases compclass with
  | protocolCompression =>
    rw [decodeCompParams, decodePcompParams] at h
    split_ifs at h with h0 h1 h2
    · obtain ⟨-, rfl⟩ := Prod.ext_iff.mp (Option.some_inj.mp h)
      rw [h0]
      exact decodeSapisAndRanges_count mem pos left rfc1144Ranges
    · obtain ⟨-, rfl⟩ := Prod.ext_iff.mp (Option.some_inj.mp h)
      rw [h1]
      exact decodeSapisAndRanges_count mem pos left rfc2507Ranges
    · obtain ⟨-, rfl⟩ := Prod.ext_iff.mp (Option.some_inj.mp h)
      rw [h2]
      exact decodeSapisAndRanges_count mem pos left _
    · have hranges : algoRanges .protocolCompression algo = none := by
        unfold algoRanges
        split <;> simp_all
      rw [hranges]
      exact hnone h
  | dataCompression =>
    rw [decodeCompParams, decodeDcompParams] at h
    split_ifs at h with h0 h1
    · obtain ⟨-, rfl⟩ := Prod.ext_iff.mp (Option.some_inj.mp h)
      rw [h0]
      exact decodeSapisAndRanges_count mem pos left v42bisRanges
    · rw [h1]
      cases hv44 : decodeDcompV44Params mem pos left with
      | none =>
        rw [hv44] at h
        simp at h
      | some decoded =>
        obtain ⟨params', n'⟩ := decoded
        rw [hv44] at h
        obtain ⟨-, rfl⟩ := Prod.ext_iff.mp (Option.some_inj.mp h)
        refine Eq.trans ?_ (decodeSapisAndRanges_count mem pos left v44DecodeRanges)
        rw [decodeDcompV44Params] at hv44
        simp only at hv44
        split_ifs at hv44
        exact (Prod.ext_iff.mp (Option.some_inj.mp hv44)).2.symm
    · have hranges : algoRanges .dataCompression algo = none := by
        unfold algoRanges
        split <;> simp_all
      rw [hranges]
      exact hnone h
  | versionNumber => simp [decodeCompParams] at h
  | invalidCompression => simp [decodeCompParams] at h

/-! ## Fields -/

section

variable (mem : Mem) (pos : ℕ) (lt : Option (List EntityAlgo)) (compclass : XidParamType)

/-- The propose bit of the field at a position. -/
def proposes : Bool := (mem pos).toNat.testBit 7

/-- The number of octets up to the length octet of a field, and with it. -/
def headLen : ℕ := if proposes mem pos then 3 else 2

/-- The length octet of a field. -/
def announced : ℕ := (mem (pos + (headLen mem pos - 1))).toNat

/-- Where the sender has put the next field. -/
def announcedEnd : ℕ := pos + headLen mem pos + announced mem pos

/-- The algorithm of a field. -/
def fieldAlgo : ℤ :=
  if proposes mem pos then ((mem (pos + 1)).toNat % 32 : ℕ)
  else lookupAlgorithmIdentifier compclass ((mem pos).toNat % 32) lt

/-- The number of octets of the PCOMP or DCOMP values. A proposal of an algorithm that has none is
refused. -/
def compOctets : Option ℕ :=
  if proposes mem pos then
    (compNum compclass (fieldAlgo mem pos lt compclass)).map fun n ↦ (n + 1) / 2
  else some 0

/-- What the length octet of a field announces is there: the values, and a first part of the
parameters, each in its range. -/
def AnnouncedWhole : Prop :=
  ∃ n, compOctets mem pos lt compclass = some n ∧ n ≤ announced mem pos ∧
    ∀ rs, algoRanges compclass (fieldAlgo mem pos lt compclass) = some rs →
      ∃ found, found <+: rs ∧ totalWidth found = announced mem pos - n ∧
        AllAt mem (pos + headLen mem pos + n) found

end

section

variable {lt : Option (List EntityAlgo)} {compclass : XidParamType} {f : CompField} {rc : ℕ}

/-- What is known of a field that is accepted. -/
structure Accepted (mem : Mem) (pos : ℕ) (lt : Option (List EntityAlgo))
    (compclass : XidParamType) (rc n m : ℕ) (params : Option CompParams) : Prop where
  comp : compOctets mem pos lt compclass = some n
  params : decodeCompParams mem (pos + headLen mem pos + n)
    (((announced mem pos : ℤ) - n) % 2 ^ 32).toNat compclass (fieldAlgo mem pos lt compclass) =
      some (params, m)
  rc : rc = headLen mem pos + n + m

/-- The decoder of a field, in these terms. -/
theorem decodeCompField_eq :
    decodeCompField mem pos srcLen lt compclass =
      if srcLen < 1 then none
      else (decodeCompValues mem (pos + headLen mem pos) (proposes mem pos) compclass
          (fieldAlgo mem pos lt compclass)).bind fun (comp, n) ↦
        (decodeCompParams mem (pos + headLen mem pos + n)
          (((announced mem pos : ℤ) - n) % 2 ^ 32).toNat compclass
          (fieldAlgo mem pos lt compclass)).map fun (params, m) ↦
            (⟨proposes mem pos, (mem pos).toNat % 32, fieldAlgo mem pos lt compclass, comp, params⟩,
              headLen mem pos + n + m) := by
  rw [decodeCompField]
  refine if_congr Iff.rfl rfl ?_
  cases hp : proposes mem pos with
  | true =>
    have hp' : (mem pos).toNat.testBit 7 = true := hp
    simp only [headLen, announced, fieldAlgo, hp, hp', if_true, Nat.add_assoc, Nat.reduceAdd,
      Nat.reduceSub]
    rcases decodeCompValues mem (pos + 3) true compclass ((mem (pos + 1)).toNat % 32 : ℕ)
      with _ | ⟨comp, n⟩
    · rfl
    · simp only [Option.bind_some]
      rcases decodeCompParams mem (pos + (3 + n)) _ compclass _ with _ | ⟨params, m⟩
      · rfl
      · simp only [Option.map_some]
  | false =>
    have hp' : (mem pos).toNat.testBit 7 = false := hp
    simp only [headLen, announced, fieldAlgo, hp, hp', Bool.false_eq_true, if_false, Nat.add_assoc,
      Nat.reduceAdd, Nat.reduceSub]
    rcases decodeCompValues mem (pos + 2) false compclass _ with _ | ⟨comp, n⟩
    · rfl
    · simp only [Option.bind_some]
      rcases decodeCompParams mem (pos + (2 + n)) _ compclass _ with _ | ⟨params, m⟩
      · rfl
      · simp only [Option.map_some]

theorem compOctets_eq :
    compOctets mem pos lt compclass = (decodeCompValues mem (pos + headLen mem pos)
      (proposes mem pos) compclass (fieldAlgo mem pos lt compclass)).map (·.2) := by
  rw [compOctets, decodeCompValues]
  split
  · cases compNum compclass (fieldAlgo mem pos lt compclass) with
    | none => rfl
    | some n => rfl
  · rfl

/-- What is known of a field that is accepted. -/
theorem decodeCompField_accepted
    (h : decodeCompField mem pos srcLen lt compclass = some (f, rc)) :
    ∃ n m, Accepted mem pos lt compclass rc n m f.params := by
  rw [decodeCompField_eq] at h
  split_ifs at h
  obtain ⟨⟨comp, n⟩, hvalues, hrest⟩ := Option.bind_eq_some_iff.mp h
  obtain ⟨⟨params, m⟩, hparams, hfield⟩ := Option.map_eq_some_iff.mp hrest
  obtain ⟨rfl, rfl⟩ := Prod.ext_iff.mp hfield
  exact ⟨n, m, by rw [compOctets_eq, hvalues, Option.map_some], hparams, rfl⟩

/-- An algorithm without a decoder is not proposed, so it has no values. -/
theorem Accepted.comp_eq_zero {n m : ℕ} {params : Option CompParams}
    (h : Accepted mem pos lt compclass rc n m params)
    (hranges : algoRanges compclass (fieldAlgo mem pos lt compclass) = none) : n = 0 := by
  have hcomp := h.comp
  rw [compOctets] at hcomp
  split at hcomp
  · have hnone : compNum compclass (fieldAlgo mem pos lt compclass) = none := by
      generalize fieldAlgo mem pos lt compclass = algo at hranges
      unfold compNum
      split
      all_goals first | rfl | exact absurd hranges nofun
    rw [hnone] at hcomp
    exact absurd hcomp nofun
  · exact (Option.some_inj.mp hcomp).symm

/-- **A field is consumed as announced** exactly if what is announced is there. -/
theorem Accepted.consumed_iff {n m : ℕ} {params : Option CompParams}
    (h : Accepted mem pos lt compclass rc n m params) :
    rc = headLen mem pos + announced mem pos ↔ AnnouncedWhole mem pos lt compclass := by
  have hann : announced mem pos < 2 ^ 8 := (mem _).toNat_lt
  have hcount := decodeCompParams_count h.params
  have hwhole : AnnouncedWhole mem pos lt compclass ↔ n ≤ announced mem pos ∧
      ∀ rs, algoRanges compclass (fieldAlgo mem pos lt compclass) = some rs →
        ∃ found, found <+: rs ∧ totalWidth found = announced mem pos - n ∧
          AllAt mem (pos + headLen mem pos + n) found := by
    constructor
    · rintro ⟨n', hn', hrest⟩
      obtain rfl := Option.some_inj.mp (hn'.symm.trans h.comp)
      exact hrest
    · exact fun hrest ↦ ⟨n, h.comp, hrest⟩
  have hrc := h.rc
  rw [hwhole]
  by_cases hle : n ≤ announced mem pos
  · have hleft : (((announced mem pos : ℤ) - n) % 2 ^ 32).toNat = announced mem pos - n := by
      omega
    rw [hleft] at hcount
    cases hranges : algoRanges compclass (fieldAlgo mem pos lt compclass) with
    | none =>
      rw [hranges] at hcount
      simp only [reduceCtorEq, false_implies, implies_true, and_true]
      have hzero := h.comp_eq_zero hranges
      omega
    | some rs =>
      rw [hranges] at hcount
      have hm : rc = headLen mem pos + announced mem pos ↔ m = announced mem pos - n := by omega
      rw [hm, hcount, decodeRanges_eq_left_iff]
      constructor
      · rintro hfound
        refine ⟨hle, fun rs' hrs' ↦ ?_⟩
        obtain rfl := Option.some_inj.mp hrs'
        exact hfound
      · rintro ⟨-, hfound⟩
        exact hfound rs rfl
  · -- The values alone are more than is announced.
    constructor
    · intro heq
      omega
    · rintro ⟨hle', -⟩
      exact absurd hle' hle

end

/-! ## Blocks -/

section

variable (mem : Mem) (val tagLen : ℕ)

/-- Where the sender has put the fields of a block, counted from its start. -/
def announcedStarts : ℕ → ℕ → List ℕ
  | 0, _ => []
  | n + 1, byteCounter =>
    byteCounter :: if announcedEnd mem (val + byteCounter) - val < tagLen then
      announcedStarts n (announcedEnd mem (val + byteCounter) - val) else []

/-- Where the fields of a block are decoded, counted from its start. -/
def blockStarts (lt : Option (List EntityAlgo)) (compclass : XidParamType) : ℕ → ℕ → List ℕ
  | 0, _ => []
  | n + 1, byteCounter =>
    byteCounter ::
      match decodeCompField mem (val + byteCounter) (tagLen - byteCounter) lt compclass with
      | none => []
      | some (_, rc) =>
        if byteCounter + rc < tagLen then blockStarts lt compclass n (byteCounter + rc) else []

end

/-- The fields of a block that is accepted are decoded where the sender has put them, if what each
one announces is there. -/
theorem blockStarts_eq_announcedStarts {val tagLen : ℕ} {lt : Option (List EntityAlgo)}
    {compclass : XidParamType} {n byteCounter : ℕ} {fields out : List CompField}
    (h : decodeXidBlock mem val tagLen lt compclass n byteCounter fields = some out)
    (hwhole : ∀ start ∈ announcedStarts mem val tagLen n byteCounter,
      AnnouncedWhole mem (val + start) lt compclass) :
    blockStarts mem val tagLen lt compclass n byteCounter =
      announcedStarts mem val tagLen n byteCounter := by
  induction n generalizing byteCounter fields with
  | zero => simp [decodeXidBlock] at h
  | succ n ih =>
    rw [announcedStarts, List.forall_mem_cons] at hwhole
    rw [decodeXidBlock] at h
    rw [announcedStarts, blockStarts]
    cases hfield : decodeCompField mem (val + byteCounter) (tagLen - byteCounter) lt compclass with
    | none =>
      rw [hfield] at h
      simp at h
    | some decoded =>
      obtain ⟨f, rc⟩ := decoded
      obtain ⟨k, m, hacc⟩ := decodeCompField_accepted hfield
      have hrc := hacc.consumed_iff.mpr hwhole.1
      have hend : announcedEnd mem (val + byteCounter) - val = byteCounter + rc := by
        rw [announcedEnd, hrc]
        omega
      rw [hfield] at h
      rw [hend] at hwhole ⊢
      dsimp only at h ⊢
      by_cases hmore : byteCounter + rc < tagLen
      · rw [if_pos hmore] at h hwhole ⊢
        rw [if_pos hmore, ih h hwhole.2]
      · rw [if_neg hmore, if_neg hmore]

/-- **The parser keeps in step with the length octets** where what they announce is there: a field
that is accepted is consumed as announced if and only if it is; and if it is for every field of a
block that is accepted, all of them are decoded where the sender has put them. -/
theorem in_step_iff (mem : Mem) (lt : Option (List EntityAlgo)) (compclass : XidParamType) :
    (∀ pos srcLen f rc, decodeCompField mem pos srcLen lt compclass = some (f, rc) →
      (rc = headLen mem pos + announced mem pos ↔ AnnouncedWhole mem pos lt compclass)) ∧
    ∀ val tagLen fields out,
      decodeXidBlock mem val tagLen lt compclass maxFields 0 fields = some out →
      (∀ start ∈ announcedStarts mem val tagLen maxFields 0,
        AnnouncedWhole mem (val + start) lt compclass) →
      blockStarts mem val tagLen lt compclass maxFields 0 =
        announcedStarts mem val tagLen maxFields 0 := by
  refine ⟨fun pos srcLen f rc h ↦ ?_, fun val tagLen fields out h hwhole ↦
    blockStarts_eq_announcedStarts h hwhole⟩
  obtain ⟨n, m, hacc⟩ := decodeCompField_accepted h
  exact hacc.consumed_iff

/-- A block of two RFC 1144 fields. -/
def exampleBlock : Mem :=
  message [0x80, 0, 4, 0x12, 0, 0x20, 7, 0x81, 0, 4, 0x34, 0, 0x40, 15] fun _ ↦ 0

theorem exampleBlock_in_step :
    (7 = headLen exampleBlock 0 + announced exampleBlock 0 ↔
      AnnouncedWhole exampleBlock 0 none .protocolCompression) ∧
    blockStarts exampleBlock 0 14 none .protocolCompression maxFields 0 =
      announcedStarts exampleBlock 0 14 maxFields 0 := by
  have hstarts : announcedStarts exampleBlock 0 14 maxFields 0 = [0, 7] := by decide
  have hwhole : ∀ start ∈ [0, 7], AnnouncedWhole exampleBlock (0 + start) none
      .protocolCompression := by
    simp only [List.forall_mem_cons, List.not_mem_nil, false_implies, implies_true, and_true]
    refine ⟨⟨1, rfl, by decide, ?_⟩, 1, rfl, by decide, ?_⟩
    · rintro rs hrs
      obtain rfl : sapiRange :: rfc1144Ranges = rs := Option.some_inj.mp hrs
      exact ⟨_, List.prefix_rfl, rfl, by decide, by decide, trivial⟩
    · rintro rs hrs
      obtain rfl : sapiRange :: rfc1144Ranges = rs := Option.some_inj.mp hrs
      exact ⟨_, List.prefix_rfl, rfl, by decide, by decide, trivial⟩
  have h := in_step_iff exampleBlock none .protocolCompression
  exact ⟨h.1 0 14 ⟨true, 0, 0, [1, 2], some (.rfc1144 ⟨[5], 7⟩)⟩ 7 rfl,
    h.2 0 14 [] [⟨true, 1, 0, [3, 4], some (.rfc1144 ⟨[6], 15⟩)⟩,
      ⟨true, 0, 0, [1, 2], some (.rfc1144 ⟨[5], 7⟩)⟩] rfl (hstarts ▸ hwhole)⟩

/-- An octet behind the parameters of RFC 1144 is announced, but is not consumed; it is decoded as
the next field. -/
theorem excess_octet_out_of_step :
    decodeCompField (message [0x80, 0, 5, 0x12, 0, 0x20, 7, 0x81] fun _ ↦ 0) 0 8 none
        .protocolCompression = some (⟨true, 0, 0, [1, 2], some (.rfc1144 ⟨[5], 7⟩)⟩, 7) ∧
      headLen (message [0x80, 0, 5, 0x12, 0, 0x20, 7, 0x81] fun _ ↦ 0) 0 +
        announced (message [0x80, 0, 5, 0x12, 0, 0x20, 7, 0x81] fun _ ↦ 0) 0 = 8 ∧
      blockStarts (message [0x80, 0, 5, 0x12, 0, 0x20, 7, 0x81] fun _ ↦ 0) 0 8 none
        .protocolCompression maxFields 0 = [0, 7] :=
  ⟨rfl, rfl, rfl⟩

end OsmoSgsn.Sndcp
