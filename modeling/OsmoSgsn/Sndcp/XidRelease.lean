import OsmoSgsn.Library.BlockTree
import OsmoSgsn.Sndcp.Xid

/-!
# Who frees the list

`gprs_sndcp_parse_xid` allocates the list of fields, and each field is a block below it. The decoder
of the elements, `gprs_sndcp_decode_xid`, frees the list on each of its error exits, and so does its
caller when it is told of the error: a message that the decoder refuses has its list freed twice.
The decoder of a block only frees what it has allocated itself, and a list that cannot be completed
from the request is freed once.

The functions of the decoder come a second time here, as programs that allocate and free, with the
decoding itself as it was. What they return is what the functions without a heap return.
-/

namespace OsmoSgsn.Sndcp

open BlockHeap

/-! ## Well-formed messages -/

section WellFormed

variable (mem : Mem) (lt : Option (List EntityAlgo))

/-- A sequence of so many fields from a position on, the last of which reaches the end. -/
inductive FieldsOf (compclass : XidParamType) (stop : ℕ) : ℕ → ℕ → Prop
  | last {pos w : ℕ} {f : CompField}
      (hfield : decodeCompField mem pos (stop - pos) lt compclass = some (f, w))
      (hstop : stop ≤ pos + w) : FieldsOf compclass stop pos 1
  | more {pos w n : ℕ} {f : CompField}
      (hfield : decodeCompField mem pos (stop - pos) lt compclass = some (f, w))
      (hstop : pos + w < stop) (hrest : FieldsOf compclass stop (pos + w) n) :
      FieldsOf compclass stop pos (n + 1)

/-- The value of an element: a version number, or at most 65 fields. -/
def ValueOf (tag : XidParamType) (val tagLen : ℕ) : Prop :=
  tag ≠ .versionNumber → ∃ n ≤ maxFields, FieldsOf mem lt tag (val + tagLen) val n

/-- A sequence of so many elements from a position on, with at most two octets behind the last. -/
inductive ElementsOf (srcLen : ℕ) : ℕ → ℕ → Prop
  | last {pos tagLen : ℕ} {tag : XidParamType}
      (htlv : tlvParseOne mem pos (srcLen - pos) = some (tag, tagLen))
      (hvalue : ValueOf mem lt tag (pos + 2) tagLen)
      (hstop : srcLen - (pos + 2 + tagLen) ≤ 2) : ElementsOf srcLen pos 1
  | more {pos tagLen n : ℕ} {tag : XidParamType}
      (htlv : tlvParseOne mem pos (srcLen - pos) = some (tag, tagLen))
      (hvalue : ValueOf mem lt tag (pos + 2) tagLen)
      (hstop : 2 < srcLen - (pos + 2 + tagLen)) (hrest : ElementsOf srcLen (pos + 2 + tagLen) n) :
      ElementsOf srcLen pos (n + 1)

/-- A message of at most three elements. -/
def WellFormedXid (srcLen : ℕ) : Prop := ∃ n ≤ 3, ElementsOf mem lt srcLen 0 n

end WellFormed

section Accepted

variable {mem : Mem} {lt : Option (List EntityAlgo)}

theorem decodeXidBlock_isSome_iff {val tagLen : ℕ} {compclass : XidParamType} {n byteCounter : ℕ}
    {fields : List CompField} :
    (decodeXidBlock mem val tagLen lt compclass n byteCounter fields).isSome ↔
      ∃ k ≤ n, FieldsOf mem lt compclass (val + tagLen) (val + byteCounter) k := by
  induction n generalizing byteCounter fields with
  | zero =>
    simp only [decodeXidBlock, Option.isSome_none, Bool.false_eq_true, false_iff]
    rintro ⟨k, hk, hfields⟩
    obtain rfl := Nat.le_zero.mp hk
    cases hfields
  | succ n ih =>
    have hleft : val + tagLen - (val + byteCounter) = tagLen - byteCounter := by omega
    rw [decodeXidBlock]
    cases hfield : decodeCompField mem (val + byteCounter) (tagLen - byteCounter) lt compclass with
    | none =>
      simp only [Option.isSome_none, Bool.false_eq_true, false_iff]
      rintro ⟨k, -, hfields⟩
      cases hfields with
      | last hfield' => rw [hleft, hfield] at hfield'; cases hfield'
      | more hfield' => rw [hleft, hfield] at hfield'; cases hfield'
    | some decoded =>
      obtain ⟨f, rc⟩ := decoded
      dsimp only
      split
      · rename_i hmore
        rw [ih]
        constructor
        · rintro ⟨k, hk, hrest⟩
          refine ⟨k + 1, Nat.succ_le_succ hk, .more (hleft ▸ hfield) (by omega) ?_⟩
          rw [Nat.add_assoc]
          exact hrest
        · rintro ⟨k, hk, hfields⟩
          cases hfields with
          | last hfield' hstop =>
            rw [hleft, hfield] at hfield'
            obtain ⟨rfl, rfl⟩ := Prod.mk.inj (Option.some.inj hfield')
            omega
          | more hfield' hstop hrest =>
            rw [hleft, hfield] at hfield'
            obtain ⟨rfl, rfl⟩ := Prod.mk.inj (Option.some.inj hfield')
            rw [Nat.add_assoc] at hrest
            exact ⟨_, Nat.le_of_succ_le_succ hk, hrest⟩
      · rename_i hlast
        simp only [Option.isSome_some, true_iff]
        exact ⟨1, Nat.succ_le_succ (Nat.zero_le n), .last (hleft ▸ hfield) (by omega)⟩

/-- The value of an element is decoded exactly if it is one. -/
theorem valueOf_iff {tag : XidParamType} {val tagLen : ℕ} {fields : List CompField} :
    (if tag = .versionNumber then some fields
      else decodeXidBlock mem val tagLen lt tag maxFields 0 fields).isSome ↔
      ValueOf mem lt tag val tagLen := by
  unfold ValueOf
  split
  · rename_i htag
    simp [htag]
  · rename_i htag
    rw [decodeXidBlock_isSome_iff, forall_prop_of_true htag, Nat.add_zero]

theorem decodeElements_isSome_iff {srcLen n srcPos : ℕ} {version : ℤ} {fields : List CompField} :
    (decodeElements mem srcLen lt n srcPos version fields).isSome ↔
      ∃ k ≤ n, ElementsOf mem lt srcLen srcPos k := by
  induction n generalizing srcPos version fields with
  | zero =>
    simp only [decodeElements, Option.isSome_none, Bool.false_eq_true, false_iff]
    rintro ⟨k, hk, helements⟩
    obtain rfl := Nat.le_zero.mp hk
    cases helements
  | succ n ih =>
    rw [decodeElements]
    cases htlv : tlvParseOne mem srcPos (srcLen - srcPos) with
    | none =>
      simp only [Option.isSome_none, Bool.false_eq_true, false_iff]
      rintro ⟨k, -, helements⟩
      cases helements with
      | last htlv' => rw [htlv] at htlv'; cases htlv'
      | more htlv' => rw [htlv] at htlv'; cases htlv'
    | some element =>
      obtain ⟨tag, tagLen⟩ := element
      have hvalue := @valueOf_iff mem lt tag (srcPos + 2) tagLen fields
      dsimp only
      cases hdecoded : (if tag = .versionNumber then some fields
          else decodeXidBlock mem (srcPos + 2) tagLen lt tag maxFields 0 fields) with
      | none =>
        rw [hdecoded] at hvalue
        simp only [Option.isSome_none, Bool.false_eq_true, false_iff] at hvalue ⊢
        rintro ⟨k, -, helements⟩
        cases helements with
        | last htlv' hvalue' =>
          obtain ⟨rfl, rfl⟩ := Prod.mk.inj (Option.some.inj (htlv.symm.trans htlv'))
          exact hvalue hvalue'
        | more htlv' hvalue' =>
          obtain ⟨rfl, rfl⟩ := Prod.mk.inj (Option.some.inj (htlv.symm.trans htlv'))
          exact hvalue hvalue'
      | some decoded =>
        rw [hdecoded] at hvalue
        have hvalue : ValueOf mem lt tag (srcPos + 2) tagLen := hvalue.mp rfl
        dsimp only
        split
        · rename_i hlast
          simp only [Option.isSome_some, true_iff]
          exact ⟨1, Nat.succ_le_succ (Nat.zero_le n), .last htlv hvalue hlast⟩
        · rename_i hmore
          rw [ih]
          constructor
          · rintro ⟨k, hk, hrest⟩
            exact ⟨k + 1, Nat.succ_le_succ hk, .more htlv hvalue (by omega) hrest⟩
          · rintro ⟨k, hk, helements⟩
            cases helements with
            | last htlv' _ hstop =>
              obtain ⟨rfl, rfl⟩ := Prod.mk.inj (Option.some.inj (htlv.symm.trans htlv'))
              exact absurd hstop hmore
            | more htlv' _ _ hrest =>
              obtain ⟨rfl, rfl⟩ := Prod.mk.inj (Option.some.inj (htlv.symm.trans htlv'))
              exact ⟨_, Nat.le_of_succ_le_succ hk, hrest⟩

/-- **The messages that are decoded** are the well-formed ones. -/
theorem gprsSndcpDecodeXid_isSome_iff {srcLen : ℕ} :
    (gprsSndcpDecodeXid mem srcLen lt).isSome ↔ WellFormedXid mem lt srcLen :=
  decodeElements_isSome_iff

end Accepted

/-! ## The decoder with its blocks -/

namespace OnHeap

/-- Whether there is a decoder for the parameters of an algorithm, which has a block for them. -/
def hasParams (compclass : XidParamType) (algo : ℤ) : Bool :=
  match compclass with
  | .protocolCompression => algo = 0 ∨ algo = 1 ∨ algo = 2
  | .dataCompression => algo = 0 ∨ algo = 1
  | _ => false

section

variable (mem : Mem) (lt : Option (List EntityAlgo))

/-- `decode_pcomp_params` and `decode_dcomp_params`: a block for the parameters, which is freed if
they fail. -/
def decodeCompParams (field : Block) (pos srcLen : ℕ) (compclass : XidParamType) (algo : ℤ) :
    Prog (Option (Option CompParams × ℕ)) := do
  if hasParams compclass algo then
    let params ← alloc field
    match Sndcp.decodeCompParams mem pos srcLen compclass algo with
    | none =>
      free params
      pure none
    | some decoded => pure (some decoded)
  else pure (Sndcp.decodeCompParams mem pos srcLen compclass algo)

/-- `decode_comp_field`. -/
def decodeCompField (field : Block) (pos srcLen : ℕ) (compclass : XidParamType) :
    Prog (Option (CompField × ℕ)) := do
  if srcLen < 1 then pure none
  else
    let p : Bool := (mem pos).toNat.testBit 7
    let entity := (mem pos).toNat % 32
    let algo : ℤ := if p then ((mem (pos + 1)).toNat % 32 : ℕ)
      else lookupAlgorithmIdentifier compclass entity lt
    let hdr := if p then 2 else 1
    let len := (mem (pos + hdr)).toNat
    match decodeCompValues mem (pos + hdr + 1) p compclass algo with
    | none => pure none
    | some (comp, n) =>
      let left := (((len : ℤ) - n) % 2 ^ 32).toNat
      match ← decodeCompParams mem field (pos + hdr + 1 + n) left compclass algo with
      | none => pure none
      | some (params, m) => pure (some (⟨p, entity, algo, comp, params⟩, hdr + 1 + n + m))

/-- `decode_xid_block`: a field that fails is freed, the list is not. -/
def decodeXidBlock (compFields : Block) (val tagLen : ℕ) (compclass : XidParamType) :
    ℕ → ℕ → List CompField → Prog (Option (List CompField))
  | 0, _, _ => pure none
  | n + 1, byteCounter, fields => do
    let field ← alloc compFields
    match ← decodeCompField mem lt field (val + byteCounter) (tagLen - byteCounter) compclass with
    | none =>
      free field
      pure none
    | some (f, rc) =>
      if byteCounter + rc < tagLen then
        decodeXidBlock compFields val tagLen compclass n (byteCounter + rc) (f :: fields)
      else pure (some (f :: fields))

/-- The value of an element. -/
def decodeValue (compFields : Block) (tag : XidParamType) (val tagLen : ℕ)
    (fields : List CompField) : Prog (Option (List CompField)) :=
  if tag = .versionNumber then pure (some fields)
  else decodeXidBlock mem lt compFields val tagLen tag maxFields 0 fields

/-- The loop of `gprs_sndcp_decode_xid`: each of its error exits frees the list. -/
def decodeElements (compFields : Block) (srcLen : ℕ) :
    ℕ → ℕ → ℤ → List CompField → Prog (Option (ℤ × List CompField))
  | 0, _, _, _ => do
    free compFields
    pure none
  | n + 1, srcPos, version, fields => do
    match tlvParseOne mem srcPos (srcLen - srcPos) with
    | none =>
      free compFields
      pure none
    | some (tag, tagLen) =>
      let version := if tag = .versionNumber then ((mem (srcPos + 2)).toNat : ℤ) else version
      match ← decodeValue mem lt compFields tag (srcPos + 2) tagLen fields with
      | none =>
        free compFields
        pure none
      | some fields =>
        let srcPos := srcPos + 2 + tagLen
        if srcLen - srcPos ≤ 2 then pure (some (version, fields))
        else decodeElements compFields srcLen n srcPos version fields

/-- `gprs_sndcp_decode_xid`. -/
def gprsSndcpDecodeXid (compFields : Block) (srcLen : ℕ) : Prog (Option (ℤ × List CompField)) :=
  decodeElements mem lt compFields srcLen 3 0 (-1) []

end

/-- `gprs_sndcp_parse_xid`. The context of the caller outlives the call, so the list is at the top.
The table of a request can always be filled. -/
def gprsSndcpParseXid (mem : Mem) (srcLen : ℕ) (req : Option (List CompField)) :
    Prog (Option (Block × ℤ × List CompField)) := do
  if srcLen = 0 then pure none
  else
    let compFields ← alloc []
    match req with
    | some req =>
      match ← gprsSndcpDecodeXid mem (some (gprsSndcpFillTable req)) compFields srcLen with
      | none =>
        free compFields
        pure none
      | some (version, fields) =>
        match gprsSndcpCompleteCompFields fields req with
        | none =>
          free compFields
          pure none
        | some fields => pure (some (compFields, version, fields))
    | none =>
      match ← gprsSndcpDecodeXid mem none compFields srcLen with
      | none =>
        free compFields
        pure none
      | some (version, fields) => pure (some (compFields, version, fields))

/-! ## What the parts do -/

section

variable {mem : Mem} {lt : Option (List EntityAlgo)} {h : BlockHeap}

theorem wp_decodeCompParams {field : Block} (hfield : field ∈ h.live) (pos srcLen : ℕ)
    (compclass : XidParamType) (algo : ℤ) :
    EStateM.wp (decodeCompParams mem field pos srcLen compclass algo)
      (fun decoded h' ↦ decoded = Sndcp.decodeCompParams mem pos srcLen compclass algo ∧
        Below field h h') (fun _ _ ↦ False) h := by
  unfold decodeCompParams
  split
  · rw [EStateM.wp_bind]
    refine wp_alloc hfield fun params h' hparams hlive hbelow ↦ ?_
    cases Sndcp.decodeCompParams mem pos srcLen compclass algo with
    | none =>
      dsimp only
      rw [EStateM.wp_bind]
      refine wp_free hlive ⟨rfl, hbelow.trans (Below.release ?_ ?_)⟩
      · exact hparams ▸ List.prefix_append _ _
      · exact hparams ▸ ne_append_singleton _ _
    | some decoded => exact ⟨rfl, hbelow⟩
  · exact ⟨rfl, .refl _ _⟩

theorem wp_decodeCompField {field : Block} (hfield : field ∈ h.live) (pos srcLen : ℕ)
    (compclass : XidParamType) :
    EStateM.wp (decodeCompField mem lt field pos srcLen compclass)
      (fun decoded h' ↦ decoded = Sndcp.decodeCompField mem pos srcLen lt compclass ∧
        Below field h h') (fun _ _ ↦ False) h := by
  unfold decodeCompField Sndcp.decodeCompField
  split
  · exact ⟨rfl, .refl _ _⟩
  · dsimp only
    generalize decodeCompValues mem _ _ compclass _ = values
    cases values with
    | none => exact ⟨rfl, .refl _ _⟩
    | some values =>
      obtain ⟨comp, n⟩ := values
      dsimp only
      rw [EStateM.wp_bind]
      refine EStateM.wp_mono (wp_decodeCompParams hfield _ _ _ _) ?_ fun _ _ ↦ False.elim
      rintro decoded h' ⟨hdecoded, hbelow⟩
      rw [← hdecoded]
      cases decoded with
      | none => exact ⟨rfl, hbelow⟩
      | some decoded => exact ⟨rfl, hbelow⟩

/-- A block of fields leaves everything outside the list alone. -/
theorem wp_decodeXidBlock {compFields : Block} (hlist : compFields ∈ h.live) (val tagLen : ℕ)
    (compclass : XidParamType) (n byteCounter : ℕ) (fields : List CompField) :
    EStateM.wp (decodeXidBlock mem lt compFields val tagLen compclass n byteCounter fields)
      (fun decoded h' ↦
        decoded = Sndcp.decodeXidBlock mem val tagLen lt compclass n byteCounter fields ∧
        Below compFields h h') (fun _ _ ↦ False) h := by
  induction n generalizing byteCounter fields h with
  | zero => exact ⟨rfl, .refl _ _⟩
  | succ n ih =>
    unfold decodeXidBlock Sndcp.decodeXidBlock
    rw [EStateM.wp_bind]
    refine wp_alloc hlist fun field h₁ hfield hlive hbelow ↦ ?_
    have hbegins : compFields <+: field := hfield ▸ List.prefix_append _ _
    have hne : compFields ≠ field := hfield ▸ ne_append_singleton _ _
    rw [EStateM.wp_bind]
    refine EStateM.wp_mono (wp_decodeCompField hlive _ _ _) ?_ fun _ _ ↦ False.elim
    rintro _ h₂ ⟨rfl, hinner⟩
    have hall : Below compFields h h₂ := hbelow.trans (hinner.mono hbegins hne)
    cases Sndcp.decodeCompField mem (val + byteCounter) (tagLen - byteCounter) lt compclass with
    | none =>
      dsimp only
      rw [EStateM.wp_bind]
      exact wp_free (hinner.alive hlive) ⟨rfl, hall.trans (.release hbegins hne)⟩
    | some decoded =>
      obtain ⟨f, rc⟩ := decoded
      dsimp only
      split
      · refine EStateM.wp_mono (ih (hall.alive hlist) _ _) ?_ fun _ _ ↦ False.elim
        rintro _ h₃ ⟨rfl, hrest⟩
        exact ⟨rfl, hall.trans hrest⟩
      · exact ⟨rfl, hall⟩

theorem wp_decodeValue {compFields : Block} (hlist : compFields ∈ h.live) (tag : XidParamType)
    (val tagLen : ℕ) (fields : List CompField) :
    EStateM.wp (decodeValue mem lt compFields tag val tagLen fields)
      (fun decoded h' ↦ decoded = (if tag = .versionNumber then some fields
        else Sndcp.decodeXidBlock mem val tagLen lt tag maxFields 0 fields) ∧
        Below compFields h h') (fun _ _ ↦ False) h := by
  unfold decodeValue
  split
  · exact ⟨rfl, .refl _ _⟩
  · exact wp_decodeXidBlock hlist _ _ _ _ _ _

/-- What the decoder of the elements leaves: the list with what was decoded, or nothing of it. -/
def DecodedOrFreed (compFields : Block) (h : BlockHeap) :
    Option (ℤ × List CompField) → BlockHeap → Prop
  | some _, h' => Below compFields h h'
  | none, h' => ∃ h₁, Below compFields h h₁ ∧ h' = h₁.release compFields

/-- An error exit of the decoder. -/
theorem wp_exit {α : Type} {compFields : Block} {h₁ : BlockHeap} (hlist : compFields ∈ h.live)
    (hbelow : Below compFields h h₁) {Q : Option α → BlockHeap → Prop}
    (hQ : Q none (h₁.release compFields)) :
    EStateM.wp (do free compFields; pure none) Q (fun _ _ ↦ False) h₁ := by
  rw [EStateM.wp_bind]
  exact wp_free (hbelow.alive hlist) hQ

theorem wp_decodeElements {compFields : Block} (hlist : compFields ∈ h.live) (srcLen n srcPos : ℕ)
    (version : ℤ) (fields : List CompField) :
    EStateM.wp (decodeElements mem lt compFields srcLen n srcPos version fields)
      (fun decoded h' ↦
        decoded = Sndcp.decodeElements mem srcLen lt n srcPos version fields ∧
        DecodedOrFreed compFields h decoded h') (fun _ _ ↦ False) h := by
  induction n generalizing srcPos version fields h with
  | zero => exact wp_exit hlist (.refl _ _) ⟨rfl, h, .refl _ _, rfl⟩
  | succ n ih =>
    unfold decodeElements Sndcp.decodeElements
    cases tlvParseOne mem srcPos (srcLen - srcPos) with
    | none => exact wp_exit hlist (.refl _ _) ⟨rfl, h, .refl _ _, rfl⟩
    | some element =>
      obtain ⟨tag, tagLen⟩ := element
      dsimp only
      rw [EStateM.wp_bind]
      refine EStateM.wp_mono (wp_decodeValue hlist _ _ _ _) ?_ fun _ _ ↦ False.elim
      rintro decoded h₁ ⟨hdecoded, hbelow⟩
      rw [← hdecoded]
      cases decoded with
      | none => exact wp_exit hlist hbelow ⟨rfl, h₁, hbelow, rfl⟩
      | some fields =>
        dsimp only
        split
        · exact ⟨rfl, hbelow⟩
        · refine EStateM.wp_mono (ih (hbelow.alive hlist) _ _ _) ?_ fun _ _ ↦ False.elim
          rintro decoded h₂ ⟨hrest, hfreed⟩
          refine ⟨hrest, ?_⟩
          cases decoded with
          | none =>
            obtain ⟨h₃, hbelow', rfl⟩ := hfreed
            exact ⟨h₃, hbelow.trans hbelow', rfl⟩
          | some decoded => exact hbelow.trans hfreed

end

end OnHeap

/-! ## The whole of a message -/

/-- The list that is allocated for a message. -/
def newList (h : BlockHeap) : Block := [h.next]

/-- The message is refused, with the list freed once and no block left of it. -/
def FreedOnce (mem : Mem) (srcLen : ℕ) (req : Option (List CompField)) (h : BlockHeap) : Prop :=
  ∃ h', OnHeap.gprsSndcpParseXid mem srcLen req h = .ok none h' ∧ h'.live = h.live ∧
    h'.freed.count (newList h) = h.freed.count (newList h) + 1

/-- The heap with a list in it. -/
def withList (h : BlockHeap) : BlockHeap := h.insertBelow [] (.inl rfl)

theorem newList_mem (h : BlockHeap) : newList h ∈ (withList h).live := Finset.mem_insert_self _ _

/-- Nothing is below a new list but the list. -/
theorem filter_withList (h : BlockHeap) :
    (withList h).live.filter (fun x ↦ ¬ newList h <+: x) = h.live := by
  change (insert (newList h) h.live).filter (fun x ↦ ¬ newList h <+: x) = h.live
  rw [Finset.filter_insert, if_neg (not_not.mpr (List.prefix_refl _))]
  refine Finset.filter_true_of_mem fun b hb hbegins ↦ ?_
  have hmem : h.next ∈ b := hbegins.subset (List.mem_singleton.mpr rfl)
  exact absurd (h.fresh b hb h.next hmem) (lt_irrefl _)

section

variable {mem : Mem} {srcLen : ℕ} {h : BlockHeap}

theorem decodeXid_run (mem : Mem) (lt : Option (List EntityAlgo)) (srcLen : ℕ) (h : BlockHeap) :
    ∃ h₁, Below (newList h) (withList h) h₁ ∧
      OnHeap.gprsSndcpDecodeXid mem lt (newList h) srcLen (withList h) =
        match gprsSndcpDecodeXid mem srcLen lt with
        | none => .ok none (h₁.release (newList h))
        | some decoded => .ok (some decoded) h₁ := by
  have hwp := @OnHeap.wp_decodeElements mem lt _ _ (newList_mem h) srcLen 3 0 (-1) []
  cases hrun : OnHeap.gprsSndcpDecodeXid mem lt (newList h) srcLen (withList h) with
  | error e h' => exact (EStateM.wp_error hwp hrun).elim
  | ok decoded h' =>
    obtain ⟨hdecoded, hleft⟩ := EStateM.wp_ok hwp hrun
    change decoded = gprsSndcpDecodeXid mem srcLen lt at hdecoded
    rw [← hdecoded]
    cases decoded with
    | none =>
      obtain ⟨h₁, hbelow, rfl⟩ := hleft
      exact ⟨h₁, hbelow, rfl⟩
    | some decoded => exact ⟨h', hleft, rfl⟩

/-- **What a message does to the heap.** A message that the decoder refuses ends in a second free of
the list. Any other one has the answer of the functions without a heap: refused with the list freed,
or accepted with the list live. -/
theorem parseXid_run (mem : Mem) {srcLen : ℕ} (hlen : 0 < srcLen) (req : Option (List CompField))
    (h : BlockHeap) :
    ∃ h₁, Below (newList h) (withList h) h₁ ∧ OnHeap.gprsSndcpParseXid mem srcLen req h =
      match gprsSndcpDecodeXid mem srcLen (req.map gprsSndcpFillTable) with
      | none => .error (.notLive (newList h)) (h₁.release (newList h))
      | some _ =>
        match gprsSndcpParseXid mem srcLen req with
        | none => .ok none (h₁.release (newList h))
        | some (version, fields) => .ok (some (newList h, version, fields)) h₁ := by
  obtain ⟨h₁, hbelow, hrun⟩ := decodeXid_run mem (req.map gprsSndcpFillTable) srcLen h
  refine ⟨h₁, hbelow, ?_⟩
  have hlive : newList h ∈ h₁.live := hbelow.alive (newList_mem h)
  have hgone := free_eq_error (not_mem_release h₁ (newList h))
  have hfree : free (newList h) h₁ = .ok () (h₁.release (newList h)) := by
    unfold free
    rw [EStateM.get_bind_apply, if_pos hlive]
    rfl
  have hname : ([] : Block) ++ [h.next] = newList h := rfl
  unfold OnHeap.gprsSndcpParseXid gprsSndcpParseXid
  rw [if_neg hlen.ne', if_neg hlen.ne']
  cases req with
  | none =>
    change (OnHeap.gprsSndcpDecodeXid mem none (newList h) srcLen >>= _) (withList h) = _
    rw [Option.map_none] at hrun ⊢
    cases hdecoded : gprsSndcpDecodeXid mem srcLen none with
    | none =>
      rw [hdecoded] at hrun
      simp only [bind, EStateM.bind, hrun, hname, hgone]
    | some decoded =>
      rw [hdecoded] at hrun
      simp only [bind, EStateM.bind, hrun]
      rfl
  | some req =>
    change (OnHeap.gprsSndcpDecodeXid mem (some (gprsSndcpFillTable req)) (newList h) srcLen >>= _)
      (withList h) = _
    rw [Option.map_some] at hrun ⊢
    cases hdecoded : gprsSndcpDecodeXid mem srcLen (some (gprsSndcpFillTable req)) with
    | none =>
      rw [hdecoded] at hrun
      simp only [bind, EStateM.bind, hrun, hname, hgone]
    | some decoded =>
      obtain ⟨version, fields⟩ := decoded
      rw [hdecoded] at hrun
      simp only [bind, EStateM.bind, hrun, hdecoded]
      cases gprsSndcpCompleteCompFields fields req with
      | none => simp only [EStateM.bind, hname, hfree, Option.map_none, pure, EStateM.pure]
      | some fields => rfl

/-- **Freed once.** For every message that is refused, with octets in it, and every request: the
list is freed exactly once if and only if the message is well-formed, so that it is refused because
it cannot be completed from the request. -/
theorem parseXid_freedOnce_iff (mem : Mem) {srcLen : ℕ} (hlen : 0 < srcLen)
    (req : Option (List CompField)) (h : BlockHeap)
    (hrefused : gprsSndcpParseXid mem srcLen req = none) :
    FreedOnce mem srcLen req h ↔ WellFormedXid mem (req.map gprsSndcpFillTable) srcLen := by
  obtain ⟨h₁, hbelow, hrun⟩ := parseXid_run mem hlen req h
  rw [← gprsSndcpDecodeXid_isSome_iff]
  constructor
  · rintro ⟨h', hok, -⟩
    rw [Option.isSome_iff_ne_none]
    intro hnone
    rw [hok, hnone] at hrun
    cases hrun
  · intro hsome
    obtain ⟨decoded, hdecoded⟩ := Option.isSome_iff_exists.mp hsome
    rw [hdecoded, hrefused] at hrun
    refine ⟨_, hrun, hbelow.release_live.trans (filter_withList h), hbelow.release_count⟩

/-- A response with RFC 1144 parameters, to a request with V.42bis parameters for the same
entity. -/
theorem parseXid_freedOnce_wrongParameters :
    FreedOnce (message [2, 6, 0x83, 0, 4, 0x12, 0, 0x20] fun _ ↦ 0) 8
      (some [⟨true, 3, 0, [], some (.v42bis ⟨[5], 0, 0, 0⟩)⟩]) .empty := by
  refine (parseXid_freedOnce_iff _ (by decide) _ _ (by decide)).mpr ?_
  exact gprsSndcpDecodeXid_isSome_iff.mp (by decide)

/-- An element with an unknown tag: the list is freed by the decoder, and then by its caller. -/
theorem parseXid_unknownTag_freedTwice :
    gprsSndcpParseXid (message [9, 0] fun _ ↦ 0) 2 none = none ∧
      OnHeap.gprsSndcpParseXid (message [9, 0] fun _ ↦ 0) 2 none .empty =
        .error (.notLive [0]) ((withList .empty).release [0]) ∧
      ¬ FreedOnce (message [9, 0] fun _ ↦ 0) 2 none .empty := by
  have hrun : OnHeap.gprsSndcpParseXid (message [9, 0] fun _ ↦ 0) 2 none .empty =
      .error (.notLive [0]) ((withList .empty).release [0]) := rfl
  refine ⟨by decide, hrun, ?_⟩
  rintro ⟨h', hok, -⟩
  rw [hrun] at hok
  cases hok

end

end OsmoSgsn.Sndcp
