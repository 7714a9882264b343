import OsmoSgsn.Gmm.Uplink
import OsmoSgsn.Library.Wp

/-!
# Which answers to a challenge are taken

`check_auth_resp` can tell the two radio accesses apart: over UTRAN the answer has to be that of
UMTS AKA, over GERAN a mobile station may answer with the SRES alone. Its only caller says GERAN
every time. Over Iu the four octets of the GSM answer are then enough, and a UMTS answer of a
context that is not of Release 99 is refused.

The answer is put together in sixteen octets. What an extension has beyond that is cut off before
the lengths are compared, so that an answer that is too long passes for its first sixteen octets.
-/

namespace OsmoSgsn.Gmm

/-! ## The check with its radio access -/

/-- `check_auth_resp` with its argument `is_utran`. -/
def checkAuthRespOn (isUtran : Bool) (mm : MmCtx) (res : Bytes) : SubAuthType :=
  let vec := mm.authTriplet.vec
  if isUtran ∨ (mm.isR99 ∧ vec.umts ∧ 4 < res.length) then
    if vec.umts ∧ res = vec.res then .umts else .none
  else if vec.gsm ∧ res = vec.sres then .gsm
  else .none

/-- The handler calls it for GERAN. -/
theorem checkAuthResp_eq (mm : MmCtx) (res : Bytes) :
    checkAuthResp mm res = checkAuthRespOn false mm res := by
  unfold checkAuthResp checkAuthRespOn
  by_cases hrule : mm.isR99 ∧ mm.authTriplet.vec.umts ∧ 4 < res.length
  · simp [hrule]
  · simp [hrule]

/-- The sizes of the arrays in `struct osmo_auth_vector`. -/
structure AuthVector.Sized (vec : AuthVector) : Prop where
  sres : vec.sres.length = 4
  res : vec.res.length ≤ 16

/-! ## What the handler writes -/

/-- The mandatory elements of a response: the IMEISV, and the SRES with the whole extension. -/
def AuthCiphResponse.answer (resp : AuthCiphResponse) : Option (Digits × Bytes) :=
  match resp.sres, resp.imeisv with
  | some sres, some (9, some (.imeisv imeisv)) => some (imeisv, sres ++ resp.resExt.getD [])
  | _, _ => none

theorem AuthCiphResponse.answer_cases (resp : AuthCiphResponse) :
    (∃ sres imeisv, resp.sres = some sres ∧ resp.imeisv = some (9, some (.imeisv imeisv)) ∧
      resp.answer = some (imeisv, sres ++ resp.resExt.getD [])) ∨
    (∀ sres imeisv, ¬ (resp.sres = some sres ∧ resp.imeisv = some (9, some (.imeisv imeisv)))) ∧
      resp.answer = none := by
  unfold AuthCiphResponse.answer
  split
  next sres imeisv hs hi => exact .inl ⟨sres, imeisv, hs, hi, rfl⟩
  next hno => exact .inr ⟨fun sres imeisv h ↦ hno sres imeisv h.1 h.2, rfl⟩

/-- A challenge is pending, and the response is to this one. -/
def Challenged (mm : MmCtx) (resp : AuthCiphResponse) : Prop :=
  mm.authTriplet.keySeq ≠ gsmKeySeqInval ∧ resp.acRefNr = mm.acRefNrUsed

instance (mm : MmCtx) (resp : AuthCiphResponse) : Decidable (Challenged mm resp) :=
  inferInstanceAs (Decidable (_ ∧ _))

/-- What `gsm48_rx_gmm_auth_ciph_resp` writes to `sec_ctx`, when it does. -/
def secCtxSet (mm : MmCtx) (resp : AuthCiphResponse) : Option SubAuthType :=
  if Challenged mm resp then resp.answer.map fun a ↦ checkAuthResp mm (a.2.take 16) else none

/-- The part of `gsm48_rx_gmm_auth_ciph_resp` behind the check. -/
def authCiphChecked (c : Calls) (id : CtxId) : SgsnM Unit := do
  if (← getMm id).isAuthenticated then
    modMm id fun mm ↦ match mm.ranType with
      | .utranIu => { mm with answered := true, newKey := true }
      | .geranGb => { mm with answered := true }
    attachAuthRespSuccess c id
  else authCiphRejected id

variable {c : Calls} {id : CtxId} {mm : MmCtx} {resp : AuthCiphResponse} {s : Sgsn}

/-- An answer begins with the four octets of the SRES, and the cut falls into the extension. -/
theorem take_sixteen_append {sres ext : Bytes} (hsres : sres.length = 4) :
    (sres ++ ext).take 16 = sres ++ ext.take 12 := by
  rw [List.take_append, hsres, List.take_of_length_le (by omega)]

theorem getMm_apply (hmm : s.ctxs id = some mm) : getMm id s = .ok mm s := by
  unfold getMm
  rw [EStateM.get_bind_apply, hmm]
  rfl

theorem modMm_apply (hmm : s.ctxs id = some mm) (f : MmCtx → MmCtx) :
    modMm id f s = .ok () (s.setCtx id (f mm)) := by
  unfold modMm
  rw [EStateM.bind_apply_ok (getMm_apply hmm)]
  rfl

/-- **The handler and its write.** A response that is taken up has `secCtxSet` written, before
anything is sent or any FSM runs; another one changes nothing but the timer. -/
theorem gsm48RxGmmAuthCiphResp_run (hmm : s.ctxs id = some mm)
    (hsres : ∀ sres ∈ resp.sres, sres.length = 4) :
    match secCtxSet mm resp with
    | some type => ∃ imei, gsm48RxGmmAuthCiphResp c id resp s =
        authCiphChecked c id (s.setCtx id { mm.timerStop with imei := imei, secCtx := type })
    | none => ∃ mm' ∈ [mm, mm.timerStop],
        gsm48RxGmmAuthCiphResp c id resp s = .ok () (s.setCtx id mm') := by
  have hself : s.setCtx id mm = s := by
    rw [Sgsn.setCtx, ← hmm, Function.update_eq_self]
  have hstopped : (s.setCtx id mm.timerStop).ctxs id = some mm.timerStop :=
    Function.update_self ..
  unfold gsm48RxGmmAuthCiphResp
  rw [EStateM.bind_apply_ok (getMm_apply hmm)]
  by_cases hseq : mm.authTriplet.keySeq = gsmKeySeqInval
  · have hset : secCtxSet mm resp = none := if_neg fun h ↦ h.1 hseq
    rw [hset, if_pos hseq]
    exact ⟨mm, List.mem_cons_self, by rw [hself]; rfl⟩
  rw [if_neg hseq]
  by_cases href : resp.acRefNr = mm.acRefNrUsed
  swap
  · have hset : secCtxSet mm resp = none := if_neg fun h ↦ href h.2
    rw [hset, if_pos href]
    exact ⟨mm, List.mem_cons_self, by rw [hself]; rfl⟩
  have hset : secCtxSet mm resp =
      resp.answer.map fun a ↦ checkAuthResp mm (a.2.take 16) := if_pos ⟨hseq, href⟩
  rw [if_neg (not_not_intro href), EStateM.bind_apply_ok (modMm_apply hmm _), hset]
  rcases resp.answer_cases with ⟨sres, imeisv, hs, hi, ha⟩ | ⟨hno, ha⟩
  · have hcut : (sres ++ resp.resExt.getD []).take 16 = sres ++ (resp.resExt.getD []).take 12 :=
      take_sixteen_append (hsres sres hs)
    have htwice : ∀ mm', (s.setCtx id mm.timerStop).setCtx id mm' = s.setCtx id mm' := by
      intro mm'
      rw [Sgsn.setCtx, Sgsn.setCtx, Function.update_idem]
      rfl
    rw [ha, Option.map_some, hcut, hs, hi]
    refine ⟨imeisv, (EStateM.bind_apply_ok (modMm_apply hstopped _)).trans ?_⟩
    rw [htwice]
    rfl
  · rw [ha]
    refine ⟨mm.timerStop, List.mem_cons_of_mem _ List.mem_cons_self, ?_⟩
    -- the choice between the two branches is made before the state is looked at
    refine congrFun (g := (pure () : SgsnM Unit)) ?_ _
    split
    next sres imeisv hs hi => exact (hno sres imeisv ⟨hs, hi⟩).elim
    next => rfl

/-! ## What it should take -/

/-- Over Gb an answer is that of UMTS AKA if it is longer than an SRES, the vector has UMTS and the
mobile station is of Release 99. -/
def UmtsExpected (mm : MmCtx) (r : Bytes) : Prop :=
  mm.isR99 ∧ mm.authTriplet.vec.umts ∧ 4 < r.length

/-- The answers that are right. -/
def RightAnswer (mm : MmCtx) (r : Bytes) : Prop :=
  let vec := mm.authTriplet.vec
  match mm.ranType with
  | .utranIu => vec.umts ∧ r = vec.res
  | .geranGb => (UmtsExpected mm r ∧ r = vec.res) ∨
      (¬ UmtsExpected mm r ∧ vec.gsm ∧ r.length = 4 ∧ r = vec.sres)

/-- With the radio access of the context, `check_auth_resp` takes the right answers. -/
theorem checkAuthRespOn_ne_none {r : Bytes} (hsres : mm.authTriplet.vec.sres.length = 4) :
    checkAuthRespOn (mm.ranType = .utranIu) mm r ≠ .none ↔ RightAnswer mm r := by
  unfold checkAuthRespOn RightAnswer UmtsExpected
  cases mm.ranType with
  | utranIu => simp
  | geranGb =>
    by_cases hrule : mm.isR99 ∧ mm.authTriplet.vec.umts ∧ 4 < r.length
    · simp [hrule]
    · simp [hrule]
      grind

/-- The answers that are judged as they should be. -/
def Judged (mm : MmCtx) (r : Bytes) : Prop :=
  let vec := mm.authTriplet.vec
  (UmtsExpected mm r → ¬ (16 < r.length ∧ r.take 16 = vec.res)) ∧
  (¬ UmtsExpected mm r → mm.ranType = .utranIu →
    (vec.gsm ∧ r = vec.sres ↔ vec.umts ∧ r = vec.res))

/-- The cut keeps an answer on its side of the four octets. -/
theorem umtsExpected_take {r : Bytes} : UmtsExpected mm (r.take 16) ↔ UmtsExpected mm r := by
  have hlength : 4 < (r.take 16).length ↔ 4 < r.length := by
    rw [List.length_take]
    omega
  unfold UmtsExpected
  rw [hlength]

/-- Where the UMTS answer is expected, only the cut can go wrong. -/
theorem checkAuthResp_right_iff_of_expected {r : Bytes} (hvec : mm.authTriplet.vec.Sized)
    (hrule : UmtsExpected mm r) :
    (checkAuthResp mm (r.take 16) ≠ .none ↔ RightAnswer mm r) ↔
      ¬ (16 < r.length ∧ r.take 16 = mm.authTriplet.vec.res) := by
  have htaken : checkAuthResp mm (r.take 16) ≠ .none ↔ r.take 16 = mm.authTriplet.vec.res := by
    have hrule' := umtsExpected_take.2 hrule
    unfold UmtsExpected at hrule'
    unfold checkAuthResp
    rw [if_pos hrule']
    by_cases heq : r.take 16 = mm.authTriplet.vec.res <;> simp [heq]
  have hright : RightAnswer mm r ↔ r = mm.authTriplet.vec.res := by
    unfold RightAnswer
    cases mm.ranType with
    | utranIu => simp [hrule.2.1]
    | geranGb => simp [hrule]
  rw [htaken, hright]
  rcases Nat.lt_or_ge 16 r.length with hlong | hshort
  · have hne : r ≠ mm.authTriplet.vec.res := by
      rintro rfl
      exact absurd hvec.res (by omega)
    simp [hlong, hne]
  · simp [List.take_of_length_le hshort, Nat.not_lt.2 hshort]

/-- Elsewhere the SRES is asked for, over Iu also. -/
theorem checkAuthResp_right_iff_of_not_expected {r : Bytes} (hvec : mm.authTriplet.vec.Sized)
    (hrule : ¬ UmtsExpected mm r) :
    (checkAuthResp mm (r.take 16) ≠ .none ↔ RightAnswer mm r) ↔
      (mm.ranType = .utranIu → (mm.authTriplet.vec.gsm ∧ r = mm.authTriplet.vec.sres ↔
        mm.authTriplet.vec.umts ∧ r = mm.authTriplet.vec.res)) := by
  have hcut : r.take 16 = mm.authTriplet.vec.sres ↔ r = mm.authTriplet.vec.sres := by
    have htake : r.length ≤ 16 → r.take 16 = r := List.take_of_length_le
    constructor
    · intro heq
      have hlength := congrArg List.length heq
      rw [List.length_take, hvec.sres] at hlength
      rw [← heq, htake (by omega)]
    · rintro rfl
      exact htake (by rw [hvec.sres]; decide)
  have htaken : checkAuthResp mm (r.take 16) ≠ .none ↔
      mm.authTriplet.vec.gsm ∧ r = mm.authTriplet.vec.sres := by
    have hrule' := umtsExpected_take.not.2 hrule
    unfold UmtsExpected at hrule'
    unfold checkAuthResp
    rw [if_neg hrule', ← hcut]
    by_cases hok : mm.authTriplet.vec.gsm ∧ r.take 16 = mm.authTriplet.vec.sres <;> simp [hok]
  rw [htaken]
  unfold RightAnswer
  cases mm.ranType with
  | utranIu => simp
  | geranGb =>
    simp only [hrule, false_and, not_false_eq_true, true_and, false_or, reduceCtorEq, false_implies,
      iff_true]
    constructor
    · rintro ⟨hgsm, rfl⟩
      exact ⟨hgsm, hvec.sres, rfl⟩
    · exact fun h ↦ ⟨h.1, h.2.2⟩

/-- **Where the check goes wrong.** -/
theorem checkAuthResp_right_iff {r : Bytes} (hvec : mm.authTriplet.vec.Sized) :
    (checkAuthResp mm (r.take 16) ≠ .none ↔ RightAnswer mm r) ↔ Judged mm r := by
  by_cases hrule : UmtsExpected mm r
  · rw [checkAuthResp_right_iff_of_expected hvec hrule]
    simp [Judged, hrule]
  · rw [checkAuthResp_right_iff_of_not_expected hvec hrule]
    simp [Judged, hrule]

/-! ## The handler -/

/-- The response has the mandatory elements, and the answer in it is right. -/
def AnswersRightly (mm : MmCtx) (resp : AuthCiphResponse) : Prop :=
  ∃ a ∈ resp.answer, RightAnswer mm a.2

/-- **Exactly the right responses.** A response to a pending challenge has a security context other
than `NONE` set if and only if it is right, precisely where its answer is none of these: one that
matches after the cut only, and over Iu one which is expected to be UMTS but judged by the SRES. -/
theorem secCtxSet_right_iff (mm : MmCtx) (resp : AuthCiphResponse) (hasked : Challenged mm resp)
    (hvec : mm.authTriplet.vec.Sized) :
    ((∃ type ∈ secCtxSet mm resp, type ≠ .none) ↔ AnswersRightly mm resp) ↔
      ∀ a ∈ resp.answer, Judged mm a.2 := by
  unfold secCtxSet AnswersRightly
  rw [if_pos hasked]
  cases resp.answer with
  | none => simp
  | some a => simpa using checkAuthResp_right_iff hvec

/-- A context of Release 99 over Iu with a challenge that has both kinds of answer. -/
def challengedIu : MmCtx :=
  { MmCtx.fresh .utranIu ⟨[], 0, 0⟩ with
    authTriplet   := ⟨1, 0, ⟨true, true, [1, 2, 3, 4], [5, 6, 7, 8, 9, 10, 11, 12]⟩⟩
    msNetworkCapa := [1] }

/-- The UMTS answer to it. -/
theorem secCtxSet_right_iff_umtsAnswer :
    (∃ type ∈ secCtxSet challengedIu ⟨0, some [5, 6, 7, 8], some (9, some (.imeisv [1])),
      some [9, 10, 11, 12]⟩, type ≠ .none) ↔
    AnswersRightly challengedIu ⟨0, some [5, 6, 7, 8], some (9, some (.imeisv [1])),
      some [9, 10, 11, 12]⟩ := by
  refine (secCtxSet_right_iff _ _ (by decide) ⟨by decide, by decide⟩).2 ?_
  rintro a ha
  obtain rfl := Option.some.inj ha
  constructor
  · rintro -
    decide
  · intro hrule
    exact (hrule (by unfold UmtsExpected; decide)).elim

/-- The SRES alone is enough over Iu, where UMTS AKA is always expected. -/
theorem sres_accepted_over_iu :
    ¬ ((∃ type ∈ secCtxSet challengedIu ⟨0, some [1, 2, 3, 4], some (9, some (.imeisv [1])), none⟩,
        type ≠ .none) ↔
      AnswersRightly challengedIu ⟨0, some [1, 2, 3, 4], some (9, some (.imeisv [1])), none⟩) := by
  have hset : secCtxSet challengedIu ⟨0, some [1, 2, 3, 4], some (9, some (.imeisv [1])), none⟩ =
      some .gsm := by decide
  rw [hset]
  intro h
  obtain ⟨a, ha, hright⟩ := h.1 ⟨.gsm, rfl, by decide⟩
  obtain rfl := Option.some.inj ha
  exact absurd hright.2 (by decide)

end OsmoSgsn.Gmm
