import OsmoSgsn.Basic

/-!
# GPRS timers

The network tells a mobile its timers in an octet each: three bits for a unit and five for how many
of them. Most numbers of seconds have no octet of their own, and the source takes the one below.

That the octet is the one below is all there is to it: its time is the greatest, of all times that
an octet can have, that does not exceed what was asked for. That the encoding is monotone, never
too long and exact where it can be is then true of any greatest element.
-/

namespace OsmoSgsn.Gmm

/-! ## Encoding and decoding -/

/-- `GPRS_TMR_2SECONDS`, `GPRS_TMR_MINUTE`, `GPRS_TMR_6MINUTE` and `GPRS_TMR_DEACTIVATED`. -/
def gprsTmr2Seconds : ℕ := 0 <<< 5
def gprsTmrMinute : ℕ := 1 <<< 5
def gprsTmr6Minute : ℕ := 2 <<< 5
def gprsTmrDeactivated : ℕ := 7 <<< 5

def gprsTmrUnitMask : ℕ := 7 <<< 5
def gprsTmrFactMask : ℕ := 1 <<< 5 - 1

/-- `gprs_secs_to_tmr_floor`. -/
def gprsSecsToTmrFloor (secs : ℤ) : UInt8 :=
  if secs < 0 then .ofNat gprsTmrDeactivated
  else if secs < 2 * 32 then .ofNat (gprsTmr2Seconds ||| (secs / 2).toNat)
  else if secs < 60 * 2 then .ofNat (gprsTmr2Seconds ||| gprsTmrFactMask)
  else if secs < 60 * 32 then .ofNat (gprsTmrMinute ||| (secs / 60).toNat)
  else if secs < 360 * 6 then .ofNat (gprsTmrMinute ||| gprsTmrFactMask)
  else if secs < 360 * 32 then .ofNat (gprsTmr6Minute ||| (secs / 360).toNat)
  else .ofNat (gprsTmr6Minute ||| gprsTmrFactMask)

/-- The unit of a timer, in seconds. Units that are not defined are minutes, and a timer can be
deactivated. -/
def gprsTmrUnit (tmr : UInt8) : Option ℤ :=
  let unit := tmr.toNat &&& gprsTmrUnitMask
  if unit = gprsTmr2Seconds then some 2
  else if unit = gprsTmr6Minute then some 360
  else if unit = gprsTmrDeactivated then none
  else some 60

/-- `gprs_tmr_to_secs`, with which the test of the source decodes a timer. -/
def gprsTmrToSecs (tmr : UInt8) : ℤ :=
  match gprsTmrUnit tmr with
  | some unit => unit * ((tmr.toNat % 32 : ℕ) : ℤ)
  | none => -1

/-- The times that a timer can have. -/
def encodable : Set ℤ := {v | ∃ tmr, gprsTmrUnit tmr ≠ none ∧ gprsTmrToSecs tmr = v}

/-! ## The laws -/

theorem gprsTmrToSecs_2Seconds {i : ℕ} (h : i < 32) :
    gprsTmrToSecs (.ofNat (gprsTmr2Seconds ||| i)) = 2 * i := by
  have hall : ∀ i : Fin 32, gprsTmrToSecs (.ofNat (gprsTmr2Seconds ||| i)) = 2 * i := by decide
  exact hall ⟨i, h⟩

theorem gprsTmrToSecs_minute {i : ℕ} (h : i < 32) :
    gprsTmrToSecs (.ofNat (gprsTmrMinute ||| i)) = 60 * i := by
  have hall : ∀ i : Fin 32, gprsTmrToSecs (.ofNat (gprsTmrMinute ||| i)) = 60 * i := by decide
  exact hall ⟨i, h⟩

theorem gprsTmrToSecs_6Minute {i : ℕ} (h : i < 32) :
    gprsTmrToSecs (.ofNat (gprsTmr6Minute ||| i)) = 360 * i := by
  have hall : ∀ i : Fin 32, gprsTmrToSecs (.ofNat (gprsTmr6Minute ||| i)) = 360 * i := by decide
  exact hall ⟨i, h⟩

/-- The time of the encoding, range by range. -/
theorem gprsTmrToSecs_floor {secs : ℤ} (h : 0 ≤ secs) :
    gprsTmrToSecs (gprsSecsToTmrFloor secs) =
      if secs < 64 then 2 * (secs / 2)
      else if secs < 120 then 62
      else if secs < 1920 then 60 * (secs / 60)
      else if secs < 2160 then 1860
      else if secs < 11520 then 360 * (secs / 360)
      else 11160 := by
  have hmask : gprsTmrFactMask < 32 := by decide
  unfold gprsSecsToTmrFloor
  rw [if_neg (not_lt.mpr h)]
  norm_num only
  split_ifs with h1 h2 h3 h4 h5
  · rw [gprsTmrToSecs_2Seconds (by omega), Int.toNat_of_nonneg (by omega)]
  · exact gprsTmrToSecs_2Seconds hmask
  · rw [gprsTmrToSecs_minute (by omega), Int.toNat_of_nonneg (by omega)]
  · exact gprsTmrToSecs_minute hmask
  · rw [gprsTmrToSecs_6Minute (by omega), Int.toNat_of_nonneg (by omega)]
  · exact gprsTmrToSecs_6Minute hmask

theorem gprsTmrUnit_cases {tmr : UInt8} {unit : ℤ} (h : gprsTmrUnit tmr = some unit) :
    unit = 2 ∨ unit = 60 ∨ unit = 360 := by
  simp only [gprsTmrUnit] at h
  split_ifs at h <;> simp_all

/-- A time that a timer can have is one of at most 31 units. -/
theorem eq_of_mem_encodable {v : ℤ} (h : v ∈ encodable) :
    ∃ i : ℤ, 0 ≤ i ∧ i < 32 ∧ (v = 2 * i ∨ v = 60 * i ∨ v = 360 * i) := by
  obtain ⟨tmr, hunit, rfl⟩ := h
  obtain ⟨unit, hsome⟩ := Option.ne_none_iff_exists'.mp hunit
  refine ⟨((tmr.toNat % 32 : ℕ) : ℤ), by omega, by omega, ?_⟩
  rw [gprsTmrToSecs, hsome]
  rcases gprsTmrUnit_cases hsome with rfl | rfl | rfl <;> simp

theorem mem_encodable {secs : ℤ} (h : 0 ≤ secs) :
    gprsTmrToSecs (gprsSecsToTmrFloor secs) ∈ encodable := by
  refine ⟨gprsSecsToTmrFloor secs, fun hnone ↦ ?_, rfl⟩
  have hminus : gprsTmrToSecs (gprsSecsToTmrFloor secs) = -1 := by rw [gprsTmrToSecs, hnone]
  rw [gprsTmrToSecs_floor h] at hminus
  split_ifs at hminus <;> omega

/-- **The encoding rounds down**: of the times that a timer can have and that are not above what
was asked for, the time of the encoding is the greatest. -/
theorem isGreatest_floor {secs : ℤ} (h : 0 ≤ secs) :
    IsGreatest {v ∈ encodable | v ≤ secs} (gprsTmrToSecs (gprsSecsToTmrFloor secs)) := by
  refine ⟨⟨mem_encodable h, ?_⟩, fun v hv ↦ ?_⟩
  · rw [gprsTmrToSecs_floor h]
    split_ifs <;> omega
  · obtain ⟨hv, hle⟩ := hv
    obtain ⟨i, hi, hi', hunit⟩ := eq_of_mem_encodable hv
    rw [gprsTmrToSecs_floor h]
    -- a value of a finer or a coarser unit than the range's own is bounded by the seams
    split_ifs <;> omega

/-- **The laws of the encoding**: it is monotone, never more than what was asked for, exact for a
time that a timer can have, and no such time is between the encoding and what was asked for. -/
theorem gprsSecsToTmrFloor_laws :
    (∀ secs secs' : ℤ, 0 ≤ secs → secs ≤ secs' →
      gprsTmrToSecs (gprsSecsToTmrFloor secs) ≤ gprsTmrToSecs (gprsSecsToTmrFloor secs')) ∧
    ∀ secs : ℤ, 0 ≤ secs →
      gprsTmrToSecs (gprsSecsToTmrFloor secs) ≤ secs ∧
      (secs ∈ encodable → gprsTmrToSecs (gprsSecsToTmrFloor secs) = secs) ∧
      ∀ v ∈ encodable, ¬(gprsTmrToSecs (gprsSecsToTmrFloor secs) < v ∧ v ≤ secs) := by
  refine ⟨fun secs secs' h hle ↦ ?_, fun secs h ↦ ?_⟩
  · exact (isGreatest_floor h).mono (isGreatest_floor (h.trans hle)) fun v hv ↦
      ⟨hv.1, hv.2.trans hle⟩
  · obtain ⟨⟨-, hle⟩, hgreatest⟩ := isGreatest_floor h
    refine ⟨hle, fun hmem ↦ hle.antisymm (hgreatest ⟨hmem, le_rfl⟩), fun v hv hbetween ↦ ?_⟩
    exact absurd (hgreatest ⟨hv, hbetween.2⟩) (not_le.mpr hbetween.1)

end OsmoSgsn.Gmm
