import SipContainer.Config.Settings
/-!
A gate timeout is given as a span of time, kept as a number of milliseconds in 64 bits, and read back as a
span. A span of at least a millisecond whose milliseconds fit comes back rounded down to a whole number of
them. Of a longer one only the remainder is kept, without a word; where nothing remains, the settings do not
pass their check.
-/

namespace SipContainer

namespace Duration

variable {span kept : Duration}

/-- The longest span of whole milliseconds that is not longer. -/
structure RoundsDownTo (span kept : Duration) : Prop where
  whole : ∃ count, kept = ofMilliseconds count
  notLonger : kept.nanoseconds ≤ span.nanoseconds
  close : span.nanoseconds < kept.nanoseconds + 1000000

theorem roundsDownTo_iff : span.RoundsDownTo kept ↔ kept = ofMilliseconds span.milliseconds := by
  constructor
  · rintro ⟨⟨count, rfl⟩, notLonger, close⟩
    have same : count = span.milliseconds := by
      simp only [ofMilliseconds, milliseconds] at *
      omega
    rw [same]
  · rintro rfl
    refine ⟨⟨_, rfl⟩, Nat.div_mul_le_self _ _, ?_⟩
    simp only [ofMilliseconds, milliseconds]
    omega

theorem ofMilliseconds_injective : Function.Injective ofMilliseconds := by
  intro one other same
  have nanoseconds : one * 1000000 = other * 1000000 := congrArg Duration.nanoseconds same
  exact Nat.eq_of_mul_eq_mul_right (by decide) nanoseconds

end Duration

namespace Settings

variable {settings : Settings} {reader : LogReader} {span : Duration}

def SoundUntimed (reader : LogReader) (settings : Settings) : Prop :=
  ({ settings with gateTimeoutMs := none } : Settings).fault? reader = none

theorem gateTimeout_withGateTimeout (settings : Settings) (span : Duration) :
    (settings.withGateTimeout span).gateTimeout =
      some (.ofMilliseconds (span.milliseconds % UInt64.size)) := by
  have kept : span.milliseconds.toUInt64.toNat = span.milliseconds % UInt64.size :=
    UInt64.toNat_ofNat'
  simp only [gateTimeout, withGateTimeout, Option.map_some, kept]

theorem check_withGateTimeout (sound : settings.SoundUntimed reader) (span : Duration) :
    (settings.withGateTimeout span).check reader =
      if UInt64.size ∣ span.milliseconds then
        .error (.configuration "gate_timeout_ms must be positive when set")
      else .ok (settings.withGateTimeout span) := by
  have zero : some span.milliseconds.toUInt64 = some (0 : UInt64) ↔
      UInt64.size ∣ span.milliseconds := by
    rw [Option.some_inj, Nat.toUInt64, UInt64.ofNat_eq_iff_mod_eq_toNat]
    exact Nat.dvd_iff_mod_eq_zero.symm
  simp only [SoundUntimed, fault?] at sound
  have staffed : settings.poolSize ≠ 0 := by
    intro none
    rw [if_pos none] at sound
    cases sound
  rw [if_neg staffed, if_neg (Option.some_ne_none _).symm] at sound
  have spoiled : (settings.withGateTimeout span).fault? reader =
      if UInt64.size ∣ span.milliseconds then some "gate_timeout_ms must be positive when set"
      else none := by
    simp only [fault?, withGateTimeout, if_neg staffed, zero, sound]
  unfold check
  rw [spoiled]
  by_cases lost : UInt64.size ∣ span.milliseconds
  · simp only [if_pos lost]
  · simp only [if_neg lost]

structure Timed (reader : LogReader) (settings : Settings) (span : Duration) : Prop where
  faithful : span.milliseconds < UInt64.size ↔
    (settings.withGateTimeout span).check reader = .ok (settings.withGateTimeout span) ∧
      ∃ kept, (settings.withGateTimeout span).gateTimeout = some kept ∧ span.RoundsDownTo kept
  remainder : (settings.withGateTimeout span).gateTimeout =
    some (.ofMilliseconds (span.milliseconds % UInt64.size))
  refused : ∀ fault, (settings.withGateTimeout span).check reader = .error fault ↔
    UInt64.size ∣ span.milliseconds ∧
      fault = .configuration "gate_timeout_ms must be positive when set"

/-- In settings that are sound otherwise, a gate timeout of at least a millisecond is kept to the millisecond
if and only if the number of its milliseconds has no more than 64 bits. -/
theorem timeLimit (sound : settings.SoundUntimed reader) (positive : 1000000 ≤ span.nanoseconds) :
    settings.Timed reader span := by
  have checked := check_withGateTimeout sound span
  have read := gateTimeout_withGateTimeout settings span
  constructor
  · constructor
    · intro fits
      have counted : 0 < span.milliseconds := Nat.div_pos positive (by decide)
      have left : ¬ UInt64.size ∣ span.milliseconds := Nat.not_dvd_of_pos_of_lt counted fits
      rw [if_neg left] at checked
      rw [Nat.mod_eq_of_lt fits] at read
      exact ⟨checked, _, read, Duration.roundsDownTo_iff.mpr rfl⟩
    · rintro ⟨_, kept, inForce, rounded⟩
      rw [read, Duration.roundsDownTo_iff.mp rounded] at inForce
      have same := Duration.ofMilliseconds_injective (Option.some.inj inForce)
      rw [← same]
      exact Nat.mod_lt _ (by decide)
  · exact read
  · intro fault
    rw [checked]
    by_cases lost : UInt64.size ∣ span.milliseconds
    · rw [if_pos lost]
      exact ⟨fun same => ⟨lost, (Except.error.inj same).symm⟩, fun same => congrArg _ same.2.symm⟩
    · rw [if_neg lost]
      exact iff_of_false nofun (fun same => lost same.1)

end Settings

namespace Sample

def unhurried : Settings where
  listeners := [{ host := "10.0.0.1", port := 5060, transport := .udp }]
  poolSize := 8
  logging := { level := "debug", directives := ["tokio=warn"] }

end Sample

theorem Sample.unhurried_sound : Sample.unhurried.SoundUntimed .plain := by
  unfold Settings.SoundUntimed
  decide +kernel

theorem Settings.timeLimit_unhurried :
    Sample.unhurried.SoundUntimed .plain ∧ Duration.ofSeconds 2 999999 = .ok ⟨2000999999⟩ ∧
      1000000 ≤ (⟨2000999999⟩ : Duration).nanoseconds ∧
      Sample.unhurried.Timed .plain ⟨2000999999⟩ ∧
      (Sample.unhurried.withGateTimeout ⟨2000999999⟩).gateTimeout = some ⟨2000000000⟩ := by
  have positive : 1000000 ≤ (⟨2000999999⟩ : Duration).nanoseconds := by decide
  have timed := Settings.timeLimit Sample.unhurried_sound positive
  exact ⟨Sample.unhurried_sound, rfl, positive, timed, timed.remainder⟩

/-- Of `2 ^ 64` milliseconds nothing is kept, and of a span that is a little longer the part beyond. -/
theorem Sample.eternity_forgotten :
    Sample.unhurried.SoundUntimed .plain ∧
      Duration.ofSeconds 18446744073709551 616000000 = .ok ⟨18446744073709551616000000⟩ ∧
      (Sample.unhurried.withGateTimeout ⟨18446744073709551616000000⟩).check =
        .error (.configuration "gate_timeout_ms must be positive when set") ∧
      Duration.ofSeconds 18446744073709552 0 = .ok ⟨18446744073709552000000000⟩ ∧
      (Sample.unhurried.withGateTimeout ⟨18446744073709552000000000⟩).gateTimeout =
        some ⟨384000000⟩ := by
  have refused := Settings.check_withGateTimeout Sample.unhurried_sound ⟨18446744073709551616000000⟩
  rw [if_pos (by decide)] at refused
  exact ⟨Sample.unhurried_sound, rfl, refused, rfl, Settings.gateTimeout_withGateTimeout _ _⟩

end SipContainer
