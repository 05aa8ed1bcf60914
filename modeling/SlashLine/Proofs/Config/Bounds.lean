import SlashLine.CommandLine.Program
import SlashLine.Proofs.Config.Sources

/-!
# The bounds of settings

A setting that is loaded has been checked, or is its default, which would pass the check as well.
So all settings are within their bounds, and a router can be built from them. The base delay is the
exception: its check refuses what is below zero and what is above a minute, and what is not a number
is neither.

* `refuseBaseDelay_eq_none_iff`: the base delays that pass their check.
* `IsDelay.wait`: the waits from a base delay within its bounds.
* `load_within_bounds`: settings that are loaded are within their bounds, and they time the attempts
  of a recovery exactly if their base delay is a number.
* `not_everyLoadBounded`: there are settings with a base delay that is none.
-/

namespace SlashLine.Config

open Recovery CommandLine

/-! ## Delays -/

/-- A finite number of seconds that is not negative. -/
def IsWait (x : Binary64) : Prop := ∃ units : Nat, x.units? = some (units : Int)

/-- A number of seconds from zero to a minute. -/
def IsDelay (x : Binary64) : Prop :=
  ∃ units : Nat, x.units? = some (units : Int) ∧ units ≤ 60 * Binary64.one

/-- A delay within the bounds is a number of units between none and those of a minute. -/
theorem isDelay_iff {x : Binary64} {i : Int} (h : x.units? = some i) :
    IsDelay x ↔ 0 ≤ i ∧ i ≤ (60 * Binary64.one : Nat) := by
  unfold IsDelay
  rw [h]
  constructor
  · intro ⟨units, hunits, hle⟩
    cases hunits
    exact ⟨Int.natCast_nonneg units, Int.ofNat_le.mpr hle⟩
  · intro ⟨hlow, hhigh⟩
    obtain ⟨units, rfl⟩ := Int.eq_ofNat_of_zero_le hlow
    exact ⟨units, rfl, Int.ofNat_le.mp hhigh⟩

theorem units?_longestDelay :
    RecoverySettings.longestDelay.units? = some ((60 * Binary64.one : Nat) : Int) := by
  decide +kernel

theorem lt_of_units? {x y : Binary64} {i j : Int} (hx : x.units? = some i)
    (hy : y.units? = some j) : x.lt y = decide (i < j) := by
  cases x with
  | nan => cases hx
  | infinite negative => cases hx
  | finite negative m =>
    cases y with
    | nan => cases hy
    | infinite negative => cases hy
    | finite negative' m' =>
      cases hx
      cases hy
      rfl

/-- A base delay is let pass if it is neither below zero nor above the longest one, and a value that
compares with nothing is neither. -/
theorem refuseBaseDelay_eq_none (x : Binary64) :
    RecoverySettings.refuseBaseDelay x = none ↔
      x.lt (.zero false) = false ∧ RecoverySettings.longestDelay.lt x = false := by
  unfold RecoverySettings.refuseBaseDelay
  cases x.lt (.zero false) <;> cases RecoverySettings.longestDelay.lt x <;> simp

/-- The base delays that pass their check: those within the bounds, and what is not a number. -/
theorem refuseBaseDelay_eq_none_iff (x : Binary64) :
    RecoverySettings.refuseBaseDelay x = none ↔ x = .nan ∨ IsDelay x := by
  rw [refuseBaseDelay_eq_none]
  cases hx : x with
  | nan => exact iff_of_true ⟨rfl, by decide +kernel⟩ (Or.inl rfl)
  | infinite negative =>
    refine iff_of_false (fun h => ?_) (fun h => ?_)
    · cases negative with
      | true => cases h.1
      | false => exact absurd h.2 (by decide +kernel)
    · rcases h with h | ⟨units, h, -⟩ <;> cases h
  | finite negative m =>
    have hunits : (Binary64.finite negative m).units? = some _ := rfl
    have hzero : (Binary64.zero false).units? = some 0 := rfl
    rw [lt_of_units? hunits hzero, lt_of_units? units?_longestDelay hunits, isDelay_iff hunits,
      decide_eq_false_iff_not, decide_eq_false_iff_not, Int.not_lt, Int.not_lt]
    refine ⟨Or.inr, fun h => h.resolve_left ?_⟩
    intro hnan
    cases hnan

/-- Units below the overflow are kept with their sign. -/
theorem units?_ofUnits {num den : Nat} (negative : Bool)
    (h : (roundToUnits num den).log2 < 2098) :
    (Binary64.ofUnits negative num den).units? =
      some (if negative then -(roundToUnits num den : Int) else roundToUnits num den) := by
  rw [Binary64.ofUnits, dif_pos h]
  rfl

theorem roundToUnits_zero : roundToUnits 0 1 = 0 := by decide +kernel

/-- Doubling a wait gives a wait, as long as the range of the format is not left. -/
theorem isWait_scale? {x : Binary64} {units bits n : Nat} (h : x.units? = some (units : Int))
    (hbound : units < Nat.pow 2 bits) (hbits : 53 ≤ bits) (hrange : bits + n < 2098)
    (hn : n < 1024) : ∃ wait, x.scale? n = some wait ∧ IsWait wait := by
  cases x with
  | nan => cases h
  | infinite negative => cases h
  | finite negative m =>
    have hlimit : ¬ (1024 : Int) ≤ n := by omega
    have hleast : ¬ (n : Int) < -1074 := by omega
    refine ⟨Binary64.ofUnits negative (m.units * Nat.pow 2 n) 1, ?_, ?_⟩
    · unfold Binary64.scale?
      rw [if_neg hlimit, if_neg hleast]
      simp only [if_pos (Int.natCast_nonneg n), Int.toNat_natCast]
    · injection h with h
      have hunits : m.units < Nat.pow 2 bits := by
        cases negative <;> simp only [if_true, Bool.false_eq_true, if_false] at h <;> omega
      have hlog : (roundToUnits (m.units * Nat.pow 2 n) 1).log2 < 2098 := by
        have hlt : m.units * Nat.pow 2 n / 1 < Nat.pow 2 (bits + n) := by
          rw [Nat.div_one]
          exact mul_pow_lt hunits n
        exact Nat.lt_of_le_of_lt (log2_roundToUnits_le (by omega) hlt) hrange
      rw [IsWait, units?_ofUnits negative hlog]
      cases negative with
      | false => exact ⟨_, rfl⟩
      | true =>
        -- of the numbers with a minus only the zero is not negative
        have hzero : m.units = 0 := by
          simp only [if_true] at h
          omega
        rw [hzero, Nat.zero_mul, roundToUnits_zero]
        exact ⟨0, rfl⟩

/-- Up to the tenth attempt nothing overflows, and the delay is the base scaled by the attempts. -/
theorem delay?_eq_scale? (b : Backoff) {attempt : Nat} (h : attempt ≤ 10) :
    b.delay? attempt = b.base.scale? attempt := by
  have hattempt : (attempt : Int).natAbs < Nat.pow 2 4 := Nat.lt_of_le_of_lt h (by decide)
  have hint : (Binary64.ofInt? attempt).isSome = true := Binary64.ofInt?_isSome (by decide) hattempt
  obtain ⟨x, hx⟩ := Option.isSome_iff_exists.mp hint
  rw [Backoff.delay?, hx, Option.isNone_some, if_neg Bool.false_ne_true]

/-- From a base delay within the bounds the first ten waits are finite and not negative. -/
theorem IsDelay.wait {b : Backoff} (h : IsDelay b.base) {attempt : Nat} (hattempt : attempt ≤ 10) :
    ∃ wait, b.delay? attempt = some wait ∧ IsWait wait := by
  have hrange : 6 + 1074 + attempt < 2098 := by omega
  have hn : attempt < 1024 := by omega
  obtain ⟨units, hunits, hle⟩ := h
  have hminute : 60 * Binary64.one < Nat.pow 2 (6 + 1074) := @Binary64.mul_one_lt 60 6 (by decide)
  have hbound : units < Nat.pow 2 (6 + 1074) := Nat.lt_of_le_of_lt hle hminute
  rw [delay?_eq_scale? b hattempt]
  exact isWait_scale? hunits hbound (by decide) hrange hn

/-! ## Checks -/

theorem refuseHistorySize_eq_none {n : Int} :
    RouterSettings.refuseHistorySize n = none ↔ 100 ≤ n ∧ n ≤ 500 := by
  simp only [RouterSettings.refuseHistorySize, ite_eq_right_iff, reduceCtorEq, imp_false,
    Bool.or_eq_true, decide_eq_true_eq]
  omega

theorem refuseMaxTips_eq_none {n : Int} : RouterSettings.refuseMaxTips n = none ↔ 0 ≤ n := by
  simp only [RouterSettings.refuseMaxTips, ite_eq_right_iff, reduceCtorEq, imp_false]
  omega

theorem refuseMaxRetries_eq_none {n : Int} :
    RecoverySettings.refuseMaxRetries n = none ↔ 0 ≤ n ∧ n ≤ 10 := by
  unfold RecoverySettings.refuseMaxRetries
  split
  · simp only [reduceCtorEq, false_iff]
    omega
  · simp only [ite_eq_right_iff, reduceCtorEq, imp_false]
    omega

theorem refuseMaxSessions_eq_none {n : Int} :
    RecoverySettings.refuseMaxSessions n = none ↔ 1 ≤ n := by
  simp only [RecoverySettings.refuseMaxSessions, ite_eq_right_iff, reduceCtorEq, imp_false]
  omega

theorem bind_eq_ok {ε α β : Type} {x : Except ε α} {f : α → Except ε β} {b : β}
    (h : x.bind f = .ok b) : ∃ a, x = .ok a ∧ f a = .ok b := by
  cases x with
  | error e => cases h
  | ok a => exact ⟨a, rfl, h⟩

/-- A setting that was read has passed its check, if the default does. -/
theorem refusal_of_settle {α : Type} {default x : α} {convert : Value → Except Misfit α}
    {refusal : α → Option String} {source : Option Value} (hdefault : refusal default = none)
    (h : settle default (bounded convert refusal) source = .ok x) : refusal x = none := by
  cases source with
  | none =>
    cases h
    exact hdefault
  | some v =>
    obtain ⟨y, -, hallowed⟩ := bind_eq_ok h
    unfold allowed at hallowed
    split at hallowed
    · cases hallowed
    · next hnone =>
      cases hallowed
      exact hnone

/-- Only the levels that can be configured come out, wherever the text was from. -/
theorem logLevel_of_settle {source : Option Value} {level : String}
    (h : settle usualSettings.logLevel AppSettings.logLevelOf source = .ok level) :
    level ∈ configurableLevels := by
  cases source with
  | none =>
    cases h
    decide
  | some v =>
    obtain ⟨name, -, hlevel⟩ := bind_eq_ok h
    unfold configuredLevel? at hlevel
    by_cases hknown : configurableLevels.contains (Text.capitals name) = true
    · simp only [if_pos hknown] at hlevel
      cases hlevel
      exact List.contains_iff_mem.mp hknown
    · simp only [if_neg hknown] at hlevel
      cases hlevel

/-- Settings within their bounds, the base delay apart. -/
structure AppSettings.WithinBounds (settings : AppSettings) : Prop where
  historySize : 100 ≤ settings.router.historySize ∧ settings.router.historySize ≤ 500
  maxTips : 0 ≤ settings.router.maxTips
  maxRetries : 0 ≤ settings.recovery.maxRetries ∧ settings.recovery.maxRetries ≤ 10
  maxSessions : 1 ≤ settings.recovery.maxSessions
  logLevel : settings.logLevel ∈ configurableLevels

section

variable {entries : Entries} {env : Environment} {settings : AppSettings}

/-- Settings that are given have passed their checks, and the checks are the bounds. -/
theorem Readings.Give.withinBounds (h : (readings entries env).Give settings) :
    settings.WithinBounds where
  historySize := refuseHistorySize_eq_none.mp (refusal_of_settle rfl h.historySize)
  maxTips := refuseMaxTips_eq_none.mp (refusal_of_settle rfl h.maxTips)
  maxRetries := refuseMaxRetries_eq_none.mp (refusal_of_settle rfl h.maxRetries)
  maxSessions := refuseMaxSessions_eq_none.mp (refusal_of_settle rfl h.maxSessions)
  logLevel := logLevel_of_settle h.logLevel

/-- The check of the base delay stops nothing else than what is out of bounds and a number, so the
one value that is no number passes. -/
theorem Readings.Give.baseDelay_cases (h : (readings entries env).Give settings) :
    settings.recovery.baseDelay = .nan ∨ IsDelay settings.recovery.baseDelay :=
  (refuseBaseDelay_eq_none_iff _).mp (refusal_of_settle (by decide +kernel) h.baseDelay)

end

/-! ## Loading -/

variable {files : Files} {path : Option String} {env : Environment} {settings : AppSettings}

/-- Settings are read from a mapping only, so those that are loaded are what was read. -/
theorem exists_give_of_load (h : load files path env = .ok settings) :
    ∃ entries, (readings entries env).Give settings := by
  obtain ⟨contents, -, hsettings⟩ := bind_eq_ok h
  cases contents with
  | scalar s => cases hsettings
  | list items => cases hsettings
  | mapping entries =>
    refine ⟨entries, ?_⟩
    rcases settingsIn_cases entries env with ⟨read, hread, hgive, -⟩ | ⟨failure, -, hread, -⟩
    · cases hread.symm.trans hsettings
      exact hgive
    · cases hread.symm.trans hsettings

theorem baseDelay_not_negative (h : settings.recovery.baseDelay = .nan ∨
    IsDelay settings.recovery.baseDelay) :
    settings.recovery.baseDelay.lt (.zero false) = false :=
  ((refuseBaseDelay_eq_none _).mp ((refuseBaseDelay_eq_none_iff _).mpr h)).1

/-- Every capacity within the bounds makes a log. -/
theorem exists_create {capacity : Int} (h : 1 ≤ capacity ∧ capacity ≤ 500)
    (classifier : Classifier) (clock : Nat → Timestamp) :
    ∃ log, Log.create classifier capacity clock = .ok log := by
  obtain ⟨hfew, hmany⟩ := h
  have hpos : 0 < capacity.toNat := by omega
  have hbound : capacity.toNat < Log.capacityBound := by
    unfold Log.capacityBound
    omega
  rw [Log.create, dif_pos hpos]
  simp only [if_pos hbound]
  exact ⟨_, rfl⟩

/-- A router can be built from settings within their bounds. -/
theorem exists_routerOf? (h : settings.WithinBounds)
    (hdelay : settings.recovery.baseDelay.lt (.zero false) = false) (plain : Bool)
    (c : Circumstances) : ∃ router, routerOf? settings plain c = some router ∧
      router.engine.backoff.base = settings.recovery.baseDelay := by
  have hlimit : 0 < settings.recovery.maxSessions.toNat := by
    have := h.maxSessions
    omega
  have hsize : 1 ≤ settings.router.historySize ∧ settings.router.historySize ≤ 500 := by
    have := h.historySize
    omega
  obtain ⟨log, hlog⟩ := exists_create hsize (classify (resolveHome (pathOf c.files.home))) c.clock
  have hbackoff : Backoff.create? settings.recovery.baseDelay =
      some ⟨settings.recovery.baseDelay, hdelay⟩ := dif_pos hdelay
  have hsessions : Sessions.create? settings.recovery.maxSessions =
      some { limit := settings.recovery.maxSessions.toNat, limit_pos := hlimit } := dif_pos hlimit
  unfold routerOf?
  rw [hbackoff, hsessions]
  simp only [hlog]
  exact ⟨_, rfl, rfl⟩

/-- All delays that a router with the settings can come to are fit to wait for. -/
structure AppSettings.TimesWaits (settings : AppSettings) (router : Dispatch.Router) : Prop where
  baseDelay : IsDelay settings.recovery.baseDelay
  waits : ∀ attempt : Nat, attempt ≤ settings.recovery.maxRetries →
    ∃ wait, router.engine.backoff.delay? attempt = some wait ∧ IsWait wait

theorem not_isDelay_nan : ¬ IsDelay .nan := by
  rintro ⟨units, hunits, -⟩
  cases hunits

/-- Settings that are loaded are within their bounds, and a router can be built from them. Its
attempts are timed by finite numbers that are not negative exactly if the base delay is a number. -/
theorem load_within_bounds (h : load files path env = .ok settings) (plain : Bool)
    (c : Circumstances) :
    settings.WithinBounds ∧ ∃ router, routerOf? settings plain c = some router ∧
      (settings.TimesWaits router ↔ settings.recovery.baseDelay ≠ .nan) := by
  obtain ⟨entries, hgive⟩ := exists_give_of_load h
  have hwithin := hgive.withinBounds
  have hcases := hgive.baseDelay_cases
  obtain ⟨router, hrouter, hbase⟩ :=
    exists_routerOf? hwithin (baseDelay_not_negative hcases) plain c
  refine ⟨hwithin, router, hrouter, fun htimes hnan => ?_, fun hnumber => ?_⟩
  · exact not_isDelay_nan (hnan ▸ htimes.baseDelay)
  · have hdelay := hcases.resolve_left hnumber
    refine ⟨hdelay, fun attempt hattempt => ?_⟩
    have hten : attempt ≤ 10 := by
      have := hwithin.maxRetries.2
      omega
    rw [← hbase] at hdelay
    exact hdelay.wait hten

/-- No files, in a home directory that is the working directory as well. -/
def emptyHome : Files where
  texts := []
  directories := []
  current := ["home"]
  home := ["home"]

def emptyCircumstances : Circumstances where
  files := emptyHome
  environment := {}
  sessionId := "session"
  clock := fun _ => ⟨0, none⟩

theorem load_half_second :
    ∃ settings router,
      load emptyHome none { baseDelay := some "0.5" } = .ok settings ∧
        routerOf? settings false emptyCircumstances = some router ∧
        settings.WithinBounds ∧ settings.TimesWaits router := by
  have hload : load emptyHome none { baseDelay := some "0.5" } =
      .ok { recovery := { baseDelay := .ofUnits false Binary64.one 2 } } := by
    decide +kernel
  obtain ⟨hwithin, router, hrouter, htimes⟩ := load_within_bounds hload false emptyCircumstances
  exact ⟨_, router, hload, hrouter, hwithin, htimes.mpr (by decide +kernel)⟩

/-- What the checks are there for: settings that are loaded are within their bounds, and a router
with them times the attempts of a recovery. -/
def EveryLoadBounded : Prop :=
  ∀ files path env settings, load files path env = .ok settings →
    settings.WithinBounds ∧ ∀ plain c, ∃ router,
      routerOf? settings plain c = some router ∧ settings.TimesWaits router

/-- The environment can name a base delay that is not a number. -/
theorem not_everyLoadBounded : ¬ EveryLoadBounded := by
  intro hbounded
  have hload : load emptyHome none { baseDelay := some "nan" } =
      .ok { recovery := { baseDelay := .nan } } := by
    decide +kernel
  obtain ⟨-, hrouters⟩ := hbounded _ _ _ _ hload
  obtain ⟨router, -, htimes⟩ := hrouters false emptyCircumstances
  exact not_isDelay_nan htimes.baseDelay

end SlashLine.Config
