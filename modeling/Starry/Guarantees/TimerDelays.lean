import Starry.Source.TimerClock

/-!
# What the timerfd is set to, and the interval of a repeating timer

`howMuchTimeFromNow` subtracts the clock from the expiration and splits the difference with
`/` and `%`. The result is a valid setting for exactly the times that are still to come
(`valid_setting_iff`): a time that is reached gives zero, which disarms the timerfd, and an
earlier one gives a negative part, which `timerfd_settime` rejects. `addTimerInLoop` passes
such times on (`past_timer_rejected`), and so does `reset` when no timer is left.

`Timer` keeps its interval in milliseconds and `restart` reads it in microseconds, so a
repeating timer comes back about a thousand times too early (`restart_misses_interval`).
-/
namespace Starry.Guarantees.TimerDelays

open Starry.Foundation
open Starry.Source

/-! ## The setting of the timerfd -/

/-- `timerfd_settime` accepts the value and arms the timer. -/
structure Settable (value : Timespec) : Prop where
  seconds : 0 ≤ value.tv_sec
  nanoseconds : 0 ≤ value.tv_nsec ∧ value.tv_nsec < 1000000000
  armed : ¬ (value.tv_sec = 0 ∧ value.tv_nsec = 0)

/-- The timespec computed at the clock reading `now` is settable, and it is the time that is
left when the expiration is still to come. -/
def ValidSetting (expiration now : Int64) : Prop :=
  ∃ value, howMuchTimeFromNow expiration now = .ok value ∧ Settable value ∧
    (now < expiration →
      value.tv_sec * 1000000000 + value.tv_nsec = expiration.toInt - now.toInt)

theorem settable_of_pos {left : Int} (positive : 0 < left) :
    Settable ⟨left.tdiv 1000000000, left.tmod 1000000000⟩ := by
  refine ⟨?_, ⟨?_, ?_⟩, ?_⟩
  · exact Int.tdiv_nonneg positive.le (by decide)
  · exact Int.tmod_nonneg _ positive.le
  · exact Int.tmod_lt_of_pos _ (by decide)
  · rintro ⟨seconds, nanoseconds⟩
    have whole := Int.tdiv_mul_add_tmod left 1000000000
    simp only at seconds nanoseconds
    rw [seconds, nanoseconds] at whole
    omega

/-- Both parts of a negative difference are at most zero. -/
theorem not_settable_of_nonpos {left : Int} (reached : left ≤ 0) :
    ¬ Settable ⟨left.tdiv 1000000000, left.tmod 1000000000⟩ := by
  intro valid
  have whole := Int.tdiv_mul_add_tmod left 1000000000
  have seconds := valid.seconds
  have nanoseconds := valid.nanoseconds.1
  apply valid.armed
  simp only at seconds nanoseconds ⊢
  constructor <;> omega

theorem ValidSetting.ahead {expiration now : Int64} (setting : ValidSetting expiration now) :
    now < expiration ∧ expiration.toInt - now.toInt < 2 ^ 63 := by
  obtain ⟨value, computed, valid, -⟩ := setting
  simp only [howMuchTimeFromNow] at computed
  split at computed
  next fits =>
    refine ⟨?_, fits.2⟩
    cases computed
    by_contra late
    rw [Int64.lt_iff_toInt_lt] at late
    exact not_settable_of_nonpos (by omega) valid
  next => cases computed

/-- The setting is valid exactly when the expiration is still to come and the time that is left
fits in the clock's representation. -/
theorem valid_setting_iff (expiration now : Int64) :
    ValidSetting expiration now ↔
      now < expiration ∧ expiration.toInt - now.toInt < 2 ^ 63 := by
  refine ⟨ValidSetting.ahead, ?_⟩
  rintro ⟨ahead, fits⟩
  rw [Int64.lt_iff_toInt_lt] at ahead
  have range : -(2 ^ 63) ≤ expiration.toInt - now.toInt ∧
      expiration.toInt - now.toInt < 2 ^ 63 := ⟨by omega, fits⟩
  refine ⟨_, if_pos range, settable_of_pos (by omega), fun _ => ?_⟩
  exact Int.tdiv_mul_add_tmod _ 1000000000

/-- A timer for a time that is over is queued; arming the timerfd ends the process, or, when the
time has just been reached, disarms it. -/
theorem past_timer_rejected : ∃ q, TimerQueue.machine.Run .empty
      [.newTimer 8 1700000000000000000 0 false, .addTimerInLoop 8] q ∧
    q.lastArmed = some (1700000000000000000 : Int64).toInt ∧
    ¬ ValidSetting 1700000000000000000 1700000000000000001 ∧
    resetTimerfd 1700000000000000000 1700000000000000001 = .error (.logFatal .timerQueueCpp 73) ∧
    ¬ ValidSetting 1700000000000000000 1700000000000000000 ∧
    resetTimerfd 1700000000000000000 1700000000000000000 = .ok none := by
  obtain ⟨q, run, passes⟩ := Machine.exists_run_of_exec (M := TimerQueue.machine) .empty
      [.newTimer 8 1700000000000000000 0 false, .addTimerInLoop 8]
      (fun q => decide (q.lastArmed = some (1700000000000000000 : Int64).toInt))
      (by decide +kernel)
  refine ⟨q, run, of_decide_eq_true passes, ?_, by decide +kernel, ?_, by decide +kernel⟩
  · intro valid
    exact absurd valid.ahead.1 (by decide)
  · intro valid
    exact absurd valid.ahead.1 (by decide)

/-! ## The interval of a repeating timer -/

section Interval

variable {k : ℕ} {time : Timestamp} {sequence : ℕ} {timer : Timer}

/-- The product of an interval and a unit, as a `double`, is within a factor of four. -/
theorem mul_ofMilliseconds (k : ℕ) {unit : ℚ} (positive : 0 ≤ unit) :
    k * unit / 4000 ≤ (Double.ofMilliseconds k).mul unit ∧
      (Double.ofMilliseconds k).mul unit ≤ 9 * (k * unit) / 4000 := by
  have seconds : (0 : ℚ) ≤ k / 1000 := by positivity
  -- one rounding for the interval in seconds, one for its product with the unit
  obtain ⟨low, high⟩ := @FloatingPoint.round_bounds 53 (by decide) _ seconds
  have scaled : 0 ≤ Double.ofMilliseconds k * unit :=
    mul_nonneg (le_trans (by positivity) low) positive
  obtain ⟨below, above⟩ := @FloatingPoint.round_bounds 53 (by decide) _ scaled
  have low' := mul_le_mul_of_nonneg_right low positive
  have high' := mul_le_mul_of_nonneg_right high positive
  constructor
  · refine le_trans ?_ below
    refine le_trans ?_ (div_le_div_of_nonneg_right low' zero_le_two)
    exact le_of_eq (by ring)
  · refine above.trans ?_
    refine le_trans (mul_le_mul_of_nonneg_left high' (by norm_num)) ?_
    exact le_of_eq (by ring)

theorem toInt64_ok {x : Double} {file : SourceFile} {line : ℕ} {n : ℤ}
    (converted : x.toInt64 file line = .ok n) : n = FloatingPoint.truncate x := by
  unfold Double.toInt64 at converted
  split at converted
  next => cases converted; rfl
  next => cases converted

/-- A timer with an interval of `k` milliseconds repeats, and its `interval_` is near `k`. -/
theorem new_ofMilliseconds (positive : 0 < k)
    (created : Timer.new time (Double.ofMilliseconds k) sequence = .ok timer) :
    timer.expiration = time ∧ timer.repeats = true ∧ 4 * timer.interval ≤ 9 * k := by
  obtain ⟨milliseconds, converted, built⟩ := bind_eq_ok created
  cases built
  have count : (0 : ℚ) < k := by exact_mod_cast positive
  have unit : (0 : ℚ) ≤ 1000 := by norm_num
  obtain ⟨low, high⟩ := mul_ofMilliseconds k unit
  have nonneg : 0 ≤ (Double.ofMilliseconds k).mul 1000 := le_trans (by positivity) low
  refine ⟨rfl, ?_, ?_⟩
  · have seconds : (0 : ℚ) ≤ k / 1000 := by positivity
    have half := (@FloatingPoint.round_bounds 53 (by decide) _ seconds).1
    have interval : 0 < Double.ofMilliseconds k := lt_of_lt_of_le (by positivity) half
    exact decide_eq_true interval
  · have whole := FloatingPoint.truncate_le nonneg
    rw [← toInt64_ok converted] at whole
    have scaled : (4 * milliseconds : ℚ) ≤ 9 * k := by linarith
    exact_mod_cast scaled

/-- `runEvery` places the first expiration by nanoseconds. -/
theorem runEvery_ofMilliseconds {start : Timestamp} (positive : 0 < k)
    (created : runEvery start (Double.ofMilliseconds k) sequence = .ok timer) :
    start + 3000 * k < timer.expiration := by
  obtain ⟨nanoseconds, converted, built⟩ := bind_eq_ok created
  rw [(new_ofMilliseconds positive built).1]
  have count : (1 : ℚ) ≤ k := by exact_mod_cast positive
  have unit : (0 : ℚ) ≤ 1000000000 := by norm_num
  obtain ⟨low, -⟩ := mul_ofMilliseconds k unit
  have nonneg : 0 ≤ (Double.ofMilliseconds k).mul 1000000000 := le_trans (by positivity) low
  have whole := FloatingPoint.lt_truncate nonneg
  rw [← toInt64_ok converted] at whole
  have delay : (3000 * k : ℚ) < nanoseconds := by linarith
  have exact : 3000 * (k : ℤ) < nanoseconds := by exact_mod_cast delay
  exact add_lt_add_right exact start

/-- Restarts change nothing but the expiration. -/
theorem foldl_restart (timer : Timer) (readings : List Timestamp) :
    (readings.foldl Timer.restart timer).repeats = timer.repeats ∧
      (readings.foldl Timer.restart timer).interval = timer.interval := by
  induction readings generalizing timer with
  | nil => exact ⟨rfl, rfl⟩
  | cons now rest ih => exact ih (timer.restart now)

/-- However often it has fired before, a timer with an interval of `k` milliseconds is restarted
neither for `k` milliseconds later nor for the delay that `runEvery` used for the first time. -/
theorem restart_misses_interval (positive : 0 < k)
    (created : Timer.new time (Double.ofMilliseconds k) sequence = .ok timer)
    (readings : List Timestamp) (now : Timestamp) :
    ((readings.foldl Timer.restart timer).restart now).expiration ≠ now + k * 1000000 ∧
      ∀ start first, runEvery start (Double.ofMilliseconds k) sequence = .ok first →
        ((readings.foldl Timer.restart timer).restart now).expiration ≠
          now + (first.expiration - start) := by
  obtain ⟨-, repeats, near⟩ := new_ofMilliseconds positive created
  obtain ⟨repeats', interval'⟩ := foldl_restart timer readings
  have next : ((readings.foldl Timer.restart timer).restart now).expiration =
      now + timer.interval * 1000 := by
    simp only [Timer.restart, repeats', interval', repeats, if_true]
  rw [next]
  have count : (0 : ℤ) < k := by exact_mod_cast positive
  constructor
  · intro same
    linarith
  · intro start first placed same
    have later := runEvery_ofMilliseconds positive placed
    linarith

/-- `runEvery(0.01, cb)`, after two firings -/
theorem restart_misses_interval_ten : ∃ timer,
    runEvery 0 (Double.ofMilliseconds 10) 1 = .ok timer ∧ timer.expiration = 10000000 ∧
    Timer.new 10000000 (Double.ofMilliseconds 10) 1 = .ok timer ∧
    (([10000500, 10010700].foldl Timer.restart timer).restart 10020800).expiration ≠
      10020800 + (10 : ℕ) * 1000000 :=
  ⟨⟨10000000, 10, true, 1⟩, by decide +kernel, rfl, by decide +kernel,
    (@restart_misses_interval 10 10000000 1 ⟨10000000, 10, true, 1⟩ (by decide)
      (by decide +kernel) [10000500, 10010700] 10020800).1⟩

/-- `runEvery(0.01, cb)` fires after 10 ms, and again 10 µs later. -/
theorem second_firing_early : ∃ timer,
    runEvery 0 (Double.ofMilliseconds 10) 1 = .ok timer ∧ timer.expiration = 10000000 ∧
      (timer.restart 10000000).expiration = 10010000 ∧
      (timer.restart 10000000).expiration ≠ 10000000 + 10 * 1000000 :=
  ⟨⟨10000000, 10, true, 1⟩, by decide +kernel, rfl, by decide, by decide⟩

end Interval

end Starry.Guarantees.TimerDelays
