-- SUMMARY: Instants outside leap seconds are the nanoseconds of the years there are, and spans between them are differences.
import Formula.Calendar.Instant

/-!
# The line of time

Outside leap seconds an instant is the number of its nanoseconds since 1970
(`Instant.ofNanos?_eq_some_iff`), and there is an instant for each number within the years that dates
have (`Instant.ofNanos?_eq_none_iff`). Arithmetic on such instants is that of their numbers: adding
and subtracting a span is exact or leaves the years, and the span between two instants is the
difference.
-/

namespace Formula

/-! ## Spans -/

namespace Span

variable {n m : Int} {d d' : Span}

theorem eq_of_nanos (h : d.nanos = d'.nanos) : d = d' := by
  cases d
  cases d'
  cases h
  rfl

theorem make?_eq_some_iff : make? n = some d ↔ d.nanos = n := by
  unfold make?
  constructor
  · intro h
    split at h
    · cases h
      rfl
    · cases h
  · rintro rfl
    exact dif_pos d.nanos_le

theorem ofMillis?_eq_some_iff : ofMillis? m = some d ↔ d.nanos = m * 1000000 := make?_eq_some_iff

/-- The milliseconds of a span are a 64-bit number, and so are those of its opposite. -/
theorem ofMillis?_eq_none_iff : ofMillis? m = none ↔ 9223372036854775807 < m.natAbs := by
  unfold ofMillis? ofUnits? make?
  split
  · rename_i hnanos
    simp only [reduceCtorEq, false_iff]
    omega
  · rename_i hnanos
    simp only [true_iff]
    omega

end Span

/-! ## Instants -/

namespace Instant

variable {n seconds : Int} {nanos : Nat} {t u : Instant} {d : Span}

theorem make?_eq_some_iff : make? seconds nanos = some t ↔ t.seconds = seconds ∧ t.nanos = nanos := by
  unfold make?
  constructor
  · intro h
    split at h
    · split at h
      · cases h
        exact ⟨rfl, rfl⟩
      · cases h
    · cases h
  · rintro ⟨rfl, rfl⟩
    rw [dif_pos t.nanos_lt, dif_pos ⟨t.seconds_ge, t.seconds_le⟩]

theorem make?_eq_none_iff (hnanos : nanos < 2000000000) : make? seconds nanos = none ↔
    ¬ (-8334601228800 ≤ seconds ∧ seconds ≤ 8210266876799) := by
  by_cases hseconds : -8334601228800 ≤ seconds ∧ seconds ≤ 8210266876799
  · simp [make?, hnanos, hseconds]
  · rw [make?, dif_pos hnanos, dif_neg hseconds]
    simp only [hseconds, not_false_iff]

/-- The nanoseconds from the beginning of the first year of dates up to the end of the last one. -/
def InRange (nanos : Int) : Prop :=
  CivilDate.yearStart (-262143) * secondsPerDay * nanosPerSecond ≤ nanos ∧
    nanos < CivilDate.yearStart 262143 * secondsPerDay * nanosPerSecond

theorem inRange_iff :
    InRange n ↔ -8334601228800 ≤ n / 1000000000 ∧ n / 1000000000 ≤ 8210266876799 := by
  have hfirst : CivilDate.yearStart (-262143) * secondsPerDay * nanosPerSecond =
      -8334601228800 * 1000000000 := by decide
  have hlast : CivilDate.yearStart 262143 * secondsPerDay * nanosPerSecond =
      8210266876800 * 1000000000 := by decide
  rw [InRange, hfirst, hlast]
  omega

theorem ofNanos?_eq (n : Int) :
    ofNanos? n = make? (n / 1000000000) (n % 1000000000).toNat := rfl

theorem toNanos_eq (t : Instant) : t.toNanos = t.seconds * 1000000000 + t.nanos := rfl

theorem isLeap_eq_false_iff : t.isLeap = false ↔ t.nanos < 1000000000 := by
  rw [isLeap, decide_eq_false_iff_not, Nat.not_le]

/-- Outside leap seconds the instant of a number of nanoseconds is the one that has this number. -/
theorem ofNanos?_eq_some_iff : ofNanos? n = some t ↔ t.isLeap = false ∧ t.toNanos = n := by
  rw [ofNanos?_eq, make?_eq_some_iff, isLeap_eq_false_iff, toNanos_eq]
  omega

theorem ofNanos?_eq_none_iff : ofNanos? n = none ↔ ¬ InRange n := by
  rw [ofNanos?_eq, make?_eq_none_iff (by omega), inRange_iff]

/-! ## Arithmetic -/

theorem add?_of_plain (h : t.isLeap = false) : t.add? d = ofNanos? (t.toNanos + d.nanos) := by
  rw [add?, h, if_neg Bool.false_ne_true]

theorem sub?_of_plain (h : t.isLeap = false) : t.sub? d = ofNanos? (t.toNanos - d.nanos) :=
  add?_of_plain h

theorem nanos_since (ht : t.isLeap = false) (hu : u.isLeap = false) :
    (t.since u).nanos = t.toNanos - u.toNanos := by
  have hbetween : t.leapBetween u = 0 := by simp [leapBetween, ht, hu]
  simp only [since, hbetween, toNanos_eq]
  omega

/-- The span by which an instant was moved is the one back to it. -/
theorem since_of_add? (h : t.isLeap = false) (hu : t.add? d = some u) : u.since t = d := by
  rw [add?_of_plain h, ofNanos?_eq_some_iff] at hu
  obtain ⟨hplain, hnanos⟩ := hu
  apply Span.eq_of_nanos
  rw [nanos_since hplain h, hnanos]
  omega

theorem sub?_of_add? (h : t.isLeap = false) (hu : t.add? d = some u) : u.sub? d = some t := by
  rw [add?_of_plain h, ofNanos?_eq_some_iff] at hu
  obtain ⟨hplain, hnanos⟩ := hu
  rw [sub?_of_plain hplain, ofNanos?_eq_some_iff]
  exact ⟨h, by omega⟩

end Instant
end Formula
