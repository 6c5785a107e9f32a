import ServiceClient.Proofs.PathSegments
import ServiceClient.Proofs.QueryParameters
import ServiceClient.Proofs.TimestampText

/-!
# Timestamps in milliseconds

CBOR has timestamps as numbers of milliseconds, and the query string and the path as text with
three digits of fraction. The number is the quotient of an instant, rounded down; the digits are cut
off a clock in UTC. Both mean the same millisecond, also before 1970.

* `Timestamp.wholeMilliseconds`: a clock without the rest of its millisecond.
* `Timestamp.ofInternetText?_milliText`: it is what the text of a timestamp shows.
* `Encoding.decodeTimestamp_int`: a number of milliseconds is read as its instant.
* `Timestamp.milliseconds_exact`: number and text, written and read.
-/

namespace ServiceClient

/-- Rounding down to milliseconds leaves hours, minutes and seconds as they are. -/
theorem TimeOfDay.ofMicroseconds_milliseconds (n : Nat) : ofMicroseconds (n / 1000 * 1000) =
    { ofMicroseconds n with microsecond := (ofMicroseconds n).microsecond / 1000 * 1000 } := by
  have hhour : n / 1000 * 1000 / 3600000000 = n / 3600000000 := by omega
  have hminute : n / 1000 * 1000 / 60000000 = n / 60000000 := by omega
  have hsecond : n / 1000 * 1000 / 1000000 = n / 1000000 := by omega
  have hmicro : n / 1000 * 1000 % 1000000 = n % 1000000 / 1000 * 1000 := by omega
  unfold ofMicroseconds
  rw [hhour, hminute, hsecond, hmicro]

namespace Timestamp

/-- The clock, rounded down to milliseconds. -/
def wholeMilliseconds (t : Timestamp) : Timestamp := ⟨t.clock / 1000 * 1000, t.offset⟩

/-- A clock in UTC shows the instant. -/
theorem toUtc_toUtc (t : Timestamp) : t.toUtc.toUtc = t.toUtc := by
  have hinstant : t.toUtc.instant = t.instant := by
    show t.instant - 0 * 1000000 = t.instant
    omega
  rw [toUtc, hinstant]
  rfl

/-- A number of milliseconds is the instant that it is counted from, rounded down. -/
theorem milliseconds_bounds (t : Timestamp) :
    t.milliseconds * 1000 ≤ t.instant ∧ t.instant < (t.milliseconds + 1) * 1000 := by
  unfold milliseconds
  omega

/-- **Milliseconds are in the order of the instants.** -/
theorem milliseconds_mono {t u : Timestamp} (h : t.instant ≤ u.instant) :
    t.milliseconds ≤ u.milliseconds :=
  Int.ediv_le_ediv (by decide) h

theorem milliseconds_ofInstant (m : Int) : (ofInstant (m * 1000)).milliseconds = m := by
  show (m * 1000 - 0 * 1000000) / 1000 = m
  omega

/-- The clock in UTC, rounded down, is the instant of the milliseconds. -/
theorem ofInstant_milliseconds (t : Timestamp) :
    ofInstant (t.milliseconds * 1000) = t.toUtc.wholeMilliseconds := rfl

/-! ### The clock of a millisecond -/

/-- No day starts within a millisecond. -/
theorem date_wholeMilliseconds (t : Timestamp) : t.wholeMilliseconds.date = t.date := by
  have hday : t.clock / 1000 * 1000 / 86400000000 = t.clock / 86400000000 := by omega
  show Date.ofDays (t.clock / 1000 * 1000 / 86400000000) = Date.ofDays (t.clock / 86400000000)
  rw [hday]

/-- Nor does a second: only the last three digits of the fraction are lost. -/
theorem timeOfDay_wholeMilliseconds (t : Timestamp) : t.wholeMilliseconds.timeOfDay =
    { t.timeOfDay with microsecond := t.timeOfDay.microsecond / 1000 * 1000 } := by
  obtain ⟨n, hn⟩ : ∃ n : Nat, t.clock % 86400000000 = n :=
    ⟨(t.clock % 86400000000).toNat, by omega⟩
  -- a day is a whole number of milliseconds, so that rounding stays within it
  have hwhole : t.clock / 1000 * 1000 % 86400000000 = (n / 1000 * 1000 : Nat) := by omega
  have htime : t.timeOfDay = TimeOfDay.ofMicroseconds n := by
    show TimeOfDay.ofMicroseconds (t.clock % 86400000000).toNat = _
    rw [hn, Int.toNat_natCast]
  have hwholeTime : t.wholeMilliseconds.timeOfDay =
      TimeOfDay.ofMicroseconds (n / 1000 * 1000) := by
    show TimeOfDay.ofMicroseconds (t.clock / 1000 * 1000 % 86400000000).toNat = _
    rw [hwhole, Int.toNat_natCast]
  rw [htime, hwholeTime, TimeOfDay.ofMicroseconds_milliseconds]

/-- The bounds of the years are at whole milliseconds. -/
theorem inRange_wholeMilliseconds {t : Timestamp} (h : t.inRange = true) :
    t.wholeMilliseconds.inRange = true := by
  have hearliest : earliest = -62135596800000 * 1000 := by decide
  unfold inRange at h ⊢
  rw [Bool.and_eq_true, decide_eq_true_eq, decide_eq_true_eq, hearliest] at h ⊢
  show _ ≤ t.clock / 1000 * 1000 ∧ t.clock / 1000 * 1000 < _
  omega

/-- Date and time are shown without the rest of the millisecond. -/
theorem clockChars_wholeMilliseconds (t : Timestamp) (rest : List Char) :
    t.wholeMilliseconds.clockChars rest = t.clockChars rest := by
  unfold clockChars
  rw [date_wholeMilliseconds, timeOfDay_wholeMilliseconds]

/-- The characters of a fraction in milliseconds. -/
def milliChars (t : Timestamp) : List Char :=
  '.' :: (zeroPadded 3 (t.timeOfDay.microsecond / 1000)).toList

/-- Three digits of fraction are the microseconds of the millisecond. -/
theorem readFraction_milliChars (t : Timestamp) {rest : List Char} (hr : EndsDigits rest) :
    readFraction (t.milliChars ++ rest) =
      some (t.wholeMilliseconds.timeOfDay.microsecond, rest) := by
  obtain ⟨-, -, -, hmicro, -⟩ := TimeOfDay.ofMicroseconds_spec (clock_rest t)
  have hthree : t.timeOfDay.microsecond / 1000 < 10 ^ 3 := by
    unfold timeOfDay
    omega
  rw [timeOfDay_wholeMilliseconds]
  exact readFraction_width (by decide) (by decide) hthree hr

/-- The characters of a timestamp in milliseconds. -/
theorem chars_milliText (t : Timestamp) :
    t.milliText.toList = t.toUtc.clockChars (t.toUtc.milliChars ++ ['Z']) := by
  have hpoint : ".".toList = ['.'] := rfl
  have hzone : "Z".toList = ['Z'] := rfl
  unfold milliText milliChars
  rw [← chars_clock]
  simp only [String.toList_append, hpoint, hzone, List.append_assoc, List.cons_append,
    List.nil_append]

/-- **The text of a timestamp shows the millisecond that its instant lies in.** -/
theorem ofInternetText?_milliText {t : Timestamp} (h : t.toUtc.inRange = true) :
    ofInternetText? t.milliText = some (ofInstant (t.milliseconds * 1000)) := by
  have hfraction := readFraction_milliChars t.toUtc (endsDigits_cons (c := 'Z') rfl [])
  have htext := chars_milliText t
  -- up to the fraction, the text is that of the clock rounded down, which is in range as well
  rw [← clockChars_wholeMilliseconds] at htext
  rw [ofInstant_milliseconds]
  exact ofInternetText?_chars (inRange_wholeMilliseconds h) hfraction
    (show readZone ['Z'] = some 0 from rfl) htext

/-- A text with three digits of fraction is not empty. -/
theorem milliText_ne_empty (t : Timestamp) : t.milliText ≠ "" := by
  intro hempty
  have hchars := chars_milliText t
  rw [hempty] at hchars
  exact absurd hchars.symm (by simp [clockChars])

/-- A duration from 1970 that ends in a year of one to four digits is an instant. -/
theorem ofDuration_eq_ok {i : Int} (h : (ofInstant i).inRange = true) :
    ofDuration i = .ok (ofInstant i) := by
  have hearliest : earliest = -719162 * 86400000000 := by decide
  have hlatest : latest = 2932897 * 86400000000 := by decide
  have hbounds : earliest ≤ i ∧ i < latest := by
    unfold inRange at h
    rw [Bool.and_eq_true, decide_eq_true_eq, decide_eq_true_eq] at h
    exact h
  have hdays : -719162 ≤ i / microsecondsPerDay ∧ i / microsecondsPerDay < 2932897 := by
    unfold microsecondsPerDay
    omega
  unfold ofDuration ofInstant?
  dsimp only
  rw [if_neg (by omega), if_neg (by omega), if_pos h]

end Timestamp

/-! ### Written and read -/

/-- **A number of milliseconds is read as its instant.** -/
theorem Encoding.decodeTimestamp_int {m : Int}
    (h : (Timestamp.ofInstant (m * 1000)).inRange = true) (origin : Value.Origin) :
    Encoding.cbor.decodeTimestamp origin (.int m) =
      .ok (.timestamp (.ofInstant (m * 1000))) := by
  unfold decodeTimestamp Timestamp.ofMilliseconds?
  dsimp only
  rw [Timestamp.ofDuration_eq_ok h]
  rfl

/-- A timestamp outside of headers and body has the text of its milliseconds. -/
theorem memberText_timestamp {t : Timestamp} (h : t.toUtc.inRange = true) :
    memberText .iso8601 (.timestamp t) = .ok t.milliText := by
  have htext : t.toUtc.milliText = t.milliText := by
    unfold Timestamp.milliText
    rw [Timestamp.toUtc_toUtc]
  unfold memberText TimestampFormat.text
  dsimp only
  rw [if_pos h, htext]

/-- **Timestamps in milliseconds are exact.** The number that a timestamp is converted to is its
instant in milliseconds, rounded down, and is read as the instant of that millisecond. The text that
it has in the query string and in the path shows the same instant, and can be read there. Each
number of milliseconds that is read is converted to again, and numbers are in the order of the
instants. -/
theorem Timestamp.milliseconds_exact :
    (∀ t : Timestamp, t.toUtc.inRange = true →
      Encoding.cbor.convert (.timestamp t) = .int t.milliseconds ∧
      (t.milliseconds * 1000 ≤ t.instant ∧ t.instant < (t.milliseconds + 1) * 1000) ∧
      (∀ origin, Encoding.cbor.decodeTimestamp origin (.int t.milliseconds) =
        .ok (.timestamp (.ofInstant (t.milliseconds * 1000)))) ∧
      memberText .iso8601 (.timestamp t) = .ok t.milliText ∧
      ofInternetText? t.milliText = some (.ofInstant (t.milliseconds * 1000)) ∧
      ∀ (m : Marshalling) (b : Binding), b.timestampFormat .iso8601 = .iso8601 →
        (b.area = .query → b.type ≠ .list → b.type ≠ .map → m.add b (.timestamp t) =
          (.ok (), { m with query := m.query ++ [(.text b.name, (t.milliText : Text))] })) ∧
        (b.area = .path → ∃ escaped, m.add b (.timestamp t) =
          (.ok (), { m with path := Association.put b.name escaped m.path }) ∧
          Percent.decode escaped.toList = .ok t.milliText)) ∧
    (∀ m : Int, (ofInstant (m * 1000)).inRange = true → ∀ origin, ∃ t,
      Encoding.cbor.decodeTimestamp origin (.int m) = .ok (.timestamp t) ∧
      t.instant = m * 1000 ∧ Encoding.cbor.convert (.timestamp t) = .int m) ∧
    ∀ t u : Timestamp, t.instant ≤ u.instant → ∃ m n,
      Encoding.cbor.convert (.timestamp t) = .int m ∧
      Encoding.cbor.convert (.timestamp u) = .int n ∧ m ≤ n := by
  refine ⟨fun t h => ?_, fun m h origin => ?_, fun t u h => ?_⟩
  · have hwhole : (ofInstant (t.milliseconds * 1000)).inRange = true := by
      rw [ofInstant_milliseconds]
      exact inRange_wholeMilliseconds h
    have htext := memberText_timestamp h
    refine ⟨rfl, milliseconds_bounds t, Encoding.decodeTimestamp_int hwhole, htext,
      ofInternetText?_milliText h, fun m b hformat => ⟨fun hb hlist hmap => ?_, fun hb => ?_⟩⟩
    · have hsends : b.Sends (.timestamp t) [(b.name, t.milliText)] :=
        .one hlist hmap (by simp) (by rw [hformat, htext])
      exact Marshalling.add_query hb hsends m
    · obtain ⟨greedy, hadd⟩ := Marshalling.add_path_escaped hb (v := .timestamp t) (by simp)
        (by rw [hformat, htext]) (milliText_ne_empty t) m
      exact ⟨_, hadd, PathTemplate.decode_escaped _⟩
  · refine ⟨_, Encoding.decodeTimestamp_int h origin, ?_, ?_⟩
    · show m * 1000 - 0 * 1000000 = m * 1000
      omega
    · show Value.int (ofInstant (m * 1000)).milliseconds = .int m
      rw [milliseconds_ofInstant]
  · exact ⟨_, _, rfl, rfl, milliseconds_mono h⟩

/-- Half a millisecond before 1970, on a clock three hours ahead. -/
theorem Timestamp.milliseconds_exact_before :
    Encoding.cbor.convert (.timestamp ⟨10799999500, some 10800⟩) = .int (-1) ∧
    Encoding.cbor.decodeTimestamp .memory (.int (-1)) = .ok (.timestamp ⟨-1000, some 0⟩) ∧
    ofInternetText? "1969-12-31T23:59:59.999Z" = some ⟨-1000, some 0⟩ ∧
    (Marshalling.new ⟨.restJson, "/", "GET", none, false, false⟩ none .nothing .silent).add
        ⟨.plain, .query, "since", none, false, none⟩ (.timestamp ⟨10799999500, some 10800⟩) =
      (.ok (), { Marshalling.new ⟨.restJson, "/", "GET", none, false, false⟩ none .nothing
        .silent with query := [(.text "since", ("1969-12-31T23:59:59.999Z" : Text))] }) := by
  obtain ⟨hexact, -, -⟩ := milliseconds_exact
  obtain ⟨hconvert, -, hdecode, -, hread, hadd⟩ := hexact ⟨10799999500, some 10800⟩ (by decide)
  have htext : milliText ⟨10799999500, some 10800⟩ = "1969-12-31T23:59:59.999Z" := by
    decide +kernel
  rw [htext] at hread hadd
  refine ⟨hconvert, hdecode .memory, hread, ?_⟩
  exact (hadd _ ⟨.plain, .query, "since", none, false, none⟩ rfl).1 rfl (by decide) (by decide)

end ServiceClient
