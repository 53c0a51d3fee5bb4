import LinkTemplate.Calendar.Pattern
import LinkTemplate.CommandLine.Run
import LinkTemplate.Proofs.Calendar.Instants
import LinkTemplate.Proofs.Effects
import LinkTemplate.Proofs.Text.Digits

/-!
# Writing and reading RFC 3339 times

A time read has a year of four digits (`year_of_read`), so that its local date is one of the
calendar (`yearInRange_of_read`).

The other way round, `pattern` writes a time with all its digits. Each reader of a part takes what
the field of that part writes and leaves the rest : a number is padded to the digits that are read
(`takeNumber_padded`), the zone in front of which the fraction ends starts with no digit, and a
second 60 is read as the leap second that was written (`takeTime_instant`). So a time with a year
of four digits and a zone of whole minutes, the most that the notation can say, is read back
(`read_format`), also as the reference time of a run (`reference_round_trip`).
-/

namespace LinkTemplate

namespace Rfc3339

/-- The pattern of a time with all its digits. -/
def pattern : Text :=
  "yyyy-MM-dd'T'HH:mm:ss.SSSSSSSSSXXX".toList

open Pattern

theorem tokens_pattern :
    tokens pattern =
      [.field 'y' 4, .literal '-', .field 'M' 2, .literal '-', .field 'd' 2, .literal 'T',
       .field 'H' 2, .literal ':', .field 'm' 2, .literal ':', .field 's' 2, .literal '.',
       .field 'S' 9, .field 'X' 3] := by
  decide

/-! ## Years of times read -/

theorem lt_of_takeNumber {width n : Nat} {t rest : Text} (h : takeNumber width t = .ok (n, rest)) :
    n < 10 ^ width := by
  simp only [takeNumber] at h
  split at h
  case isTrue hdigits =>
    obtain ⟨rfl, -⟩ := Prod.mk.inj (Except.ok.inj h)
    have hlt := Text.ofDecimal_lt (List.all_eq_true.mp hdigits.2)
    rwa [hdigits.1] at hlt
  case isFalse => cases h

theorem of_takeDate {date : Date} {t rest : Text} (h : takeDate t = .ok (date, rest)) :
    date.IsValid ∧ 0 ≤ date.year ∧ date.year ≤ 9999 := by
  simp only [takeDate, bind_eq_ok_iff] at h
  obtain ⟨⟨year, t⟩, hyear, t, -, ⟨month, t⟩, -, t, -, ⟨day, t⟩, -, h⟩ := h
  split at h
  case isTrue hvalid =>
    obtain ⟨t, -, h⟩ := bind_eq_ok_iff.mp h
    obtain ⟨rfl, -⟩ := Prod.mk.inj (Except.ok.inj h)
    have hlt := lt_of_takeNumber hyear
    exact ⟨hvalid, Int.natCast_nonneg year, by simp only; omega⟩
  case isFalse => cases h

theorem second_lt_of_takeTime {second nanosecond : Nat} {t rest : Text}
    (h : takeTime t = .ok (second, nanosecond, rest)) : second < 86400 := by
  simp only [takeTime, bind_eq_ok_iff] at h
  obtain ⟨⟨hour, t⟩, -, t, -, ⟨minute, t⟩, -, t, -, ⟨s, t⟩, -, ⟨n, t⟩, -, h⟩ := h
  split_ifs at h
  all_goals
    obtain ⟨rfl, -⟩ := Prod.mk.inj (Except.ok.inj h)
    omega

theorem year_of_read {x : Instant} {t : Text} (h : read t = .ok x) :
    0 ≤ x.date.year ∧ x.date.year ≤ 9999 := by
  unfold read at h
  split at h
  case isTrue => cases h
  simp only [bind_eq_ok_iff] at h
  obtain ⟨⟨date, t⟩, hdate, ⟨second, nanosecond, t⟩, hsecond, ⟨zone, t⟩, -, h⟩ := h
  obtain ⟨hvalid, hyear⟩ := of_takeDate hdate
  simp only at h
  split at h
  case isTrue => cases h
  split at h
  case h_1 y hlocal =>
    obtain rfl := Except.ok.inj h
    have hshown := (Instant.ofLocal?_eq_some_iff hvalid (second_lt_of_takeTime hsecond)).mp hlocal
    rwa [hshown.1]
  case h_2 => cases h

/-- The local date of a time read is in the calendar. -/
theorem yearInRange_of_read {x : Instant} {t : Text} (h : read t = .ok x) :
    Instant.yearInRange x.date.year = true := by
  have hyear := year_of_read h
  exact Instant.yearInRange_eq_true_iff.mpr (by omega)

/-! ## Parts -/

theorem takeNumber_padded {width n : Nat} (hwidth : 0 < width) (h : n < 10 ^ width) (rest : Text) :
    takeNumber width (Text.padded width n ++ rest) = .ok (n, rest) := by
  have hlength := Text.length_padded hwidth h
  have htake : (Text.padded width n ++ rest).take width = Text.padded width n :=
    List.take_left' hlength
  have hdrop : (Text.padded width n ++ rest).drop width = rest := List.drop_left' hlength
  have hdigits : (Text.padded width n).all Char.isDigit = true :=
    List.all_eq_true.mpr fun _ hc => Text.isDigit_of_mem_padded hc
  simp only [takeNumber, htake, hdrop]
  rw [if_pos ⟨hlength, hdigits⟩, Text.ofDecimal_padded]

theorem takeZoneNumber_padded {n : Nat} (h : n < 100) (rest : Text) :
    takeZoneNumber (Text.padded 2 n ++ rest) = .ok (n, rest) := by
  have hsize := Text.length_le_utf8Size (Text.padded 2 n ++ rest)
  rw [List.length_append, Text.length_padded (by decide) h] at hsize
  rw [takeZoneNumber, if_neg (by omega), takeNumber_padded (by decide) h]

theorem takeChar_cons {test : Char → Bool} {c : Char} (h : test c = true) (rest : Text) :
    takeChar test (c :: rest) = .ok rest := by
  rw [takeChar, if_pos h]

theorem takeFraction_padded {n : Nat} (h : n < 10 ^ 9) {rest : Text}
    (hrest : ∀ c ∈ rest.head?, c.isDigit = false) :
    takeFraction ('.' :: (Text.padded 9 n ++ rest)) = .ok (n, rest) := by
  have hlength := Text.length_padded (by decide) h
  have hdigits : (Text.padded 9 n ++ rest).takeWhile Char.isDigit = Text.padded 9 n := by
    rw [List.takeWhile_append_of_pos fun _ hc => Text.isDigit_of_mem_padded hc]
    cases rest with
    | nil => rw [List.takeWhile_nil, List.append_nil]
    | cons c rest => simp [hrest c rfl]
  have hne : Text.padded 9 n ≠ [] := fun hnil => by simp [hnil] at hlength
  simp only [takeFraction, hdigits]
  rw [if_neg (by simp [hne]), if_neg hne, Text.rightpad_take hlength, Text.ofDecimal_padded,
    List.drop_left]

/-- A zone of whole minutes is read back. -/
theorem takeZone_zoneText {zone : Int} (hlt : zone.natAbs < 86400) (hminutes : zone % 60 = 0) :
    takeZone (zoneText [':'] zone) = .ok (zone, []) := by
  have hround : (zone.natAbs + 30) / 60 = zone.natAbs / 60 := by omega
  have hhour := takeZoneNumber_padded (n := zone.natAbs / 60 / 60) (by omega)
    (':' :: Text.padded 2 (zone.natAbs / 60 % 60))
  have hminute := takeZoneNumber_padded (n := zone.natAbs / 60 % 60) (by omega) []
  rw [List.append_nil] at hminute
  have hlt60 : zone.natAbs / 60 % 60 < 60 := Nat.mod_lt _ (by decide)
  have hseconds : 3600 * (zone.natAbs / 60 / 60 : Nat) + 60 * (zone.natAbs / 60 % 60 : Nat) =
      (zone.natAbs : Int) := by omega
  simp only [zoneText, hround, List.cons_append, List.append_assoc, List.nil_append, takeZone,
    hhour, takeChar_cons, hminute, bind, Except.bind, beq_self_eq_true, hlt60, if_true, hseconds]
  rcases lt_or_ge zone 0 with hneg | hpos
  · rw [Int.ofNat_natAbs_of_nonpos hneg.le]
    simp [zoneSign, hneg]
  · rw [Int.natAbs_of_nonneg hpos]
    simp [zoneSign, hpos.not_gt]

theorem takeDate_padded {date : Date} (hdate : date.IsValid) (hpos : 0 ≤ date.year)
    (hyear : date.year < 10000) (rest : Text) :
    takeDate (Text.padded 4 date.year.natAbs ++ '-' :: (Text.padded 2 date.month ++
      '-' :: (Text.padded 2 date.day ++ 'T' :: rest))) = .ok (date, rest) := by
  obtain ⟨year, month, day⟩ := date
  obtain ⟨n, rfl⟩ := Int.eq_ofNat_of_zero_le hpos
  have hlength : Date.daysInMonth n month ≤ 31 := Date.daysInMonth_le _ _
  have hmonth : month < 10 ^ 2 := lt_of_le_of_lt hdate.2.1 (by decide)
  have hday : day < 10 ^ 2 := lt_of_le_of_lt (hdate.2.2.2.trans hlength) (by decide)
  have hn : n < 10 ^ 4 := by
    simp only at hyear
    omega
  simp only [takeDate, Int.natAbs_natCast, bind, Except.bind, takeNumber_padded (by decide) hn,
    takeNumber_padded (by decide) hmonth, takeNumber_padded (by decide) hday, takeChar_cons,
    beq_self_eq_true, Bool.true_or, if_pos hdate]

/-- A second 60 is read as one inside the leap second behind a second 59. -/
theorem takeTime_padded {hour minute second n : Nat} (hhour : hour < 24) (hminute : minute < 60)
    (hsecond : second ≤ 60) (hn : n < 10 ^ 9) {rest : Text}
    (hrest : ∀ c ∈ rest.head?, c.isDigit = false) :
    takeTime (Text.padded 2 hour ++ ':' :: (Text.padded 2 minute ++
      ':' :: (Text.padded 2 second ++ '.' :: (Text.padded 9 n ++ rest)))) =
      .ok (3600 * hour + 60 * minute + min second 59,
        if second = 60 then n + Instant.nanosPerSecond else n, rest) := by
  simp only [takeTime, bind, Except.bind, takeChar_cons, beq_self_eq_true,
    takeNumber_padded (by decide) (hhour.trans (by decide : 24 < 10 ^ 2)),
    takeNumber_padded (by decide) (hminute.trans (by decide : 60 < 10 ^ 2)),
    takeNumber_padded (by decide) (hsecond.trans_lt (by decide : 60 < 10 ^ 2)),
    takeFraction_padded hn hrest]
  rcases hsecond.lt_or_eq with hlt | rfl
  · rw [if_pos ⟨hhour, hminute, hlt⟩, if_neg hlt.ne, Nat.min_eq_left (Nat.le_of_lt_succ hlt)]
  · simp [hhour, hminute]

/-- The time of day of an instant is read back. -/
theorem takeTime_instant (x : Instant) (hminutes : x.zone % 60 = 0) {rest : Text}
    (hrest : ∀ c ∈ rest.head?, c.isDigit = false) :
    takeTime (Text.padded 2 x.hour ++ ':' :: (Text.padded 2 x.minute ++
      ':' :: (Text.padded 2 (x.second + if x.inLeapSecond then 1 else 0) ++
        '.' :: (Text.padded 9 (x.nanosecond % Instant.nanosPerSecond) ++ rest)))) =
      .ok (x.secondOfDay, x.nanosecond, rest) := by
  have hhour : x.hour < 24 := Nat.div_lt_of_lt_mul x.secondOfDay_lt
  have hminute : x.minute < 60 := Nat.mod_lt _ (by decide)
  have hsecond : x.second < 60 := Nat.mod_lt _ (by decide)
  have htime : 3600 * x.hour + 60 * x.minute + x.second = x.secondOfDay := by
    unfold Instant.hour Instant.minute Instant.second
    omega
  have hn : x.nanosecond % Instant.nanosPerSecond < 10 ^ 9 := Nat.mod_lt _ (by decide)
  have hlt := x.nanosecond_lt
  by_cases hleap : x.inLeapSecond = true
  · have hle := Instant.inLeapSecond_iff.mp hleap
    have hlast : x.second = 59 := by
      have hcloses := x.closes_minute hle
      have hlocal := x.secondOfDay_eq
      rw [Instant.localTimestamp, Instant.secondsPerDay] at hlocal
      rw [Instant.second]
      omega
    rw [if_pos hleap, takeTime_padded hhour hminute (by omega) hn hrest, hlast, if_pos rfl,
      Nat.mod_eq_sub_mod hle, Nat.mod_eq_of_lt (by omega), Nat.sub_add_cancel hle, ← htime, hlast]
    rfl
  · have hsum : x.nanosecond % Instant.nanosPerSecond = x.nanosecond :=
      Nat.mod_eq_of_lt (Nat.lt_of_not_le fun hle => hleap (Instant.inLeapSecond_iff.mpr hle))
    rw [if_neg hleap, takeTime_padded hhour hminute (by omega) hn hrest, Nat.add_zero,
      if_neg hsecond.ne, hsum, Nat.min_eq_left (Nat.le_of_lt_succ hsecond), htime]

/-! ## Whole times -/

/-- What the pattern writes, piece by piece. -/
theorem format_pattern (x : Instant) :
    format x pattern =
      yearText x.date.year ++ '-' :: (Text.padded 2 x.date.month ++
        '-' :: (Text.padded 2 x.date.day ++ 'T' :: (Text.padded 2 x.hour ++
          ':' :: (Text.padded 2 x.minute ++
            ':' :: (Text.padded 2 (x.second + if x.inLeapSecond then 1 else 0) ++
              '.' :: (Text.padded 9 (x.nanosecond % Instant.nanosPerSecond) ++
                if x.zone = 0 then ['Z'] else zoneText [':'] x.zone)))))) := by
  have hfraction : fractionText 9 x.nanosecond =
      Text.padded 9 (x.nanosecond % Instant.nanosPerSecond) :=
    Text.rightpad_take (Text.length_padded (by decide) (Nat.mod_lt _ (by decide)))
  rw [format, tokens_pattern]
  simp [tokenText, fieldText?, numberText, hfraction]

theorem yearText_eq {year : Int} (hpos : 0 ≤ year) (hle : year ≤ 9999) :
    yearText year = Text.padded 4 year.natAbs := by
  rw [yearText, if_pos ⟨hpos, hle⟩]

/-- A zone starts with no digit, so that it ends the fraction in front of it. -/
theorem isDigit_head?_zone (zone : Int) :
    ∀ c ∈ (if zone = 0 then ['Z'] else zoneText [':'] zone).head?, c.isDigit = false := by
  unfold zoneText zoneSign
  split_ifs <;> simp

theorem takeZone_instant (x : Instant) (hminutes : x.zone % 60 = 0) :
    takeZone (if x.zone = 0 then ['Z'] else zoneText [':'] x.zone) = .ok (x.zone, []) := by
  split
  case isTrue hzero => rw [takeZone, if_pos (.inl rfl), hzero]
  case isFalse => exact takeZone_zoneText x.zone_lt hminutes

theorem read_format {x : Instant} (hpos : 0 ≤ x.date.year) (hle : x.date.year ≤ 9999)
    (hminutes : x.zone % 60 = 0) : read (format x pattern) = .ok x := by
  have hlocal : Instant.ofLocal? x.date x.secondOfDay x.nanosecond x.zone = some x :=
    (Instant.ofLocal?_eq_some_iff x.isValid_date x.secondOfDay_lt).mpr ⟨rfl, rfl, rfl, rfl⟩
  have hhead : headSize ≤ Text.utf8Size (format x pattern) := by
    refine le_trans ?_ (Text.length_le_utf8Size _)
    have hyear := Text.le_length_padded 4 x.date.year.natAbs
    have hnine := Text.le_length_padded 9 (x.nanosecond % Instant.nanosPerSecond)
    rw [format_pattern, yearText_eq hpos hle, headSize]
    simp only [List.length_append, List.length_cons]
    omega
  rw [read, if_neg (Nat.not_lt.mpr hhead), format_pattern, yearText_eq hpos hle,
    takeDate_padded x.isValid_date hpos (Int.lt_add_one_of_le hle)]
  simp only [bind, Except.bind, takeTime_instant x hminutes (isDigit_head?_zone x.zone),
    takeZone_instant x hminutes, hlocal]
  rfl

/-- An instant whose local year has at most four digits and whose zone is of whole minutes, written
with all its digits, is the reference time that is read from what was written. -/
theorem reference_round_trip {x : Instant} (hpos : 0 ≤ x.date.year) (hle : x.date.year ≤ 9999)
    (hminutes : x.zone % 60 = 0) (now : Instant) :
    CommandLine.parseReference now (some (format x pattern)) = .ok x := by
  rw [CommandLine.parseReference, read_format hpos hle hminutes]

/-- In the leap second at the end of 2016, seen from four and a half hours west of it. -/
theorem reference_round_trip_leap_second :
    let x : Instant := ⟨1483228799, 1500000000, -16200, by decide, by decide, by decide, by decide,
      by decide⟩
    0 ≤ x.date.year ∧ x.date.year ≤ 9999 ∧ x.zone % 60 = 0 ∧
      format x pattern = "2016-12-31T19:29:60.500000000-04:30".toList ∧
      CommandLine.parseReference .epoch (some (format x pattern)) = .ok x := by
  intro x
  have hpos : 0 ≤ x.date.year := by decide
  have hle : x.date.year ≤ 9999 := by decide
  have hminutes : x.zone % 60 = 0 := by decide
  have htext : format x pattern = "2016-12-31T19:29:60.500000000-04:30".toList := by decide
  exact ⟨hpos, hle, hminutes, htext, reference_round_trip hpos hle hminutes .epoch⟩

end Rfc3339

end LinkTemplate
