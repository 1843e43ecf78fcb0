import Mathlib.Data.String.Basic
import PasswordGate.Log.Record
import PasswordGate.Proofs.Json.Numbers
import PasswordGate.Proofs.Log.Calendar
import PasswordGate.Proofs.Log.Exposure
/-!
# Stamps — the text of an instant says when it was, and sorts by when it was

A stamp spells a `Moment`: a date and a time of day to the millisecond, each number in a column of digits
(`Moment.Spelt`).  The moment of an instant denotes it, cut down to the millisecond (`Moment.instant_ofMillis`), and the
stamp spells that moment.  Columns are as wide as their numbers get, so texts sort as moments do (`Spelt.le`), and moments
as the instants that they denote (`Regular.upTo_of_instant_le`).
-/
namespace PasswordGate

/-! ## Columns -/

/-- **A number in a column of digits**, with zeros in front. -/
structure Column (width n : Nat) (digits : List Char) : Prop where
  length : digits.length = width
  isDigit : ∀ c ∈ digits, c.isDigit
  value : naturalOfDigits digits = n

namespace Column

theorem toList_padded {width n : Nat} (hn : n < 10 ^ width) (hwidth : 0 < width) :
    Column width n (Instant.padded width n).toList := by
  have hdigits := (Nat.length_toDigits_le_iff (by decide) hwidth).2 hn
  have htext : (Instant.padded width n).toList =
      List.replicate (width - (Nat.toDigits 10 n).length) '0' ++ Nat.toDigits 10 n := by
    rw [Instant.padded, JsonReader.toList_padLeft, JsonReader.toList_toString_nat]
  rw [htext]
  refine ⟨?_, ?_, ?_⟩
  · rw [List.length_append, List.length_replicate]
    omega
  · intro c hc
    exact (List.mem_append.1 hc).elim JsonReader.isDigit_of_mem_replicate JsonReader.isDigit_of_mem_toDigits
  · show Nat.ofDigitChars 10 _ 0 = n
    rw [Nat.ofDigitChars_append, Nat.ofDigitChars_replicate_zero, Nat.mul_zero, Nat.ofDigitChars_ten_toDigits]

theorem naturalOfDigits_cons (c : Char) (digits : List Char) :
    naturalOfDigits (c :: digits) = 10 ^ digits.length * (c.toNat - 48) + naturalOfDigits digits := by
  show Nat.ofDigitChars 10 (c :: digits) 0 = _
  rw [Nat.ofDigitChars_cons, Nat.ofDigitChars_eq_ofDigitChars_zero, Nat.mul_zero, Nat.zero_add]
  rfl

theorem toNat_of_isDigit {c : Char} (h : c.isDigit) : 48 ≤ c.toNat ∧ c.toNat ≤ 57 := Char.isDigit_iff_toNat.1 h

theorem naturalOfDigits_lt : ∀ {digits : List Char}, (∀ c ∈ digits, c.isDigit) →
    naturalOfDigits digits < 10 ^ digits.length
  | [], _ => Nat.one_pos
  | c :: digits, h => by
    obtain ⟨hc, hrest⟩ := List.forall_mem_cons.1 h
    have hdigit := toNat_of_isDigit hc
    have hlt := naturalOfDigits_lt hrest
    have hle := Nat.mul_le_mul_left (10 ^ digits.length) (show c.toNat - 48 ≤ 9 by omega)
    rw [naturalOfDigits_cons, List.length_cons, Nat.pow_succ]
    omega

/-- **Digits of one width sort as their numbers**, and what follows decides between equal ones. -/
theorem append_le_append : ∀ {x y u v : List Char}, x.length = y.length → (∀ c ∈ x, c.isDigit) → (∀ c ∈ y, c.isDigit) →
    naturalOfDigits x < naturalOfDigits y ∨ naturalOfDigits x = naturalOfDigits y ∧ u ≤ v → x ++ u ≤ y ++ v
  | [], [], u, v, _, _, _, h => h.elim (fun hlt => absurd hlt (Nat.lt_irrefl _)) And.right
  | c :: x, d :: y, u, v, hlength, hx, hy, h => by
    obtain ⟨-, hx'⟩ := List.forall_mem_cons.1 hx
    obtain ⟨hd, hy'⟩ := List.forall_mem_cons.1 hy
    have hrest : x.length = y.length := Nat.succ.inj hlength
    have hlt := naturalOfDigits_lt hy'
    rw [naturalOfDigits_cons, naturalOfDigits_cons, hrest] at h
    rcases Nat.lt_trichotomy c.toNat d.toNat with hless | heq | hgreater
    · exact le_of_lt (List.Lex.rel hless)
    · obtain rfl := Char.toNat_inj.1 heq
      exact List.cons_le_cons c (append_le_append hrest hx' hy'
        (h.imp (fun hlt => by omega) fun ⟨heq, hle⟩ => ⟨by omega, hle⟩))
    · have hcode := toNat_of_isDigit hd
      have hle := Nat.mul_le_mul_left (10 ^ y.length) (show d.toNat - 48 + 1 ≤ c.toNat - 48 by omega)
      rw [Nat.mul_succ] at hle
      omega

theorem le {width n n' : Nat} {x y u v : List Char} (hx : Column width n x) (hy : Column width n' y)
    (h : n < n' ∨ n = n' ∧ u ≤ v) : x ++ u ≤ y ++ v :=
  append_le_append (hx.length.trans hy.length.symm) hx.isDigit hy.isDigit (by rwa [hx.value, hy.value])

/-- **Texts that start with a column and a separator** sort as the numbers, or else as what follows. -/
theorem le_cons {width n n' : Nat} {x y u v : List Char} (hx : Column width n x) (hy : Column width n' y) (separator : Char)
    (h : n < n' ∨ n = n' ∧ u ≤ v) : x ++ separator :: u ≤ y ++ separator :: v :=
  hx.le hy (h.imp_right (And.imp_right (List.cons_le_cons separator)))

end Column

/-! ## Moments -/

/-- **What a stamp says**: a date, and a time of the day to the millisecond. -/
structure Moment where
  date : Date
  hour : Nat
  minute : Nat
  second : Nat
  milli : Nat

namespace Moment

/-- A moment that clock and calendar have, in a year of at most four digits. -/
structure Regular (m : Moment) : Prop where
  date : m.date.Regular
  year : 1 ≤ m.date.year ∧ m.date.year ≤ 9999
  hour : m.hour < 24
  minute : m.minute < 60
  second : m.second < 60
  milli : m.milli < 1000

/-- The seconds of the day that have passed. -/
def secondOfDay (m : Moment) : Nat := m.hour * 3600 + m.minute * 60 + m.second

/-- **The instant that a moment denotes**, by the calendar's days. -/
def instant (m : Moment) : Int :=
  ((m.date.toDay - Instant.epochDay) * Instant.secondsPerDay + m.secondOfDay) * Instant.microsPerSecond + m.milli * 1000

/-- **The text that spells a moment**: `YYYY-MM-DDTHH:MM:SS.mmmZ`. -/
def Spelt (m : Moment) (text : String) : Prop :=
  ∃ year month day hour minute second milli : List Char,
    Column 4 m.date.year.toNat year ∧ Column 2 m.date.month month ∧ Column 2 m.date.day day ∧
    Column 2 m.hour hour ∧ Column 2 m.minute minute ∧ Column 2 m.second second ∧ Column 3 m.milli milli ∧
    text.toList = year ++ '-' :: (month ++ '-' :: (day ++ 'T' :: (hour ++ ':' :: (minute ++ ':' :: (second ++
      '.' :: (milli ++ ['Z']))))))

/-- The moment after so many milliseconds since 1970. -/
def ofMillis (millis : Int) : Moment :=
  let inDay := (millis % 86400000).toNat
  { date := Date.ofDay (millis / 86400000 + Instant.epochDay)
    hour := inDay / 3600000, minute := inDay / 60000 % 60, second := inDay / 1000 % 60, milli := inDay % 1000 }

theorem instant_ofMillis (millis : Int) : (ofMillis millis).instant = millis * 1000 := by
  simp only [instant, secondOfDay, ofMillis, Date.toDay_ofDay, Int.add_sub_cancel]
  simp only [Instant.secondsPerDay, Instant.microsPerSecond]
  omega

/-- **The text of a regular moment spells it.** -/
theorem Regular.spelt_format {m : Moment} (h : m.Regular) {millis : Nat} (hhour : millis / 3600000 = m.hour)
    (hminute : millis / 60000 % 60 = m.minute) (hsecond : millis / 1000 % 60 = m.second)
    (hmilli : millis % 1000 = m.milli) : m.Spelt (Instant.format m.date millis) := by
  have hmonth := h.date.month.2
  have hday := h.date.day.2
  have hlength := Calendar.monthLength_le (Calendar.isLeap m.date.year) m.date.month
  obtain ⟨-, ⟨hfirst, hlast⟩, hh, hmi, hs, hf⟩ := h
  refine ⟨_, _, _, _, _, _, _, Column.toList_padded (by omega) (by decide), Column.toList_padded (by omega) (by decide),
    Column.toList_padded (by omega) (by decide), Column.toList_padded (by omega) (by decide),
    Column.toList_padded (by omega) (by decide), Column.toList_padded (by omega) (by decide),
    Column.toList_padded (by omega) (by decide), ?_⟩
  have hdash : "-".toList = ['-'] := rfl
  have htime : "T".toList = ['T'] := rfl
  have hcolon : ":".toList = [':'] := rfl
  have hpoint : ".".toList = ['.'] := rfl
  have hzone : "Z".toList = ['Z'] := rfl
  rw [Instant.format, hhour, hminute, hsecond, hmilli]
  simp only [String.toList_append, hdash, htime, hcolon, hpoint, hzone, List.append_assoc, List.cons_append,
    List.nil_append]

/-! ## Order -/

/-- **Moments in order**, or the same: year before month, and so on to the millisecond. -/
def UpTo (m m' : Moment) : Prop :=
  m.date.year < m'.date.year ∨ m.date.year = m'.date.year ∧ (m.date.month < m'.date.month ∨
    m.date.month = m'.date.month ∧ (m.date.day < m'.date.day ∨ m.date.day = m'.date.day ∧ (m.hour < m'.hour ∨
      m.hour = m'.hour ∧ (m.minute < m'.minute ∨ m.minute = m'.minute ∧ (m.second < m'.second ∨
        m.second = m'.second ∧ m.milli ≤ m'.milli)))))

/-- **Moments come as the instants that they denote.** -/
theorem Regular.upTo_of_instant_le {m m' : Moment} (h : m.Regular) (h' : m'.Regular) (hle : m.instant ≤ m'.instant) :
    m.UpTo m' := by
  obtain ⟨hdate, -, hhour, hminute, hsecond, hmilli⟩ := h
  obtain ⟨hdate', -, hhour', hminute', hsecond', hmilli'⟩ := h'
  simp only [instant, secondOfDay, Instant.secondsPerDay, Instant.microsPerSecond] at hle
  unfold UpTo
  rcases Int.lt_trichotomy m.date.toDay m'.date.toDay with hday | hday | hday
  · have hbefore := (hdate.toDay_lt_toDay_iff hdate').1 hday
    unfold Date.Before at hbefore
    omega
  · rw [hdate.eq_of_toDay_eq hdate' hday]
    omega
  · omega

/-- **Texts come as the moments that they spell.** -/
theorem Spelt.le {m m' : Moment} {text text' : String} (h : m.Spelt text) (h' : m'.Spelt text')
    (hyear : 0 ≤ m.date.year) (hle : m.UpTo m') : text ≤ text' := by
  obtain ⟨year, month, day, hour, minute, second, milli, hy, hmo, hd, hh, hmi, hs, hf, htext⟩ := h
  obtain ⟨year', month', day', hour', minute', second', milli', hy', hmo', hd', hh', hmi', hs', hf', htext'⟩ := h'
  rw [String.le_iff_toList_le, htext, htext']
  refine hy.le_cons hy' '-' (hle.imp (fun hlt => by omega) (And.imp (congrArg Int.toNat) fun hle => ?_))
  refine hmo.le_cons hmo' '-' (hle.imp_right (And.imp_right fun hle => ?_))
  refine hd.le_cons hd' 'T' (hle.imp_right (And.imp_right fun hle => ?_))
  refine hh.le_cons hh' ':' (hle.imp_right (And.imp_right fun hle => ?_))
  refine hmi.le_cons hmi' ':' (hle.imp_right (And.imp_right fun hle => ?_))
  refine hs.le_cons hs' '.' (hle.imp_right (And.imp_right fun hle => ?_))
  exact hf.le hf' ((Nat.lt_or_eq_of_le hle).imp_right fun heq => ⟨heq, le_refl _⟩)

theorem Spelt.length {m : Moment} {text : String} (h : m.Spelt text) : text.length = 24 := by
  obtain ⟨year, month, day, hour, minute, second, milli, hy, hmo, hd, hh, hmi, hs, hf, htext⟩ := h
  rw [← String.length_toList, htext]
  simp only [List.length_append, List.length_cons, List.length_nil, hy.length, hmo.length, hd.length, hh.length,
    hmi.length, hs.length, hf.length]

end Moment

namespace Instant

/-- The instant at which a year begins. -/
def yearStart (year : Int) : Int := (Calendar.daysBeforeYear year - epochDay) * secondsPerDay * microsPerSecond

example : yearStart 1970 = 0 := by decide

/-- **An instant of the years 1 to 9999**, which are those that four digits can tell. -/
def Datable (instant : Int) : Prop := yearStart 1 ≤ instant ∧ instant < yearStart 10000

/-- The moment of an instant, cut to milliseconds. -/
def moment (instant : Int) : Moment := .ofMillis (instant / 1000)

variable {instant : Int}

theorem moment_le (instant : Int) : (moment instant).instant ≤ instant ∧ instant < (moment instant).instant + 1000 := by
  rw [moment, Moment.instant_ofMillis]
  omega

/-- The year of an instant is the last that has begun. -/
theorem yearStart_le_iff (instant year : Int) : yearStart year ≤ instant ↔ year ≤ (moment instant).date.year := by
  have hdate := Date.regular_ofDay (instant / 1000 / 86400000 + epochDay)
  have hyear : Calendar.daysBeforeYear year ≤ _ ↔ _ := hdate.daysBeforeYear_le_iff
  rw [Date.toDay_ofDay] at hyear
  show _ ↔ year ≤ (Date.ofDay _).year
  rw [← hyear]
  simp only [yearStart, secondsPerDay, microsPerSecond]
  omega

theorem Datable.regular (h : Datable instant) : (moment instant).Regular := by
  refine ⟨Date.regular_ofDay _, ⟨(yearStart_le_iff _ _).1 h.1, ?_⟩, ?_, ?_, ?_, ?_⟩
  · exact Int.le_of_lt_add_one (Int.not_le.1 fun hle => Int.not_le.2 h.2 ((yearStart_le_iff _ _).2 hle))
  · simp only [moment, Moment.ofMillis]
    omega
  all_goals exact Nat.mod_lt _ (by decide)

/-- Those years are far from the ends of what seconds can be taken apart. -/
theorem Datable.inCalendar (h : Datable instant) : inCalendar instant = true := by
  obtain ⟨hfirst, hlast⟩ := h
  rw [show yearStart 1 = -62135596800000000 from rfl] at hfirst
  rw [show yearStart 10000 = 253402300800000000 from rfl] at hlast
  exact Bool.and_eq_true_iff.2
    ⟨decide_eq_true (show (-67768040609740800 : Int) ≤ instant / 1000000 by omega),
      decide_eq_true (show instant / 1000000 ≤ (67768036191676799 : Int) by omega)⟩

/-- **An instant of those years has a stamp, which spells its moment.** -/
theorem Datable.exists_stamp (h : Datable instant) : ∃ text, stamp instant = .ok text ∧ (moment instant).Spelt text := by
  have hregular := h.regular
  have hspelt : (moment instant).Spelt (format (moment instant).date (instant / 1000 % 86400000).toNat) :=
    hregular.spelt_format rfl rfl rfl rfl
  refine ⟨_, ?_, hspelt⟩
  unfold stamp
  dsimp only
  rw [h.inCalendar, if_neg (by simp)]
  exact if_pos hregular.year

/-- **Stamps sort as the instants that they show.** -/
theorem Datable.stamp_le {later : Int} {text text' : String} (h : Datable instant) (h' : Datable later)
    (hle : instant ≤ later) (hstamp : stamp instant = .ok text) (hstamp' : stamp later = .ok text') : text ≤ text' := by
  obtain ⟨_, hfound, hspelt⟩ := h.exists_stamp
  obtain ⟨_, hfound', hspelt'⟩ := h'.exists_stamp
  obtain rfl := Except.ok.inj (hfound.symm.trans hstamp)
  obtain rfl := Except.ok.inj (hfound'.symm.trans hstamp')
  have hmoment : (moment instant).instant ≤ (moment later).instant := by
    rw [moment, moment, Moment.instant_ofMillis, Moment.instant_ofMillis]
    omega
  exact hspelt.le hspelt' (Int.le_trans (by decide) h.regular.year.1) (h.regular.upTo_of_instant_le h'.regular hmoment)

end Instant

namespace Record

theorem exists_of_surroundings {r : Record} {stamp : String} {around : List (String × Json) × List (String × Json)} :
    r.surroundings stamp = .ok around → ∃ rest, around.1 = ("ts", .text stamp) :: rest := by
  unfold surroundings
  cases r.logger with
  | text name =>
    cases r.text with
    | error e => nofun
    | ok message =>
      cases r.raised with
      | foreign => nofun
      | nothing =>
        cases Json.ofValue? r.level with
        | none => nofun
        | some level =>
          rintro ⟨⟩
          exact ⟨_, rfl⟩
      | exception title text =>
        cases Json.ofValue? r.level with
        | none => nofun
        | some level =>
          rintro ⟨⟩
          exact ⟨_, rfl⟩
  | _ => nofun

/-- **A record's line opens with its stamp.** -/
theorem exists_line_of_stamp {r : Record} {text line : String} (hstamp : r.stamp = .ok text) (hline : r.line = .ok line) :
    ∃ rest, line = (Json.object (("ts", .text text) :: rest)).render := by
  have hat : r.lineAt text = .ok line := by
    rw [← hline, Record.line, hstamp]
  unfold lineAt at hat
  rw [members_eq] at hat
  cases hsurroundings : r.surroundings text with
  | error e =>
    rw [hsurroundings] at hat
    cases hat
  | ok around =>
    rw [hsurroundings] at hat
    obtain rfl := Except.ok.inj hat
    obtain ⟨rest, hbefore⟩ := exists_of_surroundings hsurroundings
    dsimp only
    rw [hbefore]
    exact ⟨_, rfl⟩

end Record

namespace Instant

/-- **Stamps are right, and sort by time.**  Every instant of the years 1 to 9999 has a stamp of 24 characters, which spells
a moment that clock and calendar have: the one that denotes the instant cut down to a whole millisecond, before 1970 as
after.  It is the first member of the line of every record made at that instant, and in the order of texts it does not come
behind the stamp of a later one. -/
theorem stamp_chronological (h : Datable instant) : ∃ (text : String) (m : Moment),
    stamp instant = .ok text ∧ text.length = 24 ∧ m.Regular ∧ m.Spelt text ∧
    (m.instant % 1000 = 0 ∧ m.instant ≤ instant ∧ instant < m.instant + 1000) ∧
    (∀ r : Record, ofValue r.created = .ok instant → r.stamp = .ok text ∧
      ∀ line, r.line = .ok line → ∃ rest, line = (Json.object (("ts", .text text) :: rest)).render) ∧
    ∀ (later : Instant) (text' : String), Datable later → instant ≤ later → stamp later = .ok text' → text ≤ text' := by
  obtain ⟨text, hstamp, hspelt⟩ := h.exists_stamp
  refine ⟨text, moment instant, hstamp, hspelt.length, h.regular, hspelt, ⟨?_, moment_le instant⟩, fun r hr => ?_,
    fun later text' hlater hle => h.stamp_le hlater hle hstamp⟩
  · rw [moment, Moment.instant_ofMillis]
    omega
  · have hr' : r.stamp = .ok text := by
      rw [Record.stamp, hr]
      exact hstamp
    exact ⟨hr', fun line hline => Record.exists_line_of_stamp hr' hline⟩

/-- Two seconds into the year 1, less a microsecond, and the last microsecond before 1970. -/
theorem stamp_chronological_before_1970 :
    stamp (-62135596798000001) = .ok "0001-01-01T00:00:01.999Z" ∧ stamp (-1) = .ok "1969-12-31T23:59:59.999Z" ∧
    "0001-01-01T00:00:01.999Z" ≤ "1969-12-31T23:59:59.999Z" := by
  obtain ⟨text, -, hstamp, -, -, -, -, -, hle⟩ :=
    stamp_chronological (show Datable (-62135596798000001) from ⟨by decide, by decide⟩)
  obtain rfl := Except.ok.inj (hstamp.symm.trans rfl)
  exact ⟨hstamp, rfl, hle (-1) _ ⟨by decide, by decide⟩ (by decide) rfl⟩

end Instant
end PasswordGate
