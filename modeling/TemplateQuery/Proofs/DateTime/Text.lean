import TemplateQuery.DateTime.Reader
import TemplateQuery.Proofs.Number.Digits

/-! Dates with times and their texts. What is read can be written and read again; what cannot be read is a time with a
zone whose year has not four digits, or whose offset is not made of whole minutes within a day. -/

set_option autoImplicit false

namespace TemplateQuery

open Number

-- Steps in sequence are opened in this form, where no congruence leads into the steps to come.
section Steps

variable {α β : Type}

theorem some_bind (a : α) (k : α → Option β) : (some a >>= k) = k a := rfl

theorem bind_eq_some_iff {x : Option α} {k : α → Option β} {b : β} :
    (x >>= k) = some b ↔ ∃ a, x = some a ∧ k a = some b :=
  Option.bind_eq_some_iff

end Steps

namespace Number

theorem length_padded {width n : Nat} (fits : n < 10 ^ width) (positive : 0 < width) :
    (padded width n).length = width := by
  have short := (length_natText_le_iff positive).mpr fits
  unfold padded
  rw [List.length_append, List.length_replicate]
  omega

theorem isDigit_of_mem_padded {c : Char} {width n : Nat} (member : c ∈ padded width n) : c.isDigit = true :=
  (isDigits_zeros _ n).2 c member

@[simp]
theorem ofDigits_padded (width n : Nat) : ofDigits (padded width n) = n := by
  unfold padded
  rw [ofDigits_replicate, ofDigits_natText]

theorem ofDigits_lt {cs : List Char} (digits : ∀ c ∈ cs, c.isDigit = true) : ofDigits cs < 10 ^ cs.length := by
  induction cs with
  | nil => decide
  | cons c cs ih =>
    have later := ih fun d member => digits d (List.mem_cons_of_mem c member)
    have digit := digits c List.mem_cons_self
    have small : ofDigits [c] < 10 := by
      simp only [Char.isDigit, Bool.and_eq_true, decide_eq_true_eq] at digit
      have top : c.toNat ≤ 57 := digit.2
      simp only [ofDigits, Nat.ofDigitChars_cons, Nat.ofDigitChars_nil]
      have zero : '0'.toNat = 48 := rfl
      omega
    rw [show c :: cs = [c] ++ cs from rfl, ofDigits_append, List.length_append, List.length_singleton, Nat.add_comm 1,
      Nat.pow_succ]
    have scaled : ofDigits [c] * 10 ^ cs.length ≤ 9 * 10 ^ cs.length := Nat.mul_le_mul_right _ (by omega)
    omega

end Number

namespace DateTime

/-! ## Fields -/

def Ends (rest : List Char) : Prop := ∀ c ∈ rest.head?, c.isDigit = false

theorem takeWhile_of_ends {rest : List Char} (ends : Ends rest) : rest.takeWhile Char.isDigit = [] := by
  cases rest with
  | nil => rfl
  | cons c rest => simp [ends c (by simp)]

theorem takeWhile_digits {digits rest : List Char} (all : ∀ c ∈ digits, c.isDigit = true) (ends : Ends rest) :
    (digits ++ rest).takeWhile Char.isDigit = digits := by
  rw [List.takeWhile_append_of_pos all, takeWhile_of_ends ends, List.append_nil]

theorem number?_append {least most : Nat} {digits rest : List Char} (all : ∀ c ∈ digits, c.isDigit = true)
    (enough : least ≤ digits.length) (few : digits.length ≤ most) (ends : digits.length = most ∨ Ends rest) :
    number? least most (digits ++ rest) = some (ofDigits digits, rest) := by
  have front : ((digits ++ rest).take most).takeWhile Char.isDigit = digits := by
    rw [List.take_append, List.take_of_length_le few]
    refine takeWhile_digits all ?_
    rcases ends with full | ends
    · simp [Ends, full]
    · intro c member
      refine ends c ?_
      generalize most - digits.length = room at member
      cases room with
      | zero => simp at member
      | succ room => simpa [List.head?_take] using member
  unfold number?
  dsimp only
  rw [front, if_neg (by omega), List.drop_left]

theorem number?_padded {least width n : Nat} (enough : least ≤ width) (positive : 0 < width) (fits : n < 10 ^ width)
    (rest : List Char) : number? least width (padded width n ++ rest) = some (n, rest) := by
  have length := length_padded fits positive
  rw [number?_append (fun c => isDigit_of_mem_padded) (by omega) (by omega) (.inl length), ofDigits_padded]

theorem twoDigits {n : Nat} (fits : n < 100) (rest : List Char) : number? 2 2 (padded 2 n ++ rest) = some (n, rest) :=
  number?_padded (Nat.le_refl 2) (by decide) fits rest

theorem exists_cons_padded (width n : Nat) : ∃ c cs, padded width n = c :: cs ∧ c.isDigit = true := by
  obtain ⟨c, cs, same⟩ : ∃ c cs, padded width n = c :: cs :=
    List.exists_cons_of_ne_nil (isDigits_zeros _ n).1
  exact ⟨c, cs, same, isDigit_of_mem_padded (same ▸ List.mem_cons_self)⟩

theorem trimStart_padded (width n : Nat) (rest : List Char) :
    Text.trimStart (padded width n ++ rest) = padded width n ++ rest := by
  obtain ⟨c, cs, same, digit⟩ := exists_cons_padded width n
  simp [same, Text.trimStart, not_blank_of_isDigit digit]

theorem field?_padded {n : Nat} (fits : n < 100) (rest : List Char) : field? (padded 2 n ++ rest) = some (n, rest) := by
  rw [field?, trimStart_padded]
  exact number?_padded (by decide) (by decide) fits rest

theorem lt_of_number? {least most n : Nat} {cs rest : List Char} (found : number? least most cs = some (n, rest)) :
    n < 10 ^ most := by
  unfold number? at found
  dsimp only at found
  split at found
  · cases found
  · cases found
    have digits : ∀ c ∈ (cs.take most).takeWhile Char.isDigit, c.isDigit = true :=
      List.all_eq_true.mp List.all_takeWhile
    refine Nat.lt_of_lt_of_le (ofDigits_lt digits) (Nat.pow_le_pow_right (by decide) ?_)
    exact Nat.le_trans (List.takeWhile_prefix _).length_le (List.length_take_le _ _)

@[simp]
theorem literal?_cons (c : Char) (cs : List Char) : literal? c (c :: cs) = some cs := if_pos rfl

theorem fraction?_padded {width : Nat} (short : width ≤ 9) (positive : 0 < width) {n : Nat} (fits : n < 10 ^ width)
    {rest : List Char} (ends : Ends rest) :
    fraction? ('.' :: padded width n ++ rest) = some (n * 10 ^ (9 - width), rest) := by
  have length := length_padded fits positive
  have digits : (padded width n ++ rest).takeWhile Char.isDigit = padded width n :=
    takeWhile_digits (fun _ => isDigit_of_mem_padded) ends
  have nonempty : (padded width n).isEmpty = false := by
    rw [List.isEmpty_eq_false_iff, ← List.length_pos_iff]
    omega
  simp only [List.cons_append, fraction?, digits, nonempty, List.take_of_length_le (length ▸ short), length,
    ofDigits_padded, List.drop_left' length]
  rfl

theorem fraction?_fractionText {nano : Nat} (fits : nano < 1000000000) {rest : List Char} (ends : Ends rest)
    (whole : rest.head? ≠ some '.') : fraction? (fractionText nano ++ rest) = some (nano, rest) := by
  unfold fractionText
  split
  · next zero =>
    rw [List.nil_append, zero]
    unfold fraction?
    split
    · simp at whole
    · rfl
  · split
    · have same : nano / 1000000 * 1000000 = nano := by omega
      rw [fraction?_padded (by decide) (by decide) (by omega) ends]
      simp only [Nat.reduceSub, Nat.reducePow, same]
    · split
      · have same : nano / 1000 * 1000 = nano := by omega
        rw [fraction?_padded (by decide) (by decide) (by omega) ends]
        simp only [Nat.reduceSub, Nat.reducePow, same]
      · rw [fraction?_padded (by decide) (by decide) (by omega) ends]
        simp

/-! ## Zones -/

def IsZone (offset : Int) : Prop := offset % 60 = 0 ∧ offset.natAbs < 86400

instance (offset : Int) : Decidable (IsZone offset) := inferInstanceAs (Decidable (_ ∧ _))

theorem zone?_signed {sign : Char} (signed : sign = '+' ∨ sign = '-') {hours minutes : Nat} (day : hours < 24)
    (hour : minutes < 60) :
    zone? (sign :: padded 2 hours ++ ':' :: padded 2 minutes) =
      some (if sign = '-' then -((hours * 3600 + minutes * 60 : Nat) : Int)
        else (hours * 3600 + minutes * 60 : Nat)) := by
  have first := twoDigits (show hours < 100 by omega) (':' :: padded 2 minutes)
  have second := twoDigits (show minutes < 100 by omega) []
  rw [List.append_nil] at second
  have inDay : ¬ 23 < hours := by omega
  have inHour : ¬ 59 < minutes := by omega
  rcases signed with rfl | rfl <;> simp [zone?, first, second, inDay, inHour]

theorem zone?_offsetText {offset : Int} (zone : IsZone offset) : zone? (offsetText offset) = some offset := by
  obtain ⟨minutes, day⟩ := zone
  unfold offsetText
  split
  · next zero =>
    rw [zero]
    rfl
  · dsimp only
    rw [zone?_signed (by split <;> simp) (by omega) (by omega)]
    congr 1
    by_cases negative : offset < 0
    · rw [if_pos negative, if_pos rfl]
      omega
    · rw [if_neg negative, if_neg (by decide)]
      omega

theorem isZone_of_zone? {cs : List Char} {offset : Int} (found : zone? cs = some offset) : IsZone offset := by
  unfold zone? at found
  split at found
  · cases found
    decide
  · cases found
    decide
  · simp only [bind_eq_some_iff, Prod.exists] at found
    obtain ⟨hours, rest, first, cs, colon, minutes, rest', second, found⟩ := found
    split at found
    · cases found
    · next bounds =>
      simp only [Bool.or_eq_true, Bool.not_eq_true', decide_eq_true_eq, not_or] at bounds
      split at found
      · cases found
        constructor <;> omega
      · split at found
        · cases found
          constructor <;> omega
        · cases found
  · cases found

/-! ## Dates with times -/

/-- What can be written and read again: any local time, and a time with a zone if its year has four digits. -/
def IsWritable (t : DateTime) : Prop :=
  ∀ offset ∈ t.offset, IsZone offset ∧ 0 ≤ t.date.year ∧ t.date.year ≤ 9999

def behindYear (t : DateTime) (zone : List Char) : List Char :=
  '-' :: (padded 2 t.date.month ++ '-' :: (padded 2 t.date.day ++ 'T' :: (padded 2 t.time.hour ++
    ':' :: (padded 2 t.time.minute ++ ':' :: (padded 2 t.time.second ++ (fractionText t.time.nano ++ zone))))))

theorem text_eq (t : DateTime) : t.text = yearText t.date.year ++ behindYear t (zoneText t.offset) := by
  simp [text, clockText, behindYear]

theorem isDate_fields {year : Int} {month day : Nat} (valid : Calendar.isDate year month day = true) :
    month < 100 ∧ day < 100 := by
  have longest : Calendar.daysIn year month ≤ 31 := by
    unfold Calendar.daysIn
    split
    · split <;> decide
    all_goals decide
  simp only [Calendar.isDate, Bool.and_eq_true, decide_eq_true_eq] at valid
  omega

theorem ofFields?_date (d : Date) : Date.ofFields? d.year d.month d.day = some d := dif_pos d.valid

theorem ofFields?_time (t : TimeOfDay) : TimeOfDay.ofFields? t.hour t.minute t.second t.nano = some t := dif_pos t.valid

theorem ends_zoneText (offset : Option Int) : Ends (zoneText offset) ∧ (zoneText offset).head? ≠ some '.' := by
  unfold zoneText offsetText Ends
  split
  · simp
  · split
    · simp
    · split <;> simp

theorem readZoned?_behindYear (t : DateTime) (bounds : 0 ≤ t.date.year ∧ t.date.year ≤ 9999) {zone : List Char}
    (ends : Ends zone) (whole : zone.head? ≠ some '.') :
    readZoned? (yearText t.date.year ++ behindYear t zone) =
      (zone? zone).map fun offset => ⟨t.date, t.time, some offset⟩ := by
  obtain ⟨month, day⟩ := isDate_fields t.date.valid
  obtain ⟨hour, minute, second, nano⟩ := t.time.valid
  have year : yearText t.date.year = padded 4 t.date.year.natAbs := if_pos bounds
  have value : (t.date.year.natAbs : Int) = t.date.year := by omega
  rw [year]
  unfold readZoned? behindYear
  simp only [number?_padded (Nat.le_refl 4) (by decide) (show t.date.year.natAbs < 10 ^ 4 by omega),
    some_bind, literal?_cons, twoDigits month, twoDigits day, List.head?_cons,
    Option.any_some, List.tail_cons, show isSeparator 'T' = true from rfl, Bool.not_true, Bool.false_eq_true, if_false,
    twoDigits (show t.time.hour < 100 by omega), twoDigits (show t.time.minute < 100 by omega),
    twoDigits (show t.time.second < 100 by omega), fraction?_fractionText nano ends whole, value, ofFields?_date,
    ofFields?_time]
  cases zone? zone <;> rfl

theorem readZoned?_text {t : DateTime} {offset : Int} (zoned : t.offset = some offset) (writable : t.IsWritable) :
    readZoned? t.text = some t := by
  obtain ⟨zone, bounds⟩ := writable offset zoned
  obtain ⟨ends, whole⟩ := ends_zoneText t.offset
  have read : zone? (zoneText t.offset) = some offset := by rw [zoned]; exact zone?_offsetText zone
  rw [text_eq, readZoned?_behindYear t bounds ends whole, read, Option.map_some, ← zoned]

theorem year?_yearText (year : Int) {rest : List Char} (ends : Ends rest) :
    year? (Text.trimStart (yearText year ++ rest)) = some (year, rest) := by
  -- Without a sign the reader takes four digits at most, and with one all that there are.
  unfold yearText
  split
  · next bounds =>
    rw [trimStart_padded]
    obtain ⟨c, cs, same, digit⟩ := exists_cons_padded 4 year.natAbs
    have number := number?_padded (show 1 ≤ 4 by decide) (by decide) (show year.natAbs < 10 ^ 4 by omega) rest
    rw [same, List.cons_append] at number ⊢
    unfold year?
    split
    · next found => cases found; cases digit
    · next found => cases found; cases digit
    · have magnitude : (year.natAbs : Int) = year := by omega
      rw [number]
      simp only [Option.map_some, magnitude]
  · next bounds =>
    have number : number? 1 (padded 4 year.natAbs ++ rest).length (padded 4 year.natAbs ++ rest) =
        some (year.natAbs, rest) := by
      obtain ⟨c, cs, same, -⟩ := exists_cons_padded 4 year.natAbs
      rw [number?_append (fun c => isDigit_of_mem_padded) (by simp [same]) (by simp) (.inr ends), ofDigits_padded]
    have signed : ∀ sign, Text.isBlank sign = false →
        Text.trimStart (sign :: padded 4 year.natAbs ++ rest) = sign :: (padded 4 year.natAbs ++ rest) := by
      intro sign other
      simp [Text.trimStart, other]
    split
    · next negative =>
      have magnitude : -(year.natAbs : Int) = year := by omega
      rw [signed '-' (by decide), year?, number]
      simp only [Option.map_some, magnitude]
    · next positive =>
      have magnitude : (year.natAbs : Int) = year := by omega
      rw [signed '+' (by decide), year?, number]
      simp only [Option.map_some, magnitude]

theorem readLocal?_text {t : DateTime} (unzoned : t.offset = none) : readLocal? t.text = some t := by
  obtain ⟨month, day⟩ := isDate_fields t.date.valid
  obtain ⟨hour, minute, second, nano⟩ := t.time.valid
  have year : year? (Text.trimStart t.text) = some (t.date.year, behindYear t []) := by
    rw [text_eq, unzoned]
    refine year?_yearText _ ?_
    simp [Ends, behindYear]
  unfold readLocal?
  rw [year]
  unfold behindYear
  simp only [some_bind, literal?_cons, field?_padded month, field?_padded day,
    field?_padded (show t.time.hour < 100 by omega), field?_padded (show t.time.minute < 100 by omega),
    field?_padded (show t.time.second < 100 by omega),
    fraction?_fractionText nano (show Ends [] by simp [Ends]) (by simp),
    ofFields?_date, ofFields?_time]
  rw [← unzoned]
  rfl

theorem readZoned?_local {t : DateTime} (unzoned : t.offset = none) : readZoned? t.text = none := by
  by_cases bounds : 0 ≤ t.date.year ∧ t.date.year ≤ 9999
  · obtain ⟨ends, whole⟩ := ends_zoneText t.offset
    rw [text_eq, readZoned?_behindYear t bounds ends whole, unzoned]
    rfl
  · have refused : number? 4 4 (yearText t.date.year ++ behindYear t (zoneText t.offset)) = none := by
      rw [yearText, if_neg bounds, List.cons_append]
      split <;> rfl
    rw [text_eq, readZoned?, refused]
    rfl

theorem year_of_ofFields? {year : Int} {month day : Nat} {d : Date} (found : Date.ofFields? year month day = some d) :
    d.year = year := by
  unfold Date.ofFields? at found
  split at found <;> cases found
  rfl

theorem isWritable_of_readZoned? {cs : List Char} {t : DateTime} (found : readZoned? cs = some t) : t.IsWritable := by
  unfold readZoned? at found
  simp only [bind_eq_some_iff, Prod.exists] at found
  obtain ⟨year, _, digits, _, -, month, _, -, _, -, day, _, -, found⟩ := found
  split at found
  · cases found
  · simp only [bind_eq_some_iff, Prod.exists] at found
    obtain ⟨_, _, -, _, -, _, _, -, _, -, _, _, -, _, zone, -, offset, zoned, date, dated, time, -, found⟩ := found
    cases found
    rintro _ ⟨⟩
    have small := lt_of_number? digits
    have same := year_of_ofFields? dated
    exact ⟨isZone_of_zone? zoned, by dsimp only; omega, by dsimp only; omega⟩

theorem offset_of_readLocal? {cs : List Char} {t : DateTime} (found : readLocal? cs = some t) : t.offset = none := by
  unfold readLocal? at found
  simp only [bind_eq_some_iff, Prod.exists] at found
  obtain ⟨_, _, -, _, -, _, _, -, _, -, _, _, -, _, -, _, _, -, _, -, _, _, -, _, -, _, _, -, _, _, -, found⟩ := found
  split at found
  · cases found
  · simp only [bind_eq_some_iff] at found
    obtain ⟨date, -, time, -, found⟩ := found
    cases found
    rfl

theorem isWritable_of_read? {cs : List Char} {t : DateTime} (found : read? cs = some t) : t.IsWritable := by
  rw [read?, Option.or_eq_some_iff] at found
  rcases found with zoned | ⟨-, unzoned⟩
  · exact isWritable_of_readZoned? zoned
  · simp [IsWritable, offset_of_readLocal? unzoned]

theorem read?_text_iff (t : DateTime) : read? t.text = some t ↔ t.IsWritable := by
  refine ⟨isWritable_of_read?, fun writable => ?_⟩
  cases zone : t.offset with
  | some offset => rw [read?, readZoned?_text zone writable, Option.some_or]
  | none => rw [read?, readZoned?_local zone, readLocal?_text zone, Option.none_or]

end DateTime

end TemplateQuery
