/-
Daybook.Proofs.Calendar.Digits — dates in digits are read as they are written.

A date in digits is three rows of digits with hyphens between them. Two readers
look at it. The reader of written dates takes a year of at most four digits,
or of any length behind a sign; the reader of date phrases, which is asked when
the first one gives nothing, takes a year of any length, but no sign.

* `printed_date_read` — the text of a date is read back, at any moment. Years
  past 9999 are for the reader of phrases, all others for the reader of written
  dates.
* `iso_date_exact` — four digits, two and two are read as the date with these
  numbers, or not at all. Both readers come to the same three numbers, so a
  day that is not in the calendar is refused by both, and nothing depends on
  the present moment.

What both have in common is `parse?_row`: a row of digits is one number to
every part of every reader, up to what stands behind it.
-/
import Daybook.Calendar.Phrase.Meaning
import Daybook.Proofs.Calendar.Names
import Daybook.Text.Reader
import Mathlib.Data.List.TakeWhile

namespace Daybook.Text

/-! ## 1. Rows of digits -/

/-- One digit or more. -/
structure IsRow (cs : List Char) : Prop where
  ne_nil : cs ≠ []
  digits : ∀ c ∈ cs, c.isDigit = true

/-- No digit comes next. -/
def EndsRow (rest : List Char) : Prop := ∀ c, rest.head? = some c → c.isDigit = false

theorem endsRow_nil : EndsRow [] := by
  intro c hc
  cases hc

theorem endsRow_hyphen (rest : List Char) : EndsRow ('-' :: rest) := by
  intro c hc
  cases hc
  rfl

theorem IsRow.exists_cons {row : List Char} (h : IsRow row) :
    ∃ c more, row = c :: more ∧ c.isDigit = true := by
  obtain ⟨c, more, rfl⟩ := List.exists_cons_of_ne_nil h.ne_nil
  exact ⟨c, more, rfl, h.digits c List.mem_cons_self⟩

theorem isBlank_digit {c : Char} (h : c.isDigit = true) : isBlank c = false := by
  have hbounds := Char.isDigit_iff_toNat.mp h
  have hzero : '0'.toNat = 48 := rfl
  have hnine : '9'.toNat = 57 := rfl
  cases hblank : isBlank c with
  | false => rfl
  | true =>
    simp only [isBlank, Bool.or_eq_true, Bool.and_eq_true, decide_eq_true_eq, beq_iff_eq] at hblank
    omega

theorem dropBlanks_row {row : List Char} (h : IsRow row) (rest : List Char) :
    dropBlanks (row ++ rest) = row ++ rest := by
  obtain ⟨c, more, rfl, hc⟩ := h.exists_cons
  simp [dropBlanks, isBlank_digit hc]

/-- A row of digits is taken whole. -/
theorem span_row {row rest : List Char} (h : ∀ c ∈ row, c.isDigit = true) (hrest : EndsRow rest) :
    (row ++ rest).takeWhile Char.isDigit = row ∧ (row ++ rest).dropWhile Char.isDigit = rest :=
  Prod.mk.inj (Option.some.inj (takeAll_append h hrest))

theorem valueOfDigits_eq (cs : List Char) : valueOfDigits cs = Nat.ofDigitChars 10 cs 0 := by
  rw [valueOfDigits, Nat.ofDigitChars_eq_foldl]
  simp only [Nat.mul_comm]

/-- So many digits cannot make more than so large a number. -/
theorem valueOfDigits_lt {cs : List Char} (h : ∀ c ∈ cs, c.isDigit = true) :
    valueOfDigits cs < Nat.pow 10 cs.length := by
  have hfold : ∀ v, cs.foldl (fun value d => value * 10 + (d.toNat - '0'.toNat)) v
      < (v + 1) * Nat.pow 10 cs.length := by
    induction cs with
    | nil =>
      intro v
      exact Nat.lt_of_lt_of_eq (Nat.lt_succ_self v) (Nat.mul_one _).symm
    | cons c cs ih =>
      intro v
      have hbounds := Char.isDigit_iff_toNat.mp (h c List.mem_cons_self)
      have hnine : '9'.toNat = '0'.toNat + 9 := rfl
      have hstep : v * 10 + (c.toNat - '0'.toNat) + 1 ≤ (v + 1) * 10 := by omega
      calc (c :: cs).foldl (fun value d => value * 10 + (d.toNat - '0'.toNat)) v
          < (v * 10 + (c.toNat - '0'.toNat) + 1) * Nat.pow 10 cs.length :=
            ih (fun d hd => h d (List.mem_cons_of_mem _ hd)) _
        _ ≤ (v + 1) * 10 * Nat.pow 10 cs.length := Nat.mul_le_mul_right _ hstep
        _ = (v + 1) * Nat.pow 10 (c :: cs).length := by
          rw [Nat.mul_assoc, Nat.mul_comm 10]
          rfl
  have hzero := hfold 0
  rw [Nat.zero_add, Nat.one_mul] at hzero
  exact hzero

theorem valueOfDigits_lt_hundred {cs : List Char} (h : ∀ c ∈ cs, c.isDigit = true)
    (hlen : cs.length ≤ 2) : valueOfDigits cs < 100 :=
  Nat.lt_of_lt_of_le (valueOfDigits_lt h) (Nat.pow_le_pow_right (by omega) hlen)

end Daybook.Text

namespace Daybook.Calendar

open Text (IsRow EndsRow valueOfDigits endsRow_nil endsRow_hyphen)

/-- Rows of digits for a year, a month and a day. -/
structure IsDated (ys ms ds : List Char) : Prop where
  year : IsRow ys
  month : IsRow ms
  day : IsRow ds
  month_le : ms.length ≤ 2
  day_le : ds.length ≤ 2

/-- Three texts with hyphens between them. -/
def hyphened (ys ms ds : List Char) : List Char :=
  ys ++ '-' :: (ms ++ '-' :: ds)

variable {row rest ys ms ds : List Char}

/-! ## 2. The reader of written dates -/

namespace Written

theorem digits?_row {limit : Nat} (hrow : IsRow row) (hlen : row.length ≤ limit)
    (hrest : EndsRow rest) : digits? limit (row ++ rest) = some (valueOfDigits row, rest) := by
  have hcut : EndsRow (rest.take (limit - row.length)) := by
    intro c hc
    cases rest with
    | nil => simp at hc
    | cons d rest =>
      cases hn : limit - row.length with
      | zero => simp [hn] at hc
      | succ n =>
        simp only [hn, List.take_succ_cons, List.head?_cons, Option.some.injEq] at hc
        exact hc ▸ hrest d rfl
  have hfound : ((row ++ rest).take limit).takeWhile Char.isDigit = row := by
    rw [List.take_append, List.take_of_length_le hlen]
    exact (Text.span_row hrow.digits hcut).1
  unfold digits?
  simp [hfound, hrow.ne_nil]

/-- Of a longer row the first digits are taken. -/
theorem digits?_long {limit : Nat} (hrow : IsRow row) (hlimit : 0 < limit)
    (hlen : limit ≤ row.length) (rest : List Char) :
    digits? limit (row ++ rest)
      = some (valueOfDigits (row.take limit), row.drop limit ++ rest) := by
  have hdigits : ∀ c ∈ row.take limit, c.isDigit = true := fun c hc =>
    hrow.digits c (List.mem_of_mem_take hc)
  have hfound : ((row ++ rest).take limit).takeWhile Char.isDigit = row.take limit := by
    rw [List.take_append_of_le_length hlen]
    simpa using (Text.span_row hdigits endsRow_nil).1
  have hne : row.take limit ≠ [] := by
    intro hnil
    rcases List.take_eq_nil_iff.mp hnil with hzero | hnil
    · omega
    · exact hrow.ne_nil hnil
  unfold digits?
  simp [hfound, hne, Nat.min_eq_left hlen, List.drop_append_of_le_length hlen]

theorem year?_row (hrow : IsRow row) (rest : List Char) :
    year? (row ++ rest) = (digits? 4 (row ++ rest)).map fun (n, after) => ((n : Int), after) := by
  have hblanks := Text.dropBlanks_row hrow rest
  obtain ⟨c, more, rfl, hc⟩ := hrow.exists_cons
  have hminus : c ≠ '-' := Text.ne_of_kind hc rfl
  have hplus : c ≠ '+' := Text.ne_of_kind hc rfl
  unfold year?
  rw [hblanks]
  split
  · rename_i heq
    exact absurd (List.cons.inj heq).1 hminus
  · rename_i heq
    exact absurd (List.cons.inj heq).1 hplus
  · rfl

/-- Behind a sign a year may have any number of digits. -/
theorem year?_negative (hrow : IsRow row) (hrest : EndsRow rest) :
    year? ('-' :: (row ++ rest)) = some (-(valueOfDigits row : Int), rest) := by
  have hread : digits? (row ++ rest).length (row ++ rest) = some (valueOfDigits row, rest) :=
    digits?_row hrow (by simp) hrest
  have hblanks : Text.dropBlanks ('-' :: (row ++ rest)) = '-' :: (row ++ rest) := rfl
  unfold year?
  rw [hblanks]
  exact congrArg (Option.map fun (n, after) => (-(n : Int), after)) hread

theorem part?_row (hrow : IsRow row) (hlen : row.length ≤ 2) (hrest : EndsRow rest) :
    part? ('-' :: (row ++ rest)) = some (valueOfDigits row, rest) := by
  show digits? 2 (Text.dropBlanks (row ++ rest)) = _
  rw [Text.dropBlanks_row hrow]
  exact digits?_row hrow hlen hrest

theorem part?_digit (hrow : IsRow row) (rest : List Char) : part? (row ++ rest) = none := by
  obtain ⟨c, more, rfl, hc⟩ := hrow.exists_cons
  have hminus : c ≠ '-' := Text.ne_of_kind hc rfl
  unfold part?
  split
  · rename_i heq
    exact absurd (List.cons.inj heq).1 hminus
  · rfl

/-- After the year come the month and the day, and nothing else. -/
theorem date?_of_year {text : String} {year : Int} (h : IsDated ys ms ds)
    (hyear : year? text.toList = some (year, '-' :: (ms ++ '-' :: ds))) :
    date? text = Date.of? year (valueOfDigits ms) (valueOfDigits ds) := by
  have hmonth := part?_row h.month h.month_le (endsRow_hyphen ds)
  have hday := part?_row h.day h.day_le endsRow_nil
  rw [List.append_nil] at hday
  simp [date?, hyear, hmonth, hday]

theorem date?_hyphened (h : IsDated ys ms ds) (hlen : ys.length ≤ 4) :
    date? (.ofList (hyphened ys ms ds))
      = Date.of? (valueOfDigits ys) (valueOfDigits ms) (valueOfDigits ds) := by
  refine date?_of_year h ?_
  rw [String.toList_ofList, hyphened, year?_row h.year, digits?_row h.year hlen (endsRow_hyphen _)]
  rfl

theorem date?_negative (h : IsDated ys ms ds) :
    date? (.ofList ('-' :: hyphened ys ms ds))
      = Date.of? (-(valueOfDigits ys : Int)) (valueOfDigits ms) (valueOfDigits ds) := by
  refine date?_of_year h ?_
  rw [String.toList_ofList, hyphened, year?_negative h.year (endsRow_hyphen _)]

/-- A longer year needs a sign: the fifth digit stands where the hyphen should. -/
theorem date?_long (h : IsDated ys ms ds) (hlen : 4 < ys.length) :
    date? (.ofList (hyphened ys ms ds)) = none := by
  have hmore : IsRow (ys.drop 4) :=
    ⟨fun hnil => by simp at hnil; omega, fun c hc => h.year.digits c (List.mem_of_mem_drop hc)⟩
  have hyear : year? (hyphened ys ms ds)
      = some ((valueOfDigits (ys.take 4) : Int), ys.drop 4 ++ '-' :: (ms ++ '-' :: ds)) := by
    rw [hyphened, year?_row h.year, digits?_long h.year (by omega) (by omega)]
    rfl
  simp [date?, hyear, part?_digit hmore]

end Written

/-! ## 3. The reader of date phrases -/

namespace Phrase

theorem nextToken_row (hrow : IsRow row) (hrest : EndsRow rest)
    (hsmall : valueOfDigits row < countLimit) :
    nextToken (row ++ rest) = (.number (valueOfDigits row), rest) := by
  have hlimit : valueOfDigits row < numberLimit := by
    have hle : countLimit ≤ numberLimit := by decide
    omega
  have hspan := Text.span_row hrow.digits hrest
  have hblanks := Text.dropBlanks_row hrow rest
  obtain ⟨c, more, rfl, hc⟩ := hrow.exists_cons
  have hmore : (more ++ rest).takeWhile Char.isDigit = more
      ∧ (more ++ rest).dropWhile Char.isDigit = rest :=
    Text.span_row (fun d hd => hrow.digits d (List.mem_cons_of_mem _ hd)) hrest
  unfold nextToken
  rw [hblanks]
  simp [hc, hmore.1, hmore.2, hlimit]

theorem token_row (hrow : IsRow row) (hrest : EndsRow rest)
    (hsmall : valueOfDigits row < countLimit) :
    token (row ++ rest) = some (.number (valueOfDigits row), rest) :=
  congrArg some (nextToken_row hrow hrest hsmall)

theorem token_hyphen (rest : List Char) : token ('-' :: rest) = some (.mark '-', rest) := by
  have hplain : startsWord '-' = false := by decide +kernel
  have hblanks : Text.dropBlanks ('-' :: rest) = '-' :: rest := rfl
  refine congrArg some ?_
  unfold nextToken
  rw [hblanks]
  simp [hplain]

theorem expectMark_hyphen (rest : List Char) : expectMark '-' ('-' :: rest) = some ((), rest) :=
  Text.bind_some (token_hyphen rest)

theorem count_row (hrow : IsRow row) (hrest : EndsRow rest)
    (hsmall : valueOfDigits row < countLimit) :
    count (row ++ rest) = some (valueOfDigits row, rest) := by
  refine (Text.bind_some (token_row hrow hrest hsmall)).trans ?_
  simp only [hsmall, if_true]
  rfl

theorem lt_countLimit (hrow : IsRow row) (hlen : row.length ≤ 2) :
    valueOfDigits row < countLimit := by
  have hvalue := Text.valueOfDigits_lt_hundred hrow.digits hlen
  have hle : 100 ≤ countLimit := by decide
  omega

/-- A number and a hyphen begin a date that is given by its three numbers. -/
theorem afterNumber_hyphen (h : IsDated ys ms ds) (n : Nat) :
    afterNumber none false n ('-' :: (ms ++ '-' :: ds))
      = some ((some (.absolute (signed n) (valueOfDigits ms) (valueOfDigits ds)), .none), []) := by
  have hday := count_row h.day endsRow_nil (lt_countLimit h.day h.day_le)
  rw [List.append_nil] at hday
  refine (Text.bind_some (token_hyphen _)).trans ?_
  refine (Text.bind_some
    (count_row h.month (endsRow_hyphen ds) (lt_countLimit h.month h.month_le))).trans ?_
  refine (Text.bind_some (expectMark_hyphen ds)).trans ?_
  exact Text.bind_some hday

theorem phrase_hyphened (h : IsDated ys ms ds) (hsmall : valueOfDigits ys < countLimit) :
    phrase (hyphened ys ms ds)
      = some (⟨some (.absolute (signed (valueOfDigits ys)) (valueOfDigits ms) (valueOfDigits ds)),
          none⟩, []) := by
  have hdate : datePart (hyphened ys ms ds) = some ((some (.absolute (signed (valueOfDigits ys))
      (valueOfDigits ms) (valueOfDigits ds)), .none), []) := by
    refine (Text.bind_some (token_row h.year (endsRow_hyphen _) hsmall)).trans ?_
    show afterDirection none false (.number (valueOfDigits ys)) ('-' :: (ms ++ '-' :: ds)) = _
    simp only [afterDirection, hsmall, if_true]
    exact afterNumber_hyphen h _
  have htime : timePart .none [] = some (none, []) := rfl
  refine (Text.bind_some hdate).trans ?_
  exact Text.bind_some htime

/-- No character of a date in digits ends the phrase. -/
theorem parse?_hyphened (h : IsDated ys ms ds) (hsmall : valueOfDigits ys < countLimit) :
    parse? (.ofList (hyphened ys ms ds))
      = some ⟨some (.absolute (signed (valueOfDigits ys)) (valueOfDigits ms) (valueOfDigits ds)),
          none⟩ := by
  have hdigit : ∀ {c : Char}, c.isDigit = true → c ≠ '\x00' := fun hc => Text.ne_of_kind hc rfl
  have hplain : (hyphened ys ms ds).takeWhile (· != '\x00') = hyphened ys ms ds := by
    have hall : ∀ c ∈ hyphened ys ms ds, (c != '\x00') = true := by
      intro c hc
      simp only [hyphened, List.mem_append, List.mem_cons] at hc
      rw [bne_iff_ne]
      rcases hc with hc | rfl | hc | rfl | hc
      · exact hdigit (h.year.digits c hc)
      · decide
      · exact hdigit (h.month.digits c hc)
      · decide
      · exact hdigit (h.day.digits c hc)
    exact List.takeWhile_eq_self_iff.mpr hall
  unfold parse?
  rw [String.toList_ofList, hplain]
  exact congrArg (Option.map _) (phrase_hyphened h hsmall)

/-- A day that is given by its numbers has nothing to do with the present. -/
theorem moment?_absolute (now : Moment) (year : Int) (month day : Nat) :
    (Phrase.mk (some (.absolute year month day)) none).moment? now
      = (Date.of? year month day).map fun date => ⟨date, 0⟩ := by
  have hmoment : (Phrase.mk (some (.absolute year month day)) none).moment? now
      = Date.of? year month day >>= fun date => momentOn? date none := rfl
  rw [hmoment]
  cases Date.of? year month day <;> rfl

theorem signed_natCast {n : Nat} (h : n < 2147483648) : signed n = n := by
  have hsize : UInt32.size = 4294967296 := rfl
  unfold signed
  refine Int.bmod_eq_of_le_mul_two ?_ ?_
  · omega
  · omega

end Phrase

/-! ## 4. Both readers -/

/-- A year without a sign, a month and a day are read as their numbers say, at
any moment. -/
theorem parse?_row (now : Moment) (h : IsDated ys ms ds) (hyear : valueOfDigits ys < 2147483648) :
    Date.parse? now (.ofList (hyphened ys ms ds))
      = Date.of? (valueOfDigits ys) (valueOfDigits ms) (valueOfDigits ds) := by
  have hcount : valueOfDigits ys < Phrase.countLimit := by
    have hle : 2147483648 ≤ Phrase.countLimit := by decide
    omega
  have hwritten : Written.date? (.ofList (hyphened ys ms ds)) = none
      ∨ Written.date? (.ofList (hyphened ys ms ds))
        = Date.of? (valueOfDigits ys) (valueOfDigits ms) (valueOfDigits ds) := by
    by_cases hlen : ys.length ≤ 4
    · exact .inr (Written.date?_hyphened h hlen)
    · exact .inl (Written.date?_long h (by omega))
  have hphrase := Phrase.parse?_hyphened h hcount
  rw [Phrase.signed_natCast hyear] at hphrase
  unfold Date.parse?
  cases hdate : Written.date? (.ofList (hyphened ys ms ds)) with
  | some date =>
    rcases hwritten with hnone | hof
    · rw [hdate] at hnone
      cases hnone
    · rw [← hof, hdate]
  | none =>
    -- what the first reader does not take, the second one takes the same way
    show (Phrase.parse? _ >>= fun phrase => phrase.moment? now >>= fun moment => some moment.date)
      = _
    rw [hphrase]
    show ((Phrase.mk _ none).moment? now >>= fun moment => some moment.date) = _
    rw [Phrase.moment?_absolute]
    cases Date.of? (valueOfDigits ys) (valueOfDigits ms) (valueOfDigits ds) <;> rfl

/-! ## 5. What is read -/

theorem of?_eq_some_iff {year : Int} {month day : Nat} {date : Date} :
    Date.of? year month day = some date ↔ date.toDay = ⟨year, month, day⟩ := by
  unfold Date.of? Day.toDate?
  constructor
  · intro h
    split at h
    · cases h
      rfl
    · cases h
  · intro h
    obtain ⟨d, hreal⟩ := date
    subst h
    rw [dif_pos hreal]

theorem parse_eq_ok_iff {now : Moment} {text : String} {date : Date} :
    Date.parse now text = .ok date ↔ Date.parse? now text = some date := by
  unfold Date.parse
  cases Date.parse? now text <;> simp

/-- The digits of a printed date are rows for a year, a month and a day. -/
theorem isDated_padded (date : Date) : IsDated (Text.paddedDigits 4 date.year)
    (Text.paddedDigits 2 date.month) (Text.paddedDigits 2 date.day) := by
  have hrow : ∀ width number, IsRow (Text.paddedDigits width number) := fun width number =>
    ⟨Text.paddedDigits_ne_nil width number, fun _ => Text.isDigit_paddedDigits⟩
  have htwo : ∀ {n : Nat}, n < 100 → (Text.paddedDigits 2 n).length ≤ 2 := by
    intro n hn
    have hlen := Text.length_padded_two hn
    rw [Text.length_padded] at hlen
    omega
  have hmonth := date.isReal.month_bounds
  have hday := date.isReal.day_le
  exact ⟨hrow 4 _, hrow 2 _, hrow 2 _, htwo (by omega), htwo (by omega)⟩

theorem valueOfDigits_padded (width : Nat) (number : Int) :
    valueOfDigits (Text.paddedDigits width number) = number.natAbs := by
  rw [Text.valueOfDigits_eq, Text.ofDigitChars_paddedDigits]

/-- A date is printed as its three numbers, with a sign before them if it lies
before the year 0. -/
theorem text_eq (date : Date) : date.text = .ofList ((if date.year < 0 then ['-'] else [])
    ++ hyphened (Text.paddedDigits 4 date.year) (Text.paddedDigits 2 date.month)
      (Text.paddedDigits 2 date.day)) := by
  have hplain : ∀ n : Nat, (Text.padded 2 n).toList = Text.paddedDigits 2 n := by
    intro n
    rw [Text.toList_padded, if_neg (by omega), List.nil_append]
  apply String.toList_inj.mp
  rw [String.toList_ofList]
  simp [Day.text, hyphened, hplain, Text.toList_padded 4]

/-- Every date is read back from the text that it is printed as, whatever the
present moment is. -/
theorem printed_date_read (now : Moment) (date : Date) :
    Date.parse now date.text = .ok date := by
  have hdated := isDated_padded date
  have hof : Date.of? date.year date.month date.day = some date := of?_eq_some_iff.mpr rfl
  rw [parse_eq_ok_iff, text_eq]
  by_cases hneg : date.year < 0
  · -- with a sign the first reader takes the year as long as it is
    have hread := Written.date?_negative hdated
    have hyear : -(date.year.natAbs : Int) = date.year := by omega
    simp only [valueOfDigits_padded, hyear, Int.natAbs_natCast, hof] at hread
    rw [if_pos hneg, List.singleton_append, Date.parse?, hread]
  · have hyear : (date.year.natAbs : Int) = date.year := by omega
    have hsmall : valueOfDigits (Text.paddedDigits 4 date.year) < 2147483648 := by
      have hlast : date.year ≤ 262142 := date.isReal.2.1
      rw [valueOfDigits_padded]
      omega
    have hread := parse?_row now hdated hsmall
    simp only [valueOfDigits_padded, hyear, Int.natAbs_natCast, hof] at hread
    rw [if_neg hneg, List.nil_append, hread]

example : (Date.parse ⟨⟨⟨2024, 3, 7⟩, by decide⟩, 0⟩ "12024-02-29").toOption.map (·.toDay)
    = some ⟨12024, 2, 29⟩ := by decide +kernel

theorem isDated_of_length (hys : ys.length = 4) (hms : ms.length = 2) (hds : ds.length = 2)
    (hdigits : ∀ c ∈ ys ++ ms ++ ds, c.isDigit = true) : IsDated ys ms ds := by
  have hrow : ∀ {row : List Char} {n : Nat}, row.length = n + 1 →
      (∀ c ∈ row, c ∈ ys ++ ms ++ ds) → IsRow row := by
    intro row n hlen hsub
    refine ⟨?_, fun c hc => hdigits c (hsub c hc)⟩
    rintro rfl
    simp at hlen
  exact ⟨hrow hys (by simp +contextual), hrow hms (by simp +contextual),
    hrow hds (by simp +contextual), by omega, by omega⟩

/-- A year of four digits lies in the calendar. -/
theorem isReal_iff_of_lt {year month day : Nat} (h : year < 10000) :
    (Day.mk year month day).IsReal ↔ 1 ≤ day ∧ day ≤ daysInMonth year month := by
  have hfirst : firstYear ≤ (year : Int) := by
    unfold firstYear
    omega
  have hlast : (year : Int) ≤ lastYear := by
    unfold lastYear
    omega
  exact ⟨fun hreal => hreal.2.2, fun hday => ⟨hfirst, hlast, hday⟩⟩

/-- Four digits, two and two with hyphens between them are read as the date with
these numbers, whatever the present moment is. If the calendar has no such day,
they are refused, and are never read as another date. -/
theorem iso_date_exact (now : Moment) {ys ms ds : List Char} (hys : ys.length = 4)
    (hms : ms.length = 2) (hds : ds.length = 2)
    (hdigits : ∀ c ∈ ys ++ ms ++ ds, c.isDigit = true) :
    let text := String.ofList (hyphened ys ms ds)
    let day : Day := ⟨valueOfDigits ys, valueOfDigits ms, valueOfDigits ds⟩
    let real := 1 ≤ day.day ∧ day.day ≤ daysInMonth day.year day.month
    (∀ date, Date.parse now text = .ok date ↔ date.toDay = day)
    ∧ ((∃ date, Date.parse now text = .ok date) ↔ real)
    ∧ (¬ real → Date.parse now text = .error (.invalidDate text)) := by
  intro text day real
  have hdated := isDated_of_length hys hms hds hdigits
  have hyear : valueOfDigits ys < 10000 :=
    Nat.lt_of_lt_of_eq (Text.valueOfDigits_lt hdated.year.digits) (by rw [hys])
  have hread : Date.parse? now text = day.toDate? := parse?_row now hdated (by omega)
  have hreal : day.IsReal ↔ real := isReal_iff_of_lt hyear
  have hok : ∀ date, Date.parse now text = .ok date ↔ date.toDay = day := by
    intro date
    rw [parse_eq_ok_iff, hread]
    exact of?_eq_some_iff
  refine ⟨hok, ?_, ?_⟩
  · constructor
    · rintro ⟨date, hdate⟩
      rw [← hreal, ← (hok date).mp hdate]
      exact date.isReal
    · intro h
      exact ⟨⟨day, hreal.mpr h⟩, (hok _).mpr rfl⟩
  · intro h
    unfold Date.parse
    rw [hread, Day.toDate?, dif_neg (fun hday => h (hreal.mp hday))]

theorem iso_date_exact_no_leap_day :
    let now : Moment := ⟨⟨⟨2024, 2, 29⟩, by decide⟩, 43200⟩
    let ys := ['2', '0', '2', '3']
    let ms := ['0', '2']
    let ds := ['2', '9']
    ys.length = 4 ∧ ms.length = 2 ∧ ds.length = 2
      ∧ (∀ c ∈ ys ++ ms ++ ds, c.isDigit = true)
      ∧ Date.parse now "2023-02-29" = .error (.invalidDate "2023-02-29") := by
  intro now ys ms ds
  have hdigits : ∀ c ∈ ys ++ ms ++ ds, c.isDigit = true := List.all_eq_true.mp rfl
  have hshort : ¬ (1 ≤ 29 ∧ 29 ≤ daysInMonth 2023 2) := by decide
  refine ⟨rfl, rfl, rfl, hdigits, ?_⟩
  exact (@iso_date_exact now ys ms ds rfl rfl rfl hdigits).2.2 hshort

end Daybook.Calendar
