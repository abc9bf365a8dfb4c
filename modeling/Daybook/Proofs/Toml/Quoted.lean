/-
Daybook.Proofs.Toml.Quoted — a written text is read back.

`text_written`: whatever a text holds, the quoted text that is written for it
is read as that text, and what stands behind it is left alone. There are four
ways to write a text, and they come down to two. Between double quotes
everything can be escaped, so any text can be written there
(`body?_writtenBody`). Between single quotes a text stands as it is, which
works for the texts that `fits` lets pass (`body?_literal`).

Marks in the text are the only difficulty. A row of marks has to be seen as a
whole, because the closing marks may follow right behind marks of the text. So
both inductions go over the text with `j` marks before it that were written as
they are and not read yet: they are read with the closing marks if the text
ends there, and one by one if another character follows.
-/
import Daybook.Toml.Quoted

namespace Daybook.Toml

namespace Quoting

variable {q : Quoting} {c d : Char} {rest more after text cs : List Char} {mode mode' : Mode}
  {j : Nat}

/-! ## One character -/

theorem body?_go (h : q.step mode c rest = .go mode' text) :
    q.body? mode (c :: rest) = (q.body? mode' rest).map fun r => (text ++ r.1, r.2) := by
  simp only [body?, h]
  cases q.body? mode' rest <;> rfl

theorem body?_close (h : q.step mode c rest = .close text after) :
    q.body? mode (c :: rest) = some (text, after) := by
  simp only [body?, h]

/-- The characters are read as this text, whatever follows. -/
def Reads (q : Quoting) (chunk text : List Char) : Prop :=
  ∀ more, q.body? .plain (chunk ++ more)
    = (q.body? .plain more).map fun r => (text ++ r.1, r.2)

theorem closing?_none (h : c ≠ q.mark) : q.closing? (c :: rest) = none := by
  have hrun : (c :: rest).takeWhile (· == q.mark) = [] := by simp [h]
  rw [closing?, hrun]
  cases q.lines <;> rfl

theorem body?_plain (hclosing : q.closing? (c :: rest) = none)
    (hescape : (q.escapes && c == '\\') = false) (hallowed : q.allows c rest = true) :
    q.body? .plain (c :: rest) = (q.body? .plain rest).map fun r => (c :: r.1, r.2) := by
  have hstep : q.step .plain c rest = .go .plain [c] := by
    simp only [step, plainStep, hclosing, hescape, hallowed, Bool.false_eq_true, if_false, if_true]
  exact body?_go hstep

/-- A character that closes and escapes nothing stands for itself. -/
theorem reads_plain (hmark : c ≠ q.mark) (hescape : (q.escapes && c == '\\') = false)
    (hallowed : ∀ rest, q.allows c rest = true) : q.Reads [c] [c] := fun more =>
  body?_plain (closing?_none hmark) hescape (hallowed more)

/-! ## Rows of marks -/

/-- So many marks can stand in a text without closing it. -/
def limit (q : Quoting) : Nat := if q.lines then 2 else 0

/-- The mark is one of the two quotation marks. -/
def Marked (q : Quoting) : Prop := q.mark = '"' ∨ q.mark = '\''

theorem Marked.plain (h : q.Marked) :
    (q.escapes && q.mark == '\\') = false ∧ ∀ rest, q.allows q.mark rest = true := by
  rcases h with h | h <;> simp [escapes, allows, isControl, h]

theorem takeWhile_marks (m : Char) (j : Nat) (h : rest.head? ≠ some m) :
    (List.replicate j m ++ rest).takeWhile (· == m) = List.replicate j m := by
  rw [List.takeWhile_append_of_pos (by simp [List.mem_replicate])]
  cases rest with
  | nil => simp
  | cons c rest =>
    have hc : c ≠ m := by simpa using h
    simp [hc]

/-- Marks of the text with the closing marks right behind them. -/
theorem body?_closing (hj : j ≤ q.limit) (hrest : rest.head? ≠ some q.mark) :
    q.body? .plain (List.replicate j q.mark ++ q.marks ++ rest)
      = some (List.replicate j q.mark, rest) := by
  obtain ⟨m, lines⟩ := q
  cases lines with
  | false =>
    obtain rfl : j = 0 := Nat.le_zero.mp hj
    refine body?_close ?_
    show plainStep ⟨m, false⟩ m rest = _
    simp [plainStep, closing?]
  | true =>
    have hj : j ≤ 2 := hj
    have hrow : List.replicate j m ++ marks ⟨m, true⟩ = List.replicate (j + 3) m :=
      List.replicate_append_replicate
    have hclosing : closing? ⟨m, true⟩ (List.replicate (j + 3) m ++ rest)
        = some (List.replicate j m, rest) := by
      have hextra : min (j + 3 - 3) 2 = j := by omega
      rw [closing?, takeWhile_marks m _ hrest]
      simp only [List.length_replicate, hextra, Bool.not_true, Bool.false_eq_true, if_false]
      rw [if_neg (by omega), List.drop_append_of_le_length (by simp)]
      simp
    rw [hrow, List.replicate_succ, List.cons_append] at *
    refine body?_close ?_
    show plainStep ⟨m, true⟩ m _ = _
    rw [plainStep, hclosing]

/-- Marks of the text with another character behind them. -/
theorem body?_marks (hq : q.Marked) (hj : j ≤ q.limit) (hd : d ≠ q.mark) :
    q.body? .plain (List.replicate j q.mark ++ d :: rest)
      = (q.body? .plain (d :: rest)).map fun r => (List.replicate j q.mark ++ r.1, r.2) := by
  induction j with
  | zero => simp
  | succ j ih =>
    have hlines : q.lines = true ∧ j + 1 ≤ 2 := by
      cases hl : q.lines <;> simp [limit, hl] at hj ⊢
      omega
    have hclosing : q.closing? (q.mark :: (List.replicate j q.mark ++ d :: rest)) = none := by
      have hnext : (d :: rest).head? ≠ some q.mark := by simpa using hd
      have hrow := takeWhile_marks q.mark (j + 1) hnext
      rw [List.replicate_succ, List.cons_append] at hrow
      rw [closing?, hrow]
      simp [hlines.1]
      omega
    rw [List.replicate_succ, List.cons_append,
      body?_plain hclosing hq.plain.1 (hq.plain.2 _), ih (by omega), Option.map_map]
    rfl

/-- Marks of the text, and then characters that start with another one. -/
theorem body?_marks_chunk (hq : q.Marked) (hj : j ≤ q.limit) {chunk : List Char}
    (hreads : q.Reads (d :: chunk) text) (hd : d ≠ q.mark) :
    q.body? .plain (List.replicate j q.mark ++ (d :: chunk ++ more))
      = (q.body? .plain more).map fun r => (List.replicate j q.mark ++ text ++ r.1, r.2) := by
  rw [List.cons_append, body?_marks hq hj hd, ← List.cons_append, hreads, Option.map_map]
  congr 1
  funext r
  simp

/-! ## Between double quotes -/

section Escapes

variable (hq : q.mark = '"')

include hq

theorem step_backslash : q.step .plain '\\' rest = .go .escape [] := by
  have hmark : '\\' ≠ q.mark := by rw [hq]; decide
  simp [step, plainStep, closing?_none hmark, escapes, hq]

theorem reads_escape (h : escaped? c = some d) : q.Reads ['\\', c] [d] := by
  intro more
  have hletter : q.step .escape c more = .go .plain [d] := by simp [step, escapeStep, h]
  show q.body? .plain ('\\' :: c :: more) = _
  rw [body?_go (step_backslash hq), body?_go hletter]
  cases q.body? .plain more <;> rfl

omit hq in
theorem hexValue?_hexDigit : ∀ n < 16, Text.hexValue? (hexDigit n) = some n := by decide

/-- A character can be written as a code point. -/
theorem reads_codePoint (hc : c.toNat < 256) :
    q.Reads ['\\', 'u', '0', '0', hexDigit (c.toNat / 16), hexDigit (c.toNat % 16)] [c] := by
  intro more
  have hu : ∀ rest, q.step .escape 'u' rest = .go (.digits 3 0) [] := fun _ => rfl
  have hzero : ∀ rest, q.step (.digits 3 0) '0' rest = .go (.digits 2 0) [] := fun _ => rfl
  have hzero' : ∀ rest, q.step (.digits 2 0) '0' rest = .go (.digits 1 0) [] := fun _ => rfl
  have hhigh : ∀ rest, q.step (.digits 1 0) (hexDigit (c.toNat / 16)) rest
      = .go (.digits 0 (c.toNat / 16)) [] := by
    intro rest
    have hdigit := hexValue?_hexDigit (c.toNat / 16) (Nat.div_lt_of_lt_mul hc)
    simp [step, digitStep, hdigit]
  have hlow : ∀ rest, q.step (.digits 0 (c.toNat / 16)) (hexDigit (c.toNat % 16)) rest
      = .go .plain [c] := by
    intro rest
    have hdigit := hexValue?_hexDigit (c.toNat % 16) (Nat.mod_lt _ (by decide))
    have hvalid : c.toNat.isValidChar := c.valid
    simp [step, digitStep, hdigit, Nat.div_add_mod', hvalid]
  simp only [List.cons_append, List.nil_append]
  rw [body?_go (step_backslash hq), body?_go (hu _), body?_go (hzero _), body?_go (hzero' _),
    body?_go (hhigh _), body?_go (hlow _)]
  cases q.body? .plain more <;> rfl

theorem reads_written (hc : c ≠ '"') : q.Reads (written c) [c] := by
  unfold written
  split
  · exact reads_escape hq rfl
  · exact reads_escape hq rfl
  · exact reads_escape hq rfl
  · exact reads_escape hq rfl
  · exact reads_escape hq rfl
  · exact reads_escape hq rfl
  · split
    · rename_i hcontrol
      refine reads_codePoint hq ?_
      simp only [isControl, Bool.or_eq_true, Bool.and_eq_true, decide_eq_true_eq,
        beq_iff_eq] at hcontrol
      omega
    · rename_i hbackslash hcontrol
      have hescape : c ≠ '\\' := hbackslash
      refine reads_plain (by rw [hq]; exact hc) (by simp [hescape]) fun rest => ?_
      simp [allows, hcontrol]

end Escapes

/-- What is written for a character starts with a character that is neither
the mark nor a control character. -/
theorem written_eq_cons (hc : c ≠ '"') :
    ∃ d more, written c = d :: more ∧ d ≠ '"' ∧ isControl d = false := by
  unfold written
  split
  · exact ⟨_, _, rfl, by decide, by decide⟩
  · exact ⟨_, _, rfl, by decide, by decide⟩
  · exact ⟨_, _, rfl, by decide, by decide⟩
  · exact ⟨_, _, rfl, by decide, by decide⟩
  · exact ⟨_, _, rfl, by decide, by decide⟩
  · exact ⟨_, _, rfl, by decide, by decide⟩
  · split
    · exact ⟨_, _, rfl, by decide, by decide⟩
    · rename_i hcontrol
      exact ⟨c, [], rfl, hc, by simpa using hcontrol⟩

/-- Any text can be read back from between double quotes. -/
theorem body?_writtenBody (lines : Bool) (hrest : rest.head? ≠ some '"') :
    j ≤ limit ⟨'"', lines⟩ →
    body? ⟨'"', lines⟩ .plain
        (List.replicate j '"' ++ writtenBody lines j cs ++ marks ⟨'"', lines⟩ ++ rest)
      = some (List.replicate j '"' ++ cs, rest) := by
  have hq : Marked ⟨'"', lines⟩ := .inl rfl
  induction cs generalizing j with
  | nil =>
    intro hj
    simp only [writtenBody, List.append_nil]
    exact body?_closing hj hrest
  | cons c cs ih =>
    intro hj
    have hnone := ih (j := 0) (Nat.zero_le _)
    simp only [List.replicate_zero, List.nil_append, List.append_assoc] at hnone
    -- a chunk for `c` after the marks, and then the rest of the text
    have hchunk : ∀ {d chunk}, Reads ⟨'"', lines⟩ (d :: chunk) [c] → d ≠ '"' →
        body? ⟨'"', lines⟩ .plain (List.replicate j '"' ++ (d :: chunk
          ++ (writtenBody lines 0 cs ++ (marks ⟨'"', lines⟩ ++ rest))))
        = some (List.replicate j '"' ++ c :: cs, rest) := by
      intro d chunk hreads hd
      refine (body?_marks_chunk hq hj hreads hd).trans ?_
      rw [hnone]
      simp
    unfold writtenBody
    split
    · rename_i hc
      subst hc
      split
      · rename_i hroom
        have hj' : j + 1 ≤ limit ⟨'"', lines⟩ := by
          simp only [Bool.and_eq_true, decide_eq_true_eq] at hroom
          simp only [limit, hroom.1, if_true]
          omega
        have hnext := ih hj'
        simp only [List.replicate_succ', List.append_assoc, List.singleton_append] at hnext ⊢
        exact hnext
      · have h := hchunk (reads_escape (c := '"') rfl rfl) (by decide)
        simpa using h
    · rename_i hc
      split
      · rename_i hbreak
        simp only [Bool.and_eq_true, beq_iff_eq] at hbreak
        obtain ⟨rfl, rfl⟩ := hbreak
        have h := hchunk (reads_plain (c := '\n') (by decide) (by decide)
          fun rest => by simp [allows, isBreak]) (by decide)
        simpa using h
      · obtain ⟨d, chunk, hwritten, hd, _⟩ := written_eq_cons hc
        have hreads : Reads ⟨'"', lines⟩ (written c) [c] := reads_written rfl hc
        rw [hwritten] at hreads ⊢
        have h := hchunk hreads hd
        simpa using h

/-! ## Between single quotes -/

theorem maxRun_append (m : Char) (before cs : List Char) : maxRun m cs ≤ maxRun m (before ++ cs) := by
  induction before with
  | nil => exact Nat.le_refl _
  | cons c before ih => exact Nat.le_trans ih (Nat.le_max_right _ _)

theorem le_maxRun (m : Char) (j : Nat) (cs : List Char) : j ≤ maxRun m (List.replicate j m ++ cs) := by
  cases j with
  | zero => exact Nat.zero_le _
  | succ j =>
    rw [List.replicate_succ, List.cons_append, maxRun]
    refine Nat.le_trans ?_ (Nat.le_max_left _ _)
    rw [← List.cons_append, ← List.replicate_succ,
      List.takeWhile_append_of_pos (by simp [List.mem_replicate])]
    simp

/-- A text that fits can be read back as it stands. -/
theorem body?_literal (lines : Bool) (hrest : rest.head? ≠ some '\'') :
    (∀ c ∈ cs, !isControl c || (lines && c == '\n')) →
    maxRun '\'' (List.replicate j '\'' ++ cs) ≤ limit ⟨'\'', lines⟩ →
    body? ⟨'\'', lines⟩ .plain
        (List.replicate j '\'' ++ cs ++ marks ⟨'\'', lines⟩ ++ rest)
      = some (List.replicate j '\'' ++ cs, rest) := by
  have hq : Marked ⟨'\'', lines⟩ := .inr rfl
  induction cs generalizing j with
  | nil =>
    intro _ hrun
    simp only [List.append_nil] at hrun ⊢
    refine body?_closing (Nat.le_trans ?_ hrun) hrest
    simpa using le_maxRun '\'' j []
  | cons c cs ih =>
    intro hallowed hrun
    have hmore := fun d hd => hallowed d (List.mem_cons_of_mem c hd)
    by_cases hc : c = '\''
    · subst hc
      have hrow : List.replicate j '\'' ++ '\'' :: cs = List.replicate (j + 1) '\'' ++ cs := by
        simp [List.replicate_succ']
      rw [hrow] at hrun ⊢
      exact ih hmore hrun
    · have hj : j ≤ limit ⟨'\'', lines⟩ := Nat.le_trans (le_maxRun '\'' j (c :: cs)) hrun
      have hreads : Reads ⟨'\'', lines⟩ [c] [c] := by
        refine reads_plain hc rfl fun rest => ?_
        have hc := hallowed c List.mem_cons_self
        simp only [allows, isBreak, Bool.or_eq_true, Bool.and_eq_true] at hc ⊢
        exact hc.imp_right fun h => ⟨h.1, .inl h.2⟩
      have hrun' : maxRun '\'' (List.replicate 0 '\'' ++ cs) ≤ limit ⟨'\'', lines⟩ := by
        refine Nat.le_trans (maxRun_append '\'' (List.replicate j '\'' ++ [c]) cs) ?_
        simpa using hrun
      have hnone := ih (j := 0) hmore hrun'
      simp only [List.replicate_zero, List.nil_append, List.append_assoc] at hnone
      have h : body? ⟨'\'', lines⟩ .plain (List.replicate j '\'' ++ ([c]
          ++ (cs ++ (marks ⟨'\'', lines⟩ ++ rest))))
          = some (List.replicate j '\'' ++ c :: cs, rest) := by
        refine (body?_marks_chunk hq hj hreads hc).trans ?_
        rw [hnone]
        simp
      simpa using h

/-! ## From the opening marks on -/

theorem text_lines {m : Char} {start body : List Char}
    (hread : body? ⟨m, true⟩ .plain (body ++ marks ⟨m, true⟩ ++ rest) = some (cs, rest))
    (hstart : withoutBreak (start ++ (body ++ marks ⟨m, true⟩ ++ rest))
      = body ++ marks ⟨m, true⟩ ++ rest) :
    Quoting.text m (marks ⟨m, true⟩ ++ start ++ body ++ marks ⟨m, true⟩ ++ rest)
      = some (.ofList cs, rest) := by
  have hfront : marks ⟨m, true⟩ ++ start ++ body ++ marks ⟨m, true⟩ ++ rest
      = m :: m :: m :: (start ++ (body ++ marks ⟨m, true⟩ ++ rest)) := by
    simp [marks, List.replicate]
  rw [hfront, Quoting.text]
  simp only [List.isPrefixOf, BEq.rfl, Bool.and_self, if_true, List.drop_succ_cons, List.drop_zero,
    hstart, hread]
  rfl

theorem text_line {m : Char} {body : List Char} (hrest : rest.head? ≠ some m)
    (hread : body? ⟨m, false⟩ .plain (body ++ marks ⟨m, false⟩ ++ rest) = some (cs, rest))
    (hbody : body.head? ≠ some m) :
    Quoting.text m (marks ⟨m, false⟩ ++ body ++ marks ⟨m, false⟩ ++ rest)
      = some (.ofList cs, rest) := by
  have hfront : marks ⟨m, false⟩ ++ body ++ marks ⟨m, false⟩ ++ rest
      = m :: (body ++ marks ⟨m, false⟩ ++ rest) := rfl
  -- two marks in a row are an empty text, and no third one follows
  have hsingle : [m, m, m].isPrefixOf (m :: (body ++ marks ⟨m, false⟩ ++ rest)) = false := by
    cases body with
    | nil =>
      cases rest with
      | nil => simp [marks, List.isPrefixOf]
      | cons r rest =>
        have hr : m ≠ r := fun h => hrest (by simp [h])
        simp [marks, List.isPrefixOf, hr]
    | cons b body =>
      have hb : m ≠ b := fun h => hbody (by simp [h])
      simp [List.isPrefixOf, hb]
  rw [hfront, Quoting.text, hsingle, lineText]
  simp only [Bool.false_eq_true, if_false, List.drop_succ_cons, List.drop_zero, hread]
  rfl

theorem withoutBreak_eq_self (h : ∀ c, cs.head? = some c → isControl c = false) :
    withoutBreak cs = cs := by
  unfold withoutBreak
  split
  · exact absurd (h _ rfl) (by decide)
  · exact absurd (h _ rfl) (by decide)
  · rfl

/-- A body with a break at its front is written with one more before it. -/
theorem withoutBreak_start {start body : List Char}
    (h : start = ['\n'] ∨ start = [] ∧ ∀ c, body.head? = some c → isControl c = false) :
    withoutBreak (start ++ body) = body := by
  rcases h with rfl | ⟨rfl, h⟩
  · rfl
  · exact withoutBreak_eq_self h

theorem head?_writtenBody {lines : Bool} (h : '\n' ∉ cs) :
    ∀ c, (writtenBody lines j cs).head? = some c → isControl c = false := by
  intro c hc
  cases cs with
  | nil => simp [writtenBody] at hc
  | cons d cs =>
    have hd : d ≠ '\n' := fun he => h (by simp [he])
    unfold writtenBody at hc
    split at hc
    · rename_i hmark
      split at hc
      · cases hc
        rw [hmark]
        decide
      · cases hc
        decide
    · rename_i hmark
      obtain ⟨e, more, hwritten, _, he⟩ := written_eq_cons hmark
      have hbreak : ¬ (lines && d == '\n') = true := by simp [hd]
      rw [if_neg hbreak, hwritten] at hc
      cases hc
      exact he

theorem head?_writtenBody_line : (writtenBody false j cs).head? ≠ some '"' := by
  cases cs with
  | nil => simp [writtenBody]
  | cons c cs =>
    by_cases hc : c = '"'
    · simp [writtenBody, hc]
    · obtain ⟨d, more, hwritten, hd, _⟩ := written_eq_cons hc
      simpa [writtenBody, hc, hwritten] using hd

/-- Behind a body the closing marks follow, and they are no control characters. -/
theorem head?_body (hq : q.Marked) {body : List Char}
    (h : ∀ c, body.head? = some c → isControl c = false) :
    ∀ c, (body ++ q.marks ++ rest).head? = some c → isControl c = false := by
  intro c hc
  cases body with
  | nil =>
    have hmark : c = q.mark := by
      unfold marks at hc
      split at hc <;> simpa [List.replicate] using hc.symm
    rw [hmark]
    rcases hq with h | h <;> rw [h] <;> decide
  | cons b body => exact h c hc

/-! ## Any text -/

/-- The text can be written in this way. -/
def Suits (q : Quoting) (cs : List Char) : Prop :=
  q.mark = '"' ∨ q.mark = '\'' ∧ q.fits cs = true

/-- The way that is chosen for a text suits it. -/
theorem suits_choose (cs : List Char) : (choose cs).Suits cs := by
  unfold choose
  cases hfind : preferred.find? fun q => q.fits cs with
  | none => exact .inl rfl
  | some q =>
    have hfits : q.fits cs = true := by simpa using List.find?_some hfind
    have hmem := List.mem_of_find?_eq_some hfind
    simp only [preferred, List.mem_cons, List.not_mem_nil, or_false] at hmem
    rcases hmem with rfl | rfl | rfl | rfl
    · exact .inl rfl
    · exact .inr ⟨rfl, hfits⟩
    · exact .inl rfl
    · exact .inr ⟨rfl, hfits⟩

theorem text_write (hq : q.Suits cs) (hrest : rest.head? ≠ some q.mark) :
    Quoting.text q.mark (q.write cs ++ rest) = some (.ofList cs, rest) := by
  obtain ⟨m, lines⟩ := q
  -- the first character within three marks is a break or no control character
  have hstart : ∀ body : List Char, Marked ⟨m, true⟩ →
      ('\n' ∉ cs → ∀ c, body.head? = some c → isControl c = false) →
      withoutBreak ((if true && cs.contains '\n' then ['\n'] else [])
        ++ (body ++ marks ⟨m, true⟩ ++ rest)) = body ++ marks ⟨m, true⟩ ++ rest := by
    intro body hm hbody
    refine withoutBreak_start ?_
    by_cases hbreak : '\n' ∈ cs
    · exact .inl (by simp [hbreak])
    · exact .inr ⟨by simp [hbreak], head?_body hm (hbody hbreak)⟩
  rcases hq with hm | ⟨hm, hfits⟩
  · obtain rfl : m = '"' := hm
    have hread : body? ⟨'"', lines⟩ .plain (writtenBody lines 0 cs ++ marks ⟨'"', lines⟩ ++ rest)
        = some (cs, rest) := body?_writtenBody (j := 0) lines hrest (Nat.zero_le _)
    cases lines with
    | true => exact text_lines hread (hstart _ (.inl rfl) head?_writtenBody)
    | false => exact text_line hrest hread head?_writtenBody_line
  · obtain rfl : m = '\'' := hm
    simp only [fits, Bool.and_eq_true, List.all_eq_true, decide_eq_true_eq] at hfits
    obtain ⟨⟨hallowed, _⟩, hrun⟩ := hfits
    have hread : body? ⟨'\'', lines⟩ .plain (cs ++ marks ⟨'\'', lines⟩ ++ rest) = some (cs, rest) :=
      body?_literal (j := 0) lines hrest hallowed (by simpa [limit] using hrun)
    cases lines with
    | true =>
      refine text_lines hread (hstart cs (.inr rfl) fun hbreak c hc => ?_)
      have hmem := List.mem_of_mem_head? hc
      have hc' : c ≠ '\n' := fun he => hbreak (he ▸ hmem)
      simpa [hc'] using hallowed c hmem
    | false =>
      refine text_line hrest hread fun (hhead : cs.head? = some '\'') => ?_
      obtain ⟨more, rfl⟩ : ∃ more, cs = '\'' :: more := by
        cases cs with
        | nil => cases hhead
        | cons c cs => exact ⟨cs, by simpa using hhead⟩
      exact absurd (Nat.le_trans (le_maxRun '\'' 1 more) hrun) (by decide)

end Quoting

/-- Whatever a text holds, what is written for it starts with a quotation mark
and is read back. -/
theorem text_written (text : String) {rest : List Char}
    (hrest : rest.head? ≠ some '"' ∧ rest.head? ≠ some '\'') :
    ∃ m, (m = '"' ∨ m = '\'')
      ∧ ((writtenText text).toList ++ rest).head? = some m
      ∧ Quoting.text m ((writtenText text).toList ++ rest) = some (text, rest) := by
  have hsuits := Quoting.suits_choose text.toList
  have hmark : (Quoting.choose text.toList).Marked := hsuits.imp id And.left
  have hrest' : rest.head? ≠ some (Quoting.choose text.toList).mark := by
    rcases hmark with h | h <;> rw [h]
    · exact hrest.1
    · exact hrest.2
  refine ⟨(Quoting.choose text.toList).mark, hmark, ?_, ?_⟩
  · rw [writtenText, String.toList_ofList, Quoting.write, Quoting.marks]
    split <;> simp [List.replicate]
  · rw [writtenText, String.toList_ofList, Quoting.text_write hsuits hrest', String.ofList_toList]

end Daybook.Toml
