/-
Daybook.Proofs.Toml.Page — a page of lines is read back.

A page is cut into lines, each with the line feed behind it. `ReadsLine` says
of one line that it is read as a statement, whatever follows the line feed,
and `statementsWithin_page` folds that along the page. The feed belongs to the
line that it ends: that is where a value of one word stops, and reading a
statement leaves the feed for `lineEnd` to take.

Two kinds of values are needed, quoted texts and words. For both it is enough
to read them with a line feed behind (`ReadsValue`).

What the statements of a page come to is a table. With keys at the top and one
header with keys below it, no key given twice, the table has what was assigned,
in the order of the page (`ofStatements?_assignments`).
-/
import Daybook.Proofs.Toml.Number
import Daybook.Proofs.Toml.Quoted
import Daybook.Toml.Document

namespace Daybook.Toml

open Text (Reader bind_some expect_cons ne_of_kind peek_eq takeAll takeAll_append takeSome_append)

variable {cs more rest line written : List Char} {c : Char} {v : Value} {s : Statement}
  {ss : List Statement} {name : String}

theorem skipBlanks_eq (cs : List Char) : skipBlanks cs = some ((), cs.dropWhile isBlank) := rfl

/-! ## Values -/

/-- The characters are read as the value when a line feed stands behind them. -/
structure ReadsValue (written : List Char) (v : Value) : Prop where
  reads : ∀ rest, value maxDepth (written ++ '\n' :: rest) = some (v, '\n' :: rest)
  /-- No blank is passed over before the value. -/
  start : ∃ c more, written = c :: more ∧ isBlank c = false

/-- A value that starts with no bracket holds no others. -/
theorem value_leaf (depth : Nat) (hopen : cs.head? ≠ some '[') (hbrace : cs.head? ≠ some '\x7b') :
    value depth cs = leaf cs := by
  cases depth with
  | zero => rfl
  | succ depth =>
    refine (bind_some (peek_eq cs)).trans (congrFun ?_ cs)
    split
    · rename_i h
      exact absurd h hopen
    · rename_i h
      exact absurd h hbrace
    · rfl

theorem readsValue_text (text : String) : ReadsValue (writtenText text).toList (.text text) := by
  constructor
  · intro rest
    have hfeed : ('\n' :: rest).head? ≠ some '"' ∧ ('\n' :: rest).head? ≠ some '\'' := by simp
    obtain ⟨m, hm, hhead, hread⟩ := text_written text hfeed
    have hleaf : leaf ((writtenText text).toList ++ '\n' :: rest)
        = some (.text text, '\n' :: rest) := by
      refine (bind_some (peek_eq _)).trans ?_
      rw [hhead]
      rcases hm with rfl | rfl
      · exact bind_some hread
      · exact bind_some hread
    rw [value_leaf, hleaf]
    all_goals
      rw [hhead]
      rcases hm with rfl | rfl <;> decide
  · have hend : ([] : List Char).head? ≠ some '"' ∧ ([] : List Char).head? ≠ some '\'' := by simp
    obtain ⟨m, hm, hhead, _⟩ := text_written text hend
    rw [List.append_nil] at hhead
    obtain ⟨more, hmore⟩ := List.head?_eq_some_iff.mp hhead
    exact ⟨m, more, hmore, by rcases hm with rfl | rfl <;> decide⟩

theorem leaf_word (hdouble : cs.head? ≠ some '"') (hsingle : cs.head? ≠ some '\'')
    (hread : word cs = some (written, rest)) (hvalue : wordValue? written = some v) :
    leaf cs = some (v, rest) := by
  refine (bind_some (peek_eq cs)).trans ((congrFun (g := ?_) ?_ cs).trans ?_)
  rotate_left
  · split
    · rename_i h
      exact absurd h hdouble
    · rename_i h
      exact absurd h hsingle
    · rfl
  · refine (bind_some hread).trans ?_
    rw [hvalue]
    rfl

/-- A word that is no date is read as what it stands for. -/
theorem readsValue_word (hne : written ≠ []) (hall : written.all isWordChar = true)
    (hdate : takesAll date written = false) (hvalue : wordValue? written = some v) :
    ReadsValue written v := by
  obtain ⟨c, more, rfl⟩ := List.exists_cons_of_ne_nil hne
  have hword := List.all_eq_true.mp hall
  have hc := hword c List.mem_cons_self
  have hnot : ∀ d, isWordChar d = false → c ≠ d := fun d hd => ne_of_kind hc hd
  refine ⟨fun rest => ?_, c, more, rfl, ?_⟩
  · have htake : takeAll isWordChar (c :: more ++ '\n' :: rest) = some (c :: more, '\n' :: rest) :=
      takeAll_append hword fun d hd => by
        cases hd
        rfl
    have hread : word (c :: more ++ '\n' :: rest) = some (c :: more, '\n' :: rest) := by
      refine (bind_some htake).trans ?_
      rw [hdate]
      rfl
    rw [value_leaf]
    · exact leaf_word (by simpa using hnot '"' (by decide)) (by simpa using hnot '\'' (by decide))
        hread hvalue
    · simpa using hnot '[' (by decide)
    · simpa using hnot '\x7b' (by decide)
  · simp [isBlank, hnot ' ' (by decide), hnot '\t' (by decide)]

theorem readsValue_boolean (b : Bool) :
    ReadsValue (if b then "true".toList else "false".toList) (.boolean b) := by
  cases b with
  | true => exact readsValue_word (by decide) (by decide) (by decide) rfl
  | false => exact readsValue_word (by decide) (by decide) (by decide) rfl

theorem readsValue_number {n : Nat} (h : n < 0x100000000000000000000000000000000) :
    ReadsValue (Nat.toDigits 10 n) (.integer n) := by
  have hdigit : ∀ c ∈ Nat.toDigits 10 n, c.isDigit = true := fun c hc =>
    Nat.isDigit_of_mem_toDigits (by decide) (by decide) hc
  have hnot : ∀ d : Char, d.isDigit = false → d ∉ Nat.toDigits 10 n := fun d hd hmem =>
    ne_of_kind (hdigit d hmem) hd rfl
  have hdate : takesAll date (Nat.toDigits 10 n) = false := by
    rw [takesAll, StateT.run, date_none (hnot '-' (by decide))]
  have hdateTime : takesAll dateTime (Nat.toDigits 10 n) = false := by
    rw [takesAll, StateT.run, dateTime_none (hnot '-' (by decide)) (hnot ':' (by decide))]
  have htrue : Nat.toDigits 10 n ≠ "true".toList := fun he => hnot 't' (by decide) (by simp [he])
  have hfalse : Nat.toDigits 10 n ≠ "false".toList := fun he => hnot 'f' (by decide) (by simp [he])
  refine readsValue_word Nat.toDigits_ne_nil (List.all_eq_true.mpr fun c hc => ?_) hdate ?_
  · simp [isWordChar, Char.isAlphanum, hdigit c hc]
  · rw [wordValue?, if_neg htrue, if_neg hfalse, hdateTime, integer?_toDigits h]
    rfl

/-! ## Keys -/

/-- The name is a key without quotation marks. -/
structure IsKey (name : String) : Prop where
  ne_nil : name.toList ≠ []
  bare : ∀ c ∈ name.toList, isBare c = true

instance (name : String) : Decidable (IsKey name) :=
  decidable_of_iff (name.toList ≠ [] ∧ name.toList.all isBare = true)
    ⟨fun h => ⟨h.1, List.all_eq_true.mp h.2⟩, fun h => ⟨h.ne_nil, List.all_eq_true.mpr h.bare⟩⟩

theorem IsKey.not_head (h : IsKey name) {d : Char} (hd : isBare d = false) :
    (name.toList ++ rest).head? ≠ some d := by
  obtain ⟨c, more, hname⟩ := List.exists_cons_of_ne_nil h.ne_nil
  have hne : c ≠ d := ne_of_kind (h.bare c (by simp [hname])) hd
  simpa [hname] using hne

theorem key_bare (h : IsKey name) (hrest : ∀ c, rest.head? = some c → isBare c = false) :
    key (name.toList ++ rest) = some (name, rest) := by
  have htake := takeSome_append h.ne_nil h.bare hrest
  refine (bind_some (peek_eq _)).trans ((congrFun (g := ?_) ?_ _).trans ?_)
  rotate_left
  · split
    · rename_i he
      exact absurd he (h.not_head (by decide))
    · rename_i he
      exact absurd he (h.not_head (by decide))
    · rfl
  · refine (bind_some htake).trans ?_
    rw [String.ofList_toList]
    rfl

/-- A key that no dot follows is a whole path. -/
theorem path_bare (h : IsKey name) (hrest : ∀ c, rest.head? = some c → isBare c = false)
    (hdot : (rest.dropWhile isBlank).head? ≠ some '.') :
    path (name.toList ++ rest) = some ([name], rest.dropWhile isBlank) := by
  have hget : (get : Reader (List Char)) (name.toList ++ rest)
      = some (name.toList ++ rest, name.toList ++ rest) := rfl
  refine (bind_some hget).trans ((bind_some (key_bare h hrest)).trans ?_)
  refine (bind_some (skipBlanks_eq rest)).trans ((bind_some (peek_eq _)).trans ?_)
  rw [if_neg hdot]
  rfl

/-! ## Lines -/

/-- A statement can start with the character. -/
def Starts (c : Char) : Prop :=
  c ≠ '\n' ∧ c ≠ '\r' ∧ isBlank c = false ∧ c ≠ '#'

/-- The line is read as the statement, whatever follows the line feed. -/
structure ReadsLine (line : List Char) (s : Statement) : Prop where
  start : ∃ c more, line = c :: more ∧ Starts c
  reads : ∀ rest, statement (line ++ '\n' :: rest) = some (s, '\n' :: rest)

theorem starts_of_isBare (h : isBare c = true) : Starts c := by
  have hnot : ∀ d, isBare d = false → c ≠ d := fun d hd => ne_of_kind h hd
  refine ⟨hnot _ (by decide), hnot _ (by decide), ?_, hnot _ (by decide)⟩
  simp [isBlank, hnot ' ' (by decide), hnot '\t' (by decide)]

theorem readsLine_assign (hname : IsKey name) (hv : ReadsValue written v) :
    ReadsLine (name.toList ++ " = ".toList ++ written) (.assign [name] v) := by
  constructor
  · obtain ⟨c, more, hc⟩ := List.exists_cons_of_ne_nil hname.ne_nil
    exact ⟨c, more ++ " = ".toList ++ written, by simp [hc],
      starts_of_isBare (hname.bare c (by simp [hc]))⟩
  · intro rest
    obtain ⟨c, more, hwritten, hblank⟩ := hv.start
    have htext : name.toList ++ " = ".toList ++ written ++ '\n' :: rest
        = name.toList ++ (' ' :: '=' :: ' ' :: (written ++ '\n' :: rest)) := by simp
    have hpath : path (name.toList ++ (' ' :: '=' :: ' ' :: (written ++ '\n' :: rest)))
        = some ([name], '=' :: ' ' :: (written ++ '\n' :: rest)) :=
      path_bare hname (fun d hd => by cases hd; rfl) (by simp [isBlank])
    have hblanks : (' ' :: (written ++ '\n' :: rest)).dropWhile isBlank
        = written ++ '\n' :: rest := by
      rw [List.dropWhile_cons_of_pos (by decide), hwritten, List.cons_append,
        List.dropWhile_cons_of_neg (by simp [hblank])]
    have hread : assignment (value maxDepth)
        (name.toList ++ (' ' :: '=' :: ' ' :: (written ++ '\n' :: rest)))
        = some (([name], v), '\n' :: rest) := by
      refine (bind_some hpath).trans ((bind_some (expect_cons _ _)).trans ?_)
      refine (bind_some (skipBlanks_eq _)).trans ?_
      rw [hblanks]
      exact bind_some (hv.reads rest)
    rw [htext]
    refine (bind_some (peek_eq _)).trans ?_
    rw [if_neg (hname.not_head (by decide))]
    exact bind_some hread

theorem readsLine_header (hname : IsKey name) :
    ReadsLine ('[' :: (name.toList ++ [']'])) (.table [name]) := by
  refine ⟨⟨'[', _, rfl, by decide, by decide, by decide, by decide⟩, fun rest => ?_⟩
  have htext : '[' :: (name.toList ++ [']']) ++ '\n' :: rest
      = '[' :: (name.toList ++ (']' :: '\n' :: rest)) := by simp
  have hblanks : (name.toList ++ (']' :: '\n' :: rest)).dropWhile isBlank
      = name.toList ++ (']' :: '\n' :: rest) := by
    obtain ⟨c, more, hc⟩ := List.exists_cons_of_ne_nil hname.ne_nil
    have hstarts := starts_of_isBare (hname.bare c (by simp [hc]))
    rw [hc, List.cons_append, List.dropWhile_cons_of_neg (by simp [hstarts.2.2.1])]
  have hpath : path (name.toList ++ (']' :: '\n' :: rest)) = some ([name], ']' :: '\n' :: rest) :=
    path_bare hname (fun d hd => by cases hd; rfl) (by simp [isBlank])
  rw [htext]
  refine (bind_some (peek_eq _)).trans ((bind_some (expect_cons _ _)).trans ?_)
  refine (bind_some (peek_eq _)).trans ?_
  rw [if_neg (hname.not_head (by decide))]
  refine (bind_some (skipBlanks_eq _)).trans ?_
  rw [hblanks]
  exact (bind_some hpath).trans (bind_some (expect_cons _ _))

/-! ## Pages -/

/-- The characters are lines that are read as the statements, with empty
lines between them. -/
inductive ReadsPage : List Char → List Statement → Prop where
  | nil : ReadsPage [] []
  | feed {cs : List Char} {ss : List Statement} (more : ReadsPage cs ss) : ReadsPage ('\n' :: cs) ss
  | line {line cs : List Char} {s : Statement} {ss : List Statement} (first : ReadsLine line s)
      (more : ReadsPage cs ss) : ReadsPage (line ++ '\n' :: cs) (s :: ss)

theorem ReadsPage.append {cs' : List Char} {ss' : List Statement} (h : ReadsPage cs ss)
    (h' : ReadsPage cs' ss') : ReadsPage (cs ++ cs') (ss ++ ss') := by
  induction h with
  | nil => exact h'
  | feed _ ih => exact .feed ih
  | line first _ ih =>
    rw [List.append_assoc]
    exact .line first ih

theorem ReadsLine.page (h : ReadsLine line s) : ReadsPage (line ++ ['\n']) [s] := .line h .nil

theorem ReadsPage.length_le (h : ReadsPage cs ss) : ss.length ≤ cs.length := by
  induction h with
  | nil => exact Nat.le_refl _
  | feed _ ih => exact Nat.le_succ_of_le ih
  | line _ _ ih =>
    simp only [List.length_append, List.length_cons]
    omega

theorem withoutLines_starts (h : Starts c) : withoutLines false (c :: rest) = some (c :: rest) := by
  obtain ⟨hfeed, hreturn, hblank, hcomment⟩ := h
  simp [withoutLines, isBreak, hfeed, hreturn, hblank, hcomment]

/-- What is left has nothing more to pass over. -/
theorem withoutLines_idem {inComment : Bool} (h : withoutLines inComment cs = some more) :
    withoutLines false more = some more := by
  induction cs generalizing inComment with
  | nil =>
    cases h
    rfl
  | cons c cs ih =>
    unfold withoutLines at h
    split at h
    · exact ih h
    · split at h
      · exact ih h
      · split at h
        · split at h
          · cases h
          · exact ih h
        · split at h
          · exact ih h
          · split at h
            · exact ih h
            · cases h
              simp_all [withoutLines]

theorem ReadsPage.withoutLines (h : ReadsPage cs ss) :
    ∃ more, withoutLines false cs = some more := by
  induction h with
  | nil => exact ⟨[], rfl⟩
  | feed _ ih => exact ih
  | line first _ _ =>
    obtain ⟨c, more, rfl, hc⟩ := first.start
    exact ⟨_, withoutLines_starts hc⟩

theorem skipLines_eq (h : withoutLines false cs = some more) : skipLines cs = some ((), more) := by
  rw [skipLines, h]
  rfl

theorem lineEnd_feed (h : withoutLines false cs = some more) :
    lineEnd ('\n' :: cs) = some ((), more) := by
  refine (bind_some (skipBlanks_eq _)).trans ?_
  exact (bind_some (peek_eq _)).trans (skipLines_eq h)

/-- A page is read as its statements. The induction is over the page, and it
is read from what is left of its empty lines. -/
theorem statementsWithin_page (h : ReadsPage cs ss) : ∀ {fuel : Nat} {front : List Char},
    ss.length < fuel → withoutLines false front = withoutLines false cs →
    statementsWithin fuel front = some (ss, []) := by
  induction h with
  | nil =>
    intro fuel front hfuel hfront
    obtain ⟨fuel, rfl⟩ := Nat.exists_eq_add_one_of_ne_zero (Nat.ne_zero_of_lt hfuel)
    exact (bind_some (skipLines_eq hfront)).trans (bind_some (peek_eq _))
  | feed _ ih => exact fun hfuel hfront => ih hfuel hfront
  | line first more ih =>
    intro fuel front hfuel hfront
    obtain ⟨fuel, rfl⟩ := Nat.exists_eq_add_one_of_ne_zero (Nat.ne_zero_of_lt hfuel)
    obtain ⟨c, line, rfl, hc⟩ := first.start
    obtain ⟨left, hleft⟩ := more.withoutLines
    have hfront' := hfront.trans (withoutLines_starts hc)
    have hmore := ih (Nat.lt_of_succ_lt_succ hfuel) ((withoutLines_idem hleft).trans hleft.symm)
    refine (bind_some (skipLines_eq hfront')).trans ((bind_some (peek_eq _)).trans ?_)
    refine (bind_some (first.reads _)).trans ((bind_some (lineEnd_feed hleft)).trans ?_)
    exact bind_some hmore

/-- The statements of a text that is a page. -/
theorem statements?_page {text : String} (h : ReadsPage text.toList ss)
    (hmark : text.toList.head? ≠ some '\uFEFF') : statements? text = some ss := by
  have hplain : withoutMark text.toList = text.toList := by
    unfold withoutMark
    split
    · rename_i he
      exact absurd (by rw [he]; rfl) hmark
    · rfl
  have hread := statementsWithin_page h (Nat.lt_succ_of_le h.length_le) rfl
  rw [statements?, hplain]
  simp only [StateT.run, hread, Option.map_some]

/-- A text that is a page is read as the table that its statements make. -/
theorem parse?_page {text : String} (h : ReadsPage text.toList ss)
    (hmark : text.toList.head? ≠ some '\uFEFF') : parse? text = Table.ofStatements? ss := by
  rw [parse?, statements?_page h hmark, Option.bind_eq_bind, Option.bind_some]

/-! ## The table of a page -/

/-- The statements that give the keys of a table their values. -/
def assignments (t : Table) : List Statement :=
  t.map fun e => .assign [e.1] e.2

namespace Table

variable {t top entries : Table} {key : String}

/-- The keys of a table, in order. -/
def keys (t : Table) : List String := t.map (·.1)

theorem get?_eq_none_iff : t.get? key = none ↔ key ∉ t.keys := by
  simp only [get?, List.lookup_eq_none_iff, keys, List.mem_map, not_exists, not_and, bne_iff_ne]
  exact forall₂_congr fun _ _ => ne_comm

/-- No entry hides another one when no key is there twice. -/
theorem get?_of_mem (h : t.keys.Nodup) (hmem : (key, v) ∈ t) : t.get? key = some v := by
  induction t with
  | nil => cases hmem
  | cons e t ih =>
    obtain ⟨hfirst, hrest⟩ := List.nodup_cons.mp h
    rcases List.mem_cons.mp hmem with rfl | hmem
    · exact List.lookup_cons_self
    · have hne : key ≠ e.1 := fun he => hfirst (List.mem_map.mpr ⟨_, hmem, he⟩)
      rw [get?, List.lookup_cons, beq_false_of_ne hne]
      exact ih hrest hmem

theorem get?_concat (h : key ∉ t.keys) (v : Value) :
    get? (t ++ [(key, v)] : Table) key = some v := by
  rw [get?, List.lookup_append, show t.lookup key = none from get?_eq_none_iff.mpr h]
  simp

theorem put_new (h : key ∉ t.keys) (v : Value) : t.put key v = t ++ [(key, v)] := by
  induction t with
  | nil => rfl
  | cons e t ih =>
    obtain ⟨hne, hmore⟩ := List.ne_and_not_mem_of_not_mem_cons h
    rw [put, if_neg (Ne.symm hne), ih hmore]
    rfl

/-- A key that is the last one gets another value in its place. -/
theorem put_last (h : key ∉ t.keys) (old v : Value) :
    put key v (t ++ [(key, old)] : Table) = t ++ [(key, v)] := by
  induction t with
  | nil => simp [put]
  | cons e t ih =>
    obtain ⟨hne, hmore⟩ := List.ne_and_not_mem_of_not_mem_cons h
    rw [List.cons_append, put, if_neg (Ne.symm hne), ih hmore]
    rfl

theorem assign_new (h : key ∉ t.keys) (v : Value) : assign v [key] t = some (t ++ [(key, v)]) := by
  rw [assign, get?_eq_none_iff.mpr h, put_new h]

theorem nodup_keys_cons {e : String × Value} (h : (t ++ e :: entries).keys.Nodup) :
    e.1 ∉ t.keys ∧ ((t ++ [e]) ++ entries).keys.Nodup := by
  constructor
  · simp only [keys, List.map_append, List.map_cons, List.nodup_append] at h
    exact fun hmem => h.2.2 _ hmem _ List.mem_cons_self rfl
  · simpa using h

/-- New keys at the top. -/
theorem foldlM_top : ∀ {entries t : Table}, (t ++ entries).keys.Nodup →
    (assignments entries).foldlM Draft.add ⟨t, []⟩ = some ⟨t ++ entries, []⟩ := by
  intro entries
  induction entries with
  | nil => simp [assignments]
  | cons e entries ih =>
    intro t hkeys
    obtain ⟨hnew, hmore⟩ := nodup_keys_cons hkeys
    have hadd : Draft.add ⟨t, []⟩ (.assign [e.1] e.2) = some ⟨t ++ [e], []⟩ := by
      simp [Draft.add, descend, assign_new hnew]
    have hrest := ih hmore
    rw [assignments, List.map_cons, List.foldlM_cons, hadd]
    simpa [assignments] using hrest

/-- New keys below the header of the last table. -/
theorem foldlM_below (htop : key ∉ top.keys) : ∀ {entries t : Table}, (t ++ entries).keys.Nodup →
    (assignments entries).foldlM Draft.add ⟨top ++ [(key, .table .header t)], [key]⟩
      = some ⟨top ++ [(key, .table .header (t ++ entries))], [key]⟩ := by
  intro entries
  induction entries with
  | nil => simp [assignments]
  | cons e entries ih =>
    intro t hkeys
    obtain ⟨hnew, hmore⟩ := nodup_keys_cons hkeys
    have hadd : Draft.add ⟨top ++ [(key, .table .header t)], [key]⟩ (.assign [e.1] e.2)
        = some ⟨top ++ [(key, .table .header (t ++ [e]))], [key]⟩ := by
      simp [Draft.add, descend, get?_concat htop, assign_new hnew, put_last htop]
    have hrest := ih hmore
    rw [assignments, List.map_cons, List.foldlM_cons, hadd]
    simpa [assignments] using hrest

/-- The table that a page makes with keys at the top only. -/
theorem ofStatements?_top (h : top.keys.Nodup) : ofStatements? (assignments top) = some top := by
  have hall := foldlM_top (t := []) (by simpa using h)
  rw [List.nil_append] at hall
  rw [ofStatements?, Draft.empty, hall]
  rfl

/-- The table that a page makes with keys at the top and keys below one header. -/
theorem ofStatements?_assignments (htop : (top ++ [(key, .table .header entries)] : Table).keys.Nodup)
    (hentries : entries.keys.Nodup) :
    ofStatements? (assignments top ++ ([Statement.table [key]] ++ assignments entries))
      = some (top ++ [(key, .table .header entries)]) := by
  have hkeys : key ∉ top.keys ∧ top.keys.Nodup := by
    simp only [keys, List.map_append, List.nodup_append] at htop
    exact ⟨fun hmem => htop.2.2 _ hmem _ List.mem_cons_self rfl, htop.1⟩
  have hheader : Draft.add ⟨top, []⟩ (.table [key])
      = some ⟨top ++ [(key, .table .header [])], [key]⟩ := by
    simp [Draft.add, Draft.openAt, descend, openTable, get?_eq_none_iff.mpr hkeys.1,
      put_new hkeys.1]
  have hfirst := foldlM_top (t := []) (by simpa using hkeys.2)
  have hlast := foldlM_below (t := []) hkeys.1 (by simpa using hentries)
  rw [List.nil_append] at hfirst hlast
  rw [ofStatements?, Draft.empty, List.foldlM_append, hfirst]
  simp only [List.singleton_append, List.foldlM_cons, Option.bind_eq_bind, Option.bind_some, hheader,
    hlast, Option.map_some]

end Table

end Daybook.Toml
