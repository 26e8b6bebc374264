import ModelStubs.Proofs.Text
import ModelStubs.Toml.Quoted
import ModelStubs.Toml.Writer

/-!
# Quoted texts are read back

A text written in any of the four ways of quoting is read back as it was (`text?_string`), whatever follows it but for
another quote. A basic text may show a character as it is or as one of several escapes (`Spells`), of which the writer uses
one (`spells_escapeChar`); the two readers of basic texts take them all in the same way (`ReadsEscapes`), so on one line any
spelling of a text is read back (`text?_spelled`). On several lines the only
question is which quote closes the text: a reader that meets a quote looks at the two after it, and finds two quotes there
only at the end, where the first of up to five still belong to the text.
-/

namespace ModelStubs.Toml

namespace Quoted

open Quoting (escapeChar hex4 isControl)

/-! ## Escapes -/

/-- How a reader of basic texts takes what is neither a quote nor a line break. -/
structure ReadsEscapes (read : State → List Char → Option (Text × List Char)) : Prop where
  backslash : ∀ rest, read .text ('\\' :: rest) = read .escape rest
  plain : ∀ c rest, isPlain c = true → c ≠ '"' → c ≠ '\\' → read .text (c :: rest) = push c (read .text rest)
  short : ∀ c d rest, shortEscape? c = some d → read .escape (c :: rest) = push d (read .text rest)
  long : ∀ c n rest, shortEscape? c = none → hexEscapeLength? c = some n →
    read .escape (c :: rest) = read (.hex n 0) rest
  digit : ∀ left value c d rest, hexDigit? c = some d → 1 < left →
    read (.hex left value) (c :: rest) = read (.hex (left - 1) (16 * value + d)) rest
  last : ∀ value c d e rest, hexDigit? c = some d → charAt? (16 * value + d) = some e →
    read (.hex 1 value) (c :: rest) = push e (read .text rest)

/-- The reader of basic texts on one line reads escapes. -/
theorem readsEscapes_basic : ReadsEscapes basic where
  backslash _ := rfl
  plain c rest hp hq hb := by rw [basic, if_neg hq, if_neg hb, if_pos hp]
  short c d rest h := by rw [basic, h]
  long c n rest h hn := by rw [basic, h, hn]
  digit left value c d rest h hl := by simp only [basic, h, if_neg (Nat.not_le.mpr hl)]
  last value c d e rest h he := by simp only [basic, h, he, Nat.le_refl, if_true]

/-- The reader of basic texts on several lines reads escapes. -/
theorem readsEscapes_multilineBasic : ReadsEscapes multilineBasic where
  backslash _ := rfl
  plain c rest hp hq hb := by
    rw [multilineBasic, if_neg (by simp), if_neg hq, if_neg hb, if_pos (by simp [isPlainOrBreak, hp])] <;> nofun
  short c d rest h := by rw [multilineBasic, h]
  long c n rest h hn := by rw [multilineBasic, h, hn]
  digit left value c d rest h hl := by simp only [multilineBasic, h, if_neg (Nat.not_le.mpr hl)]
  last value c d e rest h he := by simp only [multilineBasic, h, he, Nat.le_refl, if_true]

/-- A hexadecimal digit in upper case. -/
def hexDigit (n : Nat) : Char := n.digitChar.toUpper

/-- The digits of the escape of a control character, and their values. -/
theorem hex4_eq : ∀ n < 128, hex4 n = ['0', '0', hexDigit (n / 16), hexDigit (n % 16)] ∧
    hexDigit? (hexDigit (n / 16)) = some (n / 16) ∧ hexDigit? (hexDigit (n % 16)) = some (n % 16) := by
  decide +kernel

theorem charAt?_toNat (c : Char) : charAt? c.toNat = some c := by
  have hv : c.toNat.isValidChar := c.valid
  rw [charAt?, dif_pos hv]
  rfl

/-- The characters that are no control characters are those from the space on, without the one at 127. -/
theorem not_isControl_iff (c : Char) : isControl c = false ↔ 0x20 ≤ c.toNat ∧ c.toNat ≠ 0x7F := by
  simp [isControl]

/-- The number that hexadecimal digits in either case stand for, after those of a number. -/
def hexValue? (before : Nat) (digits : List Char) : Option Nat :=
  digits.foldlM (fun n c => (hexDigit? c).map (16 * n + ·)) before

/-- What may stand for a character in a basic text on one line: the character itself if it is no control character but the
tab, no quote and no backslash, the letter of its escape, or its number in two, four or eight digits. -/
inductive Spells (c : Char) : Text → Prop
  | plain : isPlain c = true → c ≠ '"' → c ≠ '\\' → Spells c [c]
  | short {letter : Char} : shortEscape? letter = some c → Spells c ['\\', letter]
  | long {letter : Char} {digits : List Char} : hexEscapeLength? letter = some digits.length →
      hexValue? 0 digits = some c.toNat → Spells c ('\\' :: letter :: digits)

namespace ReadsEscapes

variable {read : State → List Char → Option (Text × List Char)}

/-- The digits of an escape are read one after the other. -/
theorem digits (h : ReadsEscapes read) {c : Char} {before : Nat} {digits : List Char} (hne : digits ≠ [])
    (hv : hexValue? before digits = some c.toNat) (rest : List Char) :
    read (.hex digits.length before) (digits ++ rest) = push c (read .text rest) := by
  induction digits generalizing before with
  | nil => exact absurd rfl hne
  | cons d more ih =>
    rw [hexValue?, List.foldlM_cons, Option.bind_eq_bind, Option.bind_eq_some_iff] at hv
    obtain ⟨n, hn, hv⟩ := hv
    obtain ⟨digit, hd, rfl⟩ := Option.map_eq_some_iff.mp hn
    by_cases hm : more = []
    · subst hm
      have hc : charAt? (16 * before + digit) = some c := by
        rw [Option.some.inj hv]
        exact charAt?_toNat c
      exact h.last before d digit c rest hd hc
    · have hlength : 1 < (d :: more).length := Nat.succ_lt_succ (List.length_pos_iff.mpr hm)
      rw [List.cons_append, h.digit _ _ d digit _ hd hlength]
      exact ih hm hv

/-- A reader of escapes reads what may stand for a character as that character. -/
theorem spelled (h : ReadsEscapes read) {c : Char} {spelled : Text} (hs : Spells c spelled) (rest : List Char) :
    read .text (spelled ++ rest) = push c (read .text rest) := by
  cases hs with
  | plain hp hq hb => exact h.plain c rest hp hq hb
  | short hl =>
    rw [List.cons_append, h.backslash]
    exact h.short _ c rest hl
  | @long letter digits hl hv =>
    have hletter : shortEscape? letter = none ∧ digits.length ≠ 0 := by
      rw [hexEscapeLength?] at hl
      split at hl
      · rename_i hx
        exact ⟨by rw [hx]; rfl, by rw [← Option.some.inj hl]; decide⟩
      split at hl
      · rename_i hu
        exact ⟨by rw [hu]; rfl, by rw [← Option.some.inj hl]; decide⟩
      split at hl
      · rename_i hu
        exact ⟨by rw [hu]; rfl, by rw [← Option.some.inj hl]; decide⟩
      · nomatch hl
    rw [List.cons_append, h.backslash, List.cons_append, h.long letter _ _ hletter.1 hl]
    exact h.digits (fun he => hletter.2 (List.length_eq_zero_iff.mpr he)) hv rest

end ReadsEscapes

/-- No spelling opens with a quote or a line break. -/
theorem Spells.eq_cons {c : Char} {spelled : Text} (h : Spells c spelled) :
    ∃ d more, spelled = d :: more ∧ d ≠ '"' ∧ d ≠ '\n' ∧ d ≠ '\r' := by
  cases h with
  | plain hp hq _ =>
    refine ⟨c, [], rfl, hq, ?_, ?_⟩
    · rintro rfl
      exact absurd hp (by decide)
    · rintro rfl
      exact absurd hp (by decide)
  | short _ => exact ⟨_, _, rfl, by decide, by decide, by decide⟩
  | long _ _ => exact ⟨_, _, rfl, by decide, by decide, by decide⟩

/-- The number of a control character in four digits may stand for it. -/
theorem spells_hex4 {c : Char} (hc : isControl c = true) : Spells c ('\\' :: 'u' :: hex4 c.toNat) := by
  have hn : c.toNat < 128 := by
    simp only [isControl, Bool.or_eq_true, decide_eq_true_eq] at hc
    omega
  obtain ⟨h4, hhigh, hlow⟩ := hex4_eq c.toNat hn
  have hzero : hexDigit? '0' = some 0 := rfl
  rw [h4]
  refine .long rfl ?_
  simp only [hexValue?, List.foldlM_cons, List.foldlM_nil, hzero, hhigh, hlow, Option.map_some, Option.bind_eq_bind,
    Option.bind_some, Option.pure_def, Option.some.injEq]
  omega

/-- What is written for a character may stand for it. -/
theorem spells_escapeChar (c : Char) : Spells c (escapeChar c) := by
  unfold Quoting.escapeChar
  split
  · rename_i hc
    exact .short (by rw [hc]; rfl)
  split
  · rename_i hc
    exact .short (by rw [hc]; rfl)
  split
  · rename_i hc
    exact .short (by rw [hc]; rfl)
  split
  · rename_i hc
    exact .short (by rw [hc]; rfl)
  split
  · rename_i hc
    exact .short (by rw [hc]; rfl)
  split
  · rename_i hc
    exact .short (by rw [hc]; rfl)
  split
  · rename_i hc
    exact .short (by rw [hc]; rfl)
  split
  · rename_i hc
    exact spells_hex4 hc
  · rename_i hq hb hc
    rw [Bool.not_eq_true, not_isControl_iff] at hc
    exact .plain (by simp [isPlain, hc]) hq hb

/-! ## Texts on one line -/

/-- What may stand for a text between the quotes of a basic text on one line. -/
inductive SpellsAll : Text → Text → Prop
  | nil : SpellsAll [] []
  | cons {c : Char} {t spelled more : Text} : Spells c spelled → SpellsAll t more → SpellsAll (c :: t) (spelled ++ more)

/-- A text as a basic text on one line. -/
def IsBasic (t quoted : Text) : Prop := ∃ spelled, SpellsAll t spelled ∧ quoted = '"' :: (spelled ++ ['"'])

/-- What may stand for a text, with a closing quote, is read as that text. -/
theorem basic_spelled {t spelled : Text} (h : SpellsAll t spelled) (rest : List Char) :
    basic .text (spelled ++ '"' :: rest) = some (t, rest) := by
  induction h with
  | nil => rfl
  | cons hs _ ih =>
    rw [List.append_assoc, readsEscapes_basic.spelled hs, ih]
    rfl

/-- A plain text without the quote that closes it is read literally. -/
theorem literal_append {t : List Char} (hp : ∀ c ∈ t, isPlain c = true) (hq : '\'' ∉ t) (rest : List Char) :
    literal (t ++ '\'' :: rest) = some (t, rest) := by
  induction t with
  | nil => rfl
  | cons c t ih =>
    rw [List.mem_cons, not_or] at hq
    rw [List.cons_append, literal, if_neg (Ne.symm hq.1), if_pos (hp c List.mem_cons_self),
      ih (fun d hd => hp d (List.mem_cons_of_mem _ hd)) hq.2]
    rfl

/-! ## Texts on several lines -/

/-- A text does not open with a quote of a kind. -/
def OpensWithout (quote : Char) (rest : List Char) : Prop := ∀ c ∈ rest.head?, c ≠ quote

/-- How a reader of a text on several lines takes a quote. -/
structure LooksAhead (quote : Char) (read : List Char → Option (Text × List Char)) : Prop where
  closing : ∀ rest result, closing? quote rest = some result → read (quote :: rest) = some result
  kept : ∀ rest, closing? quote rest = none → read (quote :: rest) = push quote (read rest)

/-- The reader of literal texts on several lines looks ahead at a quote. -/
theorem looksAhead_multilineLiteral : LooksAhead '\'' multilineLiteral where
  closing rest result h := by rw [multilineLiteral, if_pos rfl, h]
  kept rest h := by rw [multilineLiteral, if_pos rfl, h]

/-- The reader of basic texts on several lines looks ahead at a quote. -/
theorem looksAhead_multilineBasic : LooksAhead '"' (multilineBasic .text) where
  closing rest result h := by rw [multilineBasic, if_neg (by simp), if_pos rfl, h] <;> nofun
  kept rest h := by rw [multilineBasic, if_neg (by simp), if_pos rfl, h] <;> nofun

/-- Two quotes close a text, and up to two quotes before them belong to it. -/
theorem closing?_row {quote : Char} {rest : List Char} (hr : OpensWithout quote rest) {row : List Char}
    (hq : ∀ c ∈ row, c = quote) (hk : row.length ≤ 2) : closing? quote (quote :: quote :: (row ++ rest)) = some (row, rest) := by
  have htake : (row ++ rest).takeWhile (· == quote) = row :=
    Text.takeWhile_append_of_head (fun c hc => by simp [hq c hc]) fun c hc => by simpa using hr c hc
  have hdrop : (quote :: quote :: (row ++ rest)).drop (2 + row.length) = rest := by
    rw [Nat.add_comm]
    simp
  rw [closing?, if_pos (by simp)]
  simp only [List.drop_succ_cons, List.drop_zero, htake, List.take_of_length_le hk, hdrop]

/-- A text is closed by two quotes only. -/
theorem closing?_eq_none {quote : Char} {rest : List Char} (h : ¬[quote, quote] <+: rest) : closing? quote rest = none := by
  rw [closing?, if_neg (mt List.isPrefixOf_iff_prefix.mp h)]

namespace LooksAhead

variable {quote : Char} {read : List Char → Option (Text × List Char)} {rest : List Char}

/-- Up to two quotes directly before the closing ones are read as part of the text. -/
theorem row (h : LooksAhead quote read) (hr : OpensWithout quote rest) (row : List Char) (hq : ∀ c ∈ row, c = quote)
    (hk : row.length ≤ 2) : read (quote :: quote :: quote :: (row ++ rest)) = some (row, rest) :=
  h.closing _ _ (closing?_row hr hq hk)

/-- A quote with none directly after it is read as part of the text. -/
theorem single (h : LooksAhead quote read) (hr : OpensWithout quote rest) :
    read (quote :: rest) = push quote (read rest) := by
  refine h.kept rest (closing?_eq_none ?_)
  rintro ⟨more, rfl⟩
  exact hr quote rfl rfl

/-- A quote with exactly one directly after it is read as part of the text. -/
theorem double (h : LooksAhead quote read) (hr : OpensWithout quote rest) :
    read (quote :: quote :: rest) = push quote (read (quote :: rest)) := by
  refine h.kept _ (closing?_eq_none ?_)
  rintro ⟨more, hm⟩
  rw [List.cons_append, List.cons.injEq] at hm
  exact hr quote (by rw [← hm.2]; rfl) rfl

end LooksAhead

theorem opensWithout_cons {quote c : Char} (h : c ≠ quote) (rest : List Char) : OpensWithout quote (c :: rest) := by
  intro d hd
  cases hd
  exact h

/-- A literal text on several lines is read back if it has no three quotes in a row. A quote of the text is read by what the
two characters after it are. -/
theorem multilineLiteral_append {t : List Char} (hp : ∀ c ∈ t, isPlain c = true ∨ c = '\n')
    (hq : ¬['\'', '\'', '\''] <:+: t) {rest : List Char} (hr : OpensWithout '\'' rest) :
    multilineLiteral (t ++ '\'' :: '\'' :: '\'' :: rest) = some (t, rest) := by
  have look := looksAhead_multilineLiteral
  induction t with
  | nil => exact look.row hr [] (by simp) (by simp)
  | cons c t ih =>
    replace ih := ih (fun d hd => hp d (List.mem_cons_of_mem _ hd)) fun h => hq (h.trans (List.suffix_cons c t).isInfix)
    by_cases hc : c = '\''
    · subst hc
      rcases t with - | ⟨d, t⟩
      · exact look.row hr ['\''] (by simp) (by simp)
      · by_cases hd : d = '\''
        · subst hd
          rcases t with - | ⟨e, t⟩
          · exact look.row hr ['\'', '\''] (by simp) (by simp)
          · have he : e ≠ '\'' := by
              rintro rfl
              exact hq ⟨[], t, rfl⟩
            rw [List.cons_append, List.cons_append, List.cons_append, look.double (opensWithout_cons he _),
              ← List.cons_append, ← List.cons_append, ih]
            rfl
        · rw [List.cons_append, List.cons_append, look.single (opensWithout_cons hd _), ← List.cons_append, ih]
          rfl
    · rw [List.cons_append, multilineLiteral, if_neg hc, if_pos, ih]
      · rfl
      · rcases hp c List.mem_cons_self with h | h <;> simp [isPlainOrBreak, h]

/-- A basic text on several lines goes on without a quote after two of them, and before another character. -/
theorem opensWithout_multilineBody {quotes : Nat} {c : Char} (h : quotes = 2 ∨ c ≠ '"') (t more : List Char) :
    OpensWithout '"' (Quoting.multilineBody quotes (c :: t) ++ more) := by
  rw [Quoting.multilineBody]
  split
  · rename_i hc
    rw [if_pos (h.resolve_right (not_not_intro hc))]
    exact opensWithout_cons (by decide) _
  · split
    · exact opensWithout_cons (by decide) _
    · obtain ⟨d, rest, he, hd, -, -⟩ := (spells_escapeChar c).eq_cons
      rw [he]
      exact opensWithout_cons hd _

/-- A basic text on several lines is read back, after up to two quotes. Of a row of quotes the second stands for itself, as
the first one does. -/
theorem multilineBasic_multilineBody (t : List Char) {quotes : Nat} (hk : quotes ≤ 2) {rest : List Char}
    (hr : OpensWithout '"' rest) :
    multilineBasic .text (Quoting.multilineBody quotes t ++ '"' :: '"' :: '"' :: rest) = some (t, rest) := by
  have look := looksAhead_multilineBasic
  have escapes := readsEscapes_multilineBasic
  induction t generalizing quotes with
  | nil => exact look.row hr [] (by simp) (by simp)
  | cons c t ih =>
    rw [Quoting.multilineBody]
    by_cases hc : c = '"'
    · subst hc
      rw [if_pos rfl]
      by_cases h2 : quotes = 2
      · rw [if_pos h2, List.cons_append, escapes.backslash, List.cons_append, escapes.short '"' '"' _ rfl,
          ih (Nat.zero_le 2)]
        rfl
      · rw [if_neg h2, List.cons_append]
        have hk' : quotes + 1 ≤ 2 := by omega
        rcases t with - | ⟨d, t⟩
        · exact look.row hr ['"'] (by simp) (by simp)
        · by_cases hd : quotes + 1 = 2 ∨ d ≠ '"'
          · rw [look.single (opensWithout_multilineBody hd t _), ih hk']
            rfl
          · rw [not_or, Decidable.not_not] at hd
            obtain ⟨h1, rfl⟩ := hd
            rcases t with - | ⟨e, t⟩
            · rw [Quoting.multilineBody, if_pos rfl, if_neg h1]
              exact look.row hr ['"', '"'] (by simp) (by simp)
            · have hrow : Quoting.multilineBody (quotes + 1) ('"' :: e :: t) =
                  '"' :: Quoting.multilineBody (quotes + 1 + 1) (e :: t) := by
                rw [Quoting.multilineBody, if_pos rfl, if_neg h1]
              have hnext := ih hk'
              rw [hrow, List.cons_append] at hnext ⊢
              rw [look.double (opensWithout_multilineBody (Or.inl (by omega)) t _), hnext]
              rfl
    · rw [if_neg hc]
      split
      · rename_i hn
        subst hn
        have hbreak : ∀ more, multilineBasic .text ('\n' :: more) = push '\n' (multilineBasic .text more) := by
          intro more
          rw [multilineBasic, if_neg (by simp), if_neg hc, if_neg (by decide), if_pos (by simp [isPlainOrBreak])] <;> nofun
        rw [List.cons_append, hbreak, ih (Nat.zero_le 2)]
        rfl
      · rw [List.append_assoc, escapes.spelled (spells_escapeChar c), ih (Nat.zero_le 2)]
        rfl

/-! ## The way of quoting that is chosen -/

/-- The test for three quotes in a row finds them wherever they are in the text. -/
theorem hasThree_iff (quote : Char) (t : Text) : Quoting.hasThree quote t = true ↔ [quote, quote, quote] <:+: t :=
  Text.occursIn_iff _ _

/-- What a text without control characters other than some allowed ones is made of. -/
theorem isPlain_or_mem {allowed : List Char} {t : Text} (h : Quoting.hasControl allowed t = false) :
    ∀ c ∈ t, isPlain c = true ∨ c ∈ allowed := by
  intro c hc
  rw [Quoting.hasControl, List.any_eq_false] at h
  have hn := h c hc
  by_cases ha : c ∈ allowed
  · exact Or.inr ha
  · have hcontrol : isControl c = false := by simpa [ha] using hn
    rw [not_isControl_iff] at hcontrol
    exact Or.inl (by simp [isPlain, hcontrol])

/-- A literal form is chosen only if it shows the text. -/
theorem shows_of_choose {quoting : Quoting} {t : Text} (h : Quoting.choose t = quoting)
    (hq : quoting ≠ .basic ∧ quoting ≠ .multilineBasic) : Quoting.shows quoting t = true := by
  rw [Quoting.choose] at h
  split at h
  · rename_i found hf
    have hs := List.find?_some hf
    rw [← h]
    exact hs
  · split at h
    · exact absurd h.symm hq.2
    · exact absurd h.symm hq.1

/-- The line break that sets lines apart from the opening quotes is dropped, and no other. -/
theorem dropFirstBreak_lead {t inner : List Char} (h : '\n' ∉ t → ∃ c more, inner = c :: more ∧ c ≠ '\n' ∧ c ≠ '\r') :
    dropFirstBreak ((if t.contains '\n' then ['\n'] else []) ++ inner) = inner := by
  split
  · rfl
  · rename_i hn
    obtain ⟨c, more, rfl, hc, hr⟩ := h (by simpa using hn)
    rw [List.nil_append, dropFirstBreak]
    · rintro rest' he
      exact hc (List.cons.inj he).1
    · rintro rest' he
      exact hr (List.cons.inj he).1

/-- A quote that opens a text on one line opens none on several, unless two more follow. -/
theorem text?_of_line {quote : Char} (hq : quote = '"' ∨ quote = '\'') {cs : List Char} (h : ¬[quote, quote] <+: cs) :
    text? (quote :: cs) = line? (quote :: cs) := by
  rw [text?]
  · rintro rest' he
    obtain ⟨rfl, rfl⟩ := List.cons.inj he
    exact h ⟨rest', rfl⟩
  · rintro rest' he
    obtain ⟨rfl, rfl⟩ := List.cons.inj he
    exact h ⟨rest', rfl⟩

/-- A text that does not open with a quote does not open with two. -/
theorem not_row_of_opensWithout {quote : Char} {cs : List Char} (h : OpensWithout quote cs) : ¬[quote, quote] <+: cs := by
  rintro ⟨more, rfl⟩
  exact h quote rfl rfl

/-- An empty text on one line is closed by its second quote. -/
theorem not_row_cons_of_opensWithout {quote c : Char} {cs : List Char} (h : OpensWithout quote cs) :
    ¬[quote, quote] <+: c :: cs := by
  rintro ⟨more, hm⟩
  rw [List.cons_append, List.cons.injEq] at hm
  exact h quote (by rw [← hm.2]; rfl) rfl

variable {t : Text} {rest : List Char}

/-- A basic text on one line is read back as it was, however it is spelled, if no quote comes after it. -/
theorem text?_spelled {t quoted : Text} (h : IsBasic t quoted) {rest : List Char} (hr : OpensWithout '"' rest) :
    text? (quoted ++ rest) = some (t, rest) := by
  obtain ⟨spelled, hs, rfl⟩ := h
  rw [List.cons_append, List.append_assoc, List.cons_append, List.nil_append, text?_of_line (Or.inl rfl)]
  · exact basic_spelled hs rest
  · cases hs with
    | nil => exact not_row_cons_of_opensWithout hr
    | cons hc _ =>
      obtain ⟨d, more, rfl, hd, -, -⟩ := hc.eq_cons
      exact not_row_of_opensWithout (opensWithout_cons hd _)

/-- A text written as a basic text on one line is one. -/
theorem isBasic_write (t : Text) : IsBasic t (Quoting.write .basic t) := by
  refine ⟨Quoting.basicBody t, ?_, by simp [Quoting.write, Quoting.delimiter, Quoting.lead, Quoting.body]⟩
  induction t with
  | nil => exact .nil
  | cons c t ih =>
    rw [Quoting.basicBody, List.flatMap_cons]
    exact .cons (spells_escapeChar c) ih

/-- A text written as a basic text on one line is read back. -/
theorem text?_basic (t : Text) (hr : OpensWithout '"' rest) :
    text? (Quoting.write .basic t ++ rest) = some (t, rest) :=
  text?_spelled (isBasic_write t) hr

/-- A text that can be shown literally on one line is read back from there. -/
theorem text?_literal (h : Quoting.shows .literal t = true) (hr : OpensWithout '\'' rest) :
    text? (Quoting.write .literal t ++ rest) = some (t, rest) := by
  have hw : Quoting.write .literal t ++ rest = '\'' :: (t ++ '\'' :: rest) := by
    simp [Quoting.write, Quoting.delimiter, Quoting.lead, Quoting.body]
  simp only [Quoting.shows, Bool.and_eq_true, Bool.not_eq_true', List.contains_eq_mem, decide_eq_false_iff_not] at h
  rw [hw, text?_of_line (Or.inr rfl)]
  · refine literal_append (fun c hc => ?_) h.2 rest
    rcases isPlain_or_mem h.1 c hc with hp | hp
    · exact hp
    · rw [List.mem_singleton.mp hp]
      decide
  · cases t with
    | nil => exact not_row_cons_of_opensWithout hr
    | cons c t =>
      refine not_row_of_opensWithout (opensWithout_cons ?_ _)
      rintro rfl
      exact h.2 List.mem_cons_self

/-- A text written as a basic text on several lines is read back. -/
theorem text?_multilineBasic (t : Text) (hr : OpensWithout '"' rest) :
    text? (Quoting.write .multilineBasic t ++ rest) = some (t, rest) := by
  have hw : Quoting.write .multilineBasic t ++ rest = '"' :: '"' :: '"' ::
      ((if t.contains '\n' then ['\n'] else []) ++ (Quoting.multilineBody 0 t ++ '"' :: '"' :: '"' :: rest)) := by
    simp [Quoting.write, Quoting.delimiter, Quoting.lead, Quoting.body]
  rw [hw, text?, dropFirstBreak_lead]
  · exact multilineBasic_multilineBody t (Nat.zero_le 2) hr
  · intro hn
    cases t with
    | nil => exact ⟨'"', _, rfl, by decide, by decide⟩
    | cons c t =>
      rw [List.mem_cons, not_or] at hn
      rw [Quoting.multilineBody]
      split
      · exact ⟨'"', _, rfl, by decide, by decide⟩
      · rw [if_neg (Ne.symm hn.1)]
        obtain ⟨d, more, he, -, hd, hr⟩ := (spells_escapeChar c).eq_cons
        exact ⟨d, _, by rw [he]; rfl, hd, hr⟩

/-- A text that can be shown literally on several lines is read back from there. -/
theorem text?_multilineLiteral (h : Quoting.shows .multilineLiteral t = true) (hr : OpensWithout '\'' rest) :
    text? (Quoting.write .multilineLiteral t ++ rest) = some (t, rest) := by
  have hw : Quoting.write .multilineLiteral t ++ rest = '\'' :: '\'' :: '\'' ::
      ((if t.contains '\n' then ['\n'] else []) ++ (t ++ '\'' :: '\'' :: '\'' :: rest)) := by
    simp [Quoting.write, Quoting.delimiter, Quoting.lead, Quoting.body]
  simp only [Quoting.shows, Bool.and_eq_true, Bool.not_eq_true'] at h
  have hthree : ¬['\'', '\'', '\''] <:+: t := by
    rw [← hasThree_iff, h.2]
    nofun
  have hplain : ∀ c ∈ t, isPlain c = true ∨ c = '\n' := by
    intro c hc
    rcases isPlain_or_mem h.1 c hc with hp | hp
    · exact Or.inl hp
    · simp only [List.mem_cons, List.not_mem_nil, or_false] at hp
      rcases hp with rfl | rfl
      · exact Or.inl (by decide)
      · exact Or.inr rfl
  rw [hw, text?, dropFirstBreak_lead]
  · exact multilineLiteral_append hplain hthree hr
  · intro hn
    cases t with
    | nil => exact ⟨'\'', _, rfl, by decide, by decide⟩
    | cons c t =>
      refine ⟨c, _, rfl, ?_, ?_⟩
      · rintro rfl
        exact hn List.mem_cons_self
      · rintro rfl
        exact absurd (hplain '\r' List.mem_cons_self) (by decide)

/-- A written text is read back as it was, whatever comes after it but for another quote. -/
theorem text?_string (t : Text) (hd : OpensWithout '"' rest) (hs : OpensWithout '\'' rest) :
    text? (Write.string t ++ rest) = some (t, rest) := by
  cases hq : Quoting.choose t with
  | basic =>
    rw [Write.string, hq]
    exact text?_basic t hd
  | literal =>
    rw [Write.string, hq]
    exact text?_literal (shows_of_choose hq ⟨nofun, nofun⟩) hs
  | multilineBasic =>
    rw [Write.string, hq]
    exact text?_multilineBasic t hd
  | multilineLiteral =>
    rw [Write.string, hq]
    exact text?_multilineLiteral (shows_of_choose hq ⟨nofun, nofun⟩) hs

end Quoted

end ModelStubs.Toml
