import ModelStubs.Proofs.Text
import ModelStubs.Proofs.Toml.Quoted
import ModelStubs.Toml.Reader

/-!
# Written documents are read back

Each value is read back by what follows it (`value?_string`, `value?_strings`, `value?_boolean`), each pair and each header
as a statement on a line of its own (`readsLine_pair`, `readsLine_header`), and lines that are read one by one make the
statements of their document (`statements?_lines`).
-/

namespace ModelStubs.Toml

open Quoted (OpensWithout)

/-! ## What is passed over -/

/-- A character at which nothing is passed over. -/
theorem dropTrivia?_cons {c : Char} (h : c ∉ ['\n', '\r', ' ', '\t', '#']) (rest : List Char) :
    dropTrivia? false (c :: rest) = some (c :: rest) := by
  simp only [List.mem_cons, List.not_mem_nil, or_false, not_or] at h
  obtain ⟨hn, hr, hs, ht, hc⟩ := h
  simp [dropTrivia?, hn, hr, hs, ht, hc]

theorem dropBlanks_cons {c : Char} (h : c ≠ ' ' ∧ c ≠ '\t') (rest : List Char) : dropBlanks (c :: rest) = c :: rest := by
  simp [dropBlanks, h.1, h.2]

/-! ## Values -/

/-- What can come after a value in a written document. -/
def EndsValue (rest : List Char) : Prop := ∃ c more, rest = c :: more ∧ (c = '\n' ∨ c = ',' ∨ c = ']')

/-- What comes after a value does not open with a quote. -/
theorem EndsValue.opensWithout {rest : List Char} (h : EndsValue rest) :
    OpensWithout '"' rest ∧ OpensWithout '\'' rest := by
  obtain ⟨c, more, rfl, h⟩ := h
  have hne : c ≠ '"' ∧ c ≠ '\'' := by rcases h with rfl | rfl | rfl <;> decide
  exact ⟨Quoted.opensWithout_cons hne.1 _, Quoted.opensWithout_cons hne.2 _⟩

theorem string_eq_cons (t : Text) : ∃ c more, Write.string t = c :: more ∧ (c = '"' ∨ c = '\'') := by
  rw [Write.string]
  cases Quoting.choose t with
  | basic => exact ⟨'"', _, rfl, Or.inl rfl⟩
  | literal => exact ⟨'\'', _, rfl, Or.inr rfl⟩
  | multilineBasic => exact ⟨'"', _, rfl, Or.inl rfl⟩
  | multilineLiteral => exact ⟨'\'', _, rfl, Or.inr rfl⟩

/-- A text in quotes is read as a value where it is read as a text. -/
theorem value?_of_text? {quote : Char} (hq : quote = '"' ∨ quote = '\'') {cs rest : List Char} {t : Text}
    (h : Quoted.text? (quote :: cs) = some (t, rest)) (depth : Nat) :
    value? depth (quote :: cs) = some (.string t, rest) := by
  rcases hq with rfl | rfl
  · have hplain : plainValue? ('"' :: cs) = some (.string t, rest) := by
      rw [plainValue?, h]
      rfl
    cases depth <;> exact hplain
  · have hplain : plainValue? ('\'' :: cs) = some (.string t, rest) := by
      rw [plainValue?, h]
      rfl
    cases depth <;> exact hplain

/-- A written text is read back as a value. -/
theorem value?_string (depth : Nat) (t : Text) (rest : List Char) (h : EndsValue rest) :
    value? depth (Write.string t ++ rest) = some (.string t, rest) := by
  have hread := Quoted.text?_string t h.opensWithout.1 h.opensWithout.2
  obtain ⟨c, more, hw, hc⟩ := string_eq_cons t
  rw [hw, List.cons_append] at hread ⊢
  exact value?_of_text? hc hread depth

/-- There is nothing to pass over before a written text. -/
theorem dropTrivia?_string (t : Text) (rest : List Char) :
    dropTrivia? false (Write.string t ++ rest) = some (Write.string t ++ rest) := by
  obtain ⟨c, more, hw, hc⟩ := string_eq_cons t
  rw [hw, List.cons_append, dropTrivia?_cons]
  rcases hc with rfl | rfl <;> decide

/-! ## Arrays -/

section Elements

variable {item : List Char → Option (Value × List Char)} {cs opened rest : List Char} {v : Value}

/-- An element with a comma behind it comes before those that are read behind the comma. -/
theorem elements?_of_comma (hs : dropTrivia? false cs = some opened) (ho : OpensWithout ']' opened)
    (hi : item opened = some (v, ',' :: rest)) (count : Nat) :
    elements? item (count + 1) cs = (elements? item count rest).map fun read => (v :: read.1, read.2) := by
  have hc : dropTrivia? false (',' :: rest) = some (',' :: rest) := dropTrivia?_cons (by decide) rest
  rw [elements?, hs]
  simp only [Option.bind_eq_bind, Option.bind_some]
  split
  · exact absurd rfl (ho ']' rfl)
  · simp only [hi, Option.bind_some, hc]
    cases elements? item count rest <;> rfl

/-- An element with the closing bracket behind it is the last. -/
theorem elements?_of_bracket (hs : dropTrivia? false cs = some opened) (ho : OpensWithout ']' opened)
    (hi : item opened = some (v, ']' :: rest)) (count : Nat) : elements? item (count + 1) cs = some ([v], rest) := by
  have hc : dropTrivia? false (']' :: rest) = some (']' :: rest) := dropTrivia?_cons (by decide) rest
  rw [elements?, hs]
  simp only [Option.bind_eq_bind, Option.bind_some]
  split
  · exact absurd rfl (ho ']' rfl)
  · simp only [hi, Option.bind_some, hc]

end Elements

theorem opensWithout_string (t : Text) (rest : List Char) : OpensWithout ']' (Write.string t ++ rest) := by
  obtain ⟨c, more, hw, hc⟩ := string_eq_cons t
  rw [hw, List.cons_append]
  exact Quoted.opensWithout_cons (by rcases hc with rfl | rfl <;> decide) _

/-- The line of an element of an array with two or more of them. -/
def elementLine (t : Text) : Text := "    ".toList ++ Write.string t ++ ",\n".toList

/-- The lines of the elements of an array are read back one after the other. -/
theorem elements?_lines (depth : Nat) (ts : List Text) {count : Nat} (hc : ts.length < count) (rest : List Char) :
    elements? (value? depth) count ('\n' :: (ts.flatMap elementLine ++ ']' :: rest)) =
      some (ts.map Value.string, rest) := by
  induction ts generalizing count with
  | nil =>
    obtain ⟨count, rfl⟩ := Nat.exists_eq_add_of_lt hc
    rfl
  | cons t ts ih =>
    obtain ⟨count, rfl⟩ : ∃ n, count = n + 1 := ⟨count - 1, by omega⟩
    rw [List.length_cons] at hc
    have hline : '\n' :: ((t :: ts).flatMap elementLine ++ ']' :: rest) = '\n' :: ' ' :: ' ' :: ' ' :: ' ' ::
        (Write.string t ++ ',' :: '\n' :: (ts.flatMap elementLine ++ ']' :: rest)) := by
      simp [elementLine]
    have hskip : dropTrivia? false ('\n' :: ((t :: ts).flatMap elementLine ++ ']' :: rest)) =
        some (Write.string t ++ ',' :: '\n' :: (ts.flatMap elementLine ++ ']' :: rest)) := by
      rw [hline, ← dropTrivia?_string]
      rfl
    have hvalue := value?_string depth t (',' :: '\n' :: (ts.flatMap elementLine ++ ']' :: rest))
      ⟨_, _, rfl, Or.inr (Or.inl rfl)⟩
    rw [elements?_of_comma hskip (opensWithout_string t _) hvalue, ih (by omega)]
    rfl

theorem length_le_flatMap_elementLine (ts : List Text) : ts.length ≤ (ts.flatMap elementLine).length := by
  induction ts with
  | nil => exact Nat.le_refl 0
  | cons t ts ih =>
    have hpos : 0 < (elementLine t).length := by simp [elementLine]
    rw [List.flatMap_cons, List.length_append, List.length_cons]
    omega

/-- A written list of texts is read back as an array of them. -/
theorem value?_strings (depth : Nat) (ts : List Text) (rest : List Char) :
    value? (depth + 1) (Write.strings ts ++ rest) = some (.array (ts.map Value.string), rest) := by
  match ts with
  | [] => rfl
  | [t] =>
    have hvalue := value?_string depth t (']' :: rest) ⟨_, _, rfl, Or.inr (Or.inr rfl)⟩
    have hw : Write.strings [t] ++ rest = '[' :: (Write.string t ++ ']' :: rest) := by simp [Write.strings]
    rw [hw, value?, elements?_of_bracket (dropTrivia?_string t _) (opensWithout_string t _) hvalue]
    rfl
  | t :: u :: ts =>
    have hw : Write.strings (t :: u :: ts) ++ rest =
        '[' :: '\n' :: ((t :: u :: ts).flatMap elementLine ++ ']' :: rest) := by
      simp only [Write.strings, List.append_assoc]
      rfl
    have hl := length_le_flatMap_elementLine (t :: u :: ts)
    rw [hw, value?, elements?_lines depth (t :: u :: ts) (by simp only [List.length_cons, List.length_append] at hl ⊢; omega)]
    rfl

/-- A written truth value is read back. -/
theorem value?_boolean (depth : Nat) (b : Bool) (rest : List Char) :
    value? depth (Write.boolean b ++ '\n' :: rest) = some (.boolean b, '\n' :: rest) := by
  cases depth <;> cases b <;> rfl

/-! ## Keys -/

/-- A text that stands as a key without quotes. -/
structure IsBareKey (key : Text) : Prop where
  ne_nil : key ≠ []
  bare : ∀ c ∈ key, isBareKeyChar c = true

instance decIsBareKey (key : Text) : Decidable (IsBareKey key) :=
  decidable_of_iff (key ≠ [] ∧ key.all isBareKeyChar = true)
    ⟨fun h => ⟨h.1, List.all_eq_true.mp h.2⟩, fun h => ⟨h.ne_nil, List.all_eq_true.mpr h.bare⟩⟩

/-- A bare key opens with a character of bare keys. -/
theorem IsBareKey.eq_cons {key : Text} (h : IsBareKey key) : ∃ c more, key = c :: more ∧ isBareKeyChar c = true := by
  cases key with
  | nil => exact absurd rfl h.ne_nil
  | cons c more => exact ⟨c, more, rfl, h.bare c List.mem_cons_self⟩

/-- A character of a key is none of those that mean something else at the start of a line. -/
theorem ne_of_isBareKeyChar {c d : Char} (h : isBareKeyChar c = true) (hd : isBareKeyChar d = false) : c ≠ d := by
  rintro rfl
  exact absurd (h.symm.trans hd) (by decide)

/-- A bare key is read up to the first character that cannot be in one. -/
theorem keyPart?_bare {key rest : List Char} (h : IsBareKey key) (hr : ∀ c ∈ rest.head?, isBareKeyChar c = false) :
    keyPart? (key ++ rest) = some (key, rest) := by
  have hquote : Quoted.line? (key ++ rest) = none := by
    obtain ⟨c, more, rfl, hc⟩ := h.eq_cons
    have hd : c ≠ '"' := ne_of_isBareKeyChar hc (by decide)
    have hs : c ≠ '\'' := ne_of_isBareKeyChar hc (by decide)
    rw [List.cons_append, Quoted.line?]
    · intro _ he
      exact hd (List.cons.inj he).1
    · intro _ he
      exact hs (List.cons.inj he).1
  rw [keyPart?, hquote]
  simp only
  rw [Text.takeWhile_append_of_head h.bare hr, Text.dropWhile_append_of_head h.bare hr, if_neg h.ne_nil]

/-- A bare key without a dot behind it is read as the one part of a key. -/
theorem key?_bare {key : Text} (h : IsBareKey key) (rest : List Char) (hr : ∀ c ∈ rest.head?, isBareKeyChar c = false)
    (hd : OpensWithout '.' (dropBlanks rest)) (count : Nat) :
    key? (count + 1) (key ++ rest) = some ([key], dropBlanks rest) := by
  have hblank : dropBlanks (key ++ rest) = key ++ rest := by
    obtain ⟨c, more, rfl, hc⟩ := h.eq_cons
    rw [List.cons_append, dropBlanks_cons]
    exact ⟨ne_of_isBareKeyChar hc (by decide), ne_of_isBareKeyChar hc (by decide)⟩
  rw [key?, hblank, keyPart?_bare h hr]
  simp only [Option.bind_eq_bind, Option.bind_some]
  split
  · rename_i more hdot
    rw [hdot] at hd
    exact absurd rfl (hd '.' rfl)
  · rfl

/-- There is nothing to pass over before a bare key. -/
theorem IsBareKey.dropTrivia? {key : Text} (h : IsBareKey key) (rest : List Char) :
    dropTrivia? false (key ++ rest) = some (key ++ rest) := by
  obtain ⟨c, more, rfl, hc⟩ := h.eq_cons
  rw [List.cons_append, dropTrivia?_cons]
  intro hm
  have hall : (['\n', '\r', ' ', '\t', '#'].all fun d => !isBareKeyChar d) = true := by decide
  exact ne_of_isBareKeyChar hc (by simpa using List.all_eq_true.mp hall c hm) rfl

/-- A key is not the header of anything. -/
theorem IsBareKey.append_ne {key : Text} (h : IsBareKey key) (rest more : List Char) : key ++ rest ≠ '[' :: more := by
  obtain ⟨c, _, rfl, hc⟩ := h.eq_cons
  rw [List.cons_append]
  intro he
  exact ne_of_isBareKeyChar hc (by decide) (List.cons.inj he).1

/-! ## Lines -/

/-- A text is read as a statement, up to the end of the line that it is, whatever comes after. -/
def ReadsLine (line : Text) (s : Statement) : Prop :=
  ∀ rest, ∃ cs tail, dropTrivia? false (line ++ rest) = some cs ∧ cs ≠ [] ∧ statement? cs = some (s, tail) ∧
    dropLineEnd? false tail = some rest

theorem ReadsLine.ne_nil {line : Text} {s : Statement} (h : ReadsLine line s) : line ≠ [] := by
  rintro rfl
  obtain ⟨cs, tail, hd, hne, -⟩ := h []
  exact hne (Option.some.inj hd).symm

/-- A line with an empty line before it. -/
theorem ReadsLine.newline {line : Text} {s : Statement} (h : ReadsLine line s) : ReadsLine ('\n' :: line) s := h

/-- The written header of a table is read back as a line. -/
theorem readsLine_header {key : String} (hk : IsBareKey key.toList) :
    ReadsLine (Write.header key) (.header (.table [key.toList])) := by
  intro rest
  have hline : Write.header key ++ rest = '[' :: (key.toList ++ ']' :: '\n' :: rest) := by simp [Write.header]
  have hkey := key?_bare hk (']' :: '\n' :: rest) (by rintro c ⟨⟩; decide)
    (Quoted.opensWithout_cons (by decide) _) 79
  rw [hline]
  refine ⟨_, '\n' :: rest, dropTrivia?_cons (by decide) _, by simp, ?_, rfl⟩
  rw [statement?, depthLimit, hkey]
  · rfl
  · intro rest' he
    exact hk.append_ne _ _ he

/-- A text that no blank opens, whatever comes after it. -/
def OpensWithoutBlank (text : Text) : Prop := ∃ c more, text = c :: more ∧ c ≠ ' ' ∧ c ≠ '\t'

/-- A key with what is read back as a value is read back as a line. -/
theorem readsLine_pair {key : String} (hk : IsBareKey key.toList) {text : Text} {v : Value}
    (ho : OpensWithoutBlank text) (hv : ∀ rest, value? depthLimit (text ++ '\n' :: rest) = some (v, '\n' :: rest)) :
    ReadsLine (Write.pair key text) (.pair [key.toList] v) := by
  intro rest
  have hline : Write.pair key text ++ rest = key.toList ++ ' ' :: '=' :: ' ' :: (text ++ '\n' :: rest) := by
    simp [Write.pair]
  have hkey := key?_bare hk (' ' :: '=' :: ' ' :: (text ++ '\n' :: rest)) (by rintro c ⟨⟩; decide)
    (Quoted.opensWithout_cons (by decide) _) 79
  have hblanks : dropBlanks (' ' :: (text ++ '\n' :: rest)) = text ++ '\n' :: rest := by
    obtain ⟨c, more, rfl, hc⟩ := ho
    exact dropBlanks_cons hc _
  rw [hline]
  refine ⟨_, '\n' :: rest, hk.dropTrivia? _, by simp, ?_, rfl⟩
  rw [statement?, depthLimit, hkey]
  · show (value? depthLimit (dropBlanks (' ' :: (text ++ '\n' :: rest)))).bind _ = _
    rw [hblanks, hv]
    rfl
  · exact fun _ => hk.append_ne _ _
  · exact fun _ => hk.append_ne _ _

theorem opensWithoutBlank_string (t : Text) : OpensWithoutBlank (Write.string t) := by
  obtain ⟨c, more, hw, hc⟩ := string_eq_cons t
  exact ⟨c, more, hw, by rcases hc with rfl | rfl <;> decide⟩

/-- A key with a written text is read back as a line. -/
theorem readsLine_string {key : String} (hk : IsBareKey key.toList) (t : Text) :
    ReadsLine (Write.pair key (Write.string t)) (.pair [key.toList] (.string t)) :=
  readsLine_pair hk (opensWithoutBlank_string t) fun _ => value?_string _ t _ ⟨_, _, rfl, Or.inl rfl⟩

/-- A text in any spelling on one line is read back as the value of a key. -/
theorem readsLine_spelled {key : String} (hk : IsBareKey key.toList) {t quoted : Text} (h : Quoted.IsBasic t quoted) :
    ReadsLine (Write.pair key quoted) (.pair [key.toList] (.string t)) := by
  have hread : ∀ rest, Quoted.text? (quoted ++ '\n' :: rest) = some (t, '\n' :: rest) :=
    fun rest => Quoted.text?_spelled h (Quoted.opensWithout_cons (by decide) rest)
  obtain ⟨spelled, -, rfl⟩ := h
  exact readsLine_pair hk ⟨'"', _, rfl, by decide⟩ fun rest => value?_of_text? (Or.inl rfl) (hread rest) _

/-- A key with a written list of texts is read back as a line. -/
theorem readsLine_strings {key : String} (hk : IsBareKey key.toList) (ts : List Text) :
    ReadsLine (Write.pair key (Write.strings ts)) (.pair [key.toList] (.array (ts.map Value.string))) := by
  have ho : OpensWithoutBlank (Write.strings ts) := by
    match ts with
    | [] => exact ⟨'[', _, rfl, by decide⟩
    | [t] => exact ⟨'[', _, rfl, by decide⟩
    | t :: u :: ts => exact ⟨'[', _, rfl, by decide⟩
  exact readsLine_pair hk ho fun _ => value?_strings 79 ts _

/-- A key with a written truth value is read back as a line. -/
theorem readsLine_boolean {key : String} (hk : IsBareKey key.toList) (b : Bool) :
    ReadsLine (Write.pair key (Write.boolean b)) (.pair [key.toList] (.boolean b)) := by
  have ho : OpensWithoutBlank (Write.boolean b) := by
    cases b
    · exact ⟨'f', _, rfl, by decide⟩
    · exact ⟨'t', _, rfl, by decide⟩
  exact readsLine_pair hk ho fun _ => value?_boolean _ b _

/-! ## Documents -/

/-- Lines are read as the statements that they are read as one by one. -/
theorem statementsFrom?_lines {lines : List (Text × Statement)} (h : ∀ l ∈ lines, ReadsLine l.1 l.2) {count : Nat}
    (hc : lines.length < count) : statementsFrom? count (lines.flatMap Prod.fst) = some (lines.map Prod.snd) := by
  induction lines generalizing count with
  | nil =>
    obtain ⟨count, rfl⟩ := Nat.exists_eq_add_of_lt hc
    rfl
  | cons l lines ih =>
    obtain ⟨count, rfl⟩ : ∃ n, count = n + 1 := ⟨count - 1, by omega⟩
    rw [List.length_cons] at hc
    obtain ⟨cs, tail, hd, hne, hs, he⟩ := h l List.mem_cons_self (lines.flatMap Prod.fst)
    rw [statementsFrom?, List.flatMap_cons, hd]
    simp only [Option.bind_eq_bind, Option.bind_some]
    have hrest := ih (fun l hm => h l (List.mem_cons_of_mem _ hm)) (by omega : lines.length < count)
    simp only [hs, Option.bind_some, he, hrest, List.map_cons]

theorem length_le_flatMap {lines : List (Text × Statement)} (h : ∀ l ∈ lines, ReadsLine l.1 l.2) :
    lines.length ≤ (lines.flatMap Prod.fst).length := by
  induction lines with
  | nil => exact Nat.le_refl 0
  | cons l lines ih =>
    have hpos := List.length_pos_iff.mpr (h l List.mem_cons_self).ne_nil
    have := ih fun l hm => h l (List.mem_cons_of_mem _ hm)
    rw [List.flatMap_cons, List.length_append, List.length_cons]
    omega

/-- A document of lines that are each read as a statement is read as these statements. -/
theorem statements?_lines {lines : List (Text × Statement)} (h : ∀ l ∈ lines, ReadsLine l.1 l.2)
    (ho : OpensWithout '\uFEFF' (lines.flatMap Prod.fst)) :
    statements? (lines.flatMap Prod.fst) = some (lines.map Prod.snd) := by
  have hmark : dropByteOrderMark (lines.flatMap Prod.fst) = lines.flatMap Prod.fst := by
    rw [dropByteOrderMark]
    intro more he
    rw [he] at ho
    exact ho _ rfl rfl
  rw [statements?, hmark]
  exact statementsFrom?_lines h (Nat.lt_succ_of_le (length_le_flatMap h))

end ModelStubs.Toml
