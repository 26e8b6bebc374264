import ModelStubs.Proofs.ScalarWord
import ModelStubs.Proofs.Unambiguous

/-!
# Names in camel case

A name is cut into words and its words are joined again, and on the way nothing but separators is lost: the words hold the
clusters of the name that are no separators, in order (`flatten_wordsOf`), and joining words changes the case of letters
only. In ASCII a separator is a cluster of its own, so a name in camel case is, but for the case of its letters, the name
without its underscores, hyphens and spaces (`asciiLower_camelCase`).

An identifier can lose its start that way. What is left of it is an identifier again exactly if a letter comes first once its
leading underscores are gone (`isAscii_camelCase_iff`).
-/

namespace ModelStubs

namespace Text

/-! ## Clusters of ASCII -/

variable {c d : Char} {t current : Text} {state : ClusterState}

/-- In ASCII, no character attaches to another but a line feed to a carriage return. -/
theorem clusterRole_of_ascii : ∀ c : Char, c.toNat < 128 → clusterRole c = if c = '\r' then .carriageReturn
    else if c = '\n' then .lineFeed else if c.toNat < 32 ∨ c.toNat = 127 then .control else .other :=
  forall_ascii (by decide +kernel)

/-- In ASCII a character joins the cluster before it only as a line feed behind a carriage return. -/
theorem attaches_of_ascii (hc : c.toNat < 128) (hd : d.toNat < 128) (hs : state.last = clusterRole c)
    (h : state.attaches (clusterRole d) = true) : c = '\r' ∧ d = '\n' := by
  rw [clusterRole_of_ascii c hc] at hs
  rw [clusterRole_of_ascii d hd] at h
  by_cases hcr : c = '\r'
  · refine ⟨hcr, ?_⟩
    rw [if_pos hcr] at hs
    unfold ClusterState.attaches at h
    rw [hs] at h
    grind
  · rw [if_neg hcr] at hs
    unfold ClusterState.attaches at h
    grind

/-- A cluster of a text in ASCII: one character, or a line feed with the carriage return before it. -/
def IsPlain (g : Text) : Prop := (∃ c, g = [c]) ∨ g = ['\r', '\n']

/-- The induction is on what is left of the text; a cluster that is being read is one character, or complete. -/
theorem isPlain_of_mem_clustersFrom (hcurrent : current = [c] ∨ c = '\n' ∧ current = ['\n', '\r'])
    (hc : c.toNat < 128) (hs : state.last = clusterRole c) (ht : IsAscii t) :
    ∀ g ∈ clustersFrom current state t, IsPlain g := by
  have hplain : IsPlain current.reverse := by
    rcases hcurrent with rfl | ⟨-, rfl⟩
    · exact Or.inl ⟨c, rfl⟩
    · exact Or.inr rfl
  induction t generalizing current state c with
  | nil =>
    intro g hg
    rw [clustersFrom, List.mem_singleton] at hg
    rw [hg]
    exact hplain
  | cons d t ih =>
    intro g hg
    have hd : d.toNat < 128 := ht d List.mem_cons_self
    have ht' : IsAscii t := fun e he => ht e (List.mem_cons_of_mem _ he)
    rw [clustersFrom] at hg
    split at hg
    · rename_i hattaches
      obtain ⟨rfl, rfl⟩ := attaches_of_ascii hc hd hs hattaches
      rcases hcurrent with rfl | ⟨hn, -⟩
      · exact ih (Or.inr ⟨rfl, rfl⟩) hd rfl ht' (Or.inr rfl) g hg
      · exact absurd hn (by decide)
    · rcases List.mem_cons.mp hg with rfl | hg
      · exact hplain
      · exact ih (Or.inl rfl) hd rfl ht' (Or.inl ⟨d, rfl⟩) g hg

/-- The clusters of a text in ASCII are plain. -/
theorem isPlain_of_mem_clusters (h : IsAscii t) : ∀ g ∈ clusters t, IsPlain g := by
  cases t with
  | nil => nofun
  | cons c t =>
    intro g hg
    exact isPlain_of_mem_clustersFrom (Or.inl rfl) (h c List.mem_cons_self) rfl
      (fun d hd => h d (List.mem_cons_of_mem _ hd)) g hg

theorem flatten_clustersFrom (current : Text) (state : ClusterState) (t : Text) :
    (clustersFrom current state t).flatten = current.reverse ++ t := by
  induction t generalizing current state with
  | nil => simp [clustersFrom]
  | cons c t ih =>
    rw [clustersFrom]
    split
    · rw [ih, List.reverse_cons, List.append_assoc, List.singleton_append]
    · rw [List.flatten_cons, ih, List.reverse_singleton, List.singleton_append]

/-- Cutting a text into clusters loses nothing. -/
theorem flatten_clusters (t : Text) : (clusters t).flatten = t := by
  cases t with
  | nil => rfl
  | cons c t => exact flatten_clustersFrom [c] _ t

/-! ## Case in ASCII -/

theorem IsAscii.subset {a b : Text} (h : IsAscii b) (hs : a ⊆ b) : IsAscii a := fun c hc => h c (hs hc)

/-- The upper case of a character in ASCII is one character. -/
theorem upperChar_of_ascii : ∀ c : Char, c.toNat < 128 → upperChar c = [c.toUpper] :=
  forall_ascii (by decide +kernel)

theorem asciiLower_append (a b : Text) : asciiLower (a ++ b) = asciiLower a ++ asciiLower b := List.map_append

/-- In ASCII it makes no difference to lower the letters of all scripts first. -/
theorem asciiLower_lower (h : IsAscii t) : asciiLower (lower t) = asciiLower t := by
  rw [lower_of_ascii h]
  simp [asciiLower]

/-- Lower case leaves what is no letter. -/
theorem toLower_of_not_isAlpha (h : c.isAlpha = false) : c.toLower = c := by
  refine Char.toLower_eq_of_not_isUpper ?_
  intro hu
  simp [Char.isAlpha, hu] at h

/-- Lower case makes no character that is no letter. -/
theorem eq_of_toLower_eq (hd : d.isAlpha = false) (h : c.toLower = d) : c = d := by
  have hc : c.isAlpha = false := by rw [← Char.isAlpha_toLower_eq_isAlpha, h, hd]
  rw [← h, toLower_of_not_isAlpha hc]

end Text

namespace Identifier

open Text (IsAscii IsPlain asciiLower clusters lower)

variable {t word : Text} {words : List Text}

/-! ## Words of a name -/

/-- The words of a name have its clusters in order, but for the separators. -/
theorem flatten_wordsOf (gs : List Text) : (wordsOf gs).flatten = gs.filter fun g => !isSeparator g := by
  induction gs with
  | nil => rfl
  | cons g gs ih =>
    rw [wordsOf]
    by_cases hs : isSeparator g = true
    · simp [hs, ih]
    · have hs' : isSeparator g = false := Bool.eq_false_iff.mpr hs
      rw [List.filter_cons, hs', ← ih]
      simp only [Bool.false_eq_true, if_false, Bool.not_false, if_true]
      split
      · simp
      · cases wordsOf gs <;> simp

/-- Capitalizing a word in ASCII changes no more than the case of its letters. -/
theorem asciiLower_capitalized (h : IsAscii word) : asciiLower (capitalized word) = asciiLower word := by
  cases word with
  | nil => rfl
  | cons c word =>
    have hrest : IsAscii word := fun d hd => h d (List.mem_cons_of_mem _ hd)
    rw [capitalized, Text.asciiLower_append, Text.asciiLower_lower hrest, Text.upperChar_of_ascii c (h c List.mem_cons_self)]
    simp [asciiLower]

/-- Capitalizing words in ASCII changes no more than the case of their letters. -/
theorem asciiLower_flatMap_capitalized (h : ∀ word ∈ words, IsAscii word) :
    asciiLower (words.flatMap capitalized) = asciiLower words.flatten := by
  induction words with
  | nil => rfl
  | cons word words ih =>
    rw [List.flatMap_cons, List.flatten_cons, Text.asciiLower_append, Text.asciiLower_append,
      asciiLower_capitalized (h word List.mem_cons_self), ih fun w hm => h w (List.mem_cons_of_mem _ hm)]

/-- Words joined have the characters of the words, but for the case of letters. -/
theorem asciiLower_joinWords (h : ∀ word ∈ words, IsAscii word) :
    asciiLower (joinWords words) = asciiLower words.flatten := by
  cases words with
  | nil => rfl
  | cons word words =>
    rw [joinWords, List.flatten_cons, Text.asciiLower_append, Text.asciiLower_append,
      Text.asciiLower_lower (h word List.mem_cons_self),
      asciiLower_flatMap_capitalized fun w hm => h w (List.mem_cons_of_mem _ hm)]

/-! ## Names without separators -/

/-- A name without its underscores, hyphens and spaces. -/
def withoutSeparators (t : Text) : Text := t.filter fun c => c ≠ '_' && c ≠ '-' && c ≠ ' '

/-- In ASCII, separators are clusters of their own. -/
theorem flatten_filter_isSeparator {gs : List Text} (h : ∀ g ∈ gs, IsPlain g) :
    (gs.filter fun g => !isSeparator g).flatten = withoutSeparators gs.flatten := by
  induction gs with
  | nil => rfl
  | cons g gs ih =>
    have hg : (if isSeparator g then [] else g) = withoutSeparators g := by
      rcases h g List.mem_cons_self with ⟨c, rfl⟩ | rfl
      · simp only [isSeparator, withoutSeparators]
        grind
      · rfl
    have hrest := ih fun g hm => h g (List.mem_cons_of_mem _ hm)
    rw [List.flatten_cons, withoutSeparators, List.filter_append, ← withoutSeparators, ← withoutSeparators, ← hg, ← hrest]
    by_cases hs : isSeparator g = true <;> simp [hs]

/-- In camel case a name in ASCII has lost its separators, and nothing else but the case of its letters has changed. -/
theorem asciiLower_camelCase (h : IsAscii t) : asciiLower (camelCase t) = asciiLower (withoutSeparators t) := by
  have hflat : ((wordsOf (clusters t)).map List.flatten).flatten = withoutSeparators t := by
    rw [← List.flatten_flatten, flatten_wordsOf, flatten_filter_isSeparator (Text.isPlain_of_mem_clusters h),
      Text.flatten_clusters]
  have hwords : ∀ word ∈ (wordsOf (clusters t)).map List.flatten, IsAscii word := by
    intro word hw c hc
    have hm : c ∈ withoutSeparators t := hflat ▸ List.mem_flatten_of_mem hw hc
    exact h c (List.mem_of_mem_filter hm)
  rw [camelCase, asciiLower_joinWords hwords, hflat]

theorem ascii_withoutSeparators (h : IsAscii t) : IsAscii (withoutSeparators t) :=
  h.subset (List.filter_subset_self _)

/-- A name in ASCII stays in ASCII. -/
theorem ascii_camelCase (h : IsAscii t) : IsAscii (camelCase t) := by
  rw [← Text.isAscii_asciiLower_iff, asciiLower_camelCase h, Text.isAscii_asciiLower_iff]
  exact ascii_withoutSeparators h

/-- In lower case, a name in camel case is the name without its separators. -/
theorem lower_camelCase (h : IsAscii t) : lower (camelCase t) = lower (withoutSeparators t) := by
  rw [Text.lower_of_ascii (ascii_camelCase h), Text.lower_of_ascii (ascii_withoutSeparators h), asciiLower_camelCase h]

/-- No character that is no letter is new in camel case. -/
theorem mem_withoutSeparators_of_mem_camelCase {c : Char} (h : IsAscii t) (ha : c.isAlpha = false)
    (hc : c ∈ camelCase t) : c ∈ withoutSeparators t := by
  have hm : c ∈ asciiLower (withoutSeparators t) := by
    rw [← asciiLower_camelCase h, ← Text.toLower_of_not_isAlpha ha]
    exact List.mem_map_of_mem hc
  obtain ⟨d, hd, he⟩ := List.mem_map.mp hm
  rwa [← Text.eq_of_toLower_eq ha he]

/-- In camel case a name in ASCII has no separators, stays in ASCII, and is the name without its separators, but for the case
of its letters. So two names become one only if they differ in nothing but the case of letters and separators. -/
theorem camelCase_keeps_letters (naming : Naming) (hc : naming.camelCaseProperties = true) (s : Text) (hs : IsAscii s) :
    (∀ c ∈ naming.propertyName s, c ≠ '_' ∧ c ≠ '-' ∧ c ≠ ' ') ∧
      IsAscii (naming.propertyName s) ∧
      lower (naming.propertyName s) = lower (withoutSeparators s) ∧
      ∀ s', IsAscii s' → naming.propertyName s' = naming.propertyName s →
        lower (withoutSeparators s') = lower (withoutSeparators s) := by
  have hname : ∀ s, naming.propertyName s = camelCase s := fun s => if_pos hc
  simp only [hname]
  refine ⟨?_, ascii_camelCase hs, lower_camelCase hs, ?_⟩
  · intro c hm
    have hkept : ∀ d, d.isAlpha = false → d ∉ withoutSeparators s → c ≠ d := by
      rintro d ha hd rfl
      exact hd (mem_withoutSeparators_of_mem_camelCase hs ha hm)
    refine ⟨hkept '_' (by decide) ?_, hkept '-' (by decide) ?_, hkept ' ' (by decide) ?_⟩ <;>
      simp [withoutSeparators]
  · intro s' hs' he
    rw [← lower_camelCase hs', ← lower_camelCase hs, he]

/-- A name with separators of all kinds, some of them in a row, and another that differs from it in the case of letters and in
separators only, are one name in camel case. -/
theorem camelCase_keeps_letters_order :
    (⟨"api".toList, true⟩ : Naming).propertyName "__Order-total 2b".toList = "OrderTotal2B".toList ∧
      lower "OrderTotal2B".toList = lower "Ordertotal2b".toList ∧
      lower (withoutSeparators "_orderTotal2B".toList) = lower (withoutSeparators "__Order-total 2b".toList) := by
  have hname : (⟨"api".toList, true⟩ : Naming).propertyName "__Order-total 2b".toList = "OrderTotal2B".toList := by
    decide +kernel
  obtain ⟨-, -, hlower, hcollide⟩ := camelCase_keeps_letters ⟨"api".toList, true⟩ rfl "__Order-total 2b".toList
    (by decide)
  rw [hname] at hlower
  exact ⟨hname, hlower, hcollide "_orderTotal2B".toList (by decide) (by decide +kernel)⟩

/-! ## Identifiers -/

/-- Whether a name loses its start in camel case: once its leading underscores are gone, nothing is left of it, or a digit
comes first. -/
def LosesStart (t : Text) : Prop := ∀ c ∈ (t.dropWhile (· = '_')).head?, c.isDigit = true

instance decLosesStart (t : Text) : Decidable (LosesStart t) :=
  decidable_of_iff ((t.dropWhile (· = '_')).head?.all Char.isDigit = true) (by simp [LosesStart, Option.all_eq_true])

/-- Lowering a character does not change whether it can be in an identifier. -/
theorem isPart_toLower (c : Char) : isPart c.toLower = isPart c := by
  cases h : c.isAlpha with
  | true =>
    have hlower : c.toLower.isAlpha = true := by rw [Char.isAlpha_toLower_eq_isAlpha, h]
    simp [isPart, Char.isAlphanum, h, hlower]
  | false => rw [Text.toLower_of_not_isAlpha h]

/-- Whether a text is an identifier does not depend on the case of its letters. -/
theorem isAscii_asciiLower (t : Text) : isAscii (asciiLower t) = isAscii t := by
  cases t with
  | nil => rfl
  | cons c t =>
    have hstart : (c.toLower.isAlpha || decide (c.toLower = '_')) = (c.isAlpha || decide (c = '_')) := by
      cases h : c.isAlpha with
      | true => rw [Char.isAlpha_toLower_eq_isAlpha, h, Bool.true_or, Bool.true_or]
      | false => rw [Text.toLower_of_not_isAlpha h, h]
    have hrest : (asciiLower t).all isPart = t.all isPart := by
      simp only [asciiLower, List.all_map, Function.comp_def, isPart_toLower]
    change ((c.toLower.isAlpha || decide (c.toLower = '_')) && (asciiLower t).all isPart) =
      ((c.isAlpha || decide (c = '_')) && t.all isPart)
    rw [hstart, hrest]

/-- An identifier has characters of ASCII only. -/
theorem ascii_of_isAscii (h : isAscii t = true) : IsAscii t := by
  intro c hc
  rcases Bool.or_eq_true_iff.mp (isPart_of_isAscii h c hc) with hl | hl
  · have hn := toNat_of_isAlphanum hl
    omega
  · rw [of_decide_eq_true hl]
    decide

/-- A name without its leading underscores is the same name without separators. -/
theorem withoutSeparators_dropWhile (t : Text) : withoutSeparators (t.dropWhile (· = '_')) = withoutSeparators t := by
  induction t with
  | nil => rfl
  | cons c t ih =>
    rw [List.dropWhile_cons]
    split
    · rename_i hc
      rw [ih, of_decide_eq_true hc]
      rfl
    · rfl

theorem not_isDigit_of_isAlpha {c : Char} (h : c.isAlpha = true) : c.isDigit = false := by
  have hl := (Text.isLetter_iff c).mp h
  have h9 : '9'.toNat = 57 := rfl
  rw [← Bool.not_eq_true, Char.isDigit_iff_toNat]
  omega

/-- What opens with a letter or a digit, and goes on as an identifier does, is an identifier if it opens with a letter. -/
theorem isAscii_withoutSeparators_cons {c : Char} (hc : c.isAlphanum = true) (ht : ∀ d ∈ t, isPart d = true) :
    isAscii (withoutSeparators (c :: t)) = c.isAlpha := by
  have hne : ∀ d : Char, d.isAlphanum = false → c ≠ d := by
    rintro d hd rfl
    rw [hc] at hd
    nomatch hd
  have hkept : withoutSeparators (c :: t) = c :: withoutSeparators t := by
    refine List.filter_cons_of_pos ?_
    simp [hne '_' (by decide), hne '-' (by decide), hne ' ' (by decide)]
  have hrest : (withoutSeparators t).all isPart = true := by
    rw [List.all_eq_true]
    intro d hd
    exact ht d (List.mem_of_mem_filter hd)
  rw [hkept]
  change ((c.isAlpha || decide (c = '_')) && (withoutSeparators t).all isPart) = c.isAlpha
  simp [hrest, hne '_' (by decide)]

/-- An identifier is one again in camel case unless it loses its start. -/
theorem isAscii_camelCase_iff (h : isAscii t = true) : isAscii (camelCase t) = true ↔ ¬LosesStart t := by
  have hparts : ∀ c ∈ t.dropWhile (· = '_'), isPart c = true := by
    intro c hc
    exact isPart_of_isAscii h c ((List.dropWhile_sublist _).subset hc)
  have hfirst : ∀ c ∈ (t.dropWhile (· = '_')).head?, c ≠ '_' := by
    intro c hc
    have hhead := List.head?_dropWhile_not (fun c : Char => decide (c = '_')) t
    rw [hc] at hhead
    simpa using hhead
  rw [← isAscii_asciiLower, asciiLower_camelCase (ascii_of_isAscii h), isAscii_asciiLower, ← withoutSeparators_dropWhile,
    LosesStart]
  cases hd : t.dropWhile (· = '_') with
  | nil => simp [withoutSeparators, isAscii]
  | cons c rest =>
    rw [hd] at hparts hfirst
    have hc : c.isAlphanum = true := by simpa [isPart, hfirst c rfl] using hparts c List.mem_cons_self
    rw [isAscii_withoutSeparators_cons hc fun d hm => hparts d (List.mem_cons_of_mem _ hm)]
    simp only [List.head?_cons, Option.mem_def, Option.some.injEq, forall_eq']
    cases ha : c.isAlpha with
    | true => simp [not_isDigit_of_isAlpha ha]
    | false => simpa [Char.isAlphanum, ha] using hc

end Identifier

/-! ## Names of members -/

namespace Stub

/-- An object is written out in the lines of its constructor, whatever is in them. -/
theorem ofObject_eq_lines (naming : Naming) (object : Object) :
    ofObject naming object = ((Constructor.ofObject naming object).lines naming).flatMap (· ++ ['\n']) := by
  have hfield : ofProperty naming object =
      fun property => (Field.ofProperty naming object.fullName property).lines.flatMap (· ++ ['\n']) := by
    funext property
    rw [ofProperty_eq, Field.lines]
    simp
  rw [ofObject_eq, Constructor.lines, Constructor.ofObject, hfield]
  simp [List.flatMap_append, List.flatMap_map, List.flatMap_assoc]

end Stub

namespace Declaration

/-- An object is written out in the lines of its interface, whatever is in them. -/
theorem ofObject_eq_lines (naming : Naming) (object : Object) :
    ofObject naming object = (Interface.ofObject naming object).lines.flatMap (· ++ ['\n']) := by
  have hmember : ofProperty naming = fun property => (Member.ofProperty naming property).line ++ ['\n'] := by
    funext property
    exact ofProperty_eq naming property
  rw [ofObject_eq, Interface.lines, Interface.ofObject, hmember]
  simp [List.flatMap_append, List.flatMap_map]

end Declaration

namespace Identifier

/-- Let the names of all properties of an object be identifiers, and be written in camel case. The object is written out in
the lines of its constructor and of its interface, and each field and each member in them has an identifier for its name
exactly if its property does not lose its start. -/
theorem memberNames_isAscii_iff (naming : Naming) (object : Object) (hc : naming.camelCaseProperties = true)
    (hn : ∀ property ∈ object.properties, isAscii property.name = true) :
    Stub.ofObject naming object =
        ((Stub.Constructor.ofObject naming object).lines naming).flatMap (· ++ ['\n']) ∧
      Declaration.ofObject naming object =
        (Declaration.Interface.ofObject naming object).lines.flatMap (· ++ ['\n']) ∧
      ∀ property ∈ object.properties,
        (isAscii (Stub.Field.ofProperty naming object.fullName property).name = true ↔ ¬LosesStart property.name) ∧
        (isAscii (Declaration.Member.ofProperty naming property).name = true ↔ ¬LosesStart property.name) := by
  refine ⟨Stub.ofObject_eq_lines naming object, Declaration.ofObject_eq_lines naming object, ?_⟩
  intro property hp
  have hname : naming.propertyName property.name = camelCase property.name := if_pos hc
  have hiff : isAscii (naming.propertyName property.name) = true ↔ ¬LosesStart property.name := by
    rw [hname]
    exact isAscii_camelCase_iff (hn property hp)
  exact ⟨hiff, hiff⟩

/-- An object with four properties whose names are identifiers. -/
def underscored : Object :=
  ⟨"Order".toList, "Shop.Order".toList,
    ["__order_total".toList, "v1_2".toList, "_1".toList, "__".toList].map fun name => ⟨name, "int".toList, none⟩⟩

/-- In camel case, the first two names of that object are identifiers and the last two are not. -/
theorem underscored_names :
    (∀ property ∈ underscored.properties, isAscii property.name = true) ∧
      ∀ property ∈ underscored.properties,
        (isAscii (Stub.Field.ofProperty ⟨"server".toList, true⟩ underscored.fullName property).name = true ↔
          property.name = "__order_total".toList ∨ property.name = "v1_2".toList) := by
  have hn : ∀ property ∈ underscored.properties, isAscii property.name = true := by decide +kernel
  obtain ⟨-, -, hnames⟩ := memberNames_isAscii_iff ⟨"server".toList, true⟩ underscored rfl hn
  refine ⟨hn, ?_⟩
  intro property hp
  rw [(hnames property hp).1]
  revert property
  decide +kernel

/-- Identifiers do not all stay identifiers in camel case: of `_1` and `__` nothing is left to start with. -/
theorem memberNames_not_isAscii :
    ¬∀ (naming : Naming) (object : Object), naming.camelCaseProperties = true →
      (∀ property ∈ object.properties, isAscii property.name = true) →
        ∀ field ∈ (Stub.Constructor.ofObject naming object).fields, isAscii field.name = true := by
  intro h
  have hfields := h ⟨"server".toList, true⟩ underscored rfl (by decide +kernel)
  exact absurd hfields (by decide +kernel)

end Identifier

end ModelStubs
