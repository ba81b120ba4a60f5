import Mathlib.Data.List.Chain
import Mathlib.Data.List.Induction
import WalletQuery.Text.Label

/-! A label, character by character. The separators of an identifier are dropped, and each character
that starts a word is written in upper case, with a space before it if it is not the first one. So
the words can be read off the characters, and a label that is made a label again stays as it is. -/
namespace WalletQuery.Text

theorem isSeparator_mapping : ∀ row ∈ uppercaseMappingRows, ∀ offset ≤ row.2.1 - row.1,
    isSeparator (Char.ofNat (row.2.2.2 + offset)) = false := by
  decide +kernel

theorem isSeparator_expansion : ∀ row ∈ uppercaseExpansions,
    row.2 ≠ [] ∧ ∀ code ∈ row.2, isSeparator (Char.ofNat code) = false := by
  decide +kernel

/-- An upper case has a character, and none of its characters is a separator. -/
theorem uppercaseOf_of_not_separator {c : Char} (letter : isSeparator c = false) :
    uppercaseOf c ≠ [] ∧ ∀ u ∈ uppercaseOf c, isSeparator u = false := by
  unfold uppercaseOf
  split
  · next codes found =>
    obtain ⟨front, back, rows, -⟩ := List.lookup_eq_some_iff.1 found
    have row : (c.toNat, codes) ∈ uppercaseExpansions := rows ▸ List.mem_append_cons_self
    obtain ⟨nonempty, each⟩ := isSeparator_expansion _ row
    exact ⟨by simpa using nonempty, List.forall_mem_map.2 each⟩
  · dsimp only
    split
    · next first _ _ target found =>
      have row := List.mem_of_find?_eq_some found
      have inRow := List.find?_some found
      simp only [Bool.and_eq_true, decide_eq_true_iff] at inRow
      refine ⟨by simp, List.forall_mem_singleton.2 (isSeparator_mapping _ row _ ?_)⟩
      have last := inRow.1.2
      exact Nat.sub_le_sub_right last first
    · exact ⟨by simp, List.forall_mem_singleton.2 letter⟩

/-- Whether a character starts a word behind the given ones: it is no separator, and is in upper
case, or the first of all, or right behind a separator. -/
def startsWord (before : List Char) (c : Char) : Bool :=
  !isSeparator c && (isUppercase c || before.isEmpty || before.getLast?.any isSeparator)

/-- Each character with those before it. -/
def prefixed (text : List Char) : List (List Char × Char) :=
  text.zipIdx.map fun (c, i) => (text.take i, c)

def hasWord (text : List Char) : Bool := (prefixed text).any fun (before, c) => startsWord before c

/-- What a character becomes in a label, but for the spaces. -/
def letters (before : List Char) (c : Char) : List Char :=
  if isSeparator c then [] else if startsWord before c then uppercaseOf c else [c]

/-- A space stands before each character that starts a word but the first one. -/
def spaced (before : List Char) (c : Char) : List Char :=
  if startsWord before c && hasWord before then ' ' :: letters before c else letters before c

/-- No space stands at an end or beside another space. -/
structure IsTidy (text : List Char) : Prop where
  head : text.head? ≠ some ' '
  last : text.getLast? ≠ some ' '
  apart : text.IsChain fun c d => ¬(c = ' ' ∧ d = ' ')

structure IsLabel (text label : List Char) : Prop where
  no_underscore : '_' ∉ label
  tidy : IsTidy label
  filter_eq : label.filter (· != ' ') =
    (prefixed text).flatMap fun (before, c) => letters before c
  eq_flatMap : label = (prefixed text).flatMap fun (before, c) => spaced before c

/-- Each character that starts a word has one character as upper case, which is its own. -/
def HasSimpleCapitals (text : List Char) : Prop :=
  ∀ before c, (before, c) ∈ prefixed text → startsWord before c = true →
    ∃ u, uppercaseOf c = [u] ∧ uppercaseOf u = [u]

instance (text : List Char) : Decidable (HasSimpleCapitals text) :=
  decidable_of_iff ((prefixed text).all fun (before, c) => !startsWord before c ||
      (uppercaseOf c).any fun u => uppercaseOf c == [u] && uppercaseOf u == [u]) <| by
    simp only [HasSimpleCapitals, List.all_eq_true, Prod.forall, Bool.or_eq_true,
      Bool.not_eq_true', List.any_eq_true, Bool.and_eq_true, beq_iff_eq]
    refine forall₂_congr fun before c => imp_congr_right fun _ => ?_
    cases startsWord before c with
    | false => simp
    | true =>
      refine ⟨fun each _ => ?_, fun simple => ?_⟩
      · obtain ⟨u, -, upper⟩ := each.resolve_left nofun
        exact ⟨u, upper⟩
      · obtain ⟨u, upper, same⟩ := simple rfl
        exact .inr ⟨u, by simp [upper], upper, same⟩

theorem prefixed_append_singleton (text : List Char) (c : Char) :
    prefixed (text ++ [c]) = prefixed text ++ [(text, c)] := by
  have shorter : ∀ place ∈ text.zipIdx, ((text ++ [c]).take place.2, place.1) =
      (text.take place.2, place.1) := by
    intro place mem
    rw [List.take_append_of_le_length (List.snd_lt_of_mem_zipIdx mem).le]
  simp only [prefixed, List.zipIdx_append, List.map_append]
  rw [List.map_congr_left shorter]
  simp

theorem hasWord_append_singleton (text : List Char) (c : Char) :
    hasWord (text ++ [c]) = (hasWord text || startsWord text c) := by
  simp [hasWord, prefixed_append_singleton]

theorem isSeparator_of_startsWord {before : List Char} {c : Char}
    (starts : startsWord before c = true) : isSeparator c = false := by
  simp only [startsWord, Bool.and_eq_true, Bool.not_eq_true'] at starts
  exact starts.1

section Words

/-- The word that a character is added to, or that it starts. -/
def nextWord (word : List Char) (c : Char) : List Char :=
  if isSeparator c then [] else if isUppercase c then [c] else word ++ [c]

theorem wordsFrom_cons (word : List Char) (c : Char) (rest : List Char) :
    wordsFrom word (c :: rest) =
      (if (isSeparator c || isUppercase c) && !word.isEmpty then [word] else []) ++
        wordsFrom (nextWord word c) rest := by
  simp only [wordsFrom, nextWord]
  cases isSeparator c <;> cases isUppercase c <;> cases word.isEmpty <;> rfl

/-- The words that are read first are kept whatever comes behind them. -/
theorem exists_wordsFrom_append (word front : List Char) : ∃ closed, ∀ back,
    wordsFrom word (front ++ back) = closed ++ wordsFrom (front.foldl nextWord word) back := by
  induction front generalizing word with
  | nil => exact ⟨[], fun _ => rfl⟩
  | cons c front ih =>
    obtain ⟨first, cons⟩ : ∃ first, ∀ rest,
        wordsFrom word (c :: rest) = first ++ wordsFrom (nextWord word c) rest :=
      ⟨_, wordsFrom_cons word c⟩
    obtain ⟨closed, read⟩ := ih (nextWord word c)
    refine ⟨first ++ closed, fun back => ?_⟩
    rw [List.cons_append, cons, read, List.append_assoc, List.foldl_cons]

/-- No word goes on at the start or behind a separator. -/
theorem isEmpty_foldl_nextWord (text : List Char) :
    (text.foldl nextWord []).isEmpty = (text.isEmpty || text.getLast?.any isSeparator) := by
  cases text using List.reverseRecOn with
  | nil => rfl
  | append_singleton text c =>
    have nonempty (front : List Char) : (front ++ [c]).isEmpty = false := by cases front <;> rfl
    rw [List.foldl_append, List.foldl_cons, List.foldl_nil, nextWord, nonempty]
    cases separator : isSeparator c <;> cases isUppercase c <;> simp [separator, nonempty]

/-- One more character is a separator, or starts a word, or goes on with the last word. -/
theorem words_append_singleton (text : List Char) (c : Char) :
    (isSeparator c = true ∧ words (text ++ [c]) = words text) ∨
    (startsWord text c = true ∧ words (text ++ [c]) = words text ++ [[c]]) ∨
    (isSeparator c = false ∧ startsWord text c = false ∧ ∃ front word, word ≠ [] ∧
      words text = front ++ [word] ∧ words (text ++ [c]) = front ++ [word ++ [c]]) := by
  obtain ⟨closed, read⟩ := exists_wordsFrom_append [] text
  have whole : words text = closed ++ wordsFrom (text.foldl nextWord []) [] :=
    (congrArg words (List.append_nil text).symm).trans (read [])
  have longer : words (text ++ [c]) = closed ++ wordsFrom (text.foldl nextWord []) [c] := read [c]
  rw [whole, longer, startsWord, Bool.or_assoc, ← isEmpty_foldl_nextWord, wordsFrom_cons]
  generalize text.foldl nextWord [] = word
  cases separator : isSeparator c with
  | true =>
    left
    cases word <;> simp [wordsFrom, nextWord, separator]
  | false =>
    right
    cases word with
    | nil =>
      left
      cases isUppercase c <;> simp [wordsFrom, nextWord, separator]
    | cons d word =>
      cases upper : isUppercase c with
      | true =>
        left
        simp [wordsFrom, nextWord, separator, upper]
      | false =>
        right
        refine ⟨rfl, rfl, closed, d :: word, by simp, ?_⟩
        simp [wordsFrom, nextWord, separator, upper]

theorem hasWord_iff {text : List Char} : hasWord text = true ↔ words text ≠ [] := by
  induction text using List.reverseRecOn with
  | nil => decide
  | append_singleton text c ih =>
    rw [hasWord_append_singleton, Bool.or_eq_true, ih]
    rcases words_append_singleton text c with
      ⟨separator, same⟩ | ⟨starts, new⟩ | ⟨-, -, front, word, -, old, longer⟩
    · simp [same, startsWord, separator]
    · simp [new, starts]
    · simp [old, longer]

end Words

section Spaced
variable {before : List Char} {c : Char}

theorem spaced_of_separator (separator : isSeparator c = true) : spaced before c = [] := by
  simp [spaced, letters, startsWord, separator]

theorem spaced_of_startsWord (starts : startsWord before c = true) :
    spaced before c = (if hasWord before then [' '] else []) ++ uppercaseOf c := by
  simp only [spaced, letters, starts, isSeparator_of_startsWord starts]
  cases hasWord before <;> rfl

theorem spaced_of_goesOn (letter : isSeparator c = false) (goesOn : startsWord before c = false) :
    spaced before c = [c] := by
  simp [spaced, letters, letter, goesOn]

/-- What a character adds to a label: nothing, the first word, another word, or itself. -/
inductive Adds (before : List Char) (c : Char) : List Char → Prop
  | separator : isSeparator c = true → Adds before c []
  | firstWord : startsWord before c = true → hasWord before = false → Adds before c (uppercaseOf c)
  | nextWord : startsWord before c = true → hasWord before = true →
      Adds before c (' ' :: uppercaseOf c)
  | goesOn : isSeparator c = false → startsWord before c = false → hasWord before = true →
      Adds before c [c]

theorem adds_spaced (before : List Char) (c : Char) : Adds before c (spaced before c) := by
  rcases words_append_singleton before c with
    ⟨separator, -⟩ | ⟨starts, -⟩ | ⟨letter, goesOn, front, word, -, old, -⟩
  · exact spaced_of_separator separator ▸ .separator separator
  · rw [spaced_of_startsWord starts]
    cases known : hasWord before with
    | false => exact .firstWord starts known
    | true => exact .nextWord starts known
  · rw [spaced_of_goesOn letter goesOn]
    exact .goesOn letter goesOn (hasWord_iff.2 (by simp [old]))

theorem isSeparator_of_mem_letters {u : Char} (mem : u ∈ letters before c) :
    isSeparator u = false := by
  unfold letters at mem
  split at mem
  · contradiction
  · next letter =>
    have letter : isSeparator c = false := by simpa using letter
    split at mem
    · exact (uppercaseOf_of_not_separator letter).2 u mem
    · exact List.mem_singleton.1 mem ▸ letter

theorem isSeparator_of_mem_spaced {u : Char} (mem : u ∈ spaced before c) :
    u = ' ' ∨ isSeparator u = false := by
  unfold spaced at mem
  split at mem
  · exact (List.mem_cons.1 mem).imp id isSeparator_of_mem_letters
  · exact .inr (isSeparator_of_mem_letters mem)

theorem filter_spaced (before : List Char) (c : Char) :
    (spaced before c).filter (· != ' ') = letters before c := by
  have kept : (letters before c).filter (· != ' ') = letters before c := by
    rw [List.filter_eq_self]
    intro u mem
    have letter := isSeparator_of_mem_letters mem
    simp only [isSeparator, Bool.or_eq_false_iff] at letter
    simp [bne, letter.2]
  unfold spaced
  split
  · simpa [List.filter_cons] using kept
  · exact kept

end Spaced

theorem intercalate_append_singleton {α : Type} (separator : List α) (words : List (List α))
    (word : List α) :
    separator.intercalate (words ++ [word]) =
      separator.intercalate words ++ (if words.isEmpty then [] else separator) ++ word := by
  induction words with
  | nil => simp
  | cons first words ih =>
    cases words with
    | nil => simp
    | cons second words =>
      rw [List.cons_append, List.cons_append, List.intercalate_cons_cons, ← List.cons_append, ih,
        List.intercalate_cons_cons]
      simp

theorem capitalize_append {word : List Char} (nonempty : word ≠ []) (c : Char) :
    capitalize (word ++ [c]) = capitalize word ++ [c] := by
  cases word with
  | nil => contradiction
  | cons first rest => simp [capitalize]

theorem labelChars_append_singleton (text : List Char) (c : Char) :
    labelChars (text ++ [c]) = labelChars text ++ spaced text c := by
  unfold labelChars
  rcases words_append_singleton text c with
    ⟨separator, same⟩ | ⟨starts, new⟩ | ⟨letter, goesOn, front, word, nonempty, old, longer⟩
  · rw [same, spaced_of_separator separator, List.append_nil]
  · rw [new, spaced_of_startsWord starts, List.map_append, List.map_singleton,
      intercalate_append_singleton]
    simp [hasWord_iff, capitalize]
  · rw [old, longer, spaced_of_goesOn letter goesOn]
    simp only [List.map_append, List.map_singleton, intercalate_append_singleton,
      capitalize_append nonempty, List.append_assoc]

theorem labelChars_eq_flatMap (text : List Char) :
    labelChars text = (prefixed text).flatMap fun (before, c) => spaced before c := by
  induction text using List.reverseRecOn with
  | nil => rfl
  | append_singleton text c ih =>
    rw [labelChars_append_singleton, ih, prefixed_append_singleton, List.flatMap_append,
      List.flatMap_singleton]

section Tidy
variable {text word : List Char}

theorem IsTidy.of_not_mem (spaceless : ' ' ∉ word) : IsTidy word where
  head h := spaceless (List.mem_of_head? h)
  last h := spaceless (List.mem_of_getLast? h)
  apart := by
    refine (List.pairwise_of_forall_mem_list fun c mem d _ both => ?_).isChain
    exact spaceless (both.1 ▸ mem)

theorem IsTidy.append (tidy : IsTidy text) (spaceless : ' ' ∉ word) : IsTidy (text ++ word) where
  head h := by
    rw [List.head?_append, Option.or_eq_some_iff] at h
    rcases h with first | ⟨-, first⟩
    · exact tidy.head first
    · exact spaceless (List.mem_of_head? first)
  last h := by
    rw [List.getLast?_append, Option.or_eq_some_iff] at h
    rcases h with last | ⟨-, last⟩
    · exact spaceless (List.mem_of_getLast? last)
    · exact tidy.last last
  apart := by
    refine List.isChain_append.2 ⟨tidy.apart, (IsTidy.of_not_mem spaceless).apart, ?_⟩
    intro c _ d first both
    exact spaceless (both.2 ▸ List.mem_of_head? first)

/-- Between a text and a word there may be one space. -/
theorem IsTidy.append_space (tidy : IsTidy text) (nonempty : text ≠ []) (nonempty' : word ≠ [])
    (spaceless : ' ' ∉ word) : IsTidy (text ++ ' ' :: word) where
  head := by
    rw [List.head?_append_of_ne_nil _ nonempty]
    exact tidy.head
  last := by
    rw [List.getLast?_append_of_ne_nil _ (by simp), List.getLast?_cons_of_ne_nil nonempty']
    exact (IsTidy.of_not_mem spaceless).last
  apart := by
    have behind := (IsTidy.of_not_mem spaceless).apart
    refine List.isChain_append.2 ⟨tidy.apart, List.isChain_cons.2 ⟨?_, behind⟩, ?_⟩
    · intro d first both
      exact spaceless (both.2 ▸ List.mem_of_head? first)
    · intro c last d _ both
      exact tidy.last (both.1 ▸ last)

theorem space_not_mem {u : List Char} (letters : ∀ c ∈ u, isSeparator c = false) : ' ' ∉ u :=
  fun mem => absurd (letters ' ' mem) (by decide)

/-- A label is tidy, and is not empty just if a word stands in the text. -/
theorem isTidy_labelChars (text : List Char) :
    IsTidy (labelChars text) ∧ (hasWord text = true ↔ labelChars text ≠ []) := by
  induction text using List.reverseRecOn with
  | nil => exact ⟨.of_not_mem (by decide), by decide⟩
  | append_singleton text c ih =>
    obtain ⟨tidy, word⟩ := ih
    rw [labelChars_append_singleton, hasWord_append_singleton]
    have adds := adds_spaced text c
    generalize spaced text c = added at adds
    cases adds with
    | separator separator =>
      rw [List.append_nil, startsWord, separator]
      simpa using ⟨tidy, word⟩
    | firstWord starts _ =>
      obtain ⟨nonempty, upper⟩ := uppercaseOf_of_not_separator (isSeparator_of_startsWord starts)
      exact ⟨tidy.append (space_not_mem upper), by simp [starts, nonempty]⟩
    | nextWord starts known =>
      obtain ⟨nonempty, upper⟩ := uppercaseOf_of_not_separator (isSeparator_of_startsWord starts)
      exact ⟨tidy.append_space (word.1 known) nonempty (space_not_mem upper), by simp [starts]⟩
    | goesOn letter _ known =>
      refine ⟨tidy.append ?_, by simp [known]⟩
      exact space_not_mem (List.forall_mem_singleton.2 letter)

end Tidy

section Again
variable {text : List Char} {c : Char}

theorem isSeparator_of_mem_labelChars {u : Char} (mem : u ∈ labelChars text) :
    u = ' ' ∨ isSeparator u = false := by
  rw [labelChars_eq_flatMap, List.mem_flatMap] at mem
  obtain ⟨_, -, mem⟩ := mem
  exact isSeparator_of_mem_spaced mem

/-- A label ends with a letter, so that behind it only an upper case starts a word. -/
theorem startsWord_labelChars (known : hasWord text = true) (c : Char) :
    startsWord (labelChars text) c = (!isSeparator c && isUppercase c) := by
  obtain ⟨tidy, word⟩ := isTidy_labelChars text
  obtain ⟨front, last, ends⟩ :=
    (List.eq_nil_or_concat' (labelChars text)).resolve_left (word.1 known)
  have mem : last ∈ labelChars text := by simp [ends]
  have letter : isSeparator last = false := by
    refine (isSeparator_of_mem_labelChars mem).resolve_left fun space => tidy.last ?_
    rw [ends, List.getLast?_concat, space]
  rw [ends, startsWord, List.getLast?_concat, Option.any_some, letter]
  cases front <;> simp

/-- A letter that is its own upper case and starts a word is added as it is. -/
theorem labelChars_append_capital {u : Char} (starts : startsWord text u = true)
    (same : uppercaseOf u = [u]) :
    labelChars (text ++ [u]) = labelChars text ++ (if hasWord text then [' '] else []) ++ [u] := by
  rw [labelChars_append_singleton, spaced_of_startsWord starts, same, List.append_assoc]

/-- Behind a space every such letter starts a word, and the space is kept. -/
theorem labelChars_append_space {u : Char} (known : hasWord text = true)
    (letter : isSeparator u = false) (same : uppercaseOf u = [u]) :
    labelChars (text ++ [' ', u]) = labelChars text ++ [' ', u] := by
  have space : isSeparator ' ' = true := rfl
  have starts : startsWord (text ++ [' ']) u = true := by simp [startsWord, letter, space]
  calc
    labelChars (text ++ [' ', u])
      = labelChars ((text ++ [' ']) ++ [u]) := by rw [List.append_assoc]; rfl
    _ = labelChars (text ++ [' ']) ++ [' '] ++ [u] := by
      rw [labelChars_append_capital starts same, hasWord_append_singleton, known, Bool.true_or,
        if_pos rfl]
    _ = labelChars text ++ [' ', u] := by
      rw [labelChars_append_singleton, spaced_of_separator space, List.append_nil,
        List.append_assoc]
      rfl

theorem labelChars_labelChars (simple : HasSimpleCapitals text) :
    labelChars (labelChars text) = labelChars text := by
  induction text using List.reverseRecOn with
  | nil => rfl
  | append_singleton text c ih =>
    have ih := ih fun before d mem => simple before d (by simp [prefixed_append_singleton, mem])
    have capital (starts : startsWord text c = true) :
        ∃ u, uppercaseOf c = [u] ∧ uppercaseOf u = [u] ∧ isSeparator u = false := by
      obtain ⟨u, upper, same⟩ := simple text c (by simp [prefixed_append_singleton]) starts
      have letters := (uppercaseOf_of_not_separator (isSeparator_of_startsWord starts)).2
      exact ⟨u, upper, same, letters u (by simp [upper])⟩
    have word := (isTidy_labelChars text).2
    rw [labelChars_append_singleton]
    have adds := adds_spaced text c
    generalize spaced text c = added at adds
    cases adds with
    | separator _ => rwa [List.append_nil]
    | firstWord starts known =>
      obtain ⟨u, upper, same, letter⟩ := capital starts
      have empty : labelChars text = [] := by simpa [known] using word
      have starts : startsWord [] u = true := by simp [startsWord, letter]
      rw [empty, upper]
      exact labelChars_append_capital starts same
    | nextWord starts known =>
      obtain ⟨u, upper, same, letter⟩ := capital starts
      have again : hasWord (labelChars text) = true := by
        rw [(isTidy_labelChars _).2, ih]
        exact word.1 known
      rw [upper, labelChars_append_space again letter same, ih]
    | goesOn letter goesOn known =>
      have lower : isUppercase c = false := by
        rw [startsWord, letter, Bool.not_false, Bool.true_and] at goesOn
        simp only [Bool.or_eq_false_iff] at goesOn
        exact goesOn.1.1
      have goesOn : startsWord (labelChars text) c = false := by
        rw [startsWord_labelChars known, lower, Bool.and_false]
      rw [labelChars_append_singleton, ih, spaced_of_goesOn letter goesOn]

end Again

theorem isLabel_labelChars (text : List Char) : IsLabel text (labelChars text) where
  no_underscore mem := by
    rcases isSeparator_of_mem_labelChars mem with space | letter
    · exact absurd space (by decide)
    · exact absurd letter (by decide)
  tidy := (isTidy_labelChars text).1
  filter_eq := by
    rw [labelChars_eq_flatMap, List.filter_flatMap]
    exact List.flatMap_congr fun _ _ => filter_spaced _ _
  eq_flatMap := labelChars_eq_flatMap text

/-- Labels are made by the rules, and to make a label of a label changes nothing if every character
that starts a word has one character as upper case, which is its own. -/
theorem isLabel_label (identifier : String) :
    IsLabel identifier.toList (label identifier).toList ∧
      (HasSimpleCapitals identifier.toList → label (label identifier) = label identifier) := by
  simp only [label, String.toList_ofList]
  refine ⟨isLabel_labelChars _, fun simple => ?_⟩
  rw [labelChars_labelChars simple]

theorem isLabel_familyName :
    HasSimpleCapitals "family__nameOf ID".toList ∧
      IsLabel "family__nameOf ID".toList "Family Name Of I D".toList ∧
      label "Family Name Of I D" = "Family Name Of I D" := by
  have simple : HasSimpleCapitals "family__nameOf ID".toList := by decide +kernel
  have made : label "family__nameOf ID" = "Family Name Of I D" := by decide +kernel
  obtain ⟨isLabel, again⟩ := isLabel_label "family__nameOf ID"
  have again := again simple
  rw [made] at isLabel again
  exact ⟨simple, isLabel, again⟩

/-- A ligature that starts a word becomes two capitals, which start two words the next time. -/
example : label "ﬁrst_name" = "FIrst Name" ∧ label "FIrst Name" = "F Irst Name" := by
  decide +kernel

end WalletQuery.Text
