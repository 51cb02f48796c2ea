import FormulaPlot.Proofs.Equation.Respelling
import FormulaPlot.Proofs.Equation.Sides

/-!
Calls of `ln` that are glued to a word. They are no words of their own, so that the normal form
keeps them, and a text with one of them is not accepted: no known name ends in `ln`.
-/

namespace FormulaPlot.Equation

open FormulaPlot.Scanning FormulaPlot.Text

set_option autoImplicit false

/-- A call of `ln` that is glued to a word, so that it is no word of its own. -/
def HidesLn (characters : List Char) : Prop :=
  ∃ last, isWordCharacter last = true ∧ [last, 'l', 'n', '('] <:+: characters

/-- Characters from one outside a class on are not dropped with it. -/
theorem infix_drop_while {class_ : Char → Bool} {first : Char} {others characters : List Char}
    (stays : class_ first = false) (inside : first :: others <:+: characters) :
    first :: others <:+: characters.dropWhile class_ := by
  induction characters with
  | nil => exact inside
  | cons character rest induction =>
      cases dropped : class_ character with
      | false =>
          rw [List.dropWhile_cons_of_neg (by simp [dropped])]
          exact inside
      | true =>
          rw [List.dropWhile_cons_of_pos dropped]
          rcases List.infix_cons_iff.mp inside with here | behind
          · rw [(List.cons_prefix_cons.mp here).1, dropped] at stays
            contradiction
          · exact induction behind

theorem infix_behind_character {character first : Char} {others rest : List Char}
    (apart : first ≠ character) (inside : first :: others <:+: character :: rest) :
    first :: others <:+: rest := by
  rcases List.infix_cons_iff.mp inside with here | behind
  · exact absurd (List.cons_prefix_cons.mp here).1 apart
  · exact behind

theorem word_not_blank {character : Char} (word : isWordCharacter character = true) :
    isBlank character = false := by
  cases blank : isBlank character with
  | false => rfl
  | true =>
      rw [blank_not_word blank] at word
      contradiction

/-- What stands behind a call of `ln` that is replaced hides the glued one. -/
theorem infix_behind_ln {last : Char} (isWord : isWordCharacter last = true)
    {characters behind : List Char} (found : behindLn? characters = some behind)
    (inside : [last, 'l', 'n', '('] <:+: characters) : [last, 'l', 'n', '('] <:+: behind := by
  have noParenthesis : last ≠ '(' := by
    rintro rfl
    exact absurd isWord (by decide)
  unfold behindLn? at found
  split at found
  · next rest =>
      have behindL : [last, 'l', 'n', '('] <:+: 'n' :: rest := by
        rcases List.infix_cons_iff.mp inside with here | behind
        · simp at here
        · exact behind
      have behindN : [last, 'l', 'n', '('] <:+: rest := by
        rcases List.infix_cons_iff.mp behindL with here | behind
        · obtain ⟨_, others, shape⟩ := List.cons_prefix_cons.mp here
          rw [← shape] at found
          contradiction
        · exact behind
      have opened := infix_drop_while (word_not_blank isWord) behindN
      split at found
      · next shape =>
          injection found with same
          rw [shape, same] at opened
          exact infix_behind_character noParenthesis opened
      · contradiction
  · contradiction

/-- A kept character starts a glued call in the new text when it did in the old one. -/
theorem infix_ln_as_log_cons {last : Char} (isWord : isWordCharacter last = true)
    {character : Char} {rest : List Char}
    (induction : [last, 'l', 'n', '('] <:+: rest →
      [last, 'l', 'n', '('] <:+: lnAsLog (isWordCharacter character) rest)
    (hidden : [last, 'l', 'n', '('] <:+: character :: rest) :
    [last, 'l', 'n', '('] <:+: character :: lnAsLog (isWordCharacter character) rest := by
  rcases List.infix_cons_iff.mp hidden with here | behind
  · obtain ⟨rfl, others, rfl⟩ := List.cons_prefix_cons.mp here
    have letters : ['l', 'n'].all isWordCharacter = true := by decide
    have word : lnAsLog true (['l', 'n', '('] ++ others) =
        ['l', 'n'] ++ lnAsLog true ('(' :: others) :=
      ln_as_log_word (List.all_eq_true.mp letters) ('(' :: others)
    rw [isWord, word, ln_as_log_cons (.inl rfl)]
    exact (List.prefix_append _ _).isInfix
  · exact List.infix_cons (induction behind)

theorem infix_ln_as_log {last : Char} (isWord : isWordCharacter last = true) (inside : Bool)
    {characters : List Char} (hidden : [last, 'l', 'n', '('] <:+: characters) :
    [last, 'l', 'n', '('] <:+: lnAsLog inside characters := by
  fun_induction lnAsLog inside characters with
  | case1 => exact hidden
  | case2 character rest induction => exact infix_ln_as_log_cons isWord induction hidden
  | case3 _ character rest _ behind found induction =>
      have further := induction (infix_behind_ln isWord found hidden)
      exact further.trans (List.suffix_append _ _).isInfix
  | case4 _ character rest _ _ induction => exact infix_ln_as_log_cons isWord induction hidden

theorem infix_powers {last : Char} (isWord : isWordCharacter last = true) {characters : List Char}
    (hidden : [last, 'l', 'n', '('] <:+: characters) :
    [last, 'l', 'n', '('] <:+: powersAsCarets characters := by
  obtain ⟨first, behind, rfl⟩ := hidden
  have noStar : last ≠ '*' := by
    rintro rfl
    exact absurd isWord (by decide)
  have call : powersAsCarets (['l', 'n', '('] ++ behind) =
      ['l', 'n', '('] ++ powersAsCarets behind := powers_as_carets_append (by decide) behind
  have around := powers_as_carets_around noStar first (['l', 'n', '('] ++ behind)
  rw [call] at around
  have shape : first ++ [last, 'l', 'n', '('] ++ behind =
      first ++ last :: (['l', 'n', '('] ++ behind) := by simp
  rw [shape, around]
  exact ⟨powersAsCarets first, powersAsCarets behind, by simp⟩

namespace HidesLn

variable {characters : List Char}

theorem of_infix {others : List Char} (hides : HidesLn others) (inside : others <:+: characters) :
    HidesLn characters := by
  obtain ⟨last, isWord, hidden⟩ := hides
  exact ⟨last, isWord, hidden.trans inside⟩

theorem strip (hides : HidesLn characters) : HidesLn (Text.strip characters) := by
  obtain ⟨last, isWord, hidden⟩ := hides
  refine ⟨last, isWord, ?_⟩
  have started := infix_drop_while (word_not_blank isWord) hidden
  have backwards := List.reverse_infix.mpr started
  have stays : isBlank '(' = false := by decide
  have ended := List.reverse_infix.mpr (infix_drop_while stays backwards)
  rw [strip_eq_trimmed]
  exact ended

theorem normalize {raw : String} (hides : HidesLn raw.toList) :
    HidesLn (Equation.normalize raw).toList := by
  obtain ⟨last, isWord, hidden⟩ := hides.strip
  unfold Equation.normalize
  rw [String.toList_ofList]
  exact ⟨last, isWord, infix_ln_as_log isWord false (infix_powers isWord hidden)⟩

end HidesLn

theorem part_of_prefix {piece characters : List Char} (noEquals : '=' ∉ piece)
    (starts : piece <+: characters) :
    ∃ part parts, splitAtEquals characters = part :: parts ∧ piece <+: part := by
  induction piece generalizing characters with
  | nil =>
      cases split : splitAtEquals characters with
      | nil =>
          cases characters with
          | nil => contradiction
          | cons character rest =>
              rw [splitAtEquals] at split
              split at split
              · contradiction
              · split at split <;> contradiction
      | cons part parts => exact ⟨part, parts, rfl, List.nil_prefix⟩
  | cons character piece induction =>
      rw [List.mem_cons, not_or] at noEquals
      cases characters with
      | nil => simp at starts
      | cons next rest =>
          obtain ⟨rfl, behind⟩ := List.cons_prefix_cons.mp starts
          obtain ⟨part, parts, split, begins⟩ := induction noEquals.2 behind
          rw [splitAtEquals, if_neg (Ne.symm noEquals.1), split]
          exact ⟨character :: part, parts, rfl, List.cons_prefix_cons.mpr ⟨rfl, begins⟩⟩

/-- A piece without equals signs lies in one part. -/
theorem part_of_infix {piece : List Char} (present : piece ≠ []) (noEquals : '=' ∉ piece)
    {characters : List Char} (inside : piece <:+: characters) :
    ∃ part ∈ splitAtEquals characters, piece <:+: part := by
  induction characters with
  | nil => exact absurd (List.infix_nil.mp inside) present
  | cons character rest induction =>
      rcases List.infix_cons_iff.mp inside with here | behind
      · obtain ⟨part, parts, split, begins⟩ := part_of_prefix noEquals here
        rw [split]
        exact ⟨part, List.mem_cons_self, begins.isInfix⟩
      · obtain ⟨part, member, within⟩ := induction behind
        rw [splitAtEquals]
        split
        · exact ⟨part, List.mem_cons_of_mem _ member, within⟩
        · split
          · next none =>
              rw [none] at member
              contradiction
          · next first parts split =>
              rw [split] at member
              rcases List.mem_cons.mp member with rfl | later
              · exact ⟨character :: part, List.mem_cons_self, List.infix_cons within⟩
              · exact ⟨part, List.mem_cons_of_mem _ later, within⟩

theorem HidesLn.part {characters : List Char} (hides : HidesLn characters) :
    ∃ part ∈ splitAtEquals characters, HidesLn part := by
  obtain ⟨last, isWord, hidden⟩ := hides
  have noEquals : '=' ∉ [last, 'l', 'n', '('] := by
    intro member
    rcases List.mem_cons.mp member with rfl | letters
    · exact absurd isWord (by decide)
    · exact absurd letters (by decide)
  obtain ⟨part, member, within⟩ := part_of_infix (by simp) noEquals hidden
  exact ⟨part, member, last, isWord, within⟩

/-! Names that end in `ln` -/

/-- A call of `ln` in a word and what follows it is the end of the word, or follows it. -/
theorem call_at_word_end {words behind : List Char}
    (isWord : ∀ part ∈ words, isWordCharacter part = true)
    (stops : Leads (fun next => !isWordCharacter next) behind)
    (inside : ['l', 'n', '('] <:+: words ++ behind) :
    ['l', 'n'] <:+ words ∨ ['l', 'n', '('] <:+: behind := by
  induction words with
  | nil => exact .inr inside
  | cons character rest induction =>
      have restWord := (List.forall_mem_cons.mp isWord).2
      rw [List.cons_append] at inside
      rcases List.infix_cons_iff.mp inside with here | later
      · obtain ⟨rfl, behindL⟩ := List.cons_prefix_cons.mp here
        cases rest with
        | nil =>
            obtain ⟨others, rfl⟩ := behindL
            have noWord : isWordCharacter 'n' = false := by simpa [Leads] using stops
            exact absurd noWord (by decide)
        | cons letter rest =>
            rw [List.cons_append] at behindL
            obtain ⟨rfl, behindN⟩ := List.cons_prefix_cons.mp behindL
            cases rest with
            | nil => exact .inl (List.suffix_refl _)
            | cons next rest =>
                obtain ⟨rfl, _⟩ := List.cons_prefix_cons.mp behindN
                have noWord := isWord '(' (by simp)
                exact absurd noWord (by decide)
      · rcases induction restWord later with ends | after
        · exact .inl (ends.trans (List.suffix_cons _ _))
        · exact .inr after

theorem infix_behind_others {first : Char} {others start behind : List Char}
    (apart : first ∉ start) (inside : first :: others <:+: start ++ behind) :
    first :: others <:+: behind := by
  induction start with
  | nil => exact inside
  | cons character rest induction =>
      rw [List.mem_cons, not_or] at apart
      exact induction apart.2 (infix_behind_character apart.1 inside)

theorem leads_drop_while (class_ : Char → Bool) (characters : List Char) :
    Leads (fun next => !class_ next) (characters.dropWhile class_) := by
  have stops := List.head?_dropWhile_not class_ characters
  cases shape : characters.dropWhile class_ with
  | nil => trivial
  | cons next rest =>
      rw [shape] at stops
      simpa [Leads] using stops

/-- A name is as many characters of words as there are. -/
theorem word_of_front {character : Char} {rest : List Char} {more : Nat}
    (found : front character rest = .lexeme .identifier more) :
    (∀ part ∈ character :: rest.take more, isWordCharacter part = true) ∧
      Leads (fun next => !isWordCharacter next) (rest.drop more) := by
  rcases front_cases found with
    ⟨number, _⟩ | ⟨_, starts, size⟩ | ⟨_, _, _, pair, _⟩ | ⟨single, _⟩
  · contradiction
  · have dropped : rest.drop more = rest.dropWhile isWordCharacter := by
      calc rest.drop more
          = (rest.takeWhile isWordCharacter ++ rest.dropWhile isWordCharacter).drop
              (rest.takeWhile isWordCharacter).length := by
            rw [List.takeWhile_append_dropWhile, size]
        _ = rest.dropWhile isWordCharacter := List.drop_left
    rw [dropped, size, take_while_length]
    exact ⟨List.forall_mem_cons.mpr ⟨word_of_name starts, List.all_eq_true.mp List.all_takeWhile⟩,
      leads_drop_while isWordCharacter rest⟩
  · exact absurd pair (by unfold TokenKind.ofPair?; split <;> simp)
  · exact absurd single (by unfold TokenKind.ofCharacter?; split <;> simp)

/-- Where `ln` is called a lexeme is a name that ends in it. -/
theorem name_of_hidden {depth : Nat} {characters : List Char} {senses : List Sense}
    (lexed : Lexed depth characters senses) (inside : ['l', 'n', '('] <:+: characters) :
    ∃ name, (.identifier, name) ∈ senses ∧ ['l', 'n'] <:+ name.toList := by
  induction lexed with
  | nothing => exact absurd (List.infix_nil.mp inside) (by simp)
  | @gap depth character rest senses blank lexed induction =>
      have noL : 'l' ≠ character := by
        rintro rfl
        exact absurd blank (by decide)
      exact induction (infix_behind_character noL inside)
  | folded deep lexed induction => exact induction (infix_behind_character (by decide) inside)
  | newline lexed induction =>
      obtain ⟨name, member, ends⟩ := induction (infix_behind_character (by decide) inside)
      exact ⟨name, List.mem_cons_of_mem _ member, ends⟩
  | @lexeme depth character rest kind more senses noGap noNewline found lexed induction =>
      have later : ['l', 'n', '('] <:+: rest.drop more →
          ∃ name, (.identifier, name) ∈
            senseOf kind (String.ofList (character :: rest.take more)) :: senses ∧
              ['l', 'n'] <:+ name.toList := by
        intro behind
        obtain ⟨name, member, ends⟩ := induction behind
        exact ⟨name, List.mem_cons_of_mem _ member, ends⟩
      have parted : character :: rest = (character :: rest.take more) ++ rest.drop more := by simp
      rw [parted] at inside
      by_cases isName : kind = .identifier
      · subst isName
        obtain ⟨isWord, stops⟩ := word_of_front found
        rcases call_at_word_end isWord stops inside with ends | behind
        · exact ⟨_, List.mem_cons_self, by rwa [String.toList_ofList]⟩
        · exact later behind
      · exact later (infix_behind_others (no_l_in_lexeme found isName) inside)

/-- No known name ends in `ln`. -/
theorem not_in_vocabulary {name : String} (ends : ['l', 'n'] <:+ name.toList) :
    name ∉ Formula.vocabulary := by
  have noName : ∀ known ∈ Formula.vocabulary, ¬['l', 'n'] <:+ known.toList := by decide
  exact fun member => noName name member ends

theorem not_read_of_hidden {mode : Mode} {text : String} (hides : HidesLn text.toList)
    (made : Evaluator Span) : evaluator mode text ≠ .ok made := by
  intro accepted
  obtain ⟨formula, spelled, safe, _⟩ := (evaluator_eq_ok_iff _ _ _).mp accepted
  obtain ⟨tokens, lexed, derived, _⟩ := Formula.tokens_of_read spelled
  obtain ⟨last, _, hidden⟩ := hides
  have call : ['l', 'n', '('] <:+: text.toList :=
    (List.suffix_cons last ['l', 'n', '(']).isInfix.trans hidden
  obtain ⟨name, member, ends⟩ := name_of_hidden lexed call
  rw [← mem_identifiers_iff, derived.names] at member
  exact not_in_vocabulary ends (names_known safe name member)

theorem hidden_in_source {raw text : String} (hides : HidesLn raw.toList)
    (source : Source raw text) : HidesLn text.toList := by
  have normal := hides.normalize
  have letter : ∀ {side : List Char}, strip side = ['y'] → ¬HidesLn (strip side) := by
    rintro side same ⟨last, _, hidden⟩
    rw [same] at hidden
    have bound := hidden.length_le
    simp at bound
  have sides : ∀ {left right : List Char},
      splitAtEquals (normalize raw).toList = [left, right] →
        HidesLn (strip left) ∨ HidesLn (strip right) := by
    intro left right parts
    obtain ⟨part, member, hidden⟩ := normal.part
    rw [parts] at member
    simp only [List.mem_cons, List.not_mem_nil, or_false] at member
    rcases member with rfl | rfl
    · exact .inl hidden.strip
    · exact .inr hidden.strip
  cases source with
  | whole => exact normal
  | behindY parts isY =>
      rw [String.toList_ofList]
      exact (sides parts).resolve_left (letter isY)
  | beforeY parts isY =>
      rw [String.toList_ofList]
      exact (sides parts).resolve_right (letter isY)
  | @sides left right parts =>
      rcases sides parts with first | second
      · exact first.of_infix ⟨"(".toList, ") - (".toList ++ strip right ++ ")".toList,
          by simp [difference, String.toList_append]⟩
      · exact second.of_infix ⟨"(".toList ++ strip left ++ ") - (".toList, ")".toList,
          by simp [difference, String.toList_append]⟩

/-- A text with a glued call of `ln` is not accepted. -/
theorem not_ready_of_hidden {raw : String} (hides : HidesLn raw.toList) :
    (prepare raw).isReady = false ∧ (prepareSurface raw).isReady = false := by
  simp only [← Bool.not_eq_true]
  constructor
  · intro isReady
    obtain ⟨whole, outcome⟩ := ready_of_is_ready isReady
    obtain ⟨mode, text, source, made⟩ := source_of_ready outcome
    exact not_read_of_hidden (hidden_in_source hides source) whole made
  · intro isReady
    obtain ⟨whole, outcome⟩ := ready_of_is_ready isReady
    exact not_read_of_hidden hides.normalize whole (surface_of_ready outcome)

end FormulaPlot.Equation
