import LineShell.Redirection
/-!
Which words ask for a redirection, and what the words of a line come to. Words that ask for none stay
as they are, up to the first that does.
-/

namespace LineShell

/-- Whether a word starts a redirection. -/
def RedirectionLike (word : String) : Prop :=
  word = "1>" ∨ word.toList.head? = some '>'
deriving Decidable

/-- A word that is an operator and nothing else, so that its target is the next word. -/
def StandsAlone (word : String) : Prop :=
  word = ">" ∨ word = "1>" ∨ word = ">>"
deriving Decidable

/-- Whether a word that starts a redirection has the output added to the file. -/
def Appends (word : String) : Prop :=
  ['>', '>'] <+: word.toList
deriving Decidable

theorem appends_append {target : String} : Appends (">>" ++ target) := by
  rw [Appends, String.toList_append]
  exact List.prefix_append _ _

theorem not_appends_append {target : String} (apart : target.toList.head? ≠ some '>') :
    ¬ Appends (">" ++ target) := by
  rw [Appends, String.toList_append]
  rintro ⟨behind, split⟩
  have second : target.toList = '>' :: behind := by simpa [eq_comm] using split
  exact apart (by rw [second]; rfl)

/-- A word that starts a redirection is an operator alone, or one with its target behind it. -/
theorem RedirectionLike.cases {word : String} (like : RedirectionLike word) :
    StandsAlone word ∨
      ∃ target, target ≠ "" ∧
        (word = ">>" ++ target ∨ word = ">" ++ target ∧ target.toList.head? ≠ some '>') := by
  by_cases alone : StandsAlone word
  · exact .inl alone
  refine .inr ?_
  have starts := like.resolve_left fun number => alone (.inr (.inl number))
  obtain ⟨rest, text⟩ := List.head?_eq_some_iff.mp starts
  have single : word = ">" ++ String.ofList rest := by
    simp [← String.toList_inj, text]
  by_cases second : rest.head? = some '>'
  · obtain ⟨behind, split⟩ := List.head?_eq_some_iff.mp second
    have double : word = ">>" ++ String.ofList behind := by
      simp [← String.toList_inj, text, split]
    refine ⟨String.ofList behind, ?_, .inl double⟩
    intro empty
    rw [empty] at double
    exact alone (.inr (.inr double))
  · refine ⟨String.ofList rest, ?_, .inr ⟨single, by simpa using second⟩⟩
    intro empty
    rw [empty] at single
    exact alone (.inl single)

namespace RedirectionOperator

theorem ofChars?_eq_none_iff (word : List Char) :
    ofChars? word = none ↔ ¬ (word = ['1', '>'] ∨ word.head? = some '>') := by
  unfold ofChars?
  split <;> simp_all [List.head?_eq_some_iff]

theorem ofWord?_eq_none_iff (word : String) : ofWord? word = none ↔ ¬ RedirectionLike word := by
  have same : word = "1>" ↔ word.toList = ['1', '>'] := by rw [← String.toList_inj]; rfl
  rw [ofWord?, ofChars?_eq_none_iff, RedirectionLike, same]

theorem ofWord?_append {target : String} (named : target ≠ "") :
    ofWord? (">>" ++ target) = some (.merged true target.toList) := by
  rw [ofWord?, String.toList_append]
  cases text : target.toList with
  | nil => exact absurd (String.toList_eq_nil_iff.mp text) named
  | cons c rest => rfl

theorem ofWord?_truncate {target : String} (named : target ≠ "")
    (apart : target.toList.head? ≠ some '>') :
    ofWord? (">" ++ target) = some (.merged false target.toList) := by
  rw [ofWord?, String.toList_append]
  cases text : target.toList with
  | nil => exact absurd (String.toList_eq_nil_iff.mp text) named
  | cons c rest =>
      have other : c ≠ '>' := by simpa [text] using apart
      simp [ofChars?, other]

theorem ofWord?_of_standsAlone {word : String} (alone : StandsAlone word) :
    ofWord? word = some (.standalone (Appends word)) := by
  rcases alone with rfl | rfl | rfl <;> rfl

end RedirectionOperator

namespace CommandLine

open RedirectionOperator

theorem ofWords_cons_of_none {word : String} (free : ¬ RedirectionLike word) (rest : List String) :
    ofWords (word :: rest) =
      (ofWords rest).map fun command => { command with argv := word :: command.argv } := by
  rw [ofWords, (ofWord?_eq_none_iff word).mpr free]
  cases ofWords rest <;> rfl

theorem ofWords_append {words : List String} (free : ∀ word ∈ words, ¬ RedirectionLike word)
    (rest : List String) :
    ofWords (words ++ rest) =
      (ofWords rest).map fun command => { command with argv := words ++ command.argv } := by
  induction words with
  | nil =>
      rw [List.nil_append]
      cases ofWords rest <;> rfl
  | cons word words ih =>
      rw [List.cons_append, ofWords_cons_of_none (free word (by simp)),
        ih fun word member => free word (by simp [member])]
      cases ofWords rest <;> rfl

/-- A word that starts a redirection is none of the command's, and nor is any behind it. -/
theorem ofWords_cons_of_like {word : String} (like : RedirectionLike word) (rest : List String) :
    (∃ missing, ofWords (word :: rest) = .error missing) ∨
      ∃ redirect, ofWords (word :: rest) = .ok ⟨[], some redirect⟩ := by
  cases operator : ofWord? word with
  | none => exact absurd like ((ofWord?_eq_none_iff word).mp operator)
  | some found =>
      rw [ofWords, operator]
      cases found with
      | merged append target => exact .inr ⟨_, rfl⟩
      | standalone append =>
          cases rest with
          | nil => exact .inl ⟨_, rfl⟩
          | cons target rest => exact .inr ⟨_, rfl⟩

theorem ofWords_extend {target : String} (named : target ≠ "") (rest : List String) :
    ofWords ((">>" ++ target) :: rest) = .ok ⟨[], some ⟨⟨target⟩, true⟩⟩ := by
  simp only [ofWords, ofWord?_append named, String.ofList_toList]

theorem ofWords_truncate {target : String} (named : target ≠ "")
    (apart : target.toList.head? ≠ some '>') (rest : List String) :
    ofWords ((">" ++ target) :: rest) = .ok ⟨[], some ⟨⟨target⟩, false⟩⟩ := by
  simp only [ofWords, ofWord?_truncate named apart, String.ofList_toList]

theorem free_or_split (words : List String) :
    (∀ word ∈ words, ¬ RedirectionLike word) ∨
      ∃ before word rest, words = before ++ word :: rest ∧
        (∀ word ∈ before, ¬ RedirectionLike word) ∧ RedirectionLike word := by
  cases first : words.find? (RedirectionLike ·) with
  | none => exact .inl (by simpa using first)
  | some word =>
      obtain ⟨like, before, rest, split, free⟩ := List.find?_eq_some_iff_append.mp first
      exact .inr ⟨before, word, rest, split, by simpa using free, by simpa using like⟩

theorem ofWords_eq_plain_iff (words argv : List String) :
    ofWords words = .ok ⟨argv, none⟩ ↔ argv = words ∧ ∀ word ∈ words, ¬ RedirectionLike word := by
  rcases free_or_split words with free | ⟨before, word, rest, rfl, free, like⟩
  · have whole : ofWords words = .ok ⟨words, none⟩ := by
      simpa [ofWords, Except.map] using ofWords_append free []
    rw [whole, and_iff_left free]
    simp [eq_comm]
  · refine ⟨fun plain => ?_, fun ⟨_, free⟩ => absurd like (free word (by simp))⟩
    rw [ofWords_append free] at plain
    obtain ⟨missing, found⟩ | ⟨redirect, found⟩ := ofWords_cons_of_like like rest <;>
      simp [found, Except.map] at plain

/-! ## By the first word that starts a redirection -/

section Operators

variable {before : List String} (free : ∀ word ∈ before, ¬ RedirectionLike word) {word : String}

include free

theorem ofWords_behind {rest : List String} {redirect : Redirection}
    (found : ofWords (word :: rest) = .ok ⟨[], some redirect⟩) :
    ofWords (before ++ word :: rest) = .ok ⟨before, some redirect⟩ := by
  rw [ofWords_append free, found, Except.map, List.append_nil]

theorem ofWords_target (alone : StandsAlone word) (target : String) (others : List String) :
    ofWords (before ++ word :: target :: others) =
      .ok ⟨before, some ⟨⟨target⟩, Appends word⟩⟩ := by
  apply ofWords_behind free
  simp only [ofWords, ofWord?_of_standsAlone alone]

theorem ofWords_missing (alone : StandsAlone word) :
    ofWords (before ++ [word]) = .error ⟨word⟩ := by
  rw [ofWords_append free]
  simp only [ofWords, ofWord?_of_standsAlone alone, Except.map]

theorem ofWords_glued (like : RedirectionLike word) (glued : ¬ StandsAlone word) :
    ∃ target, target ≠ "" ∧ word = (if Appends word then ">>" else ">") ++ target ∧
      ∀ others, ofWords (before ++ word :: others) =
        .ok ⟨before, some ⟨⟨target⟩, Appends word⟩⟩ := by
  obtain alone | ⟨target, named, rfl | ⟨rfl, apart⟩⟩ := like.cases
  · exact absurd alone glued
  · refine ⟨target, named, by rw [if_pos appends_append], fun others => ?_⟩
    rw [decide_eq_true appends_append]
    exact ofWords_behind free (ofWords_extend named others)
  · have truncates := not_appends_append apart
    refine ⟨target, named, by rw [if_neg truncates], fun others => ?_⟩
    rw [decide_eq_false truncates]
    exact ofWords_behind free (ofWords_truncate named apart others)

end Operators

theorem free_of_ofWords {words : List String} {command : CommandLine}
    (parted : ofWords words = .ok command) : ∀ word ∈ command.argv, ¬ RedirectionLike word := by
  rcases free_or_split words with free | ⟨before, word, rest, rfl, free, like⟩
  · have plain := (ofWords_eq_plain_iff words words).mpr ⟨rfl, free⟩
    rw [parted] at plain
    cases plain
    exact free
  · rw [ofWords_append free] at parted
    obtain ⟨missing, failed⟩ | ⟨redirect, found⟩ := ofWords_cons_of_like like rest
    · rw [failed] at parted
      contradiction
    · rw [found, Except.map, List.append_nil] at parted
      cases parted
      exact free

/-- Words are parted by the first of them that starts a redirection. Those before it are the command's; an
operator alone takes the next word for its target, whatever that is, and is an error where there is none;
any other such word has its target in itself, which is never empty. What stands behind the target does not
matter. No word of a command starts a redirection, and apart from that any command and any redirection
come of some words. -/
theorem ofWords_by_first_operator (words : List String) :
    ((∀ word ∈ words, ¬ RedirectionLike word) → ofWords words = .ok ⟨words, none⟩) ∧
    (∀ before word rest, words = before ++ word :: rest →
      (∀ earlier ∈ before, ¬ RedirectionLike earlier) → RedirectionLike word →
      (∀ missing, ofWords words = .error missing ↔
        missing = ⟨word⟩ ∧ StandsAlone word ∧ rest = []) ∧
      (∀ target others, StandsAlone word → rest = target :: others → ∀ unused,
        ofWords words = .ok ⟨before, some ⟨⟨target⟩, Appends word⟩⟩ ∧
          ofWords (before ++ word :: target :: unused) = ofWords words) ∧
      (¬ StandsAlone word →
        ∃ target, target ≠ "" ∧ word = (if Appends word then ">>" else ">") ++ target ∧
          ofWords words = .ok ⟨before, some ⟨⟨target⟩, Appends word⟩⟩ ∧
          ∀ unused, ofWords (before ++ word :: unused) = ofWords words)) ∧
    (∀ command, ofWords words = .ok command →
      (∀ word ∈ command.argv, ¬ RedirectionLike word) ∧
        ofWords command.argv = .ok ⟨command.argv, none⟩) ∧
    ∀ argv redirect, (∀ word ∈ argv, ¬ RedirectionLike word) →
      ∃ all, ofWords all = .ok ⟨argv, redirect⟩ := by
  have plain (argv : List String) (free : ∀ word ∈ argv, ¬ RedirectionLike word) :
      ofWords argv = .ok ⟨argv, none⟩ :=
    (ofWords_eq_plain_iff argv argv).mpr ⟨rfl, free⟩
  refine ⟨plain words, ?_, ?_, ?_⟩
  · rintro before word rest rfl free like
    refine ⟨fun missing => ⟨fun failed => ?_, ?_⟩, ?_, ?_⟩
    · by_cases alone : StandsAlone word
      · cases rest with
        | nil =>
            rw [ofWords_missing free alone] at failed
            cases failed
            exact ⟨rfl, alone, rfl⟩
        | cons target others =>
            rw [ofWords_target free alone] at failed
            contradiction
      · obtain ⟨target, -, -, found⟩ := ofWords_glued free like alone
        rw [found rest] at failed
        contradiction
    · rintro ⟨rfl, alone, rfl⟩
      exact ofWords_missing free alone
    · rintro target others alone rfl unused
      rw [ofWords_target free alone, ofWords_target free alone]
      exact ⟨rfl, rfl⟩
    · intro glued
      obtain ⟨target, named, spelled, found⟩ := ofWords_glued free like glued
      refine ⟨target, named, spelled, found rest, fun unused => ?_⟩
      rw [found unused, found rest]
  · intro command parted
    have free := free_of_ofWords parted
    exact ⟨free, plain command.argv free⟩
  · intro argv redirect free
    cases redirect with
    | none => exact ⟨argv, plain argv free⟩
    | some redirect =>
        obtain ⟨⟨target⟩, append⟩ := redirect
        cases append with
        | true => exact ⟨argv ++ [">>", target], ofWords_target free (.inr (.inr rfl)) target []⟩
        | false => exact ⟨argv ++ [">", target], ofWords_target free (.inl rfl) target []⟩

example : ofWords ["echo", "hi", ">", ">>", "log"] = .ok ⟨["echo", "hi"], some ⟨⟨">>"⟩, false⟩⟩ :=
  rfl

end CommandLine

end LineShell
