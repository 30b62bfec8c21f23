import LineShell.Proofs.Redirection
import LineShell.Proofs.Words.Rendering
import LineShell.Session.Run
/-!
What a session understands of lines whose words are in single quotes. Redirections are told from other
words only after the quotes are gone, so quotes do not hide them.
-/

namespace LineShell.Session

open Words

variable {Memory : Type} (session : Session Memory)

def commandOf (name : String) (arguments : List String) : Command :=
  { kind := Command.kindOf session.system session.environment name, name, arguments }

theorem understand_of_quotes {line : String} {words : List String}
    (front : line.toList.head? = some '\'') (back : line.toList.getLast? = some '\'')
    (read : ofLine line = words) :
    session.understand line =
      (CommandLine.ofWords words).map fun command =>
        (session.resolve command.argv, command.redirect) := by
  rw [understand, trimmed_of_quotes front back, read]
  cases CommandLine.ofWords words <;> rfl

theorem understand_quotedLine_iff {name : String} {arguments : List String}
    (visible : ∀ word ∈ name :: arguments, word ≠ "") :
    session.understand (quotedLine (name :: arguments)) =
        .ok (some (session.commandOf name arguments), none) ↔
      ∀ word ∈ name :: arguments, ¬ RedirectionLike word := by
  have front : (quotedLine (name :: arguments)).toList.head? = some '\'' := by
    simpa using quotedLine_front name arguments ""
  rw [session.understand_of_quotes front (quotedLine_back name arguments) (ofLine_quotedLine visible)]
  constructor
  · intro understood
    cases found : CommandLine.ofWords (name :: arguments) with
    | error missing => simp [found, Except.map] at understood
    | ok command =>
        obtain ⟨argv, redirect⟩ := command
        simp only [found, Except.map, Except.ok.injEq, Prod.mk.injEq] at understood
        obtain ⟨resolved, rfl⟩ := understood
        exact ((CommandLine.ofWords_eq_plain_iff _ _).mp found).2
  · intro free
    rw [(CommandLine.ofWords_eq_plain_iff _ _).mpr ⟨rfl, free⟩]
    rfl

section Redirected

variable {name : String} {arguments : List String}
  (visible : ∀ word ∈ name :: arguments, word ≠ "")
  (free : ∀ word ∈ name :: arguments, ¬ RedirectionLike word)

include visible free

theorem understand_behind (pieces : List (String × String)) (behind : pieces ≠ [])
    (rendered : ∀ piece ∈ pieces, Renders piece.1.toList piece.2.toList ∧ piece.2 ≠ "")
    {line : String}
    (written : line = quotedLine (name :: arguments) ++ " " ++ " ".intercalate (pieces.map (·.1)))
    (back : line.toList.getLast? = some '\'') :
    session.understand line =
      (CommandLine.ofWords (pieces.map (·.2))).map fun command =>
        (some (session.commandOf name (arguments ++ command.argv)), command.redirect) := by
  have front : line.toList.head? = some '\'' := by
    rw [written, String.append_assoc]
    exact quotedLine_front name arguments _
  have read : ofLine line = name :: arguments ++ pieces.map (·.2) := by
    rw [written]
    exact ofLine_quotedLine_append (List.cons_ne_nil name arguments) visible pieces behind rendered
  rw [session.understand_of_quotes front back read, CommandLine.ofWords_append free]
  cases CommandLine.ofWords (pieces.map (·.2)) <;> rfl

variable {target : String} (named : target ≠ "")

include named

theorem understand_operator {operator : String} (standalone : operator ∈ [">", "1>", ">>"]) :
    session.understand
        (quotedLine (name :: arguments) ++ " " ++ operator ++ " " ++ quoted target) =
      .ok (some (session.commandOf name arguments), some ⟨⟨target⟩, operator = ">>"⟩) := by
  have sign : (∀ c ∈ operator.toList, Plain c) ∧ operator ≠ "" ∧
      CommandLine.ofWords [operator, target] = .ok ⟨[], some ⟨⟨target⟩, operator = ">>"⟩⟩ := by
    simp only [List.mem_cons, List.not_mem_nil, or_false] at standalone
    rcases standalone with rfl | rfl | rfl <;> exact ⟨by simp [Plain], by decide, rfl⟩
  obtain ⟨plain, visible', taken⟩ := sign
  rw [session.understand_behind visible free [(operator, operator), (quoted target, target)] (by simp)
    (by simp [renders_self plain, visible', renders_quoted, named])
    (by simp [String.append_assoc]) (quoted_back _ target)]
  simp [taken, Except.map]

theorem understand_glued {signs : String} (plain : ∀ c ∈ signs.toList, Plain c) :
    session.understand (quotedLine (name :: arguments) ++ " " ++ (signs ++ quoted target)) =
      (CommandLine.ofWords [signs ++ target]).map fun command =>
        (some (session.commandOf name (arguments ++ command.argv)), command.redirect) := by
  have reads : Renders (signs ++ quoted target).toList (signs ++ target).toList := by
    rw [String.toList_append, String.toList_append]
    exact (renders_self plain).append (renders_quoted target)
  rw [session.understand_behind visible free [(signs ++ quoted target, signs ++ target)] (by simp)
    (by simpa [named] using reads) (by simp)]
  · rfl
  · rw [← String.append_assoc]
    exact quoted_back _ target

end Redirected

/-- Quoted words make up a command as they are, exactly if none of them starts a redirection; and then
a redirection written behind them is the only one. A single sign takes over a target that is glued to
it unless the target starts with a sign: that one makes the redirection add to what is left of the
target. -/
theorem understand_quoted (name : String) (arguments : List String)
    (visible : ∀ word ∈ name :: arguments, word ≠ "") :
    let line := quotedLine (name :: arguments)
    let command := session.commandOf name arguments
    let free := ∀ word ∈ name :: arguments, ¬ RedirectionLike word
    (session.understand line = .ok (some command, none) ↔ free) ∧
      (free → ∀ target, target ≠ "" →
        (∀ operator ∈ [">", "1>", ">>"],
          session.understand (line ++ " " ++ operator ++ " " ++ quoted target) =
            .ok (some command, some ⟨⟨target⟩, operator = ">>"⟩)) ∧
        session.understand (line ++ " " ++ (">>" ++ quoted target)) =
          .ok (some command, some ⟨⟨target⟩, true⟩) ∧
        (session.understand (line ++ " " ++ (">" ++ quoted target)) =
            .ok (some command, some ⟨⟨target⟩, false⟩) ↔ target.toList.head? ≠ some '>') ∧
        (∀ rest, rest ≠ "" → target = ">" ++ rest →
          session.understand (line ++ " " ++ (">" ++ quoted target)) =
            .ok (some command, some ⟨⟨rest⟩, true⟩)) ∧
        (target = ">" →
          session.understand (line ++ " " ++ (">" ++ quoted target)) = .error ⟨">>"⟩)) := by
  intro line command free
  refine ⟨session.understand_quotedLine_iff visible, ?_⟩
  intro free target named
  have glued {signs : String} (plain : ∀ c ∈ signs.toList, Plain c) :=
    session.understand_glued visible free named plain
  have extended : ∀ rest, rest ≠ "" → target = ">" ++ rest →
      session.understand (line ++ " " ++ (">" ++ quoted target)) =
        .ok (some command, some ⟨⟨rest⟩, true⟩) := by
    intro rest left starts
    have signs : ">" ++ target = ">>" ++ rest := by rw [starts, ← String.append_assoc]; rfl
    rw [glued (by simp [Plain]), signs, CommandLine.ofWords_extend left]
    simp [Except.map, command]
  have missing : target = ">" →
      session.understand (line ++ " " ++ (">" ++ quoted target)) = .error ⟨">>"⟩ := by
    rintro rfl
    rw [glued (by simp [Plain])]
    rfl
  refine ⟨fun operator standalone => session.understand_operator visible free named standalone,
    ?_, ⟨?_, ?_⟩, extended, missing⟩
  · rw [glued (by simp [Plain]), CommandLine.ofWords_extend named]
    simp [Except.map, command]
  · intro understood sign
    obtain ⟨rest, text⟩ := List.head?_eq_some_iff.mp sign
    have starts : target = ">" ++ String.ofList rest := by
      rw [← String.toList_inj, text]
      simp
    by_cases left : String.ofList rest = ""
    · simp [missing (by rw [starts, left]; rfl)] at understood
    · simp [extended _ left starts] at understood
  · intro apart
    rw [glued (by simp [Plain]), CommandLine.ofWords_truncate named apart]
    simp [Except.map, command]

theorem understand_quoted_echo :
    let session : Session Unit :=
      { environment := { «variables» := [], currentDir := ⟨"/"⟩ }
        world := { memory := (), system := {} } }
    (∀ word ∈ ["echo", "it's"], word ≠ "") ∧
      session.understand "'echo' 'it'\\''s' >'>log'" =
        .ok (some { kind := .builtin .echo, name := "echo", arguments := ["it's"] },
          some { target := ⟨"log"⟩, append := true }) := by
  intro session
  obtain ⟨_, redirected⟩ := session.understand_quoted "echo" ["it's"] (by decide)
  obtain ⟨_, _, _, extended, _⟩ := redirected (by decide) ">log" (by decide)
  exact ⟨by decide, extended "log" (by decide) rfl⟩

end LineShell.Session
