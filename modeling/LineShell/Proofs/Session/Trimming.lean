import LineShell.Host.Scripted
import LineShell.Proofs.Words.Trimming
import LineShell.Session.Run
/-!
What a session makes of a line as it was typed. It trims the line before it cuts it into words, and acts
on the words of the typed line just where no space at the end of the line stands in something open.
-/

namespace LineShell

open Words

variable {Memory : Type} (host : Host Memory)

namespace Session

/-- Does what a line with these words asks for. -/
def obey (words : List String) (session : Session Memory) (sink : Sink) : Turn Memory :=
  match CommandLine.ofWords words with
  | .error missing =>
      let outcome :=
        { status := Outcome.syntaxErrorStatus
          diagnostic := some (.missingOutputFile missing.operator) }
      ⟨.ok outcome, session, sink⟩
  | .ok command =>
      match session.resolve command.argv with
      | none => ⟨.ok .success, session, sink⟩
      | some resolved => session.dispatch host resolved command.redirect sink

theorem executeLine_eq_obey (line : String) (session : Session Memory) (sink : Sink) :
    session.executeLine host line sink = session.obey host (ofLine (trimmed line)) sink := by
  unfold executeLine understand obey
  cases CommandLine.ofWords (ofLine (trimmed line)) with
  | error missing => rfl
  | ok command =>
      simp only
      cases session.resolve command.argv <;> rfl

end Session

/-- What a turn leaves behind when its output goes to the shell's own streams. -/
def Turn.settled (turn : Turn Memory) : Except IoError Outcome × Session Memory :=
  let session := turn.session.withSystem (turn.session.system.writeStdout turn.sink.accepted)
  match turn.result with
  | .error cause => (.error cause, session)
  | .ok outcome => (.ok outcome, session.complain outcome.diagnostic)

namespace Session

theorem enterLine_eq_settled (line : String) (session : Session Memory) (stdout : Sink) :
    session.enterLine host line stdout =
      ((session.remember line).executeLine host line stdout).settled := by
  unfold enterLine Turn.settled
  cases (session.remember line).executeLine host line stdout with
  | mk result after sink => cases result <;> rfl

end Session

namespace Words

theorem map_visible (text : List Char) :
    ([text].filter (· ≠ [])).map String.ofList = [String.ofList text].filter (· ≠ "") := by
  by_cases empty : text = []
  · rw [empty]
    rfl
  · have visible : String.ofList text ≠ "" := by simpa using empty
    simp [empty, visible]

theorem ofLine_trimmed {line : String} (spaced : SpacesAtEnds line.toList) :
    ∃ words word count, (count = 0 ↔ EndsFreely line.toList) ∧
      ofLine line = words ++ [word ++ String.ofList (List.replicate count ' ')].filter (· ≠ "") ∧
      ofLine (trimmed line) = words ++ [word].filter (· ≠ "") := by
  obtain ⟨words, word, count, free, typed, kept⟩ := ofChars_trim spaced
  refine ⟨words.map String.ofList, String.ofList word, count, free, ?_, ?_⟩
  · rw [ofLine, typed, List.map_append, map_visible, String.ofList_append]
  · rw [ofLine, trimmed, String.toList_ofList, kept, List.map_append, map_visible]

theorem spaced_ne_visible {count : Nat} (some : 0 < count) (word : String) :
    [word].filter (· ≠ "") ≠ [word ++ String.ofList (List.replicate count ' ')] := by
  intro same
  have listed : word ++ String.ofList (List.replicate count ' ') ∈ [word].filter (· ≠ "") := by
    rw [same]
    exact List.mem_singleton.mpr rfl
  have longer := List.mem_singleton.mp (List.mem_filter.mp listed).1
  have lengths := congrArg String.length longer
  simp only [String.length_append, String.length_ofList, List.length_replicate] at lengths
  omega

end Words

namespace Session

/-- A line with no other white space at its ends than spaces keeps its words when it is trimmed, just
where no space at its end stands in something open; a session then acts on the words of the line as it
was typed. Elsewhere the last word of the line loses the spaces at its end and all else stays. -/
theorem trimming_keeps_iff (line : String) (spaced : SpacesAtEnds line.toList) :
    (ofLine (trimmed line) = ofLine line ↔ EndsFreely line.toList) ∧
      (EndsFreely line.toList →
        ∀ {Memory : Type} (host : Host Memory) (session : Session Memory) (sink : Sink),
          session.executeLine host line sink = session.obey host (ofLine line) sink ∧
          session.enterLine host line sink =
            ((session.remember line).obey host (ofLine line) sink).settled) ∧
      (¬ EndsFreely line.toList → ∃ words word count, 0 < count ∧
        ofLine line = words ++ [word ++ String.ofList (List.replicate count ' ')] ∧
        ofLine (trimmed line) = words ++ [word].filter (· ≠ "")) := by
  obtain ⟨words, word, count, free, typed, kept⟩ := ofLine_trimmed spaced
  have same_of_free (ends : EndsFreely line.toList) : ofLine (trimmed line) = ofLine line := by
    rw [typed, kept, free.mpr ends, List.replicate_zero]
    simp
  have longer (bound : ¬ EndsFreely line.toList) :
      0 < count ∧ ofLine line = words ++ [word ++ String.ofList (List.replicate count ' ')] := by
    have some : 0 < count := Nat.pos_of_ne_zero fun none => bound (free.mp none)
    have visible : word ++ String.ofList (List.replicate count ' ') ≠ "" := by
      simp [Nat.ne_of_gt some]
    rw [typed]
    simp [visible, some]
  refine ⟨⟨?_, same_of_free⟩, ?_, ?_⟩
  · intro same
    apply Decidable.byContradiction
    intro bound
    obtain ⟨some, typed⟩ := longer bound
    rw [typed, kept] at same
    exact spaced_ne_visible some word (List.append_cancel_left same)
  · intro ends Memory host session sink
    have same := same_of_free ends
    refine ⟨?_, ?_⟩
    · rw [executeLine_eq_obey, same]
    · rw [enterLine_eq_settled, executeLine_eq_obey, same]
  · intro bound
    obtain ⟨some, typed⟩ := longer bound
    exact ⟨words, word, count, some, typed, kept⟩

theorem trimming_keeps_iff_quoted :
    let session : Session Unit :=
      { environment := { «variables» := [], currentDir := ⟨"/"⟩ }
        world := { memory := (), system := {} } }
    SpacesAtEnds "  echo 'a ' b\\\\  ".toList ∧ EndsFreely "  echo 'a ' b\\\\  ".toList ∧
      ofLine (trimmed "  echo 'a ' b\\\\  ") = ["echo", "a ", "b\\"] ∧
      session.enterLine (Host.scripted {}) "  echo 'a ' b\\\\  " {} =
        ((session.remember "  echo 'a ' b\\\\  ").obey (Host.scripted {})
          ["echo", "a ", "b\\"] {}).settled ∧
      SpacesAtEnds "echo \"a  ".toList ∧ ¬ EndsFreely "echo \"a  ".toList ∧
      ∃ words word count, 0 < count ∧
        ofLine "echo \"a  " = words ++ [word ++ String.ofList (List.replicate count ' ')] ∧
        ofLine (trimmed "echo \"a  ") = words ++ [word].filter (· ≠ "") := by
  intro session
  have spaced : SpacesAtEnds "  echo 'a ' b\\\\  ".toList := by decide
  have free : EndsFreely "  echo 'a ' b\\\\  ".toList := by decide
  have typed : ofLine "  echo 'a ' b\\\\  " = ["echo", "a ", "b\\"] := rfl
  obtain ⟨same, acts, -⟩ := trimming_keeps_iff "  echo 'a ' b\\\\  " spaced
  have quoted : SpacesAtEnds "echo \"a  ".toList := by decide
  have bound : ¬ EndsFreely "echo \"a  ".toList := by decide
  obtain ⟨-, -, loses⟩ := trimming_keeps_iff "echo \"a  " quoted
  refine ⟨spaced, free, (same.mpr free).trans typed, ?_, quoted, bound, loses bound⟩
  rw [(acts free (Host.scripted {}) session {}).2, typed]

/-- A space that a backslash keeps is trimmed all the same. -/
theorem trimming_takes_escaped_space :
    let session : Session Unit :=
      { environment := { «variables» := [], currentDir := ⟨"/"⟩ }
        world := { memory := (), system := {} } }
    SpacesAtEnds "echo a\\ ".toList ∧
      ofLine "echo a\\ " = ["echo", "a "] ∧ ofLine (trimmed "echo a\\ ") = ["echo", "a"] ∧
      ofLine (trimmed "echo a\\ ") ≠ ofLine "echo a\\ " ∧
      (session.executeLine (Host.scripted {}) "echo a\\ " {}).sink.accepted = utf8 "a\n" := by
  intro session
  exact ⟨by decide, rfl, rfl, by decide, by rfl⟩

end Session

end LineShell
