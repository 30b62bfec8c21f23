import LineShell.IoError
import LineShell.Text.Utf8
/-!
Where a command's output goes: a taker of bytes that may fill up, and whose flushes may fail.
-/

namespace LineShell

structure Sink where
  accepted : Bytes := []
  /-- The bytes it still takes, if it takes only so many. -/
  room : Option Nat := none
  writeError : IoError := .system .noSpace
  flushError : Option IoError := none
deriving DecidableEq, Repr

namespace Sink

variable (sink : Sink) (bytes : Bytes)

/-- Takes bytes, as many as fit; writing none always succeeds. -/
def write : Except IoError Unit × Sink :=
  match sink.room with
  | none => (.ok (), { sink with accepted := sink.accepted ++ bytes })
  | some room =>
      (if bytes.length ≤ room then .ok () else .error sink.writeError,
        { sink with accepted := sink.accepted ++ bytes.take room, room := some (room - bytes.length) })

/-- Writes pieces one after another, up to the first that does not fit. -/
def writeAll (sink : Sink) : List Bytes → Except IoError Unit × Sink
  | [] => (.ok (), sink)
  | piece :: rest =>
      match sink.write piece with
      | (.error cause, full) => (.error cause, full)
      | (.ok (), left) => left.writeAll rest

def flush : Except IoError Unit :=
  match sink.flushError with
  | none => .ok ()
  | some error => .error error

theorem write_nil : sink.write [] = (.ok (), sink) := by
  obtain ⟨accepted, room, _, _⟩ := sink
  cases room <;> simp [write]

theorem write_append (later : Bytes) :
    sink.write (bytes ++ later) =
      match sink.write bytes with
      | (.error cause, full) => (.error cause, full)
      | (.ok (), left) => left.write later := by
  obtain ⟨accepted, room, _, _⟩ := sink
  cases room with
  | none => simp [write]
  | some room =>
      by_cases fits : bytes.length ≤ room
      · have rest : bytes.length + later.length ≤ room ↔ later.length ≤ room - bytes.length := by omega
        simp [write, fits, List.take_append, List.take_of_length_le fits, rest, Nat.sub_sub]
      · have full : ¬ bytes.length + later.length ≤ room := by omega
        have none : room - bytes.length = 0 ∧ room - (bytes.length + later.length) = 0 := by omega
        simp [write, fits, full, none, List.take_append]

/-- Pieces go into a sink as if they were one. -/
theorem writeAll_eq_write (pieces : List Bytes) : sink.writeAll pieces = sink.write pieces.flatten := by
  induction pieces generalizing sink with
  | nil => exact sink.write_nil.symm
  | cons piece rest ih =>
      rw [writeAll, List.flatten_cons, write_append]
      rcases sink.write piece with ⟨_ | _, left⟩
      · rfl
      · exact ih left

end Sink

end LineShell
