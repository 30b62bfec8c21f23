import LineShell.Session.Builtin
/-!
What builtins leave on sinks that take all, and on sinks that take only so many bytes.
-/

namespace LineShell

namespace Sink

/-- A sink that takes all that is written to it and passes it on. -/
structure TakesAll (sink : Sink) : Prop where
  room : sink.room = none
  flushes : sink.flushError = none

/-- A sink that takes so many bytes and fails at the next. -/
def limited (room : Nat) (cause : IoError) : Sink :=
  { room := some room, writeError := cause }

theorem TakesAll.fresh : ({} : Sink).TakesAll :=
  ⟨rfl, rfl⟩

variable {sink : Sink}

theorem TakesAll.write (takes : sink.TakesAll) (bytes : Bytes) :
    sink.write bytes = (.ok (), { sink with accepted := sink.accepted ++ bytes }) := by
  simp only [Sink.write, takes.room]

theorem TakesAll.flush (takes : sink.TakesAll) : sink.flush = .ok () := by
  simp only [Sink.flush, takes.flushes]

theorem write_limited (room : Nat) (cause : IoError) (bytes : Bytes) :
    (limited room cause).write bytes =
      (if bytes.length ≤ room then .ok () else .error cause,
        { limited (room - bytes.length) cause with accepted := bytes.take room }) :=
  rfl

end Sink

namespace Builtin

variable (builtin : Builtin) (report : Report)

theorem deliver_of_takesAll {sink : Sink} (takes : sink.TakesAll) :
    builtin.deliver report sink =
      ({ status := report.status }, { sink with accepted := sink.accepted ++ utf8 report.text }) := by
  have flushed : ({ sink with accepted := sink.accepted ++ utf8 report.text } : Sink).flush = .ok () :=
    takes.flush
  simp only [deliver, Report.writeAll_pieces, takes.write, flushed]
  split <;> rfl

theorem deliver_limited (room : Nat) (cause : IoError) :
    builtin.deliver report (.limited room cause) =
      (if (utf8 report.text).length ≤ room then { status := report.status }
        else .failed (builtin.writeFailure cause),
        { Sink.limited (room - (utf8 report.text).length) cause with
          accepted := (utf8 report.text).take room }) := by
  simp only [deliver, Report.writeAll_pieces, Sink.write_limited]
  by_cases fits : (utf8 report.text).length ≤ room
  · simp only [if_pos fits, Sink.flush, Sink.limited]
    split <;> rfl
  · simp only [if_neg fits]

end Builtin

end LineShell
