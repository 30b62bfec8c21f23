import LineShell.Proofs.Host.Transcript
/-!
The calls that can be made on a session, one after another, and what can be seen of each.
-/

namespace LineShell

inductive Call
  | execute (line : String) (sink : Sink)
  /-- Enters a line into the history and runs it with the shell's own streams. -/
  | enter (line : String) (stdout : Sink)
  | dispatch (command : Command) (redirect : Option Redirection) (sink : Sink)

/-- What can be seen of a call. -/
structure Event where
  kind : Option CommandKind
  result : Except IoError Outcome
  exchanges : List Exchange
  before : Environment
  after : Environment

variable {Memory : Type}

namespace Session

def kindOfLine (session : Session Memory) (line : String) : Option CommandKind :=
  match session.understand line with
  | .error _ => none
  | .ok (command, _) => command.map (·.kind)

end Session

namespace Call

def answer (host : Host Memory) (call : Call) (session : Session Memory) :
    Except IoError Outcome × Session Memory :=
  match call with
  | .execute line sink =>
      let turn := session.executeLine host line sink
      (turn.result, turn.session)
  | .enter line stdout => session.enterLine host line stdout
  | .dispatch command redirect sink =>
      let turn := session.dispatch host command redirect sink
      (turn.result, turn.session)

def kind (call : Call) (session : Session Memory) : Option CommandKind :=
  match call with
  | .execute line _ | .enter line _ => session.kindOfLine line
  | .dispatch command _ _ => some command.kind

/-- What is asked of the host in a call. -/
def exchanges (host : Host Memory) (call : Call) (session : Session Memory) : List Exchange :=
  (call.answer host.transcribing session.transcribed).2.exchanges

def event (host : Host Memory) (call : Call) (session : Session Memory) : Event where
  kind := call.kind session
  result := (call.answer host session).1
  exchanges := call.exchanges host session
  before := session.environment
  after := (call.answer host session).2.environment

theorem answer_alike {Left Right : Type} {environments : Environment → Environment → Prop}
    {worlds : World Left → World Right → Prop} {left : Host Left} {right : Host Right}
    (coupling : Coupling environments worlds left right) {first : Session Left}
    {second : Session Right} (alike : first.Alike environments worlds second) (call : Call) :
    (call.answer left first).1 = (call.answer right second).1 ∧
      (call.answer left first).2.Alike environments worlds (call.answer right second).2 := by
  cases call with simp only [answer]
  | execute line sink =>
      have turns := coupling.executeLine_alike alike line sink
      exact ⟨turns.result, turns.session⟩
  | enter line stdout => exact coupling.enterLine_alike alike line stdout
  | dispatch command redirect sink =>
      have turns := coupling.dispatch_alike alike command redirect sink
      exact ⟨turns.result, turns.session⟩

theorem answer_carried {Left Right : Type} {world : World Left → World Right} {left : Host Left}
    {right : Host Right} (coupling : Coupling Eq (fun first second => world first = second) left right)
    (call : Call) (session : Session Left) :
    call.answer right (session.carried world) =
      ((call.answer left session).1, (call.answer left session).2.carried world) := by
  obtain ⟨results, sessions⟩ := answer_alike coupling session.alike_carried call
  exact Prod.ext results.symm (Session.eq_carried_of_alike sessions)

/-- A call on a session with a transcript is the same call without, with its exchanges noted. -/
theorem answer_transcribing (host : Host Memory) (call : Call) (session : Session Memory) :
    call.answer host session =
      ((call.answer host.transcribing session.transcribed).1,
        (call.answer host.transcribing session.transcribed).2.erased) :=
  answer_carried host.transcribing_coupling call session.transcribed

/-- A record of requests grows in a call by those of its exchanges, and the call is the same without. -/
theorem answer_recording (host : Host Memory) (call : Call) (earlier : List Request)
    (session : Session Memory) :
    call.answer host.recording (session.recorded earlier) =
      ((call.answer host session).1,
        (call.answer host session).2.recorded
          (earlier ++ (call.exchanges host session).map Exchange.request)) := by
  rw [← session.transcribed_recorded earlier, answer_carried (host.recording_coupling earlier),
    call.answer_transcribing host session]
  rfl

end Call

/-- Makes calls in order; the answer is what was seen of each and the session at the end. -/
def play (host : Host Memory) (calls : List Call) (session : Session Memory) :
    List Event × Session Memory :=
  match calls with
  | [] => ([], session)
  | call :: rest =>
      let (events, last) := play host rest (call.answer host session).2
      (call.event host session :: events, last)

/-- What a recording host has been asked over calls of any number is what was exchanged in them, in order
and without the answers. -/
theorem play_recording (host : Host Memory) (calls : List Call) (earlier : List Request)
    (session : Session Memory) :
    (play host.recording calls (session.recorded earlier)).2 =
      (play host calls session).2.recorded
        (earlier ++ (play host calls session).1.flatMap fun event =>
          event.exchanges.map Exchange.request) := by
  induction calls generalizing earlier session with
  | nil => simp only [play, List.flatMap_nil, List.append_nil]
  | cons call rest ih =>
      have first := call.answer_recording host earlier session
      simp only [play, first, ih, List.flatMap_cons, List.append_assoc]
      rfl

end LineShell
