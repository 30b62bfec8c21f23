import LineShell.Proofs.Session.Effect
/-!
What the environment is after any calls, told from what has been seen of them: variables stay but for
`PWD`, the place is where the host last agreed to go, and only `exit` makes the session end.
-/

namespace LineShell

variable {Memory : Type}

namespace Environment

theorem get?_movedTo (environment : Environment) (dir : Path) (name : String) :
    (environment.movedTo dir).get? name =
      if name = "PWD" then some dir.text else environment.get? name :=
  Variables.get?_set environment.variables "PWD" dir.text name

end Environment

namespace Exchange

def accepted? : Exchange → Option Path
  | .changeDir dir (.ok _) => some dir
  | _ => none

/-- The last directory that a host has agreed to go to. -/
def lastAccepted (exchanges : List Exchange) : Option Path :=
  (exchanges.filterMap accepted?).getLast?

theorem lastAccepted_append (exchanges later : List Exchange) :
    lastAccepted (exchanges ++ later) = (lastAccepted later).or (lastAccepted exchanges) := by
  simp only [lastAccepted, List.filterMap_append, List.getLast?_append]

end Exchange

namespace Event

def exchangesOf (events : List Event) : List Exchange :=
  events.flatMap (·.exchanges)

variable (event : Event)

def Failed : Prop :=
  match event.result with
  | .error _ => True
  | .ok outcome => outcome.diagnostic ≠ none

def Succeeded : Prop :=
  match event.result with
  | .error _ => False
  | .ok outcome => outcome.status = 0

/-- Whether the host has agreed to go to a directory. -/
def Agreed : Prop :=
  ∃ dir, Exchange.changeDir dir (.ok ()) ∈ event.exchanges

end Event

/-- An environment as events have made it of one at the start. -/
structure Environment.Follows (start : Environment) (events : List Event) (now : Environment) :
    Prop where
  others : ∀ name, name ≠ "PWD" → now.get? name = start.get? name
  place :
    match Exchange.lastAccepted (Event.exchangesOf events) with
    | none => now.currentDir = start.currentDir ∧ now.get? "PWD" = start.get? "PWD"
    | some dir => now.currentDir = dir ∧ now.get? "PWD" = some dir.text
  shouldExit :
    now.shouldExit = true ↔
      start.shouldExit = true ∨ ∃ event ∈ events, event.kind = some (.builtin .exit)

namespace Environment

theorem Follows.refl (environment : Environment) : environment.Follows [] environment :=
  ⟨fun _ _ => rfl, ⟨rfl, rfl⟩, by simp⟩

theorem Follows.trans {first second third : Environment} {events later : List Event}
    (left : first.Follows events second) (right : second.Follows later third) :
    first.Follows (events ++ later) third := by
  refine ⟨?_, ?_, ?_⟩
  · intro name other
    rw [right.others name other, left.others name other]
  · have before := left.place
    have after := right.place
    rw [Event.exchangesOf, List.flatMap_append, Exchange.lastAccepted_append]
    simp only [Event.exchangesOf] at before after
    cases last : Exchange.lastAccepted (later.flatMap (·.exchanges)) with
    | some dir =>
        rw [last] at after
        exact after
    | none =>
        rw [last] at after
        simp only [Option.none_or, after]
        exact before
  · rw [right.shouldExit, left.shouldExit]
    simp only [List.mem_append, or_and_right, exists_or, or_assoc]

end Environment

namespace Event

variable {event : Event}
  (effect : Effect event.before event.kind event.result event.exchanges event.after)

include effect

theorem follows_of_effect : event.before.Follows [event] event.after := by
  obtain ⟨kind, result, exchanges, before, after⟩ := event
  dsimp only at effect
  cases effect with
  | quiet _ cd exit => exact ⟨fun _ _ => rfl, ⟨rfl, rfl⟩, by simp [exit]⟩
  | ran program _ invocation answer => exact ⟨fun _ _ => rfl, ⟨rfl, rfl⟩, by simp⟩
  | stuck failure => exact ⟨fun _ _ => rfl, ⟨rfl, rfl⟩, by simp⟩
  | refused failure dir cause => exact ⟨fun _ _ => rfl, ⟨rfl, rfl⟩, by simp⟩
  | moved dir =>
      refine ⟨fun name other => ?_, ⟨rfl, ?_⟩, by simp [Environment.movedTo, Environment.set]⟩
      · rw [Environment.get?_movedTo, if_neg other]
      · exact before.get?_movedTo dir "PWD"
  | left => exact ⟨fun _ _ => rfl, ⟨rfl, rfl⟩, by simp⟩

theorem cd_succeeded_iff (kind : event.kind = some (.builtin .cd)) :
    event.Succeeded ↔ event.Agreed := by
  obtain ⟨_, result, exchanges, before, after⟩ := event
  dsimp only at effect
  cases effect with
  | quiet _ cd _ => exact absurd kind cd
  | ran program _ invocation answer => cases kind
  | stuck failure => simp [Succeeded, Agreed, Outcome.failed, Outcome.failureStatus]
  | refused failure dir cause => simp [Succeeded, Agreed, Outcome.failed, Outcome.failureStatus]
  | moved dir => simp [Succeeded, Agreed, Outcome.success]
  | left => cases kind

theorem after_of_failed (failed : event.Failed) : event.after = event.before := by
  obtain ⟨kind, result, exchanges, before, after⟩ := event
  dsimp only at effect
  cases effect with
  | moved dir => exact absurd rfl failed
  | left => exact absurd rfl failed
  | _ => rfl

end Event

theorem play_follows (host : Host Memory) (calls : List Call) (session : Session Memory) :
    session.environment.Follows (play host calls session).1
      (play host calls session).2.environment := by
  induction calls generalizing session with
  | nil => exact .refl session.environment
  | cons call rest ih =>
      exact (Event.follows_of_effect (call.event_effect host session)).trans
        (ih (call.answer host session).2)

theorem mem_play {host : Host Memory} {calls : List Call} {session : Session Memory} {event : Event}
    (seen : event ∈ (play host calls session).1) :
    ∃ call now, event = Call.event host call now := by
  induction calls generalizing session with
  | nil => exact absurd seen List.not_mem_nil
  | cons call rest ih =>
      rcases List.mem_cons.mp seen with rfl | later
      · exact ⟨call, session, rfl⟩
      · exact ih later

/-- Through calls of any number, whatever the host answers and wherever their output goes, the
environment follows what has been seen; and each call of `cd` succeeds exactly where the host agrees,
while a call that fails leaves the environment as it was. -/
theorem play_environment (host : Host Memory) (calls : List Call) (session : Session Memory) :
    session.environment.Follows (play host calls session).1
        (play host calls session).2.environment ∧
      ∀ event ∈ (play host calls session).1,
        (event.kind = some (.builtin .cd) → (event.Succeeded ↔ event.Agreed)) ∧
          (event.Failed → event.after = event.before) ∧
          (event.before.shouldExit = true → event.after.shouldExit = true) := by
  refine ⟨play_follows host calls session, ?_⟩
  intro event seen
  obtain ⟨call, now, rfl⟩ := mem_play seen
  have effect := call.event_effect host now
  exact ⟨Event.cd_succeeded_iff effect, Event.after_of_failed effect,
    fun wanted => (Event.follows_of_effect effect).shouldExit.mpr (.inl wanted)⟩

end LineShell
