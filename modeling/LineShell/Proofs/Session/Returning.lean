import LineShell.Proofs.FileSystem.Standing
import LineShell.Proofs.Redirection
import LineShell.Proofs.Session.Environment
import LineShell.Proofs.Session.Frame
import LineShell.Proofs.Sink
import LineShell.Proofs.Words.Rendering
/-!
Going back to a directory by the text that `pwd` wrote for it. A `cd` that succeeds leaves a canonical
path as the current directory; in single quotes that is one operand, whatever is in it, and it leads to
itself as long as the directories on it are there.
-/

namespace LineShell

variable {Memory : Type}

/-- A host that goes wherever it is asked to. -/
def Host.Agreeable (host : Host Memory) : Prop :=
  ∀ dir world, (host.changeDir dir world).1 = .ok ()

theorem Host.scripted_agreeable {answers : Answers} (agrees : answers.changeDirError = none) :
    (Host.scripted answers).Agreeable := by
  intro dir world
  simp only [Host.scripted, agrees]

namespace Session

variable (host : Host Memory) {session : Session Memory}

/-! ## Arriving -/

theorem dispatch_arrives {command : Command} (kind : command.kind = .builtin .cd)
    (redirect : Option Redirection) (sink : Sink) {outcome : Outcome}
    (done : (session.dispatch host command redirect sink).result = .ok outcome)
    (succeeded : outcome.status = 0) :
    ∃ location, session.Leads command.arguments location ∧
      (session.dispatch host command redirect sink).session.environment =
        session.environment.movedTo location.path := by
  by_cases leads : ∃ location, session.Leads command.arguments location
  · obtain ⟨location, leads⟩ := leads
    have gone := dispatch_cd_of_leads host redirect sink kind leads
    refine ⟨location, leads, ?_⟩
    cases answered : host.changeDir location.path session.world with
    | mk answer world =>
        rw [answered] at gone
        cases answer with
        | ok _ => rw [gone]
        | error cause =>
            obtain ⟨failure, refused⟩ := gone
            rw [refused] at done
            cases done
            exact absurd succeeded (show (1 : Int) ≠ 0 by decide)
  · obtain ⟨failure, stuck⟩ := dispatch_cd_of_stuck host redirect sink kind (not_exists.mp leads)
    rw [stuck] at done
    cases done
    exact absurd succeeded (show (1 : Int) ≠ 0 by decide)

theorem executeLine_arrives {line : String} (kind : session.kindOfLine line = some (.builtin .cd))
    (sink : Sink) {outcome : Outcome} (done : (session.executeLine host line sink).result = .ok outcome)
    (succeeded : outcome.status = 0) :
    ∃ operands location, session.Leads operands location ∧
      (session.executeLine host line sink).session.environment =
        session.environment.movedTo location.path := by
  unfold kindOfLine at kind
  cases understood : session.understand line with
  | error missing => simp [understood] at kind
  | ok asked =>
      obtain ⟨_ | command, redirect⟩ := asked
      · simp [understood] at kind
      · rw [executeLine_of_understood host sink understood] at done ⊢
        have isCd : command.kind = .builtin .cd := by simpa [understood] using kind
        exact ⟨command.arguments, dispatch_arrives host isCd redirect sink done succeeded⟩

end Session

theorem Call.dispatch_succeeded {host : Host Memory} {session : Session Memory} {command : Command}
    {redirect : Option Redirection} {sink : Sink}
    (done : (session.dispatch host command redirect sink).result = .ok .success) :
    ((Call.dispatch command redirect sink).event host session).Succeeded := by
  have result : ((Call.dispatch command redirect sink).event host session).result = .ok .success := done
  rw [Event.Succeeded, result]
  rfl

/-- A `cd` that succeeds has gone to a place that its operands lead to. -/
theorem Call.arrives {host : Host Memory} {call : Call} {session : Session Memory}
    (kind : call.kind session = some (.builtin .cd)) (succeeded : (call.event host session).Succeeded) :
    ∃ operands location, session.Leads operands location ∧
      (call.answer host session).2.environment = session.environment.movedTo location.path := by
  unfold Event.Succeeded at succeeded
  cases result : (call.event host session).result with
  | error cause => simp [result] at succeeded
  | ok outcome =>
      rw [result] at succeeded
      cases call with simp only [Call.event, Call.answer, Call.kind] at result kind ⊢
      | execute line sink => exact session.executeLine_arrives host kind sink result succeeded
      | dispatch command redirect sink =>
          have isCd := Option.some.inj kind
          exact ⟨command.arguments, session.dispatch_arrives host isCd redirect sink result succeeded⟩
      | enter line stdout =>
          obtain ⟨answer, same⟩ := session.enterLine_sameButSystem host line stdout
          obtain ⟨environment, world⟩ := session.remember_sameButHistory line
          have done := answer.symm.trans result
          rw [← session.remember_kindOfLine line] at kind
          obtain ⟨operands, location, leads, moved⟩ :=
            (session.remember line).executeLine_arrives host kind stdout done succeeded
          refine ⟨operands, location, ?_, ?_⟩
          · simpa only [Session.Leads, Session.system, environment, world] using leads
          · rw [← environment, ← moved]
            exact same.environment

/-! ## Staying there -/

theorem Event.currentDir_of_effect {event : Event}
    (effect : Effect event.before event.kind event.result event.exchanges event.after)
    (stays : event.kind = some (.builtin .cd) → ¬ event.Succeeded) :
    event.after.currentDir = event.before.currentDir := by
  obtain ⟨kind, result, exchanges, before, after⟩ := event
  dsimp only at effect stays
  cases effect with
  | moved dir => exact absurd rfl (stays rfl)
  | _ => rfl

/-- Calls among which no `cd` succeeds leave the current directory as it is. -/
theorem play_currentDir {host : Host Memory} {calls : List Call} {session : Session Memory}
    (stays : ∀ event ∈ (play host calls session).1,
      event.kind = some (.builtin .cd) → ¬ event.Succeeded) :
    (play host calls session).2.environment.currentDir = session.environment.currentDir := by
  induction calls generalizing session with
  | nil => rfl
  | cons call rest ih =>
      have first := Event.currentDir_of_effect (call.event_effect host session)
        (stays _ List.mem_cons_self)
      have later := @ih (call.answer host session).2 fun event seen =>
        stays event (List.mem_cons_of_mem _ seen)
      exact later.trans first

/-! ## Going back -/

/-- The line that goes to a directory, whatever characters are in its path. -/
def lineTo (dir : Path) : String :=
  "cd " ++ Words.quoted dir.text

theorem ofWords_lineTo {dir : Path} (absolute : dir.isAbsolute = true) :
    CommandLine.ofWords (Words.ofLine (trimmed (lineTo dir))) = .ok ⟨["cd", dir.text], none⟩ := by
  have starts : dir.text.toList.head? = some '/' := by simpa [Path.isAbsolute] using absolute
  have named : dir.text ≠ "" := by
    intro empty
    rw [empty] at starts
    contradiction
  have front : (lineTo dir).toList.head? = some 'c' := by simp [lineTo]
  have untrimmed : trimmed (lineTo dir) = lineTo dir :=
    Words.trimmed_of_ends front (Words.quoted_back "cd " dir.text) (by decide) (by decide)
  have rendered : ∀ piece ∈ [("cd", "cd"), (Words.quoted dir.text, dir.text)],
      Words.Renders piece.1.toList piece.2.toList ∧ piece.2 ≠ "" := by
    intro piece listed
    simp only [List.mem_cons, List.not_mem_nil, or_false] at listed
    rcases listed with rfl | rfl
    · exact ⟨Words.renders_self (by simp [Words.Plain]), by decide⟩
    · exact ⟨Words.renders_quoted dir.text, named⟩
  have words := Words.ofLine_intercalate _ rendered
  have spelled : " ".intercalate ["cd", Words.quoted dir.text] = lineTo dir := rfl
  rw [untrimmed, ← spelled]
  refine (congrArg CommandLine.ofWords words).trans ?_
  refine (CommandLine.ofWords_eq_plain_iff _ _).mpr ⟨rfl, ?_⟩
  intro word listed
  simp only [List.map_cons, List.map_nil, List.mem_cons, List.not_mem_nil, or_false] at listed
  rcases listed with rfl | rfl
  · decide
  · rintro (glued | sign)
    · rw [glued] at starts
      contradiction
    · exact absurd (Option.some.inj (starts.symm.trans sign)) (by decide)

namespace Session

variable (host : Host Memory) (session : Session Memory)

theorem leads_of_absolute {dir : Path} {location : Location} (absolute : dir.isAbsolute = true)
    (found : session.system.canonicalize dir = .ok location)
    (directory : session.system.files.isDirectory location = true) :
    session.Leads [dir.text] location := by
  have other : ¬ ([dir.text].head? = none ∨ [dir.text].head? = some "~") := by
    rintro (missing | home)
    · contradiction
    · rw [Path.isAbsolute, Option.some.inj home] at absolute
      contradiction
  refine ⟨dir, ?_, ?_, directory⟩
  · rw [if_neg other]
    rfl
  · rw [Path.join_of_isAbsolute absolute, found]

theorem executeLine_lineTo (agreeable : host.Agreeable) {location : Location}
    (found : session.system.canonicalize location.path = .ok location)
    (directory : session.system.files.isDirectory location = true) (sink : Sink) :
    (session.executeLine host (lineTo location.path) sink).result = .ok .success ∧
      (session.executeLine host (lineTo location.path) sink).session.environment =
        session.environment.movedTo location.path := by
  have absolute := location.isAbsolute_path
  have gone := cd_of_leads host (session.leads_of_absolute absolute found directory)
  have agreed := agreeable location.path session.world
  rw [session.executeLine_of_builtin host sink (show Builtin.cd ≠ .echo by decide)
    (ofWords_lineTo absolute)]
  cases answered : host.changeDir location.path session.world with
  | mk answer world =>
      rw [answered] at gone agreed
      cases agreed
      dsimp only at gone
      simp only [runBuiltin, perform, gone, deliver_nothing (show Builtin.cd ≠ .echo by decide), and_self]

theorem executeLine_pwd {line : String} {operands : List String} {redirect : Option Redirection}
    (cut : CommandLine.ofWords (Words.ofLine (trimmed line)) = .ok ⟨"pwd" :: operands, redirect⟩)
    {sink : Sink} (takes : sink.TakesAll) :
    session.executeLine host line sink =
      ⟨.ok .success, session,
        { sink with
          accepted := sink.accepted ++ utf8 (session.environment.currentDir.text ++ "\n") }⟩ := by
  have runs := session.executeLine_of_builtin host sink (show Builtin.pwd ≠ .echo by decide) cut
  rw [runs]
  simp only [runBuiltin, perform, Builtin.deliver_of_takesAll _ _ takes, Report.ofPwd, Report.text]
  rfl

/-- A session at the root of files that hold a directory. -/
def holding (name : String) : Session Unit where
  environment := { «variables» := [], currentDir := ⟨"/"⟩ }
  world := { memory := (), system := { files := { entries := [([name], .directory)] } } }

theorem holding_sound (name : String) : (holding name).system.Sound := by
  refine .atRoot (FileSystem.unspoiled_of_entries rfl ?_) rfl
  intro entry listed target link
  rw [List.mem_singleton.mp listed] at link
  contradiction

theorem holding_leads {name : String} {dir : Path} (text : Location.path [name] = dir)
    (named : Route.IsName name) (free : '\x00' ∉ name.toList)
    (near : (holding name).system.view.isOutOfReach [name] 0 = false)
    (short : name.utf8ByteSize ≤ 255) : (holding name).Leads [dir.text] [name] := by
  have standing : (holding name).system.view.node? [name] = some .directory := by
    simp [holding, Session.system, System.view, FileSystem.node?]
  have reached : (holding name).system.view.Reached [name] :=
    (FileSystem.Reached.root _).down named free ⟨rfl, standing, by simp, by simp, near, short⟩
  obtain ⟨found, directory⟩ :=
    (System.Retains.of_view rfl).canonicalize reached (System.isDirectory_of_view standing)
  have absolute := Location.isAbsolute_path [name]
  rw [text] at found absolute
  exact (holding name).leads_of_absolute absolute found directory

theorem dispatch_cd_of_still {host : Host Memory} {session : Session Memory} {dir : Path}
    {location : Location} (text : location.path = dir) (leads : session.Leads [dir.text] location)
    (still : host.changeDir dir session.world = (.ok (), session.world)) :
    session.dispatch host ⟨.builtin .cd, "cd", [dir.text]⟩ none {} =
      ⟨.ok .success, { session with environment := session.environment.movedTo dir }, {}⟩ := by
  let command : Command := ⟨.builtin .cd, "cd", [dir.text]⟩
  have gone := dispatch_cd_of_leads host none {} (show command.kind = _ from rfl) leads
  rw [text, still] at gone
  exact gone

end Session

/-- Where a host goes wherever it is asked to and the last `cd` that succeeded is some calls ago, `pwd`
tells the current directory; and after more calls the line that goes to what it told leads back there, as
long as the directories on the way to it are still there. What they are named does not matter, nor how the
operand of that `cd` led there. -/
theorem play_returns {Memory : Type} {host : Host Memory} (agreeable : host.Agreeable)
    {session : Session Memory} (sound : session.system.Sound) {call : Call}
    (kind : call.kind session = some (.builtin .cd)) (succeeded : (call.event host session).Succeeded)
    (since later : List Call) :
    let shown := (play host since (call.answer host session).2).2
    let last := (play host later shown).2
    let dir := shown.environment.currentDir
    (∀ event ∈ (play host since (call.answer host session).2).1,
      event.kind = some (.builtin .cd) → ¬ event.Succeeded) →
    (∀ location, dir = location.path → session.system.Retains last.system location) →
    (∀ line operands redirect,
      CommandLine.ofWords (Words.ofLine (trimmed line)) = .ok ⟨"pwd" :: operands, redirect⟩ →
      ∀ sink : Sink, sink.TakesAll →
        shown.executeLine host line sink =
          ⟨.ok .success, shown, { sink with accepted := sink.accepted ++ utf8 (dir.text ++ "\n") }⟩) ∧
      ∀ sink,
        let turn := last.executeLine host (lineTo dir) sink
        turn.result = .ok .success ∧ turn.session.environment.currentDir = dir ∧
          turn.session.environment.get? "PWD" = some dir.text := by
  intro shown last dir stays retains
  -- No later `cd` succeeds, so what `pwd` tells is the path of the place that this one led to.
  obtain ⟨operands, location, leads, moved⟩ := call.arrives kind succeeded
  have here : dir = location.path :=
    (play_currentDir stays).trans (congrArg Environment.currentDir moved)
  obtain ⟨target, -, found, directory⟩ := leads
  obtain ⟨back, standing⟩ := (retains location here).canonicalize (sound.reached found) directory
  refine ⟨fun line operands redirect cut sink takes => shown.executeLine_pwd host cut takes, ?_⟩
  intro sink
  obtain ⟨result, environment⟩ := last.executeLine_lineTo host agreeable back standing sink
  have told := last.environment.get?_movedTo location.path "PWD"
  rw [← environment, if_pos rfl] at told
  rw [here]
  dsimp only
  refine ⟨result, ?_, told⟩
  rw [environment]
  rfl

theorem play_returns_quote :
    let host := Host.scripted {}
    let session := Session.holding "it's"
    let cd (dir : String) : Call := .dispatch ⟨.builtin .cd, "cd", [dir]⟩ none {}
    let pwd : Call := .dispatch ⟨.builtin .pwd, "pwd", []⟩ none {}
    let shown := (play host [pwd] ((cd "/it's").answer host session).2).2
    let last := (play host [cd "/"] shown).2
    shown.environment.currentDir = ⟨"/it's"⟩ ∧
      (last.executeLine host "cd '/it'\\''s'" {}).session.environment.currentDir = ⟨"/it's"⟩ := by
  intro host session cd pwd shown last
  have text : Location.path ["it's"] = ⟨"/it's"⟩ := by decide
  have leads : session.Leads ["/it's"] ["it's"] :=
    Session.holding_leads text ⟨by decide, by decide⟩ (by decide) (by decide) (by decide)
  have went := @Session.dispatch_cd_of_still _ host _ _ _ text leads rfl
  have succeeded : ((cd "/it's").event host session).Succeeded :=
    Call.dispatch_succeeded (congrArg Turn.result went)
  have stays : ∀ event ∈ (play host [pwd] ((cd "/it's").answer host session).2).1,
      event.kind = some (.builtin .cd) → ¬ event.Succeeded := by
    intro event seen kind
    rw [List.mem_singleton.mp seen] at kind
    exact absurd (show some (CommandKind.builtin .pwd) = some (.builtin .cd) from kind) (by decide)
  have here : shown.environment.currentDir = ⟨"/it's"⟩ :=
    (play_currentDir stays).trans
      (congrArg (fun turn : Turn Unit => turn.session.environment.currentDir) went)
  have same : last.system.view = session.system.view := by
    have keeps := Host.scripted_keepsFiles {}
    have first : ((cd "/it's").answer host session).2.system.view = session.system.view :=
      Session.dispatch_view {} keeps none (by simp)
    have second : shown.system.view = ((cd "/it's").answer host session).2.system.view :=
      Session.dispatch_view {} keeps none (by simp)
    have third : last.system.view = shown.system.view := Session.dispatch_view {} keeps none (by simp)
    exact third.trans (second.trans first)
  obtain ⟨-, returns⟩ := play_returns (Host.scripted_agreeable rfl) (Session.holding_sound "it's")
    (show (cd "/it's").kind session = _ from rfl) succeeded [pwd] [cd "/"] stays fun _ _ => .of_view same
  obtain ⟨-, back, -⟩ := returns {}
  have line : lineTo ⟨"/it's"⟩ = "cd '/it'\\''s'" := by decide
  refine ⟨here, ?_⟩
  rw [← line, ← here]
  -- The sessions are the same but for their names. To unfold more than these would run the line.
  with_reducible exact back

theorem play_returns_not_of_removed :
    let host : Host Unit :=
      { changeDir := fun _ world => (.ok (), world)
        run := fun _ world => (.ok 0, { world with system := {} }) }
    let session := Session.holding "sub"
    let cd : Call := .dispatch ⟨.builtin .cd, "cd", ["/sub"]⟩ none {}
    let clean : Call := .dispatch ⟨.external ⟨"/clean"⟩, "/clean", []⟩ none {}
    let last := (play host [cd, clean] session).2
    host.Agreeable ∧ session.system.Sound ∧ (cd.event host session).Succeeded ∧
      last.executeLine host "pwd" {} = ⟨.ok .success, last, { accepted := utf8 "/sub\n" }⟩ ∧
      (last.executeLine host "cd '/sub'" {}).result = .ok (.failed (.noSuchDirectory "/sub")) := by
  intro host session cd clean last
  have text : Location.path ["sub"] = ⟨"/sub"⟩ := by decide
  have leads : session.Leads ["/sub"] ["sub"] :=
    Session.holding_leads text ⟨by decide, by decide⟩ (by decide) (by decide) (by decide)
  have went := @Session.dispatch_cd_of_still _ host _ _ _ text leads rfl
  have succeeded : (cd.event host session).Succeeded :=
    Call.dispatch_succeeded (congrArg Turn.result went)
  let swept : Session Unit :=
    { session with
      environment := session.environment.movedTo ⟨"/sub"⟩
      world := { memory := (), system := {} } }
  have here : last = swept :=
    congrArg (fun turn : Turn Unit => (clean.answer host turn.session).2) went
  have lost : swept.cdLocation "/sub" ⟨"/sub"⟩ = .error (.noSuchDirectory "/sub") := by
    have walked : swept.system.view.canonicalWalk 40 [] [.down "sub"] = .error .noEntry := by
      rw [FileSystem.canonicalWalk]
      rfl
    have missing : swept.system.view.canonicalize [] ⟨"/sub"⟩ = .error (.system .noEntry) :=
      FileSystem.canonicalize_of_walk_error rfl rfl walked
    have joined : swept.environment.currentDir.join ⟨"/sub"⟩ = ⟨"/sub"⟩ := by decide
    rw [Session.cdLocation, joined, show swept.system.canonicalize _ = _ from missing]
    rfl
  have cut : CommandLine.ofWords (Words.ofLine (trimmed "pwd")) = .ok ⟨["pwd"], none⟩ := rfl
  have line : lineTo ⟨"/sub"⟩ = "cd '/sub'" := by decide
  have back := ofWords_lineTo (show Path.isAbsolute ⟨"/sub"⟩ = true by decide)
  refine ⟨fun _ _ => rfl, Session.holding_sound "sub", succeeded, ?_, ?_⟩
  · have told : swept.environment.currentDir.text ++ "\n" = "/sub\n" := by decide
    have shows := swept.executeLine_pwd host cut Sink.TakesAll.fresh
    rw [told] at shows
    rw [here]
    exact shows
  · have fails : swept.cd host ["/sub"] = (.error (.noSuchDirectory "/sub"), swept) := by
      have aimed : Session.cdTarget swept.environment ["/sub"] = .ok ("/sub", ⟨"/sub"⟩) := rfl
      simp only [Session.cd, aimed, lost]
    rw [here, ← line, swept.executeLine_of_builtin host {} (show Builtin.cd ≠ .echo by decide) back]
    simp only [Session.runBuiltin, Session.perform, fails]

end LineShell
