import LineShell.Host.Native
import LineShell.Proofs.Session.Frame
import LineShell.Proofs.Session.WorkingDirectory
/-!
Files that `echo` has written to over a session, while `cd` moves the place that targets are seen from.
A file holds what was added to it since it was last started anew.
-/

namespace LineShell

/-- Bytes that are to go into a file, at its end or in the place of all that is in it. -/
structure Inscription where
  place : Location
  append : Bool
  text : Bytes

namespace Inscription

/-- What a file holds after an inscription, told from what it held if there was one. -/
def onto (old : Option Bytes) (inscription : Inscription) : Option Bytes :=
  some ((if inscription.append then old.getD [] else []) ++ inscription.text)

def texts (inscriptions : List Inscription) : Bytes :=
  inscriptions.flatMap (·.text)

variable {inscriptions : List Inscription}

theorem foldl_onto_of_append (added : ∀ inscription ∈ inscriptions, inscription.append = true)
    (old : Bytes) : inscriptions.foldl onto (some old) = some (old ++ texts inscriptions) := by
  induction inscriptions generalizing old with
  | nil => simp [texts]
  | cons first rest ih =>
      have head := added first (by simp)
      have tail := ih (fun inscription listed => added inscription (by simp [listed]))
      simp only [List.foldl_cons, onto, head, if_true, Option.getD_some, tail]
      simp [texts]

theorem foldl_onto_of_cons {first : Inscription}
    (added : ∀ inscription ∈ inscriptions, inscription.append = true) (old : Option Bytes) :
    (first :: inscriptions).foldl onto old =
      some ((if first.append then old.getD [] else []) ++ texts (first :: inscriptions)) := by
  rw [List.foldl_cons, onto, foldl_onto_of_append added]
  simp [texts]

/-- All that was in a file before it was cut off is gone. -/
theorem foldl_onto_of_cut {earlier later : List Inscription} {cut : Inscription}
    (anew : cut.append = false) (added : ∀ inscription ∈ later, inscription.append = true)
    (old : Option Bytes) :
    (earlier ++ cut :: later).foldl onto old = some (texts (cut :: later)) := by
  rw [List.foldl_append, foldl_onto_of_cons added, anew]
  rfl

end Inscription

variable {Memory : Type} {host : Host Memory}

/-- Calls of `echo` into files and of `cd`, one after another: what each `echo` inscribes is what it
would write to a sink that takes all. -/
inductive Inscribes (host : Host Memory) :
    Session Memory → List Call → List Inscription → Session Memory → Prop
  | nil (session : Session Memory) : Inscribes host session [] [] session
  | cd {session last : Session Memory} {command : Command} (redirect : Option Redirection)
      (sink : Sink) {calls : List Call} {made : List Inscription}
      (kind : command.kind = .builtin .cd)
      (rest : Inscribes host (session.dispatch host command redirect sink).session calls made last) :
      Inscribes host session (.dispatch command redirect sink :: calls) made last
  | echo {session opened last : Session Memory} {command : Command} {redirect : Redirection}
      (sink : Sink) {calls : List Call} {made : List Inscription} {file : OpenFile} {mode : Nat}
      {left : Bytes} (kind : command.kind = .builtin .echo)
      (found : session.openRedirect redirect = .ok (file, opened))
      (regular : opened.system.view.node? file.location = some (.file mode left))
      (rest : Inscribes host (session.dispatch host command (some redirect) sink).session calls made
        last) :
      Inscribes host session (.dispatch command (some redirect) sink :: calls)
        (⟨file.location, redirect.append, (session.dispatch host command none {}).sink.accepted⟩ :: made)
        last

theorem Host.native_onlyMoves : Host.native.OnlyMoves := by
  intro dir world
  simp only [Host.native]
  cases world.system.directoryAt dir <;> rfl

/-! ## One call -/

namespace Session

section Echo

variable (host) {session opened : Session Memory} {command : Command} (kind : command.kind = .builtin .echo)
  {redirect : Redirection} {file : OpenFile}
  (found : session.openRedirect redirect = .ok (file, opened)) {mode : Nat} {left : Bytes}
  (regular : opened.system.view.node? file.location = some (.file mode left)) (sink : Sink)

include kind

theorem dispatch_echo_plain :
    (session.dispatch host command none {}).sink.accepted =
      utf8 (Report.ofEcho command.arguments).text := by
  simp only [dispatch, kind, Option.filter, runBuiltin, perform, Builtin.deliver,
    Report.writeAll_pieces, Sink.write, Sink.flush, if_true, List.nil_append]

include found regular

theorem dispatch_echo_bytes? :
    (session.dispatch host command (some redirect) sink).session.system.view.bytes? file.location =
      Inscription.onto (session.system.view.bytes? file.location)
        ⟨file.location, redirect.append, (session.dispatch host command none {}).sink.accepted⟩ := by
  obtain ⟨system, ran, view⟩ := dispatch_echo_file host sink kind found regular
  have below := (openRedirect_names found).below
  have node := openRedirect_node? found file.location
  rw [if_pos rfl, regular, Option.some.injEq] at node
  have started := Node.opened_bytes node.symm
  have stands : (opened.withSystem system).system.view.node? file.location =
      some (.file mode (left ++ utf8 (Report.ofEcho command.arguments).text)) := by
    rw [show (opened.withSystem system).system.view = _ from view,
      FileSystem.node?_put _ _ _ _ below, if_pos rfl]
  rw [ran, dispatch_echo_plain host kind]
  simp only [FileSystem.bytes?, stands, Option.bind_some, Node.bytes?, Inscription.onto, started]

theorem dispatch_echo_elsewhere {place : Location} (apart : place ≠ file.location) :
    (session.dispatch host command (some redirect) sink).session.system.view.node? place =
      session.system.view.node? place := by
  obtain ⟨system, ran, view⟩ := dispatch_echo_file host sink kind found regular
  have below := (openRedirect_names found).below
  rw [ran]
  calc
    (opened.withSystem system).system.view.node? place = opened.system.view.node? place := by
      rw [show (opened.withSystem system).system.view = _ from view,
        FileSystem.node?_put _ _ _ _ below, if_neg apart]
    _ = session.system.view.node? place := by
      rw [openRedirect_node? found place, if_neg apart]

end Echo

theorem dispatch_cd_view (moves : host.OnlyMoves) {session : Session Memory} {command : Command}
    (kind : command.kind = .builtin .cd) (redirect : Option Redirection) (sink : Sink) :
    (session.dispatch host command redirect sink).session.system.view = session.system.view := by
  rw [dispatch_builtin host redirect sink kind (by decide)]
  exact runBuiltin_view sink moves .cd command.arguments

end Session

/-! ## A whole session -/

section Run

variable {session last : Session Memory} {calls : List Call} {made : List Inscription}
  (inscribes : Inscribes host session calls made last)

include inscribes

theorem Inscribes.play_last : (play host calls session).2 = last := by
  induction inscribes with
  | nil session => rfl
  | cd redirect sink kind rest ih => exact ih
  | echo sink kind found regular rest ih => exact ih

theorem Inscribes.echo_succeeds :
    ∀ event ∈ (play host calls session).1, event.kind = some (.builtin .echo) →
      event.result = .ok .success := by
  intro event seen kind
  induction inscribes with
  | nil session => exact absurd seen List.not_mem_nil
  | cd redirect sink isCd rest ih =>
      rcases List.mem_cons.mp seen with rfl | later
      · cases isCd.symm.trans (Option.some.inj kind)
      · exact ih later
  | echo sink isEcho found regular rest ih =>
      rcases List.mem_cons.mp seen with rfl | later
      · obtain ⟨system, ran, -⟩ := Session.dispatch_echo_file host sink isEcho found regular
        exact congrArg Turn.result ran
      · exact ih later

variable (moves : host.OnlyMoves)

include moves

theorem Inscribes.node?_of_untouched {place : Location}
    (untouched : ∀ inscription ∈ made, inscription.place ≠ place) :
    last.system.view.node? place = session.system.view.node? place := by
  induction inscribes with
  | nil session => rfl
  | cd redirect sink kind rest ih =>
      rw [ih untouched, Session.dispatch_cd_view moves kind]
  | echo sink kind found regular rest ih =>
      have elsewhere := untouched _ List.mem_cons_self
      rw [ih fun inscription listed => untouched inscription (List.mem_cons_of_mem _ listed),
        Session.dispatch_echo_elsewhere host kind found regular sink (Ne.symm elsewhere)]

theorem Inscribes.bytes?_eq_foldl (place : Location) :
    last.system.view.bytes? place =
      (made.filter (·.place = place)).foldl Inscription.onto (session.system.view.bytes? place) := by
  induction inscribes with
  | nil session => rfl
  | cd redirect sink kind rest ih => rw [ih, Session.dispatch_cd_view moves kind]
  | @echo session opened last command redirect sink calls made file mode left kind found regular rest ih =>
      by_cases here : file.location = place
      · subst here
        rw [ih, Session.dispatch_echo_bytes? host kind found regular sink]
        simp
      · have same := Session.dispatch_echo_elsewhere host kind found regular sink (Ne.symm here)
        rw [ih]
        simp only [FileSystem.bytes?, same, List.filter_cons, here]
        simp

end Run

/-- After any calls of `echo` into files, between which `cd` may go anywhere, a file holds what it held
at the start, or nothing if it was started anew since, and behind that all that the calls would have
written to a sink, in order. Each `echo` succeeds, and no other file changes. -/
theorem Inscribes.files_after (moves : host.OnlyMoves) {session last : Session Memory} {calls : List Call}
    {made : List Inscription} (inscribes : Inscribes host session calls made last) :
    (play host calls session).2 = last ∧
      (∀ event ∈ (play host calls session).1, event.kind = some (.builtin .echo) →
        event.result = .ok .success) ∧
      ∀ place,
        let here := made.filter (·.place = place)
        (here = [] → last.system.view.node? place = session.system.view.node? place) ∧
          (here ≠ [] → (∀ inscription ∈ here, inscription.append = true) →
            last.system.view.bytes? place =
              some ((session.system.view.bytes? place).getD [] ++ Inscription.texts here)) ∧
          ∀ earlier cut later, here = earlier ++ cut :: later → cut.append = false →
            (∀ inscription ∈ later, inscription.append = true) →
            last.system.view.bytes? place = some (Inscription.texts (cut :: later)) := by
  refine ⟨inscribes.play_last, inscribes.echo_succeeds, fun place => ⟨?_, ?_, ?_⟩⟩
  · intro empty
    apply inscribes.node?_of_untouched moves
    intro inscription listed same
    simpa [same] using List.filter_eq_nil_iff.mp empty inscription listed
  · intro filled added
    rw [inscribes.bytes?_eq_foldl moves place]
    cases here : made.filter (·.place = place) with
    | nil => exact absurd here filled
    | cons first rest =>
        have all : ∀ inscription ∈ first :: rest, inscription.append = true := by
          rw [← here]
          exact added
        rw [Inscription.foldl_onto_of_cons fun inscription listed =>
          all inscription (List.mem_cons_of_mem _ listed), all first List.mem_cons_self, if_pos rfl]
  · intro earlier cut later split anew added
    rw [inscribes.bytes?_eq_foldl moves place, split, Inscription.foldl_onto_of_cut anew added]

theorem Inscribes.files_after_log :
    let session : Session Unit :=
      { environment := { «variables» := [], currentDir := ⟨"/home"⟩ }
        world :=
          { memory := ()
            system := { files := { entries := [(["home"], .directory)] }, workingDir := ["home"] } } }
    let first : Command := ⟨.builtin .echo, "echo", ["hi"]⟩
    let second : Command := ⟨.builtin .echo, "echo", ["-n", "yo"]⟩
    let calls : List Call :=
      [ .dispatch first (some ⟨⟨"/log"⟩, false⟩) {},
        .dispatch ⟨.builtin .cd, "cd", ["/"]⟩ none {},
        .dispatch second (some ⟨⟨"log"⟩, true⟩) {} ]
    let last := (play Host.native calls session).2
    last.environment.currentDir = ⟨"/"⟩ ∧
      last.system.view.bytes? ["log"] = some (utf8 "hi\n" ++ utf8 "yo") := by
  intro session first second calls last
  have top : Location.path [] = ⟨"/"⟩ := by decide
  have seen : session.environment.currentDir.join ⟨"/log"⟩ = ⟨"/log"⟩ := Path.join_of_isAbsolute rfl
  have opened := session.openRedirect_of_name ⟨⟨"/log"⟩, false⟩ seen "log" rfl rfl rfl
    (by decide) none rfl
  obtain ⟨system, started, view⟩ :=
    Session.dispatch_echo_file Host.native {} (show first.kind = _ from rfl) opened rfl
  have said : (Report.ofEcho first.arguments).text = "hi\n" := by decide
  let logged : Session Unit := session.withSystem system
  have started : session.dispatch Host.native first (some ⟨⟨"/log"⟩, false⟩) {} =
      ⟨.ok .success, logged, {}⟩ := started
  have limits : logged.system.view.limits = {} := (congrArg (·.limits) view).trans rfl
  have short : logged.system.view.checkLength ⟨"/log"⟩ = .ok () := by
    rw [FileSystem.checkLength, limits]
    rfl
  have within : logged.system.view.Within [] := by
    refine ⟨?_, ?_, by simp⟩
    · exact (congrArg FileSystem.checkPath top).trans rfl
    · rw [top, FileSystem.checkLength, limits]
      rfl
  let arrived : Session Unit :=
    { logged with
      environment := logged.environment.movedTo (Location.path [])
      world := { logged.world with system := { logged.system with workingDir := [] } } }
  have absolute : (⟨"/home"⟩ : Path).isAbsolute = true := by decide
  have moved : logged.dispatch Host.native ⟨.builtin .cd, "cd", ["/"]⟩ none {} =
      ⟨.ok .success, arrived, {}⟩ :=
    Session.dispatch_cd_native absolute rfl logged.leads_root within none {}
  have standing : arrived.system.view.node? ["log"] =
      some (.file FileSystem.freshMode (utf8 "hi\n")) := by
    rw [show arrived.system.view = _ from view,
      FileSystem.node?_put _ _ _ _ (List.cons_ne_nil _ _), if_pos rfl, List.nil_append, said]
  have here : arrived.environment.currentDir.join ⟨"log"⟩ = ⟨"/log"⟩ := by
    rw [show arrived.environment.currentDir = _ from top]
    decide
  have reopened := arrived.openRedirect_of_name ⟨⟨"log"⟩, true⟩ here "log" rfl rfl
    short (by rw [show arrived.system.view.limits = _ from limits]; decide)
    (some (FileSystem.freshMode, utf8 "hi\n")) standing
  let begun : Inscription :=
    ⟨["log"], false, (session.dispatch Host.native first none {}).sink.accepted⟩
  let added : Inscription :=
    ⟨["log"], true, (arrived.dispatch Host.native second none {}).sink.accepted⟩
  have inscribes : Inscribes Host.native session calls [begun, added]
      (arrived.dispatch Host.native second (some ⟨⟨"log"⟩, true⟩) {}).session := by
    refine .echo {} rfl opened rfl ?_
    rw [started]
    refine .cd none {} rfl ?_
    rw [moved]
    exact .echo {} rfl reopened standing (.nil _)
  obtain ⟨played, -, files⟩ := inscribes.files_after Host.native_onlyMoves
  obtain ⟨-, -, anew⟩ := files ["log"]
  have wrote : begun.text = utf8 "hi\n" := Session.dispatch_echo_plain Host.native rfl
  have behind : added.text = utf8 "yo" := Session.dispatch_echo_plain Host.native rfl
  refine ⟨?_, ?_⟩
  · obtain ⟨system, ran, -⟩ := Session.dispatch_echo_file Host.native {}
      (show second.kind = _ from rfl) reopened standing
    rw [show last = _ from played, ran]
    exact top
  · rw [show last = _ from played, anew [] begun [added] (by simp [begun, added]) rfl (by simp [added])]
    simp [Inscription.texts, wrote, behind]

end LineShell
